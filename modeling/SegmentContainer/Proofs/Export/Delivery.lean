import Mathlib
import SegmentContainer.Export.Target
import SegmentContainer.Proofs.Export.Room
import SegmentContainer.Proofs.Files.Writing
import SegmentContainer.Proofs.Image.Reading

/-!
# Delivering an export

An export to a file ends in one of five ways: the target is refused, the export fails, the
file cannot be opened, it does not take the bytes, or it has them.  Only the last two change
a file, each at one place.
-/

set_option autoImplicit false

namespace SegmentContainer

def World.looking {α : Type} (answer : World → α) : StateM World α :=
  fun world => (answer world, world)

theorem World.bind_apply {α β : Type} (action : StateM World α) (next : α → StateM World β)
    (world : World) : (action >>= next) world = next (action world).1 (action world).2 := rfl

namespace OutputTarget

def fault? (files : FileSystem) : OutputTarget → Option TargetFault
  | .standardOutput => none
  | .file path =>
    if path = "" then some .emptyPath
    else if (files.find path).isDirectory then some (.isDirectory path)
    else
      match Path.parent? path with
      | none => none
      | some parent =>
        if parent = "" ∨ (files.find parent).isDirectory then none
        else some (.noDirectory parent)

theorem fault?_of_home {files : FileSystem} {path : String} (named : path ≠ "")
    (parent : Path.parent? path = some "") (free : (files.find path).isDirectory = false) :
    fault? files (.file path) = none := by
  simp [fault?, named, parent, free]

theorem validate_eq (target : OutputTarget) (world : World) :
    (target.validate : StateM World (Except Error Unit)) world
      = (match target.fault? world.files with
          | none => .ok ()
          | some fault => .error (.outputTarget fault), world) := by
  cases target with
  | standardOutput => rfl
  | file path =>
    unfold validate fault?
    by_cases empty : path = ""
    · simp only [if_pos empty]
      rfl
    · simp only [if_neg empty]
      change (ite _ _ _ : StateM World (Except Error Unit)) world = _
      by_cases directory : (world.files.find path).isDirectory = true
      · simp only [if_pos directory]
        rfl
      · simp only [if_neg directory]
        cases Path.parent? path with
        | none => rfl
        | some parent =>
          by_cases here : parent = ""
          · simp only [here]
            rfl
          · simp only [if_neg here]
            change (ite _ _ _ : StateM World (Except Error Unit)) world = _
            by_cases there : (world.files.find parent).isDirectory = true
            · simp only [here, there, or_true, if_true]
              rfl
            · simp only [here, there]
              rfl

theorem bytes_ne_nil_of_run_ok {memory : Memory} {options : ExportOptions} {image : Image}
    {surroundings : Surroundings} {stream : ExportStream}
    (success : (Export.run memory options image surroundings).result = .ok stream) :
    stream.bytes ≠ [] := by
  obtain ⟨count, rest, -, bytes⟩ := Export.exists_count_of_run_ok success
  have eight := Bytes.length_ofWord (UInt64.ofNat count)
  intro empty
  rw [bytes, List.append_eq_nil_iff] at empty
  rw [empty.1] at eight
  cases eight

theorem deliver_file (path : String) (bytes : Bytes) (world : World) :
    ((OutputTarget.file path).deliver bytes : StateM World (Except Error Unit)) world
      = match world.files.write path bytes true with
        | (.written, after) => (.ok (), { world with files := after })
        | (.notCreated fault, after) =>
          (.error (.sinkWrite path fault), { world with files := after })
        | (.notWritten fault, after) =>
          (.error (.sinkWrite path fault), { world with files := after.remove path }) := by
  have written : (Host.write path bytes true : StateM World WriteOutcome) world
      = ((world.files.write path bytes true).1,
          { world with files := (world.files.write path bytes true).2 }) := rfl
  simp only [deliver, World.bind_apply, written]
  cases world.files.write path bytes true with
  | mk outcome after =>
    cases outcome with
    | written => rfl
    | notCreated fault => rfl
    | notWritten fault => rfl

theorem exportTo_file (path : String) (memory : Memory) (options : ExportOptions)
    (image : Image) (answers : World → Surroundings) (world : World) :
    ((OutputTarget.file path).exportTo memory options image (World.looking answers)) world
      = match fault? world.files (.file path) with
        | some fault => (.error (.failed (.outputTarget fault)), world)
        | none =>
          match (Export.run memory options image (answers world)).result with
          | .error halt => (.error halt, world)
          | .ok stream =>
            match world.files.write path stream.bytes true with
            | (.written, after) => (.ok stream.summary, { world with files := after })
            | (.notCreated fault, after) =>
              (.error (.failed (.sinkWrite path fault)), { world with files := after })
            | (.notWritten fault, after) =>
              (.error (.failed (.sinkWrite path fault)),
                { world with files := after.remove path }) := by
  simp only [exportTo, World.bind_apply, validate_eq]
  cases fault? world.files (.file path) with
  | some fault => rfl
  | none =>
    simp only [World.bind_apply, World.looking]
    cases (Export.run memory options image (answers world)).result with
    | error halt => rfl
    | ok stream =>
      simp only [World.bind_apply, deliver_file]
      cases world.files.write path stream.bytes true with
      | mk outcome after =>
        cases outcome with
        | written => rfl
        | notCreated fault => rfl
        | notWritten fault => rfl

theorem target_of_exportTo_ok {path : String} {memory : Memory} {options : ExportOptions}
    {image : Image} {answers : World → Surroundings} {world : World} {summary : ExportSummary}
    (success : (((OutputTarget.file path).exportTo memory options image
      (World.looking answers)) world).1 = .ok summary) :
    fault? world.files (.file path) = none
      ∧ ∃ stream place, (Export.run memory options image (answers world)).result = .ok stream
        ∧ world.files.target? path = some place := by
  rw [exportTo_file] at success
  cases refused : fault? world.files (.file path) with
  | some fault => simp [refused] at success
  | none =>
    cases exported : (Export.run memory options image (answers world)).result with
    | error halt => simp [refused, exported] at success
    | ok stream =>
      simp only [refused, exported] at success
      rcases world.files.write_cases path (bytes_ne_nil_of_run_ok exported) true with
        ⟨place, leads, -⟩ | ⟨fault, -, shut⟩ | ⟨fault, device, -, -, noSpace⟩
      · exact ⟨rfl, stream, place, rfl, leads⟩
      · simp [shut] at success
      · simp [noSpace] at success

theorem exportTo_file_of_target {path : String} {memory : Memory} {options : ExportOptions}
    {image : Image} {answers : World → Surroundings} {world : World} {stream : ExportStream}
    {place : Place} (good : fault? world.files (.file path) = none)
    (made : (Export.run memory options image (answers world)).result = .ok stream)
    (leads : world.files.target? path = some place) :
    ((file path).exportTo memory options image (World.looking answers)) world
      = (.ok stream.summary,
          { world with files := world.files.put place (.file stream.bytes) }) := by
  have written := FileSystem.write_of_target? leads stream.bytes true
  simp only [exportTo_file, good, made, written]

end OutputTarget
end SegmentContainer
