import Mathlib
import SegmentContainer.Command.Run
import SegmentContainer.Proofs.Export.Delivery
import SegmentContainer.Proofs.Export.Enumeration
import SegmentContainer.Proofs.Image.Detection
import SegmentContainer.Proofs.Text.Utf8

/-!
# The artifact of a command

An export command that succeeds has written the container to what its output path leads to,
as the export makes it from the files before the command.  After that it may write a summary,
to a path that is not held against the first one: if both lead to the same file, then it is
the summary that stays there.
-/

set_option autoImplicit false

namespace SegmentContainer

theorem World.mapM_looking {α β : Type} {action : α → StateM World β} {answer : α → World → β}
    (looks : ∀ item, action item = looking (answer item)) (items : List α) :
    items.mapM action = looking fun world => items.map (answer · world) := by
  induction items with
  | nil => rfl
  | cons item rest ih =>
    rw [List.mapM_cons, looks, ih]
    rfl

theorem outcomesFrom_eq_of_agree {read other : Nat → Placed → ReadOutcome} {order : List Placed}
    {number : Nat}
    (agree : ∀ index placed, order[index]? = some placed →
      read (number + index) placed = other (number + index) placed) :
    outcomesFrom read number order = outcomesFrom other number order := by
  induction order generalizing number with
  | nil => rfl
  | cons placed rest ih =>
    have first := agree 0 placed rfl
    rw [Nat.add_zero] at first
    rw [outcomesFrom, outcomesFrom, first, ih]
    intro index later there
    have shift : number + 1 + index = number + (index + 1) := by omega
    rw [shift]
    exact agree (index + 1) later there

theorem Json.exists_pretty_object (key : String) (value : Json) (rest : List (String × Json)) :
    ∃ more, (Json.object ((key, value) :: rest)).pretty
      = "\x7b" ++ (newLine 1 ++ writtenString key) ++ more := by
  cases rest with
  | nil =>
    refine ⟨": " ++ prettyAt 1 value ++ newLine 0 ++ "\x7d", ?_⟩
    simp only [pretty, prettyAt, prettyMembers, String.append_assoc]
  | cons next later =>
    refine ⟨": " ++ prettyAt 1 value ++ "," ++ prettyMembers 1 (next :: later) ++ newLine 0
      ++ "\x7d", ?_⟩
    simp only [pretty, prettyAt, prettyMembers, String.append_assoc]

namespace Command

variable {memory : Memory} {world : World}

/-! ## Reading -/

theorem readPlaced_eq (image : OpenedImage) (memory : Memory) (placed : Placed) :
    (readPlaced image memory placed : StateM World ReadOutcome)
      = World.looking fun world =>
          image.read memory world.files.find (some placed.index) placed.region := by
  funext world
  unfold readPlaced
  cases image with
  | elf image => rfl
  | manifest image =>
    simp only [OpenedImage.backingPath?, OpenedImage.read, ManifestImage.read]
    cases image.spanAt? (some placed.index) with
    | none => rfl
    | some span => rfl

/-- The answers of an image, looked up in the list of the outcomes of its reads. -/
def recorded (image : OpenedImage) (memory : Memory) (world : World) : Surroundings where
  read number placed :=
    ((image.toImage.selected.map fun placed =>
      image.read memory world.files.find (some placed.index) placed.region).toArray[number]?).getD
        (.refused placed.region .noData)
  stop _ := false

theorem readAll_eq (image : OpenedImage) (memory : Memory) :
    (readAll image memory : StateM World Surroundings)
      = World.looking (recorded image memory) := by
  unfold readAll
  rw [World.mapM_looking (readPlaced_eq image memory)]
  rfl

theorem result_recorded (image : OpenedImage) (memory : Memory) (options : ExportOptions)
    (world : World) :
    (Export.run memory options image.toImage (recorded image memory world)).result
      = image.exported memory world.files.find options fun _ => false := by
  have outcomes : outcomesFrom (recorded image memory world).read 0 image.toImage.selected
      = outcomesFrom (image.answers memory world.files.find fun _ => false).read 0
          image.toImage.selected := by
    apply outcomesFrom_eq_of_agree
    intro index placed there
    simp [recorded, OpenedImage.answers, there]
  have stop : (recorded image memory world).stop
      = (image.answers memory world.files.find fun _ => false).stop := rfl
  rw [OpenedImage.exported, Export.run, Export.run]
  simp only [stop, Export.result_gather_congr _ stop outcomes]

/-! ## Writing -/

theorem fail_status (error : Error) (world : World) :
    ((fail error : StateM World Nat) world).1 ≠ 0 := by
  unfold fail
  split
  · exact (by decide : cancelledStatus ≠ 0)
  · exact Nat.one_ne_zero

theorem halt_status (reason : Halt) (world : World) :
    ((halt reason : StateM World Nat) world).1 ≠ 0 := by
  cases reason with
  | failed error => exact fail_status error world
  | crashed why => exact (by decide : crashStatus ≠ 0)

theorem files_writeSummary (path : String) (summary : ExportSummary) (world : World) :
    ((writeSummary path summary : StateM World Unit) world).2.files
      = (world.files.write path (Utf8.encode summary.toJson.pretty) false).2 := by
  unfold writeSummary
  have written : (Host.write path (Utf8.encode summary.toJson.pretty) false
        : StateM World WriteOutcome) world
      = ((world.files.write path (Utf8.encode summary.toJson.pretty) false).1,
          { world with
            files := (world.files.write path (Utf8.encode summary.toJson.pretty) false).2 }) := rfl
  simp only [World.bind_apply, written]
  cases (world.files.write path (Utf8.encode summary.toJson.pretty) false).1 with
  | written => rfl
  | notCreated fault => rfl
  | notWritten fault => rfl

def withSummary (files : FileSystem) (summaryPath : Option String) (summary : ExportSummary) :
    FileSystem :=
  match summaryPath with
  | none => files
  | some path => (files.write path (Utf8.encode summary.toJson.pretty) false).2

theorem putError_apply (text : String) (world : World) :
    (Host.putError text : StateM World Unit) world
      = ((), { world with messages := world.messages ++ text }) := rfl

/-- What makes an export command succeed, with all that it comes to: a good output path that
has a target, and an input that opens and has an export. -/
structure Succeeds (memory : Memory) (files : FileSystem) (input output : String)
    (format : InputFormat) (policy : ReadFailurePolicy) (image : OpenedImage)
    (stream : ExportStream) (place : Place) : Prop where
  good : OutputTarget.fault? files (.file output) = none
  opened : openImage input format (files.find input) = .ok image
  exported : image.exported memory files.find ⟨policy⟩ (fun _ => false) = .ok stream
  leads : files.target? output = some place

variable {input output : String} {format : InputFormat} {policy : ReadFailurePolicy}
  {summaryPath : Option String} {image : OpenedImage} {stream : ExportStream} {place : Place}

theorem Succeeds.exportOpened
    (succeeds : Succeeds memory world.files input output format policy image stream place)
    (summaryPath : Option String) :
    ∃ after : World,
      (exportOpened memory image (.file output) policy summaryPath : StateM World Nat) world
          = (0, after)
        ∧ after.files
          = withSummary (world.files.put place (.file stream.bytes)) summaryPath
              stream.summary := by
  unfold Command.exportOpened
  rw [readAll_eq]
  simp only [World.bind_apply, putError_apply]
  generalize world.messages ++ (_ : String) = messages
  have told := result_recorded image memory ⟨policy⟩ ⟨world.files, world.output, messages⟩
  have sent : ((OutputTarget.file output).exportTo memory ⟨policy⟩ image.toImage
        (World.looking (recorded image memory))) ⟨world.files, world.output, messages⟩
      = (.ok stream.summary,
          ⟨world.files.put place (.file stream.bytes), world.output, messages⟩) :=
    OutputTarget.exportTo_file_of_target succeeds.good (told.trans succeeds.exported)
      succeeds.leads
  rw [sent]
  cases summaryPath with
  | none => exact ⟨_, rfl, rfl⟩
  | some name => exact ⟨_, rfl, files_writeSummary name stream.summary _⟩

theorem Succeeds.runExport
    (succeeds : Succeeds memory world.files input output format policy image stream place)
    (file : output ≠ "-") (summaryPath : Option String) :
    ∃ after : World,
      (runExport memory input output format policy summaryPath : StateM World Nat) world
          = (0, after)
        ∧ after.files
          = withSummary (world.files.put place (.file stream.bytes)) summaryPath
              stream.summary := by
  unfold Command.runExport
  simp only [World.bind_apply, putError_apply, OutputTarget.ofArgument, if_neg file,
    OutputTarget.validate_eq]
  generalize world.messages ++ (_ : String) = messages
  have found : (Host.find input : StateM World Found) ⟨world.files, world.output, messages⟩
      = (world.files.find input, ⟨world.files, world.output, messages⟩) := rfl
  simp only [succeeds.good, World.bind_apply, found, succeeds.opened]
  have still : Succeeds memory (⟨world.files, world.output, messages⟩ : World).files input output
      format policy image stream place := succeeds
  exact still.exportOpened summaryPath

theorem exists_stream_of_exportOpened
    (success : ((exportOpened memory image (.file output) policy summaryPath
      : StateM World Nat) world).1 = 0) :
    ∃ stream place, image.exported memory world.files.find ⟨policy⟩ (fun _ => false) = .ok stream
      ∧ world.files.target? output = some place := by
  unfold Command.exportOpened at success
  rw [readAll_eq] at success
  simp only [World.bind_apply, putError_apply] at success
  generalize world.messages ++ (_ : String) = messages at success
  cases ended : ((OutputTarget.file output).exportTo memory ⟨policy⟩ image.toImage
      (World.looking (recorded image memory)) ⟨world.files, world.output, messages⟩).1 with
  | error reason =>
    rw [ended] at success
    exact absurd success (halt_status reason _)
  | ok summary =>
    obtain ⟨-, stream, place, exported, leads⟩ := OutputTarget.target_of_exportTo_ok ended
    rw [result_recorded] at exported
    exact ⟨stream, place, exported, leads⟩

theorem succeeds_of_runExport (file : output ≠ "-")
    (success : ((runExport memory input output format policy summaryPath : StateM World Nat)
      world).1 = 0) :
    ∃ image stream place,
      Succeeds memory world.files input output format policy image stream place := by
  unfold Command.runExport at success
  simp only [World.bind_apply, putError_apply, OutputTarget.ofArgument, if_neg file,
    OutputTarget.validate_eq] at success
  generalize world.messages ++ (_ : String) = messages at success
  cases good : OutputTarget.fault? world.files (.file output) with
  | some fault =>
    rw [good] at success
    exact absurd success (fail_status _ _)
  | none =>
    have found : (Host.find input : StateM World Found) ⟨world.files, world.output, messages⟩
        = (world.files.find input, ⟨world.files, world.output, messages⟩) := rfl
    simp only [good, World.bind_apply, found] at success
    cases opened : openImage input format (world.files.find input) with
    | error error =>
      rw [opened] at success
      exact absurd success (fail_status error _)
    | ok image =>
      rw [opened] at success
      obtain ⟨stream, place, exported, leads⟩ := exists_stream_of_exportOpened success
      exact ⟨image, stream, place, good, opened, exported, leads⟩

/-- No summary can be taken for a container: its first characters would count more regions
than there is room for. -/
theorem pretty_ne_container {memory : Memory} {options : ExportOptions} {image : Image}
    {surroundings : Surroundings} {stream : ExportStream}
    (exported : (Export.run memory options image surroundings).result = .ok stream)
    (summary : ExportSummary) : Utf8.encode summary.toJson.pretty ≠ stream.bytes := by
  obtain ⟨count, rest, few, bytes⟩ := Export.exists_count_of_run_ok exported
  obtain ⟨members, pretty⟩ := Json.exists_pretty_object "program" (.string summary.program) _
  intro same
  have opening : Utf8.encode ("\x7b" ++ (Json.newLine 1 ++ Json.writtenString "program"))
      = [0x7B, 0x0A, 0x20, 0x20, 0x22, 0x70, 0x72, 0x6F] ++ [0x67, 0x72, 0x61, 0x6D, 0x22] := by
    cbv
  rw [ExportSummary.toJson, pretty, Utf8.encode_append, opening, bytes, List.append_assoc] at same
  have word := (List.append_inj same (by rw [Bytes.length_ofWord]; rfl)).1
  have number := congrArg Bytes.toNat word
  rw [Bytes.ofWord, Bytes.toNat_ofNat, UInt64.toNat_ofNat'] at number
  have spelled : Bytes.toNat [0x7B, 0x0A, 0x20, 0x20, 0x22, 0x70, 0x72, 0x6F]
      = 8030604377425185403 := by decide
  omega

def Overwritten (files : FileSystem) (place : Place) (bytes : Bytes)
    (summaryPath : Option String) : Prop :=
  ∃ path, summaryPath = some path ∧ (files.put place (.file bytes)).target? path = some place

theorem overwritten_iff {files : FileSystem} (rooted : files.Rooted) {place : Place}
    {output : String} (leads : files.target? output = some place) (bytes : Bytes)
    (summaryPath : Option String) :
    Overwritten files place bytes summaryPath
      ↔ ∃ path, summaryPath = some path ∧ files.target? path = files.target? output := by
  have moved := FileSystem.target?_put rooted (FileSystem.writable_of_target? leads) bytes
  simp only [Overwritten, moved, leads]

/-- The path of an output leads to the container, if the summary is written elsewhere, and
otherwise to the summary. -/
theorem find_withSummary {files : FileSystem} {place : Place} {output : String}
    (leads : files.target? output = some place) (bytes : Bytes) (summaryPath : Option String)
    (summary : ExportSummary) :
    (¬ Overwritten files place bytes summaryPath →
        (withSummary (files.put place (.file bytes)) summaryPath summary).find output
          = .file bytes)
      ∧ (Overwritten files place bytes summaryPath →
        (withSummary (files.put place (.file bytes)) summaryPath summary).find output
          = .file (Utf8.encode summary.toJson.pretty)) := by
  have resolved := FileSystem.resolve_put_target leads bytes
  have found := FileSystem.find_put_target leads bytes
  cases summaryPath with
  | none =>
    refine ⟨fun _ => found, ?_⟩
    rintro ⟨path, impossible, -⟩
    cases impossible
  | some path =>
    rw [withSummary, FileSystem.files_write]
    cases goes : (files.put place (.file bytes)).target? path with
    | none =>
      refine ⟨fun _ => found, ?_⟩
      rintro ⟨other, same, there⟩
      obtain rfl := Option.some.inj same
      cases goes.symm.trans there
    | some other =>
      have writable := FileSystem.writable_of_target? goes
      have after := FileSystem.find_put_of_resolve writable
        (Utf8.encode summary.toJson.pretty) resolved
      constructor
      · intro apart
        have elsewhere : place ≠ other := by
          rintro rfl
          exact apart ⟨path, rfl, goes⟩
        rw [after, if_neg elsewhere]
      · rintro ⟨again, same, there⟩
        obtain rfl := Option.some.inj same
        obtain rfl := Option.some.inj (goes.symm.trans there)
        rw [after, if_pos rfl]

/-- An export command that succeeds has opened its input and exported it, both as the files
were before, and its output path had a target.  Afterwards that path leads to the container
exactly if no summary was written over it. -/
theorem artifact_of_success (memory : Memory) (words : List String)
    (environment : String → Option String) (input output : String) (format : InputFormat)
    (policy : ReadFailurePolicy) (summaryPath : Option String) (world : World)
    (command : read? words environment
      = some (.exportImage input output format policy summaryPath))
    (file : output ≠ "-")
    (success : ((run memory words environment : StateM World Nat) world).1 = 0) :
    ∃ image stream place, openImage input format (world.files.find input) = .ok image
      ∧ image.exported memory world.files.find ⟨policy⟩ (fun _ => false) = .ok stream
      ∧ world.files.target? output = some place
      ∧ (((run memory words environment : StateM World Nat) world).2.files.find output
            = .file stream.bytes
          ↔ ¬ Overwritten world.files place stream.bytes summaryPath)
      ∧ (Overwritten world.files place stream.bytes summaryPath →
          ((run memory words environment : StateM World Nat) world).2.files.find output
            = .file (Utf8.encode stream.summary.toJson.pretty)) := by
  simp only [run, command] at success ⊢
  obtain ⟨image, stream, place, succeeds⟩ := succeeds_of_runExport file success
  obtain ⟨after, ended, files⟩ := succeeds.runExport file summaryPath
  obtain ⟨container, summary⟩ :=
    find_withSummary succeeds.leads stream.bytes summaryPath stream.summary
  refine ⟨image, stream, place, succeeds.opened, succeeds.exported, succeeds.leads, ?_⟩
  rw [ended, files]
  refine ⟨⟨?_, container⟩, summary⟩
  intro found overwritten
  rw [summary overwritten] at found
  exact pretty_ne_container succeeds.exported stream.summary (Found.file.inj found)

def plainWords : List String := ["export", "m", "-o", "o"]

def doubledWords : List String := plainWords ++ ["--summary-json", "o"]

/-- The text of the manifest is a pair of braces. -/
def emptyManifest : World := .ofFiles ⟨[(["m"], .file [0x7B, 0x7D])], []⟩

def emptyImage : OpenedImage := .manifest ⟨"m", [], []⟩

theorem succeeds_emptyManifest :
    ∃ stream, Succeeds Memory.usual emptyManifest.files "m" "o" .auto .zeroFill emptyImage stream
      ["o"] := by
  have selected : emptyImage.toImage.selected = [] := by cbv
  obtain ⟨stream, exported⟩ : ∃ stream, emptyImage.exported Memory.usual
      emptyManifest.files.find ⟨.zeroFill⟩ (fun _ => false) = .ok stream := by
    simp only [OpenedImage.exported, Export.run, selected]
    exact ⟨_, rfl⟩
  refine ⟨stream, ?_⟩
  constructor
  case good => exact OutputTarget.fault?_of_home (by decide) (by cbv) (by cbv)
  case opened =>
    have found : emptyManifest.files.find "m" = .file [0x7B, 0x7D] := by cbv
    rw [found]
    cbv
  case exported => exact exported
  case leads => cbv

/-- The command ends with success, and the container is gone. -/
theorem doubledWords_lose_container :
    read? doubledWords (fun _ => none)
        = some (.exportImage "m" "o" .auto .zeroFill (some "o"))
      ∧ ((run Memory.usual doubledWords (fun _ => none) : StateM World Nat) emptyManifest).1 = 0
      ∧ ∃ image stream, openImage "m" .auto (emptyManifest.files.find "m") = .ok image
        ∧ image.exported Memory.usual emptyManifest.files.find ⟨.zeroFill⟩ (fun _ => false)
          = .ok stream
        ∧ ((run Memory.usual doubledWords (fun _ => none) : StateM World Nat)
            emptyManifest).2.files.find "o" ≠ .file stream.bytes := by
  have command : read? doubledWords (fun _ => none)
      = some (.exportImage "m" "o" .auto .zeroFill (some "o")) := by
    cbv
  have rooted : emptyManifest.files.Rooted := FileSystem.rooted_of_entries
    (by simp [emptyManifest, World.ofFiles, FileSystem.node?_nil])
  obtain ⟨stream, succeeds⟩ := succeeds_emptyManifest
  obtain ⟨after, ended, files⟩ := succeeds.runExport (by decide) (some "o")
  have overwritten : Overwritten emptyManifest.files ["o"] stream.bytes (some "o") :=
    (overwritten_iff rooted succeeds.leads stream.bytes (some "o")).mpr ⟨"o", rfl, rfl⟩
  have summary := find_withSummary succeeds.leads stream.bytes (some "o") stream.summary
  refine ⟨command, ?_, emptyImage, stream, succeeds.opened, succeeds.exported, ?_⟩
  · simp only [run, command, ended]
  · simp only [run, command, ended, files, summary.2 overwritten]
    intro same
    exact pretty_ne_container succeeds.exported stream.summary (Found.file.inj same)

def apartWords : List String := plainWords ++ ["--summary-json", "s"]

def backedWorld : World :=
  .ofFiles ⟨[(["m"], .file (Utf8.encode backedText)), (["d"], .file [7, 0, 9])], []⟩

/-- The header of one region and its bytes, and one symbol of ten bytes. -/
def backedBytes : Bytes :=
  [1, 16, 19, 6].flatMap Bytes.ofWord ++ [7, 0, 9] ++ [1, 10, 17].flatMap Bytes.ofWord ++ [0x73, 0]

theorem succeeds_backedWorld :
    ∃ stream, Succeeds Memory.usual backedWorld.files "m" "o" .auto .zeroFill
        (.manifest backedImage) stream ["o"]
      ∧ stream.bytes = backedBytes := by
  have selected : backedImage.toImage.selected
      = [⟨0, ⟨"r", 16, 18, ⟨true, true, false⟩, true⟩⟩] := by
    cbv
  have read : backedImage.read Memory.usual backedWorld.files.find (some 0)
      ⟨"r", 16, 18, ⟨true, true, false⟩, true⟩ = .data [7, 0, 9] := by
    cbv
  obtain ⟨stream, exported, spelled⟩ : ∃ stream, (OpenedImage.manifest backedImage).exported
      Memory.usual backedWorld.files.find ⟨.zeroFill⟩ (fun _ => false) = .ok stream
        ∧ stream.bytes = backedBytes := by
    simp only [OpenedImage.exported, Export.run, OpenedImage.toImage, selected, Export.gather,
      OpenedImage.answers, OpenedImage.read, read]
    exact ⟨_, rfl, by decide⟩
  refine ⟨stream, ?_, spelled⟩
  constructor
  case good => exact OutputTarget.fault?_of_home (by decide) (by cbv) (by cbv)
  case opened =>
    have found : backedWorld.files.find "m" = .file (Utf8.encode backedText) := by cbv
    have other := openImageBy_manifest_ok openImage_backedText
    rw [found, openImage, openImageBy_auto, if_neg other]
    exact openImage_backedText
  case exported => exact exported
  case leads => cbv

/-- The container of the backed image is at the output path, and its summary at the other. -/
theorem artifact_of_apartWords :
    read? apartWords (fun _ => none) = some (.exportImage "m" "o" .auto .zeroFill (some "s"))
      ∧ ((run Memory.usual apartWords (fun _ => none) : StateM World Nat) backedWorld).1 = 0
      ∧ ((run Memory.usual apartWords (fun _ => none) : StateM World Nat)
          backedWorld).2.files.find "o" = .file backedBytes
      ∧ ∃ stream, stream.bytes = backedBytes
        ∧ (OpenedImage.manifest backedImage).exported Memory.usual backedWorld.files.find
            ⟨.zeroFill⟩ (fun _ => false) = .ok stream
        ∧ ((run Memory.usual apartWords (fun _ => none) : StateM World Nat)
            backedWorld).2.files.find "s" = .file (Utf8.encode stream.summary.toJson.pretty) := by
  have command : read? apartWords (fun _ => none)
      = some (.exportImage "m" "o" .auto .zeroFill (some "s")) := by
    cbv
  have rooted : backedWorld.files.Rooted := FileSystem.rooted_of_entries
    (by simp [backedWorld, World.ofFiles, FileSystem.node?_nil])
  have aside : backedWorld.files.target? "s" = some ["s"] := by cbv
  obtain ⟨stream, succeeds, spelled⟩ := succeeds_backedWorld
  obtain ⟨after, ended, files⟩ := succeeds.runExport (by decide) (some "s")
  have success : ((run Memory.usual apartWords (fun _ => none) : StateM World Nat)
      backedWorld).1 = 0 := by
    simp only [run, command, ended]
  obtain ⟨image, other, place, opened, exported, leads, holds, -⟩ := artifact_of_success
    Memory.usual apartWords (fun _ => none) "m" "o" .auto .zeroFill (some "s") backedWorld command
    (by decide) success
  obtain rfl := Except.ok.inj (succeeds.opened.symm.trans opened)
  obtain rfl := Except.ok.inj (succeeds.exported.symm.trans exported)
  refine ⟨command, success, ?_, stream, spelled, exported, ?_⟩
  · rw [← spelled]
    apply holds.mpr
    rw [overwritten_iff rooted leads]
    rintro ⟨path, same, there⟩
    obtain rfl := Option.some.inj same
    rw [aside, succeeds.leads] at there
    exact absurd there (by decide)
  · have moved := FileSystem.target?_put rooted (FileSystem.writable_of_target? succeeds.leads)
      stream.bytes "s"
    simp only [run, command, ended, files, withSummary, FileSystem.files_write, moved, aside]
    exact FileSystem.find_put_target (moved.trans aside) _

end Command
end SegmentContainer
