import SegmentContainer.Proofs.Export.Steady

/-!
# Enumeration of regions

An image may enumerate its regions in any order, and regions without contents anywhere
between them.  An export settles the outcomes of its reads in the order of their starts,
and all that it writes comes from these outcomes and from the symbols.  So images that
differ only in the enumeration have the same export, as long as no two of the regions that
are read share a start; and regions without contents never matter.
-/

set_option autoImplicit false

namespace SegmentContainer

def Surroundings.about (surroundings : Surroundings) (placed : Placed) :
    Region × (Nat → ReadOutcome) :=
  (placed.region, fun number => surroundings.read number placed)

/-- What there is to read of an image, in its order: the initialized regions, each with
the answers to reads of it by the number of the read. -/
def Image.readable (image : Image) (surroundings : Surroundings) :
    List (Region × (Nat → ReadOutcome)) :=
  (image.placed.map surroundings.about).filter fun item => item.1.initialized

def outcomesFrom (read : Nat → Placed → ReadOutcome) :
    Nat → List Placed → List (Region × ReadOutcome)
  | _, [] => []
  | number, placed :: rest =>
    (placed.region, read number placed) :: outcomesFrom read (number + 1) rest

theorem outcomesFrom_congr {first second : Surroundings} {order other : List Placed}
    (same : order.map first.about = other.map second.about) (number : Nat) :
    outcomesFrom first.read number order = outcomesFrom second.read number other := by
  induction order generalizing other number with
  | nil =>
    cases other with
    | nil => rfl
    | cons placed rest => simp at same
  | cons placed rest ih =>
    cases other with
    | nil => simp at same
    | cons twin more =>
      simp only [List.map_cons, List.cons.injEq] at same
      obtain ⟨head, tail⟩ := same
      have region : placed.region = twin.region := congrArg Prod.fst head
      have answers := congrArg Prod.snd head
      have outcome : first.read number placed = second.read number twin :=
        congrFun answers number
      rw [outcomesFrom, outcomesFrom, region, outcome, ih tail]

/-! ## The order of what is read -/

theorem Image.map_about_selected (image : Image) (surroundings : Surroundings) :
    image.selected.map surroundings.about
      = (image.readable surroundings).mergeSort fun first second =>
          first.1.start ≤ second.1.start := by
  rw [Image.selected, ← selectBy_map Placed.region Prod.fst surroundings.about fun _ => rfl]
  rfl

theorem mergeSort_eq_of_perm {first second : List (Region × (Nat → ReadOutcome))}
    (perm : first.Perm second) (apart : (first.map (·.1.start)).Nodup) :
    (first.mergeSort fun a b => a.1.start ≤ b.1.start)
      = second.mergeSort fun a b => a.1.start ≤ b.1.start := by
  have trans := startOrder_trans (Prod.fst : Region × (Nat → ReadOutcome) → Region)
  have total := startOrder_total (Prod.fst : Region × (Nat → ReadOutcome) → Region)
  refine List.Perm.eq_of_pairwise ?_ (List.pairwise_mergeSort trans total first)
    (List.pairwise_mergeSort trans total second)
    ((List.mergeSort_perm first _).trans (perm.trans (List.mergeSort_perm second _).symm))
  intro a b inFirst inSecond ab ba
  simp only [decide_eq_true_eq] at ab ba
  have inside : b ∈ first := perm.mem_iff.mpr (List.mem_mergeSort.mp inSecond)
  exact List.inj_on_of_nodup_map apart (List.mem_mergeSort.mp inFirst) inside
    (UInt64.le_antisymm ab ba)

namespace Export

variable {first second : Surroundings}

theorem result_gather_congr (policy : ReadFailurePolicy) (stop : first.stop = second.stop)
    {number : Nat} {order other : List Placed}
    (same : outcomesFrom first.read number order = outcomesFrom second.read number other) :
    (gather policy first number order).result = (gather policy second number other).result := by
  induction order generalizing other number with
  | nil =>
    cases other with
    | nil => rfl
    | cons placed rest => simp [outcomesFrom] at same
  | cons placed rest ih =>
    cases other with
    | nil => simp [outcomesFrom] at same
    | cons twin more =>
      simp only [outcomesFrom, List.cons.injEq, Prod.mk.injEq] at same
      obtain ⟨⟨region, outcome⟩, later⟩ := same
      rw [gather, gather, stop, region, outcome]
      by_cases asked : second.stop number = true
      · rw [if_pos asked, if_pos asked]
      · rw [if_neg asked, if_neg asked]
        cases settle policy twin.region (second.read number twin) with
        | error halt => rfl
        | ok taken => exact congrArg (Except.map (taken :: ·)) (ih later)

/-- Results of two exports that are the same but for what a summary tells about the image
as a whole: its name, and how many regions it lists. -/
inductive SameResult : Except Halt ExportStream → Except Halt ExportStream → Prop where
  | halted (halt : Halt) : SameResult (.error halt) (.error halt)
  | exported {one other : ExportStream} (bytes : other.bytes = one.bytes)
      (summary : other.summary
        = { one.summary with
            program := other.summary.program
            regionsTotal := other.summary.regionsTotal
            regionsUninitialized := other.summary.regionsUninitialized }) :
      SameResult (.ok one) (.ok other)

theorem finish_sameResult (memory : Memory) (policy : ReadFailurePolicy) {one other : Image}
    (symbols : one.symbols = other.symbols) (stop : Nat → Bool) (looks : Nat)
    (taken : List Taken) :
    SameResult (finish memory policy one stop looks taken)
      (finish memory policy other stop looks taken) := by
  have entries : one.entries = other.entries := by rw [Image.entries, Image.entries, symbols]
  have bytes : (assemble policy other taken).bytes = (assemble policy one taken).bytes := by
    rw [bytes_assemble, bytes_assemble, Image.spelled, Image.spelled, entries]
  rw [finish_eq, finish_eq, entries, symbols]
  cases memory.refusal? (roomFor (taken.filterMap Taken.written?)) with
  | some fault => exact .halted _
  | none =>
    cases firstStop stop looks 0 other.symbols.length with
    | some processed => exact .halted _
    | none =>
      dsimp only
      split
      · refine .exported bytes ?_
        simp only [assemble, symbols]
      · exact .halted _

/-- Exports of two images with the same symbols give the same result if the images have
the same to read in the same order, whatever other regions they list, or if they have the
same to read in any two orders and no two of these regions share a start. -/
theorem result_of_readable (memory : Memory) (options : ExportOptions) (one other : Image)
    (first second : Surroundings) (symbols : one.symbols = other.symbols)
    (stop : first.stop = second.stop)
    (same : one.readable first = other.readable second
      ∨ (one.readable first).Perm (other.readable second)
        ∧ ((one.readable first).map (·.1.start)).Nodup) :
    SameResult (run memory options one first).result (run memory options other second).result := by
  have order : one.selected.map first.about = other.selected.map second.about := by
    rw [one.map_about_selected, other.map_about_selected]
    rcases same with same | ⟨perm, apart⟩
    · rw [same]
    · exact mergeSort_eq_of_perm perm apart
  have outcomes := outcomesFrom_congr order 0
  have looks : one.selected.length = other.selected.length := by
    have lengths := congrArg List.length order
    rwa [List.length_map, List.length_map] at lengths
  have gathered := result_gather_congr options.onReadError stop outcomes
  simp only [run, gathered, looks, stop]
  cases (gather options.onReadError second 0 other.selected).result with
  | error halt => exact .halted halt
  | ok taken => exact finish_sameResult memory options.onReadError symbols _ _ taken

end Export

namespace SteadyImage

theorem readable_toImage (image : SteadyImage) :
    image.toImage.readable image.surroundings
      = (image.entries.filter fun entry => entry.1.initialized).map fun entry =>
          (entry.1, fun _ => entry.2) := by
  have listed : image.toImage.placed.map image.surroundings.about
      = image.entries.map fun entry => (entry.1, fun _ => entry.2) := by
    rw [← image.map_placed, List.map_map]
    rfl
  rw [Image.readable, listed, List.filter_map]
  rfl

/-- Regions in the order of their starts. -/
def orderedSample : SteadyImage where
  name := "ordered"
  entries :=
    [(⟨"text", 0x1000, 0x1002, ⟨true, false, true⟩, true⟩, .data [7, 0, 9]),
     (⟨"broken", 0x2000, 0x2001, ⟨true, true, false⟩, true⟩, .data [1, 2, 3]),
     (⟨"late", 0x3000, 0x3000, ⟨true, false, false⟩, true⟩, .data [4])]
  symbols := [⟨0x1001, "é", .userDefined⟩]

/-- The same regions in another order, and one without contents between them. -/
def shuffledSample : SteadyImage where
  name := "shuffled"
  entries :=
    [(⟨"late", 0x3000, 0x3000, ⟨true, false, false⟩, true⟩, .data [4]),
     (⟨"bss", 0x1000, 0x10FF, ⟨true, true, false⟩, false⟩, .data []),
     (⟨"text", 0x1000, 0x1002, ⟨true, false, true⟩, true⟩, .data [7, 0, 9]),
     (⟨"broken", 0x2000, 0x2001, ⟨true, true, false⟩, true⟩, .data [1, 2, 3])]
  symbols := orderedSample.symbols

theorem result_of_readable_shuffled :
    (orderedSample.toImage.readable orderedSample.surroundings).Perm
        (shuffledSample.toImage.readable shuffledSample.surroundings)
      ∧ ((orderedSample.toImage.readable orderedSample.surroundings).map (·.1.start)).Nodup
      ∧ ∃ one other,
        orderedSample.exported Memory.usual .dropRegion = .ok one
          ∧ shuffledSample.exported Memory.usual .dropRegion = .ok other
          ∧ other.bytes = one.bytes
          ∧ other.summary.readFailures = one.summary.readFailures := by
  have perm : (orderedSample.toImage.readable orderedSample.surroundings).Perm
      (shuffledSample.toImage.readable shuffledSample.surroundings) := by
    rw [readable_toImage, readable_toImage]
    exact List.Perm.map _ (by decide)
  have apart : ((orderedSample.toImage.readable orderedSample.surroundings).map
      (·.1.start)).Nodup := by
    rw [readable_toImage, List.map_map]
    decide
  have same := Export.result_of_readable Memory.usual ⟨.dropRegion⟩ orderedSample.toImage
    shuffledSample.toImage orderedSample.surroundings shuffledSample.surroundings rfl rfl
    (.inr ⟨perm, apart⟩)
  have ordered : orderedSample.toImage.selected
      = [⟨0, ⟨"text", 0x1000, 0x1002, ⟨true, false, true⟩, true⟩⟩,
         ⟨1, ⟨"broken", 0x2000, 0x2001, ⟨true, true, false⟩, true⟩⟩,
         ⟨2, ⟨"late", 0x3000, 0x3000, ⟨true, false, false⟩, true⟩⟩] := by
    cbv
  obtain ⟨one, success⟩ : ∃ one, orderedSample.exported Memory.usual .dropRegion = .ok one := by
    simp only [exported, Export.run, ordered]
    exact ⟨_, rfl⟩
  change Export.SameResult (orderedSample.exported Memory.usual .dropRegion)
    (shuffledSample.exported Memory.usual .dropRegion) at same
  rw [success] at same
  generalize ending : shuffledSample.exported Memory.usual .dropRegion = result at same
  cases same with
  | @exported _ other bytes summary =>
    refine ⟨perm, apart, one, other, success, rfl, bytes, ?_⟩
    rw [summary]

end SteadyImage
end SegmentContainer
