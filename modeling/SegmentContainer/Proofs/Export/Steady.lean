import SegmentContainer.Proofs.Export.Room

/-!
# Images with steady reads

Here the outcome of a read depends on which region is read, and not on when.  Such an
image is a list of regions, each next to the outcome of every read of it, so that editing
the list edits the regions together with what is behind them.  What its exports write can
then be said along the list.
-/

set_option autoImplicit false

namespace SegmentContainer

structure SteadyImage where
  name : String
  /-- The regions, each with what every read of it comes to. -/
  entries : List (Region × ReadOutcome)
  symbols : List Symbol

namespace SteadyImage

def toImage (image : SteadyImage) : Image :=
  ⟨image.name, image.entries.map (·.1), image.symbols⟩

def surroundings (image : SteadyImage) : Surroundings where
  read _ placed :=
    match image.entries[placed.index]? with
    | some entry => entry.2
    | none => .refused placed.region .notInImage
  stop _ := false

def exported (image : SteadyImage) (memory : Memory) (policy : ReadFailurePolicy) :
    Except Halt ExportStream :=
  (Export.run memory ⟨policy⟩ image.toImage image.surroundings).result

def order (image : SteadyImage) : List (Region × ReadOutcome) :=
  selectBy Prod.fst image.entries

def written (image : SteadyImage) (policy : ReadFailurePolicy) : List ContainerRegion :=
  image.order.filterMap fun entry => entry.1.written? policy entry.2

variable {image : SteadyImage}

theorem initialized_of_mem_order {entry : Region × ReadOutcome}
    (member : entry ∈ image.order) : entry.1.initialized = true := by
  rw [order, selectBy, List.mem_mergeSort, List.mem_filter] at member
  exact member.2

theorem map_placed (image : SteadyImage) :
    image.toImage.placed.map (fun placed => (placed.region, image.surroundings.read 0 placed))
      = image.entries := by
  apply List.ext_getElem
  · simp [Image.placed, toImage]
  · intro index inside behind
    simp [Image.placed, toImage, surroundings, List.getElem?_eq_getElem behind]

theorem map_selected (image : SteadyImage) :
    image.toImage.selected.map (fun placed => (placed.region, image.surroundings.read 0 placed))
      = image.order := by
  rw [order, Image.selected, ← selectBy_map Placed.region Prod.fst _ fun _ => rfl, map_placed]

theorem writtenFrom_eq_filterMap (policy : ReadFailurePolicy)
    {read : Nat → Placed → ReadOutcome} (steady : ∀ number placed, read number placed = read 0 placed)
    (number : Nat) (order : List Placed) :
    writtenFrom policy read number order
      = order.filterMap fun placed => placed.region.written? policy (read 0 placed) := by
  induction order generalizing number with
  | nil => rfl
  | cons placed rest ih =>
    rw [writtenFrom, ih, steady number placed]
    cases about : placed.region.written? policy (read 0 placed) with
    | none => simp only [List.filterMap_cons, about, Option.toList_none, List.nil_append]
    | some region => simp only [List.filterMap_cons, about, Option.toList_some, List.singleton_append]

theorem writtenFrom_selected (image : SteadyImage) (policy : ReadFailurePolicy) :
    writtenFrom policy image.surroundings.read 0 image.toImage.selected
      = image.written policy := by
  rw [writtenFrom_eq_filterMap policy (fun _ _ => rfl), written, ← image.map_selected,
    List.filterMap_map]
  rfl

theorem bytes_of_exported {memory : Memory} {policy : ReadFailurePolicy} {stream : ExportStream}
    (success : image.exported memory policy = .ok stream) :
    stream.bytes = image.toImage.spelled (image.written policy) := by
  rw [← image.writtenFrom_selected policy]
  exact (Export.spelled_of_run_ok success).1

/-- An edit of single entries that keeps the regions, and does not change what is written
about any of them, does not change what is written at all. -/
theorem written_of_edit {edited : SteadyImage} {policy other : ReadFailurePolicy}
    (edit : Region × ReadOutcome → Option (Region × ReadOutcome))
    (entries : edited.entries = image.entries.filterMap edit)
    (keeps : ∀ old new, edit old = some new → new.1 = old.1)
    (agrees : ∀ entry, entry.1.initialized = true →
      ((edit entry).bind fun new => new.1.written? other new.2)
        = entry.1.written? policy entry.2) :
    edited.written other = image.written policy := by
  have ordered : edited.order = image.order.filterMap edit := by
    rw [order, order, entries, selectBy_filterMap Prod.fst Prod.fst edit keeps]
  rw [written, written, ordered, List.filterMap_filterMap]
  apply List.filterMap_congr
  intro entry member
  exact agrees entry (initialized_of_mem_order member)

end SteadyImage
end SegmentContainer
