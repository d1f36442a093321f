import SegmentContainer.Manifest.Document
import SegmentContainer.Proofs.Json.Records

/-!
# Manifests as they are written

What a decoded manifest says is read off the JSON tree of its text, entry by entry and field
by field, with the defaults of the fields that were left out.
-/

set_option autoImplicit false

namespace SegmentContainer

open Json (Decoder Tree)

/-- The tree of a region entry, as an object or as an array of its fields. -/
structure RegionEntry.Spelled (tree : Tree) (entry : RegionEntry) : Prop where
  name : tree.Gives record.keys "name" Decoder.text entry.name
  start : tree.Gives record.keys "start" Decoder.address entry.start
  last : tree.Gives record.keys "end" Decoder.address entry.last
  permissions : tree.Gives record.keys "permissions" Decoder.permissions entry.permissions
  initialized : tree.GivesOr record.keys "initialized" Decoder.bool true entry.initialized
  file : tree.GivesOr record.keys "file" (Decoder.nullable (Decoder.textAs "path string")) none
    entry.file
  offset : tree.GivesOr record.keys "offset" Decoder.address 0 entry.offset

structure Manifest.SpelledSymbol (tree : Tree) (symbol : Symbol) : Prop where
  address : tree.Gives symbolRecord.keys "address" Decoder.address symbol.address
  name : tree.Gives symbolRecord.keys "name" Decoder.text symbol.name
  source : tree.GivesOr symbolRecord.keys "source" SymbolSource.decode .userDefined symbol.source

/-- The tree of a manifest.  Its regions and symbols are in the order of the document. -/
structure Manifest.Spelled (tree : Tree) (manifest : Manifest) : Prop where
  program : tree.GivesOr record.keys "program" (Decoder.nullable Decoder.text) none
    manifest.program
  regions : ∃ items, tree.Lists record.keys "regions" items
    ∧ List.Forall₂ RegionEntry.Spelled items manifest.regions
  symbols : ∃ items, tree.Lists record.keys "symbols" items
    ∧ List.Forall₂ SpelledSymbol items manifest.symbols

/-! ## Each key has a place of its own -/

theorem RegionEntry.stores :
    record.Stores "name" Decoder.text (·.name)
      ∧ record.Stores "start" Decoder.address (·.start)
      ∧ record.Stores "end" Decoder.address (·.last)
      ∧ record.Stores "permissions" Decoder.permissions (·.permissions)
      ∧ record.Stores "initialized" Decoder.bool (·.initialized)
      ∧ record.Stores "file" (Decoder.nullable (Decoder.textAs "path string")) (·.file)
      ∧ record.Stores "offset" Decoder.address (·.offset) := by
  refine ⟨?_, ?_, ?_, ?_, ?_, ?_, ?_⟩ <;> refine ⟨by decide, rfl, ?_⟩
  all_goals simp [record, Json.Field.minds_own, Json.Field.minds_other]

theorem Manifest.stores :
    record.Stores "program" (Decoder.nullable Decoder.text) (·.program)
      ∧ record.Stores "regions" (Decoder.list RegionEntry.record.decode) (·.regions)
      ∧ record.Stores "symbols" (Decoder.list symbolRecord.decode) (·.symbols) := by
  refine ⟨?_, ?_, ?_⟩ <;> refine ⟨by decide, rfl, ?_⟩
  all_goals simp [record, Json.Field.minds_own, Json.Field.minds_other]

/-! ## Decoding -/

end SegmentContainer
