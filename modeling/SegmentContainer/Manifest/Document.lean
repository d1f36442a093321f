import SegmentContainer.Json.Values

/-!
# Manifests

A manifest is a JSON document that lists the regions and symbols of an image and
names the files that hold the bytes of its regions.
-/

set_option autoImplicit false

namespace SegmentContainer

structure RegionEntry where
  name : String
  start : UInt64
  last : UInt64
  permissions : Permissions
  initialized : Bool
  file : Option String
  offset : UInt64
  deriving DecidableEq

structure Manifest where
  program : Option String
  regions : List RegionEntry
  symbols : List Symbol

structure RegionEntry.Draft where
  name : Option String
  start : Option UInt64
  last : Option UInt64
  permissions : Option Permissions
  initialized : Option Bool
  file : Option (Option String)
  offset : Option UInt64

/-- A region entry.  It is initialized unless it says otherwise, and its bytes
start at the front of its file. -/
def RegionEntry.record : Json.Record RegionEntry.Draft RegionEntry where
  name := "RegionEntry"
  fields :=
    [.of "name" false Json.Decoder.text (·.name)
       fun draft value => { draft with name := some value },
     .of "start" false Json.Decoder.address (·.start)
       fun draft value => { draft with start := some value },
     .of "end" false Json.Decoder.address (·.last)
       fun draft value => { draft with last := some value },
     .of "permissions" false Json.Decoder.permissions (·.permissions)
       fun draft value => { draft with permissions := some value },
     .of "initialized" true Json.Decoder.bool (·.initialized)
       fun draft value => { draft with initialized := some value },
     .of "file" true (Json.Decoder.nullable (Json.Decoder.textAs "path string")) (·.file)
       fun draft value => { draft with file := some value },
     .of "offset" true Json.Decoder.address (·.offset)
       fun draft value => { draft with offset := some value }]
  blank := ⟨none, none, none, none, none, none, none⟩
  complete := fun draft => do
    let name ← Json.required "name" draft.name
    let start ← Json.required "start" draft.start
    let last ← Json.required "end" draft.last
    let permissions ← Json.required "permissions" draft.permissions
    return ⟨name, start, last, permissions, draft.initialized.getD true,
      draft.file.getD none, draft.offset.getD 0⟩

def Manifest.symbolRecord : Json.Record Symbol.Draft Symbol :=
  Symbol.recordAs "SymbolEntry" Json.Decoder.address

structure Manifest.Draft where
  program : Option (Option String)
  regions : Option (List RegionEntry)
  symbols : Option (List Symbol)

def Manifest.record : Json.Record Manifest.Draft Manifest where
  name := "ManifestFile"
  fields :=
    [.of "program" true (Json.Decoder.nullable Json.Decoder.text) (·.program)
       fun draft value => { draft with program := some value },
     .of "regions" true (Json.Decoder.list RegionEntry.record.decode) (·.regions)
       fun draft value => { draft with regions := some value },
     .of "symbols" true (Json.Decoder.list Manifest.symbolRecord.decode) (·.symbols)
       fun draft value => { draft with symbols := some value }]
  blank := ⟨none, none, none⟩
  complete := fun draft =>
    .ok ⟨draft.program.getD none, draft.regions.getD [], draft.symbols.getD []⟩

def Manifest.ofText (text : String) : Except Json.Fault Manifest :=
  Json.decodeText Manifest.record.decode text

end SegmentContainer
