import SegmentContainer.Json.Decoder
import SegmentContainer.Options
import SegmentContainer.Region
import SegmentContainer.Symbol

/-!
# Decoding regions, symbols and options

The JSON forms of the values that images and exports are made of.  A region read
this way is not checked: its bounds may describe no span.
-/

set_option autoImplicit false

namespace SegmentContainer

def ReadFailurePolicy.decode : Json.Decoder ReadFailurePolicy :=
  Json.Decoder.variant ofWord? (all.map word)

def InputFormat.decode : Json.Decoder InputFormat :=
  Json.Decoder.variant ofWord? (all.map word)

def SymbolSource.decode : Json.Decoder SymbolSource :=
  Json.Decoder.variant ofWord? (all.map word)

def ExportOptions.record : Json.Record (Option ReadFailurePolicy) ExportOptions where
  name := "ExportOptions"
  fields :=
    [.of "on_read_error" true ReadFailurePolicy.decode id fun _ policy => some policy]
  blank := none
  complete := fun policy => .ok ⟨policy.getD .zeroFill⟩

structure Symbol.Draft where
  address : Option UInt64
  name : Option String
  source : Option SymbolSource

/-- A symbol under a record name, its address in a given form.  A symbol without a
source was named by a person. -/
def Symbol.recordAs (name : String) (address : Json.Decoder UInt64) :
    Json.Record Symbol.Draft Symbol where
  name := name
  fields :=
    [.of "address" false address (·.address)
       fun draft value => { draft with address := some value },
     .of "name" false Json.Decoder.text (·.name)
       fun draft value => { draft with name := some value },
     .of "source" true SymbolSource.decode (·.source)
       fun draft value => { draft with source := some value }]
  blank := ⟨none, none, none⟩
  complete := fun draft =>
    match Json.required "address" draft.address with
    | .error fault => .error fault
    | .ok address =>
      match Json.required "name" draft.name with
      | .error fault => .error fault
      | .ok name => .ok ⟨address, name, draft.source.getD .userDefined⟩

def Symbol.record : Json.Record Symbol.Draft Symbol :=
  Symbol.recordAs "Symbol" Json.Decoder.word

structure Region.Draft where
  name : Option String
  start : Option UInt64
  last : Option UInt64
  permissions : Option Permissions
  initialized : Option Bool

def Region.record : Json.Record Region.Draft Region where
  name := "MemoryRegion"
  fields :=
    [.of "name" false Json.Decoder.text (·.name)
       fun draft value => { draft with name := some value },
     .of "start" false Json.Decoder.word (·.start)
       fun draft value => { draft with start := some value },
     .of "end" false Json.Decoder.word (·.last)
       fun draft value => { draft with last := some value },
     .of "permissions" false Json.Decoder.permissions (·.permissions)
       fun draft value => { draft with permissions := some value },
     .of "initialized" false Json.Decoder.bool (·.initialized)
       fun draft value => { draft with initialized := some value }]
  blank := ⟨none, none, none, none, none⟩
  complete := fun draft => do
    let name ← Json.required "name" draft.name
    let start ← Json.required "start" draft.start
    let last ← Json.required "end" draft.last
    let permissions ← Json.required "permissions" draft.permissions
    let initialized ← Json.required "initialized" draft.initialized
    return ⟨name, start, last, permissions, initialized⟩

end SegmentContainer
