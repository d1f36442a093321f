import SegmentContainer.Json.Decoder
import Mathlib.Data.List.Forall2
import Mathlib.Data.List.Nodup

/-!
# Records in JSON trees

A record is decoded by a loop that puts one value after the other into a draft, whether it
stands in an object, where the members come in any order, or in an array, where the fields
have their places.  Here each field of a decoded record is told by itself: it is what its
decoder makes of the value that the tree has for its key.
-/

set_option autoImplicit false

namespace SegmentContainer.Json

/-! ## What a tree has for a key -/

def memberOf? (key : String) : List (Tree × Tree) → Option Tree
  | [] => none
  | (.string (some found), value) :: rest => if found = key then some value else memberOf? key rest
  | _ :: rest => memberOf? key rest

def itemOf? (key : String) : List String → List Tree → Option Tree
  | name :: keys, item :: items => if name = key then some item else itemOf? key keys items
  | _, _ => none

def Tree.field? (tree : Tree) (keys : List String) (key : String) : Option Tree :=
  match tree with
  | .object members _ => memberOf? key members
  | .array items _ => itemOf? key keys items
  | _ => none

/-- The value is what the decoder makes of what the tree has for the key. -/
def Tree.Gives {β : Type} (tree : Tree) (keys : List String) (key : String)
    (decoder : Decoder β) (value : β) : Prop :=
  ∃ found, tree.field? keys key = some found ∧ decoder found = .ok value

def Tree.GivesOr {β : Type} (tree : Tree) (keys : List String) (key : String)
    (decoder : Decoder β) (fallback value : β) : Prop :=
  tree.Gives keys key decoder value ∨ tree.field? keys key = none ∧ value = fallback

/-- The tree has a finished array of these items for the key, or nothing and there are no
items. -/
def Tree.Lists (tree : Tree) (keys : List String) (key : String) (items : List Tree) : Prop :=
  tree.field? keys key = some (.array items true) ∨ tree.field? keys key = none ∧ items = []

section

variable {draft α β : Type} {key : String} {decoder : Decoder β} {get : draft → Option β}

/-! ## One field -/

/-- What a place of a draft holds after a tree was or was not found for it. -/
def Fills (decoder : Decoder β) (found? : Option Tree) (before after : Option β) : Prop :=
  match found? with
  | none => after = before
  | some tree => ∃ value, decoder tree = .ok value ∧ after = some value

/-- How a field acts on the place of a draft that `get` reads: it fills the place if it has
the key, and otherwise it leaves the place as it is. -/
structure Field.Minds (key : String) (decoder : Decoder β) (get : draft → Option β)
    (field : Field draft) : Prop where
  isSet : field.key = key → ∀ found, field.isSet found = (get found).isSome
  fills : field.key = key → ∀ tree found after, field.set tree found = .ok after →
    Fills decoder (some tree) (get found) (get after)
  keeps : field.key ≠ key → ∀ tree found after, field.set tree found = .ok after →
    get after = get found

theorem Field.of_set_eq_ok {name : String} {optional : Bool} {put : draft → β → draft}
    {tree : Tree} {found after : draft} :
    (of name optional decoder get put).set tree found = .ok after
      ↔ ∃ value, decoder tree = .ok value ∧ put found value = after := by
  cases read : decoder tree <;> simp [of, read, Except.map]

theorem Field.minds_own {optional : Bool} {put : draft → β → draft}
    (reads : ∀ found value, get (put found value) = some value) :
    (of key optional decoder get put).Minds key decoder get where
  isSet _ _ := rfl
  fills _ tree found after success := by
    obtain ⟨value, decoded, rfl⟩ := of_set_eq_ok.mp success
    exact ⟨value, decoded, reads found value⟩
  keeps other := absurd rfl other

theorem Field.minds_other {γ : Type} {name : String} {optional : Bool} {reader : Decoder γ}
    {look : draft → Option γ} {put : draft → γ → draft} (different : name ≠ key)
    (same : ∀ found value, get (put found value) = get found) :
    (of name optional reader look put).Minds key decoder get where
  isSet own := absurd own different
  fills own := absurd own different
  keeps _ tree found after success := by
    obtain ⟨value, -, rfl⟩ := of_set_eq_ok.mp success
    exact same found value

/-! ## The two loops -/

variable {fields : List (Field draft)}

theorem fills_of_fromMembers (minds : ∀ field ∈ fields, field.Minds key decoder get)
    (listed : key ∈ fields.map Field.key) {found after : draft} {members : List (Tree × Tree)}
    {closed : Bool} (made : fromMembers fields found members closed = .ok after) :
    Fills decoder (memberOf? key members) (get found) (get after)
      ∧ ((get found).isSome = true → memberOf? key members = none) := by
  fun_induction fromMembers fields found members closed with
  | case1 found =>
    obtain rfl := Except.ok.inj made
    exact ⟨rfl, fun _ => rfl⟩
  | case5 found name value rest closed field sought unset next put ih =>
    have member := List.mem_of_find?_eq_some sought
    have named : field.key = name := by
      simpa only [decide_eq_true_eq] using List.find?_some sought
    obtain ⟨filled, once⟩ := ih made
    by_cases own : name = key
    · -- the place is filled now, so that the key cannot come again
      obtain ⟨taken, decoded, placed⟩ :=
        (minds field member).fills (named.trans own) value found next put
      rw [once (by rw [placed]; rfl)] at filled
      rw [memberOf?, if_pos own, ← (minds field member).isSet (named.trans own)]
      exact ⟨⟨taken, decoded, filled.trans placed⟩, fun isSet => absurd isSet unset⟩
    · have same := (minds field member).keeps (named ▸ own) value found next put
      rw [memberOf?, if_neg own, ← same]
      exact ⟨filled, once⟩
  | case6 found name value rest closed unknown wellFormed ih =>
    have other : name ≠ key := by
      rintro rfl
      obtain ⟨field, member, named⟩ := List.mem_map.mp listed
      exact absurd (decide_eq_true named) (List.find?_eq_none.mp unknown field member)
    rw [memberOf?, if_neg other]
    exact ih made
  | case2 | case3 | case4 | case7 | case8 => cases made

theorem itemOf?_nil {keys : List String} : itemOf? key keys [] = none := by
  cases keys <;> rfl

theorem itemOf?_eq_none {keys : List String} (absent : key ∉ keys) (items : List Tree) :
    itemOf? key keys items = none := by
  fun_induction itemOf? key keys items with
  | case1 keys item items => exact absurd List.mem_cons_self absent
  | case2 name keys item items other ih =>
    exact ih fun member => absent (List.mem_cons_of_mem name member)
  | case3 => rfl

theorem fills_of_fromItems {record : String} {total : Nat}
    (minds : ∀ field ∈ fields, field.Minds key decoder get)
    (distinct : (fields.map Field.key).Nodup) {found after : draft} {items : List Tree}
    {closed : Bool} (made : fromItems record total fields found items closed = .ok after) :
    Fills decoder (itemOf? key (fields.map Field.key) items) (get found) (get after) := by
  fun_induction fromItems record total fields found items closed with
  | case1 found items closed finished =>
    obtain rfl := Except.ok.inj made
    exact rfl
  | case4 field fields found closed whole optional ih =>
    have rest := ih (fun other member => minds other (List.mem_cons_of_mem _ member))
      (List.nodup_cons.mp distinct).2 made
    rw [itemOf?_nil] at rest ⊢
    exact rest
  | case7 field fields found item items closed next put ih =>
    have mindsField := minds field List.mem_cons_self
    have rest := ih (fun other member => minds other (List.mem_cons_of_mem _ member))
      (List.nodup_cons.mp distinct).2 made
    rw [List.map_cons, itemOf?]
    by_cases own : field.key = key
    · rw [itemOf?_eq_none (own ▸ (List.nodup_cons.mp distinct).1)] at rest
      obtain ⟨value, decoded, placed⟩ := mindsField.fills own item found next put
      rw [if_pos own]
      exact ⟨value, decoded, rest.trans placed⟩
    · rw [if_neg own, ← mindsField.keeps own item found next put]
      exact rest
  | case2 | case3 | case5 | case6 => cases made

/-! ## Records -/

def Record.keys (record : Record draft α) : List String :=
  record.fields.map Field.key

def Record.draftOf (record : Record draft α) : Tree → Except Fault draft
  | .object members closed => fromMembers record.fields record.blank members closed
  | .array items closed =>
    fromItems record.name record.fields.length record.fields record.blank items closed
  | other => .error (Decoder.misfit other ("struct " ++ record.name))

/-- The field with this key fills the place that `get` reads, and no other field does. -/
structure Record.Stores (record : Record draft α) (key : String) (decoder : Decoder β)
    (get : draft → Option β) : Prop where
  listed : key ∈ record.keys
  blank : get record.blank = none
  minds : ∀ field ∈ record.fields, field.Minds key decoder get

theorem Record.Stores.fills {record : Record draft α} {tree : Tree} {made : draft}
    (stores : record.Stores key decoder get) (distinct : record.keys.Nodup)
    (drafted : record.draftOf tree = .ok made) :
    Fills decoder (tree.field? record.keys key) none (get made) := by
  rw [← stores.blank]
  match tree with
  | .object members closed => exact (fills_of_fromMembers stores.minds stores.listed drafted).1
  | .array items closed => exact fills_of_fromItems stores.minds distinct drafted
  | .null | .bool _ | .number _ | .string _ | .broken => cases drafted

theorem required_eq_ok_iff {held : Option β} {value : β} :
    required key held = .ok value ↔ held = some value := by
  cases held <;> simp [required]

theorem Record.Stores.gives {record : Record draft α} {tree : Tree} {made : draft} {value : β}
    (stores : record.Stores key decoder get) (distinct : record.keys.Nodup)
    (drafted : record.draftOf tree = .ok made) (held : required key (get made) = .ok value) :
    tree.Gives record.keys key decoder value := by
  have fills := stores.fills distinct drafted
  rw [required_eq_ok_iff.mp held] at fills
  cases found : tree.field? record.keys key with
  | none =>
    rw [found] at fills
    cases fills
  | some part =>
    rw [found] at fills
    obtain ⟨_, decoded, same⟩ := fills
    obtain rfl := Option.some.inj same
    exact ⟨part, found, decoded⟩

end
end SegmentContainer.Json
