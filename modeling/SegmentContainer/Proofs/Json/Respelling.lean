import SegmentContainer.Proofs.Json.Records

/-!
# Trees that a record does not tell apart

One value can often be written in several ways.  Two trees are alike for a record if they
have the same shape and differ only in the values of some of its keys, and there only between
values that the field with that key reads alike.  Such trees are decoded alike, faults
included: what the record skips, misses or finds twice is the same in both.
-/

set_option autoImplicit false

namespace SegmentContainer.Json

variable {alike : String → Tree → Tree → Prop}

inductive MembersAlike (alike : String → Tree → Tree → Prop) :
    List (Tree × Tree) → List (Tree × Tree) → Prop
  | nil : MembersAlike alike [] []
  | kept (member : Tree × Tree) {members others : List (Tree × Tree)}
      (rest : MembersAlike alike members others) :
      MembersAlike alike (member :: members) (member :: others)
  | changed {key : String} {value other : Tree} {members others : List (Tree × Tree)}
      (values : alike key value other) (rest : MembersAlike alike members others) :
      MembersAlike alike ((.string (some key), value) :: members)
        ((.string (some key), other) :: others)

inductive ItemsAlike (alike : String → Tree → Tree → Prop) :
    List String → List Tree → List Tree → Prop
  | same (keys : List String) (items : List Tree) : ItemsAlike alike keys items items
  | kept (key : String) (item : Tree) {keys : List String} {items others : List Tree}
      (rest : ItemsAlike alike keys items others) :
      ItemsAlike alike (key :: keys) (item :: items) (item :: others)
  | changed {key : String} {item other : Tree} {keys : List String} {items others : List Tree}
      (values : alike key item other) (rest : ItemsAlike alike keys items others) :
      ItemsAlike alike (key :: keys) (item :: items) (other :: others)

/-- Two trees of a record with these keys that differ only in values that are alike. -/
inductive Tree.Alike (alike : String → Tree → Tree → Prop) (keys : List String) :
    Tree → Tree → Prop
  | same (tree : Tree) : Alike alike keys tree tree
  | object {members others : List (Tree × Tree)} (closed : Bool)
      (each : MembersAlike alike members others) :
      Alike alike keys (.object members closed) (.object others closed)
  | array {items others : List Tree} (closed : Bool) (each : ItemsAlike alike keys items others) :
      Alike alike keys (.array items closed) (.array others closed)

def Tree.ListsAlike (item : Tree → Tree → Prop) (tree other : Tree) : Prop :=
  ∃ items others closed, tree = .array items closed ∧ other = .array others closed
    ∧ List.Forall₂ item items others

/-- The field does not tell apart what is alike for its key. -/
def Field.Blind {draft : Type} (alike : String → Tree → Tree → Prop) (field : Field draft) :
    Prop :=
  ∀ value other, alike field.key value other →
    ∀ found, field.set value found = field.set other found

/-- No field of the record tells apart what is alike for its key, and nothing is alike for a
key that no field has. -/
structure Record.Blind {draft α : Type} (alike : String → Tree → Tree → Prop)
    (record : Record draft α) : Prop where
  known : ∀ key value other, alike key value other → key ∈ record.keys
  fields : ∀ field ∈ record.fields, field.Blind alike

section

variable {draft α β : Type} {fields : List (Field draft)}

theorem Field.of_blind {key : String} {optional : Bool} {decoder : Decoder β}
    {get : draft → Option β} {put : draft → β → draft}
    (same : ∀ value other, alike key value other → decoder value = decoder other) :
    (of key optional decoder get put).Blind alike := by
  intro value other values found
  simp only [of, same value other values]

theorem fromMembers_congr
    (known : ∀ key value other, alike key value other → key ∈ fields.map Field.key)
    (blind : ∀ field ∈ fields, field.Blind alike) {members others : List (Tree × Tree)}
    (each : MembersAlike alike members others) (found : draft) (closed : Bool) :
    fromMembers fields found members closed = fromMembers fields found others closed := by
  induction each generalizing found with
  | nil => rfl
  | kept member _ ih =>
    obtain ⟨key, value⟩ := member
    match key with
    | .string (some key) => simp only [fromMembers, ih]
    | .string none | .null | .bool _ | .number _ | .array _ _ | .object _ _ | .broken => rfl
  | @changed key value other _ _ values _ ih =>
    cases sought : fields.find? fun field => field.key = key with
    | none =>
      obtain ⟨field, member, named⟩ := List.mem_map.mp (known key value other values)
      exact absurd (decide_eq_true named) (List.find?_eq_none.mp sought field member)
    | some field =>
      have named : field.key = key := by
        simpa only [decide_eq_true_eq] using List.find?_some sought
      have member := List.mem_of_find?_eq_some sought
      have sets := blind field member value other (named ▸ values) found
      simp only [fromMembers, sought, sets, ih]

theorem fromItems_congr {record : String} {total : Nat}
    (blind : ∀ field ∈ fields, field.Blind alike) {items others : List Tree}
    (each : ItemsAlike alike (fields.map Field.key) items others) (found : draft)
    (closed : Bool) :
    fromItems record total fields found items closed
      = fromItems record total fields found others closed := by
  induction fields generalizing items others found with
  | nil =>
    cases each with
    | same => rfl
  | cons field fields ih =>
    obtain ⟨first, later⟩ := List.forall_mem_cons.mp blind
    cases each with
    | same => rfl
    | kept _ item rest => simp only [fromItems, ih later rest]
    | @changed _ item other _ _ _ values rest =>
      simp only [fromItems, first item other values, ih later rest]

theorem Record.Blind.decode_congr {record : Record draft α} (blind : record.Blind alike)
    {tree other : Tree} (same : tree.Alike alike record.keys other) :
    record.decode tree = record.decode other := by
  cases same with
  | same => rfl
  | object closed each => simp only [decode, fromMembers_congr blind.known blind.fields each]
  | array closed each => simp only [decode, fromItems_congr blind.fields each]

theorem Decoder.list_congr {decoder : Decoder β} {item : Tree → Tree → Prop}
    (same : ∀ value other, item value other → decoder value = decoder other)
    {tree other : Tree} (lists : tree.ListsAlike item other) :
    list decoder tree = list decoder other := by
  obtain ⟨items, others, closed, rfl, rfl, each⟩ := lists
  change listItems decoder items closed = listItems decoder others closed
  induction each with
  | nil => rfl
  | cons first _ ih => simp only [listItems, same _ _ first, ih]

end

end SegmentContainer.Json
