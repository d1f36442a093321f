import SegmentContainer.Manifest.Image
import SegmentContainer.Proofs.Address
import SegmentContainer.Proofs.Json.Respelling

/-!
# Addresses of manifests

In a manifest an address is a number or a text, and it does not matter which: a text that
denotes a number is read as that number.  So a manifest in which addresses are written in
another way describes the same image.
-/

set_option autoImplicit false

namespace SegmentContainer

open Json (Decoder Tree)

/-- An address as a manifest writes it: the number, or a text that denotes the number. -/
inductive Address.Written : Tree → UInt64 → Prop
  | number (word : UInt64) : Written (.number (.natural word)) word
  | text {text : String} {word : UInt64} (denotes : Denotes text word.toNat) :
      Written (.string (some text)) word

def Address.Rewritten (value other : Tree) : Prop :=
  ∃ word, Written value word ∧ Written other word

/-- The addresses that a record has for these keys may be written in another way. -/
def Address.RewrittenAt (addresses : List String) (key : String) (value other : Tree) : Prop :=
  key ∈ addresses ∧ Rewritten value other

def RegionEntry.Respelled : Tree → Tree → Prop :=
  Tree.Alike (Address.RewrittenAt ["start", "end", "offset"]) record.keys

namespace Manifest

def SymbolRespelled : Tree → Tree → Prop :=
  Tree.Alike (Address.RewrittenAt ["address"]) symbolRecord.keys

def ListRespelled (key : String) (value other : Tree) : Prop :=
  key = "regions" ∧ value.ListsAlike RegionEntry.Respelled other
    ∨ key = "symbols" ∧ value.ListsAlike SymbolRespelled other

/-- Two texts with the same JSON, but for the way in which addresses of regions and symbols
are written. -/
structure Respelled (text other : String) : Prop where
  trees : (Tree.ofText text).1.Alike ListRespelled record.keys (Tree.ofText other).1
  ends : (Tree.ofText text).2 = (Tree.ofText other).2

end Manifest

theorem Address.Written.decode {value : Tree} {word : UInt64} (written : Written value word) :
    Decoder.address value = .ok word := by
  cases written with
  | number => rfl
  | text denotes =>
    have read := ofText_eq_ok_iff.mpr denotes
    simp only [Decoder.address, Json.Tree.usable, Option.isSome_some, if_true, read]

theorem Address.Rewritten.decode {value other : Tree} (rewritten : Rewritten value other) :
    Decoder.address value = Decoder.address other := by
  obtain ⟨word, first, second⟩ := rewritten
  rw [first.decode, second.decode]

/-! ## What the records do not tell apart -/

section

variable {draft β : Type} {addresses : List String} {key : String} {optional : Bool}

theorem blind_address {get : draft → Option UInt64} {put : draft → UInt64 → draft} :
    (Json.Field.of key optional Decoder.address get put).Blind
      (Address.RewrittenAt addresses) :=
  Json.Field.of_blind fun _ _ same => same.2.decode

theorem blind_other {decoder : Decoder β} {get : draft → Option β} {put : draft → β → draft}
    (absent : key ∉ addresses) :
    (Json.Field.of key optional decoder get put).Blind (Address.RewrittenAt addresses) :=
  Json.Field.of_blind fun _ _ same => absurd same.1 absent

end

theorem RegionEntry.blind :
    record.Blind (Address.RewrittenAt ["start", "end", "offset"]) where
  known := by
    rintro key value other ⟨address, -⟩
    have among : ∀ key ∈ ["start", "end", "offset"], key ∈ record.keys := by decide
    exact among key address
  fields := by
    simp only [record, List.forall_mem_cons]
    exact ⟨blind_other (by decide), blind_address, blind_address, blind_other (by decide),
      blind_other (by decide), blind_other (by decide), blind_address, by simp⟩

theorem Manifest.symbolBlind : symbolRecord.Blind (Address.RewrittenAt ["address"]) where
  known := by
    rintro key value other ⟨address, -⟩
    have among : ∀ key ∈ ["address"], key ∈ symbolRecord.keys := by decide
    exact among key address
  fields := by
    simp only [symbolRecord, Symbol.recordAs, List.forall_mem_cons]
    exact ⟨blind_address, blind_other (by decide), blind_other (by decide), by simp⟩

theorem RegionEntry.Respelled.decode {value other : Tree} (alike : Respelled value other) :
    record.decode value = record.decode other :=
  blind.decode_congr alike

namespace Manifest

theorem SymbolRespelled.decode {value other : Tree} (alike : SymbolRespelled value other) :
    symbolRecord.decode value = symbolRecord.decode other :=
  symbolBlind.decode_congr alike

theorem blind : record.Blind ListRespelled where
  known := by
    rintro key value other (⟨rfl, -⟩ | ⟨rfl, -⟩) <;> decide
  fields := by
    have regions : ∀ value other, ListRespelled "regions" value other →
        Decoder.list RegionEntry.record.decode value
          = Decoder.list RegionEntry.record.decode other := by
      rintro value other (⟨-, each⟩ | ⟨wrong, -⟩)
      · exact Decoder.list_congr (fun _ _ alike => alike.decode) each
      · exact absurd wrong (by decide)
    have symbols : ∀ value other, ListRespelled "symbols" value other →
        Decoder.list symbolRecord.decode value = Decoder.list symbolRecord.decode other := by
      rintro value other (⟨wrong, -⟩ | ⟨-, each⟩)
      · exact absurd wrong (by decide)
      · exact Decoder.list_congr (fun _ _ alike => alike.decode) each
    have program : ∀ value other, ListRespelled "program" value other →
        Decoder.nullable Decoder.text value = Decoder.nullable Decoder.text other := by
      rintro value other (⟨wrong, -⟩ | ⟨wrong, -⟩) <;> exact absurd wrong (by decide)
    simp only [record, List.forall_mem_cons]
    exact ⟨Json.Field.of_blind program, Json.Field.of_blind regions,
      Json.Field.of_blind symbols, by simp⟩

theorem ofText_congr {text other : String} (respelled : Respelled text other) :
    ofText text = ofText other := by
  have same := blind.decode_congr respelled.trees
  simp only [ofText, Json.decodeText, same, respelled.ends]

end Manifest

/-- Texts that are addresses, the number that each of them denotes, and the spellings of a
number.  Every spelling is read as its number, no other text is read, and a manifest in which
addresses are numbers, or texts that denote them, describes the same image in either way. -/
theorem ManifestImage.address_language :
    (∀ text word, Address.ofText text = .ok word ↔ Address.Denotes text word.toNat)
      ∧ (∀ text, (∀ n < 2 ^ 64, ¬ Address.Denotes text n) →
        ∃ cause, Address.ofText text = .error ⟨text, cause⟩)
      ∧ (∀ (word : UInt64) text, Address.Spelling word.toNat text →
        Address.ofText text = .ok word)
      ∧ ∀ text other, Manifest.Respelled text other → ∀ directory fallback,
        ofText text directory fallback = ofText other directory fallback := by
  refine ⟨fun text word => Address.ofText_eq_ok_iff,
    fun text => Address.exists_cause_of_not_denotes, ?_, ?_⟩
  · intro word text spelling
    exact Address.ofText_eq_ok_iff.mpr spelling.denotes
  · intro text other respelled directory fallback
    rw [ofText, ofText, Manifest.ofText_congr respelled]

namespace Manifest

def pageTree (start last address : Tree) : Tree :=
  .object
    [(.string (some "regions"), .array [.object
      [(.string (some "name"), .string (some "r")), (.string (some "start"), start),
        (.string (some "end"), last), (.string (some "permissions"), .string (some "r"))] true]
      true),
     (.string (some "symbols"), .array [.array [address, .string (some "f")] true] true)] true

theorem pageTree_alike {start last address start' last' address' : Tree}
    (starts : Address.Rewritten start start') (lasts : Address.Rewritten last last')
    (addresses : Address.Rewritten address address') :
    (pageTree start last address).Alike ListRespelled record.keys
      (pageTree start' last' address') := by
  refine .object true (.changed (.inl ⟨rfl, _, _, true, rfl, rfl, .cons ?_ .nil⟩)
    (.changed (.inr ⟨rfl, _, _, true, rfl, rfl, .cons ?_ .nil⟩) .nil))
  · exact .object true (.kept _ (.changed ⟨by decide, starts⟩
      (.changed ⟨by decide, lasts⟩ (.kept _ .nil))))
  · exact .array true (.changed ⟨by decide, addresses⟩ (.same _ _))

def numbersText : String :=
  "\x7b\"regions\":[\x7b\"name\":\"r\","
    ++ "\"start\":4096,\"end\":8191,\"permissions\":\"r\"\x7d],"
    ++ "\"symbols\":[[16,\"f\"]]\x7d"

def spellingsText : String :=
  "\x7b\"regions\":[\x7b\"name\":\"r\","
    ++ "\"start\":\" 0X1_000 \",\"end\":\"8_191\",\"permissions\":\"r\"\x7d],"
    ++ "\"symbols\":[[\"0x0010\",\"f\"]]\x7d"

theorem tree_numbersText :
    Tree.ofText numbersText
      = (pageTree (.number (.natural 4096)) (.number (.natural 8191)) (.number (.natural 16)),
          true) := by
  cbv

theorem tree_spellingsText :
    Tree.ofText spellingsText
      = (pageTree (.string (some " 0X1_000 ")) (.string (some "8_191"))
          (.string (some "0x0010")), true) := by
  cbv

theorem rewritten_of_ofText {text : String} {word : UInt64}
    (read : Address.ofText text = .ok word) :
    Address.Rewritten (.number (.natural word)) (.string (some text)) :=
  ⟨word, .number word, .text (Address.ofText_eq_ok_iff.mp read)⟩

theorem respelled_numbersText : Respelled numbersText spellingsText where
  trees := by
    rw [tree_numbersText, tree_spellingsText]
    exact pageTree_alike (rewritten_of_ofText (by decide)) (rewritten_of_ofText (by decide))
      (rewritten_of_ofText (by decide))
  ends := by rw [tree_numbersText, tree_spellingsText]

end Manifest

theorem ManifestImage.address_language_numbersText :
    Manifest.Respelled Manifest.numbersText Manifest.spellingsText
      ∧ ofText Manifest.numbersText "" "x" = ofText Manifest.spellingsText "" "x" :=
  ⟨Manifest.respelled_numbersText,
    ManifestImage.address_language.2.2.2 _ _ Manifest.respelled_numbersText "" "x"⟩

end SegmentContainer
