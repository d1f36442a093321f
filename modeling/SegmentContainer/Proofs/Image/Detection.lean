import SegmentContainer.Proofs.Elf.Tables
import SegmentContainer.Proofs.Image.Reading
import SegmentContainer.Proofs.Text.Utf8

/-!
# Telling formats apart

ELF files start with a byte that starts no JSON value, so no file is a manifest and an ELF
file.  Hence the first four bytes decide about the format: where it is to be found out, a
file opens exactly as it opens in the one format that it has.
-/

set_option autoImplicit false

namespace SegmentContainer

/-! ## The first character of a text -/

theorem Utf8.utf8EncodeChar_eq_cons {c : Char} {byte : UInt8} {rest : Bytes}
    (ascii : byte.toNat < 0x80) (spelled : String.utf8EncodeChar c = byte :: rest) :
    c.toNat = byte.toNat := by
  have code : c.toNat = c.val.toNat := rfl
  unfold String.utf8EncodeChar at spelled
  dsimp only at spelled
  split at spelled
  · obtain ⟨rfl, -⟩ := List.cons.inj spelled
    rw [UInt8.toNat_ofNat', Nat.mod_eq_of_lt (by omega), code]
  · -- a character of more than one byte starts with a byte that has the highest bit set
    split at spelled
    · obtain ⟨rfl, -⟩ := List.cons.inj spelled
      rw [UInt8.toNat_ofNat'] at ascii
      omega
    · split at spelled
      · obtain ⟨rfl, -⟩ := List.cons.inj spelled
        rw [UInt8.toNat_ofNat'] at ascii
        omega
      · obtain ⟨rfl, -⟩ := List.cons.inj spelled
        rw [UInt8.toNat_ofNat'] at ascii
        omega

theorem Utf8.exists_toList_of_encode {text : String} {byte : UInt8} {rest : Bytes}
    (ascii : byte.toNat < 0x80) (spelled : encode text = byte :: rest) :
    ∃ c chars, text.toList = c :: chars ∧ c.toNat = byte.toNat := by
  rw [encode_eq_flatMap] at spelled
  cases chars : text.toList with
  | nil =>
    rw [chars, List.flatMap_nil] at spelled
    cases spelled
  | cons c more =>
    rw [chars, List.flatMap_cons] at spelled
    cases first : String.utf8EncodeChar c with
    | nil => exact absurd first String.utf8EncodeChar_ne_nil
    | cons start tail =>
      rw [first, List.cons_append] at spelled
      obtain ⟨rfl, -⟩ := List.cons.inj spelled
      exact ⟨c, more, rfl, utf8EncodeChar_eq_cons ascii first⟩

namespace Json

/-- No value starts with this character: it is no blank, opens nothing, starts no word and
is part of no number. -/
structure StartsNothing (c : Char) : Prop where
  visible : isBlank c = false
  opens : c ≠ '"' ∧ c ≠ '[' ∧ c ≠ '\x7b'
  word : c ≠ 'n' ∧ c ≠ 't' ∧ c ≠ 'f'
  number : c ≠ '-' ∧ c.isDigit = false

theorem number?_of_startsNothing {c : Char} (starts : StartsNothing c) (rest : List Char) :
    number? (c :: rest) = none := by
  have whole : (c :: rest).takeWhile Char.isDigit = [] :=
    List.takeWhile_cons_of_neg (by simp [starts.number.2])
  simp [number?, unsigned?, starts.number.1, whole]

theorem valueFrom_of_startsNothing {c : Char} (starts : StartsNothing c) (calls : Nat)
    (rest : List Char) : valueFrom (calls + 1) (c :: rest) = (.broken, []) := by
  have text : skipBlank (c :: rest) = c :: rest :=
    List.dropWhile_cons_of_neg (by simp [starts.visible])
  simp [valueFrom, text, starts.opens, starts.word, number?_of_startsNothing starts]

end Json

theorem Manifest.ofText_of_startsNothing {text : String} {c : Char} {rest : List Char}
    (starts : Json.StartsNothing c) (chars : text.toList = c :: rest) :
    ofText text = .error .malformed := by
  have tree : (Json.Tree.ofText text).1 = .broken := by
    simp [Json.Tree.ofText, chars, Json.valueFrom_of_startsNothing starts]
  simp only [ofText, Json.decodeText, tree]
  rfl

/-! ## The formats of a file -/

theorem ManifestImage.not_magic_of_load {path : String} {content : Bytes} {image : ManifestImage}
    (loaded : load path (.file content) = .ok image) : content.take 4 ≠ Elf.magic := by
  intro magic
  obtain ⟨text, manifest, read, accepted, -⟩ := exists_manifest_of_load loaded
  obtain rfl : content = Utf8.encode text := Except.ok.inj read
  have spelled : Utf8.encode text = 0x7F :: [0x45, 0x4C, 0x46] ++ (Utf8.encode text).drop 4 := by
    have split := List.take_append_drop 4 (Utf8.encode text)
    rw [magic] at split
    exact split.symm
  obtain ⟨c, rest, chars, code⟩ := Utf8.exists_toList_of_encode (by decide) spelled
  obtain rfl : c = '\x7f' := Char.ext (UInt32.toNat_inj.mp code)
  have starts : Json.StartsNothing '\x7f' := by
    constructor <;> decide
  rw [Manifest.ofText_of_startsNothing starts chars] at accepted
  cases accepted

variable {tables? : Bytes → Option Elf.File}

theorem ElfImage.exists_tables_of_loadBy {path : String} {content : Bytes} {image : ElfImage}
    (loaded : loadBy tables? path (.file content) = .ok image) :
    ∃ file, tables? content = some file := by
  simp only [loadBy, Found.readAll, ofBytesBy] at loaded
  cases found : tables? content with
  | none => simp [found] at loaded
  | some file => exact ⟨file, rfl⟩

theorem openImageBy_auto (tables? : Bytes → Option Elf.File) (path : String) (content : Bytes) :
    openImageBy tables? path .auto (.file content)
      = openImageBy tables? path (if content.take 4 = Elf.magic then .elf else .manifest)
          (.file content) := by
  by_cases magic : content.take 4 = Elf.magic
  · simp [openImageBy, detectFormat, magic]
  · simp [openImageBy, detectFormat, magic]

theorem openImageBy_manifest_ok {path : String} {content : Bytes} {image : OpenedImage}
    (opened : openImageBy tables? path .manifest (.file content) = .ok image) :
    content.take 4 ≠ Elf.magic := by
  simp only [openImageBy, Found.isFile, if_true, openAsBy, Bool.false_eq_true, if_false] at opened
  cases loaded : ManifestImage.load path (.file content) with
  | error fault => simp [loaded, Except.map] at opened
  | ok made => exact ManifestImage.not_magic_of_load loaded

theorem openImageBy_elf_ok (rejects : ∀ bytes file, tables? bytes = some file →
      bytes.take 4 = Elf.magic) {path : String} {content : Bytes} {image : OpenedImage}
    (opened : openImageBy tables? path .elf (.file content) = .ok image) :
    content.take 4 = Elf.magic := by
  simp only [openImageBy, Found.isFile, if_true, openAsBy] at opened
  cases loaded : ElfImage.loadBy tables? path (.file content) with
  | error fault => simp [loaded, Except.map] at opened
  | ok made =>
    obtain ⟨file, found⟩ := ElfImage.exists_tables_of_loadBy loaded
    exact rejects content file found

/-- However the tables of ELF files are found, as long as files that do not start as ELF
files do are refused: no file opens in both formats, and where the format is to be found
out it opens exactly as the image that it opens as in one of them. -/
theorem openImageBy_auto_ok_iff (tables? : Bytes → Option Elf.File)
    (rejects : ∀ bytes file, tables? bytes = some file → bytes.take 4 = Elf.magic)
    (path : String) (content : Bytes) :
    (¬ ∃ one other, openImageBy tables? path .manifest (.file content) = .ok one
        ∧ openImageBy tables? path .elf (.file content) = .ok other)
      ∧ ∀ image, openImageBy tables? path .auto (.file content) = .ok image
          ↔ openImageBy tables? path .manifest (.file content) = .ok image
            ∨ openImageBy tables? path .elf (.file content) = .ok image := by
  constructor
  · rintro ⟨one, other, manifest, elf⟩
    exact openImageBy_manifest_ok manifest (openImageBy_elf_ok rejects elf)
  · intro image
    rw [openImageBy_auto]
    by_cases magic : content.take 4 = Elf.magic
    · rw [if_pos magic]
      constructor
      · exact .inr
      · rintro (manifest | elf)
        · exact absurd magic (openImageBy_manifest_ok manifest)
        · exact elf
    · rw [if_neg magic]
      constructor
      · exact .inl
      · rintro (manifest | elf)
        · exact manifest
        · exact absurd (openImageBy_elf_ok rejects elf) magic

def smallWords (values : List UInt8) : Bytes := values.flatMap fun value => [value, 0, 0, 0]

/-- A file of 32-bit words with three sections: code at address 16, which is the first four
bytes of the file, a table of one symbol, and the name of both. -/
def namedElf : Bytes :=
  Elf.magic ++ [1, 1] ++ List.replicate 26 0 ++ [52, 0, 0, 0] ++ List.replicate 12 0
    ++ [3, 0, 2, 0] ++ smallWords [1, 1, 6, 16, 0, 4, 0, 0, 0, 0]
    ++ smallWords [0, 2, 0, 0, 175, 16, 2, 0, 0, 16] ++ smallWords [0, 3, 0, 0, 172, 3, 0, 0, 0, 0]
    ++ [0, 0x66, 0] ++ smallWords [1, 17, 0] ++ [0x12, 0, 1, 0]

def namedTables : Elf.File where
  sections := [⟨1, 1, 6, 16, 0, 4, 0, 0⟩, ⟨0, 2, 0, 0, 175, 16, 2, 16⟩, ⟨0, 3, 0, 0, 172, 3, 0, 0⟩]
  sectionNames := ⟨[[], [0x66]]⟩
  symbols := ⟨[⟨1, 2, 1, 17⟩], ⟨[[], [0x66]]⟩⟩
  dynamicSymbols := .none

def namedImage : ElfImage where
  name := "a"
  file := namedElf
  entries := [(⟨"f", 16, 19, ⟨true, false, true⟩, true⟩, some 0)]
  symbols := [⟨17, "f", .analysis⟩]

/-- A manifest of one region and one symbol, both written as arrays of their fields. -/
def backedText : String :=
  "\x7b\"regions\":[[\"r\",16,18,\"rw\",true,\"d\"]],\"symbols\":[[17,\"s\"]]\x7d"

def backedManifest : Manifest where
  program := none
  regions := [⟨"r", 16, 18, ⟨true, true, false⟩, true, some "d", 0⟩]
  symbols := [⟨17, "s", .userDefined⟩]

def backedImage : ManifestImage where
  name := "m"
  entries := [(⟨"r", 16, 18, ⟨true, true, false⟩, true⟩, some ⟨"d", 0⟩)]
  symbols := [⟨17, "s", .userDefined⟩]

theorem ofBytes?_namedElf : Elf.File.ofBytes? namedElf = some namedTables := by cbv

theorem openImage_namedElf :
    openImage "a" .elf (.file namedElf) = .ok (.elf namedImage) := by
  have name : Path.fileName? "a" = some "a" := by cbv
  have regions : Elf.regionsOf namedTables.sectionNames (namedTables.sections.filter Elf.isLoaded)
      = .ok namedImage.entries := by
    cbv
  have symbols : namedTables.allSymbols = namedImage.symbols := by cbv
  simp only [openImage, openImageBy, Found.isFile, if_true, openAsBy, ElfImage.loadBy,
    Found.readAll, ElfImage.ofBytesBy, ofBytes?_namedElf, name, regions, symbols]
  rfl

theorem ofText_backedText : Manifest.ofText backedText = .ok backedManifest := by cbv

theorem openImage_backedText :
    openImage "m" .manifest (.file (Utf8.encode backedText)) = .ok (.manifest backedImage) := by
  have loaded : ManifestImage.load "m" (.file (Utf8.encode backedText)) = .ok backedImage :=
    ManifestImage.load_of_ofManifest ofText_backedText (by cbv)
  simp only [openImage, openImageBy, Found.isFile, if_true, openAsBy, Bool.false_eq_true,
    if_false, loaded]
  rfl

/-- Both files open as the images that they describe, with their regions and symbols, and
neither opens in the other format. -/
theorem auto_opens_samples :
    (∀ bytes file, Elf.File.ofBytes? bytes = some file → bytes.take 4 = Elf.magic)
      ∧ openImage "a" .auto (.file namedElf) = .ok (.elf namedImage)
      ∧ (¬ ∃ image, openImage "a" .manifest (.file namedElf) = .ok image)
      ∧ openImage "m" .auto (.file (Utf8.encode backedText)) = .ok (.manifest backedImage)
      ∧ ¬ ∃ image, openImage "m" .elf (.file (Utf8.encode backedText)) = .ok image := by
  have rejects : ∀ bytes file, Elf.File.ofBytes? bytes = some file →
      bytes.take 4 = Elf.magic := fun _ _ => Elf.File.magic_of_ofBytes?
  obtain ⟨elfApart, elfSame⟩ :=
    openImageBy_auto_ok_iff Elf.File.ofBytes? rejects "a" namedElf
  obtain ⟨manifestApart, manifestSame⟩ :=
    openImageBy_auto_ok_iff Elf.File.ofBytes? rejects "m" (Utf8.encode backedText)
  refine ⟨rejects, (elfSame _).mpr (.inr openImage_namedElf), ?_,
    (manifestSame _).mpr (.inl openImage_backedText), ?_⟩
  · rintro ⟨image, opened⟩
    exact elfApart ⟨image, _, opened, openImage_namedElf⟩
  · rintro ⟨image, opened⟩
    exact manifestApart ⟨_, image, openImage_backedText, opened⟩

end SegmentContainer
