import SegmentContainer.Proofs.Container.Calls

/-!
# Reading back what was written

Each item of a writer is read back by the call that matches it: the bytes that are written
for an item are those that spell the answer to its call.  By induction over the items this
holds of all that is written one after the other, whatever bytes come behind, and after each
item reader and writer stand at the same place.  A symbol entry is a word and a text.
-/

set_option autoImplicit false

namespace SegmentContainer

/-! ## Single items -/

/-- A call returns the admitted answer that the next bytes spell, if there is one. -/
theorem ReadCall.reads (call : ReadCall) : call.reader.Reads call.Admits ReadAnswer.encode := by
  cases call with
  | word =>
    refine Reader.word_reads.map ReadAnswer.word _ _ ?_ fun _ _ => rfl
    intro answer
    cases answer <;> simp [Admits]
  | count =>
    refine Reader.count_reads.map ReadAnswer.count _ _ ?_ fun _ _ => rfl
    intro answer
    cases answer <;> simp [Admits]
  | bytes number =>
    refine (Reader.bytes_reads number).map ReadAnswer.bytes _ _ ?_ fun _ _ => rfl
    intro answer
    cases answer <;> simp [Admits]
  | text =>
    refine Reader.text_reads.map ReadAnswer.text _ _ ?_ fun _ _ => rfl
    intro answer
    cases answer <;> simp [Admits]

namespace Item

/-- Counts are 64-bit numbers, and U+0000 would end a text before its time. -/
def Fits : Item → Prop
  | .count value => value < 2 ^ 64
  | .text value => Utf8.zero ∉ value.toList
  | .word _ => True
  | .bytes _ => True
  | .zeros _ => True

theorem admits_answer {item : Item} (fits : item.Fits) : item.call.Admits item.answer := by
  cases item with
  | word value => trivial
  | count value => exact fits
  | bytes held => rfl
  | zeros number => exact List.length_replicate
  | text value => exact fun zero => fits ((Utf8.zero_mem_encode_iff value).mp zero)

theorem toBytes_write (item : Item) (writer : Writer) :
    (item.write writer).toBytes = writer.toBytes ++ item.answer.encode := by
  cases item with
  | word value => exact writer.toBytes_word value
  | count value => exact writer.toBytes_count value
  | bytes held => exact writer.toBytes_bytes held
  | zeros number => exact writer.toBytes_zeros number
  | text value => exact writer.toBytes_text value

theorem length_write (item : Item) (writer : Writer) :
    (item.write writer).length = writer.length + item.answer.encode.length := by
  rw [← Writer.length_toBytes, toBytes_write, List.length_append, Writer.length_toBytes]

end Item

/-! ## Items one after the other -/

namespace Writer

theorem toBytes_items (writer : Writer) (items : List Item) :
    (writer.items items).toBytes = writer.toBytes ++ items.flatMap (·.answer.encode) :=
  toBytes_foldl _ _ items writer fun item _ writer => item.toBytes_write writer

theorem trace_items {items : List Item} (fits : ∀ item ∈ items, item.Fits) (later : Bytes)
    (writer : Writer) {cursor : Cursor} (place : cursor.position = writer.length)
    (ahead : cursor.rest = items.flatMap (·.answer.encode) ++ later)
    (small : cursor.length < 2 ^ 64) :
    (cursor.trace (items.map Item.call)).map (·.answer) = items.map (fun item => .ok item.answer)
      ∧ (cursor.trace (items.map Item.call)).map (·.after.position) = writer.lengths items := by
  induction items generalizing writer cursor with
  | nil => exact ⟨rfl, rfl⟩
  | cons item rest ih =>
    have passes : cursor.Passes item.answer.encode
        ⟨(item.write writer).length, rest.flatMap (·.answer.encode) ++ later⟩ := by
      refine ⟨?_, ?_⟩
      · rw [ahead, List.flatMap_cons, List.append_assoc]
      · rw [item.length_write, place]
    have run := (item.call.reads cursor _ item.answer small).mpr
      ⟨Item.admits_answer (fits item List.mem_cons_self), passes⟩
    obtain ⟨answers, places⟩ :=
      ih (fun other member => fits other (List.mem_cons_of_mem _ member)) (item.write writer)
        rfl rfl (passes.length_eq ▸ small)
    simp only [List.map_cons, Cursor.trace, ReadCall.make_of_ok run, lengths]
    exact ⟨by rw [answers], by rw [places]⟩

theorem length_symbolEntry (writer : Writer) (address : UInt64) (name : String) :
    (writer.symbolEntry address name).length
      = writer.length + (9 + (Utf8.encode name).length) := by
  rw [← length_toBytes, toBytes_symbolEntry]
  simp only [List.length_append, List.length_singleton, Bytes.length_ofWord, length_toBytes]
  omega

theorem read_symbolEntry (writer : Writer) (address : UInt64) {name : String} (later : Bytes)
    (whole : Utf8.zero ∉ name.toList)
    (small : (writer.symbolEntry address name).length + later.length < 2 ^ 64) :
    Container.symbolEntry
        ⟨writer.length, ((writer.symbolEntry address name).toBytes ++ later).drop writer.length⟩
      = .ok ⟨address, name⟩ ⟨(writer.symbolEntry address name).length, later⟩ := by
  have length := writer.length_symbolEntry address name
  have behind : ((writer.symbolEntry address name).toBytes ++ later).drop writer.length
      = ContainerSymbol.encode ⟨address, name⟩ ++ later := by
    rw [toBytes_symbolEntry, List.append_assoc, ← writer.length_toBytes, List.drop_left]
    rfl
  have entry : (ContainerSymbol.encode ⟨address, name⟩).length = 9 + (Utf8.encode name).length :=
    ContainerSymbol.length_encode _
  rw [behind]
  refine (Container.symbolEntry_reads _ _ _ ?_).mpr ⟨?_, rfl, ?_⟩
  · simp only [Cursor.length, List.length_append]
    omega
  · exact fun zero => whole ((Utf8.zero_mem_encode_iff name).mp zero)
  · simp only
    omega

def stepsBack (items : List Item) (later : Bytes) : List ReadStep :=
  (Cursor.start ((empty.items items).toBytes ++ later)).trace (items.map Item.call)

/-- Whatever items are written, and whatever bytes come behind, the matching calls return
all items, and after each of them the reader stands where the writer stood.  An entry of a
symbol is a word and a text, takes nine bytes more than the name, and is read back as its
address and name.  Strings of 2^64 bytes do not exist: positions in them are 64-bit
numbers. -/
theorem items_read_back (items : List Item) (later : Bytes) (fits : ∀ item ∈ items, item.Fits)
    (small : (empty.items items).length + later.length < 2 ^ 64) :
    (stepsBack items later).map (·.answer) = items.map (fun item => .ok item.answer)
      ∧ (stepsBack items later).map (·.after.position) = empty.lengths items
      ∧ ∀ (writer : Writer) (address : UInt64) (name : String) (behind : Bytes),
          writer.symbolEntry address name = writer.items [.word address, .text name]
            ∧ (writer.symbolEntry address name).length
              = writer.length + (9 + (Utf8.encode name).length)
            ∧ (Utf8.zero ∉ name.toList →
              (writer.symbolEntry address name).length + behind.length < 2 ^ 64 →
              Container.symbolEntry
                  ⟨writer.length,
                    ((writer.symbolEntry address name).toBytes ++ behind).drop writer.length⟩
                = .ok ⟨address, name⟩ ⟨(writer.symbolEntry address name).length, behind⟩) := by
  have ahead : (Cursor.start ((empty.items items).toBytes ++ later)).rest
      = items.flatMap (·.answer.encode) ++ later := by
    rw [Cursor.start, toBytes_items, toBytes_empty, List.nil_append]
  have bound : (Cursor.start ((empty.items items).toBytes ++ later)).length < 2 ^ 64 := by
    rwa [Cursor.length_start, List.length_append, length_toBytes]
  obtain ⟨answers, places⟩ := trace_items fits later empty rfl ahead bound
  refine ⟨answers, places, fun writer address name behind => ⟨rfl, ?_, ?_⟩⟩
  · exact writer.length_symbolEntry address name
  · exact fun whole room => writer.read_symbolEntry address behind whole room

/-- Zeros in all kinds of items, and behind them bytes that end no text. -/
def zerosInside : List Item :=
  [.word 0, .text "é", .zeros 2, .text "", .count 0xFFFFFFFFFFFFFFFF, .bytes [0, 7, 0], .zeros 0]

theorem zerosInside_read_back :
    (stepsBack zerosInside [0xFF, 0]).map (fun step => (step.answer, step.after.position))
        = [(.ok (.word 0), 8), (.ok (.text "é"), 11), (.ok (.bytes [0, 0]), 13),
          (.ok (.text ""), 14), (.ok (.count 0xFFFFFFFFFFFFFFFF), 22),
          (.ok (.bytes [0, 7, 0]), 25), (.ok (.bytes []), 25)]
      ∧ (∀ item ∈ zerosInside, item.Fits)
      ∧ (stepsBack zerosInside [0xFF, 0]).map (·.answer)
        = zerosInside.map (fun item => .ok item.answer)
      ∧ (stepsBack zerosInside [0xFF, 0]).map (·.after.position) = empty.lengths zerosInside
      ∧ Container.symbolEntry
          ⟨25, (((empty.items zerosInside).symbolEntry 0x1050 "init_fn").toBytes ++ [1]).drop 25⟩
        = .ok ⟨0x1050, "init_fn"⟩ ⟨41, [1]⟩ := by
  have fits : ∀ item ∈ zerosInside, item.Fits := by
    simp [zerosInside, Item.Fits, Utf8.zero]
  have stands : (empty.items zerosInside).length = 25 := by cbv
  have small : (empty.items zerosInside).length + [0xFF, (0 : UInt8)].length < 2 ^ 64 := by
    rw [stands]
    decide
  have whole : Utf8.zero ∉ "init_fn".toList := by simp [Utf8.zero]
  obtain ⟨answers, places, entries⟩ := items_read_back zerosInside [0xFF, 0] fits small
  obtain ⟨-, length, read⟩ := entries (empty.items zerosInside) 0x1050 "init_fn" [1]
  have spelled : (Utf8.encode "init_fn").length = 7 := by cbv
  rw [stands, spelled] at length
  rw [stands, length] at read
  exact ⟨by cbv, fits, answers, places, read whole (by decide)⟩

end Writer
end SegmentContainer
