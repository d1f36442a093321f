import SegmentContainer.Container.Machine
import SegmentContainer.Proofs.Container.Locality

/-!
# Reading any bytes safely

On a string that a machine can hold its reader of containers does what the reader does
that counts without bounds.  It never comes to a sum, a difference or a place that the
machine does not have: each size is compared with the bytes that are left before it is
used, and bounds of regions are compared before they are subtracted.  It makes room for
no more items than the bytes at hand can spell, and reads no more symbols than that,
whatever count is declared.
-/

set_option autoImplicit false

namespace SegmentContainer

namespace Buffer

structure Sound (buffer : Buffer) : Prop where
  inside : buffer.position ≤ buffer.bytes.length
  small : buffer.bytes.length < 2 ^ 63

def cursor (buffer : Buffer) : Cursor := ⟨buffer.position, buffer.bytes.drop buffer.position⟩

def moved (buffer : Buffer) (cursor : Cursor) : Buffer := ⟨buffer.bytes, cursor.position⟩

variable {buffer : Buffer}

theorem cursor_start (bytes : Bytes) : (start bytes).cursor = Cursor.start bytes := rfl

theorem Sound.start {bytes : Bytes} (small : bytes.length < 2 ^ 63) : (start bytes).Sound :=
  ⟨Nat.zero_le _, small⟩

theorem length_cursor (sound : buffer.Sound) : buffer.cursor.length = buffer.bytes.length := by
  have inside := sound.inside
  simp only [cursor, Cursor.length, List.length_drop]
  omega

theorem remaining_cursor (buffer : Buffer) : buffer.cursor.remaining = buffer.remaining :=
  List.length_drop

variable {cursor after : Cursor} {taken : Bytes}

theorem cursor_moved (passes : buffer.cursor.Passes taken after) :
    (buffer.moved after).cursor = after := by
  have next : buffer.bytes.drop buffer.position = taken ++ after.rest := passes.next
  have position : after.position = buffer.position + taken.length := passes.position
  have rest : buffer.bytes.drop after.position = after.rest := by
    rw [position, ← List.drop_drop, next, List.drop_left]
  rw [Buffer.cursor, moved, rest]

theorem remaining_moved (passes : buffer.cursor.Passes taken after) :
    (buffer.moved after).remaining = after.rest.length := by
  rw [← remaining_cursor, cursor_moved passes, Cursor.remaining]

theorem Sound.moved (sound : buffer.Sound) (passes : buffer.cursor.Passes taken after) :
    (buffer.moved after).Sound := by
  refine ⟨?_, sound.small⟩
  have length := passes.length_eq
  rw [length_cursor sound, Cursor.length] at length
  simp only [Buffer.moved]
  omega

end Buffer

theorem bind_result {ε σ α β : Type} (first : EStateM ε σ α) (second : α → EStateM ε σ β)
    (state : σ) :
    (first >>= second) state
      = match first state with
        | .ok value later => second value later
        | .error fault later => .error fault later := by
  change EStateM.bind first second state = _
  unfold EStateM.bind
  cases first state with
  | ok value later => rfl
  | error fault later => rfl

/-- No more room than for what a string of so many bytes can spell, and no more symbols than
there can be in a payload. -/
structure Account.Within (length : Nat) (account : Account) : Prop where
  headers : account.headerRoom ≤ length / Layout.regionHeader
  regions : account.regionRoom ≤ length / Layout.regionHeader
  payload : account.payload ≤ length
  symbols : account.symbolRoom ≤ account.payload / Layout.symbolOverhead
  read : account.symbolsRead ≤ account.payload / Layout.symbolOverhead

/-- The items that room was made for take fewer bytes than a request for memory may ask for:
a header is three words, a region a header with a place and a size, and a symbol a word with
a place, a room and a size. -/
structure Account.Requestable (account : Account) : Prop where
  headers : 24 * account.headerRoom < 2 ^ 63
  regions : 40 * account.regionRoom < 2 ^ 63
  symbols : 32 * account.symbolRoom < 2 ^ 63

/-- The most bytes that are asked for are those of symbols, less than four for each byte of
the string. -/
theorem Account.Within.requestable {length : Nat} {account : Account}
    (within : account.Within length) (short : length < 2 ^ 61) : account.Requestable := by
  obtain ⟨headers, regions, payload, symbols, -⟩ := within
  have header : Layout.regionHeader = 24 := rfl
  have overhead : Layout.symbolOverhead = 9 := rfl
  rw [header] at headers regions
  rw [overhead] at symbols
  constructor <;> omega

def Account.tabled (account : Account) (count : Nat) : Account :=
  { account with headerRoom := count, regionRoom := count }

def Account.reading (account : Account) (payload count read : Nat) : Account :=
  { account with
    payload := payload
    symbolRoom := Container.symbolRoom count payload
    symbolsRead := read }

theorem Account.Within.makeHeaders {length count : Nat} {account : Account}
    (within : account.Within length) (room : count ≤ length / Layout.regionHeader) :
    Account.Within length { account with headerRoom := count } :=
  { within with headers := room }

theorem Account.Within.tabled {length count : Nat} {account : Account}
    (within : account.Within length) (room : count ≤ length / Layout.regionHeader) :
    Account.Within length (account.tabled count) :=
  { within with headers := room, regions := room }

theorem Account.Within.reading {length payload read : Nat} {account : Account}
    (within : account.Within length) (inside : payload ≤ length) (count : Nat)
    (fits : read ≤ payload / Layout.symbolOverhead) :
    Account.Within length (account.reading payload count read) :=
  { within with
    payload := inside
    symbols := Nat.min_le_right _ _
    read := fits }

/-- Faults are told by their places in a string with so many bytes more in front. -/
def Reader.shifted {α : Type} (base : Nat) (reader : Reader α) : Reader α := fun cursor =>
  match reader cursor with
  | .ok value after => .ok value after
  | .error malformed after => .error (malformed.shift base) after

theorem Reader.length_of_bytes_ok {count : Nat} {piece : Bytes} {cursor after : Cursor}
    (run : Reader.bytes count cursor = .ok piece after) : piece.length = count := by
  obtain ⟨⟨-, enough⟩, rfl, -⟩ := (Reader.bytes_ok_iff _ _ _ _).mp run
  exact List.length_take_of_le enough

namespace Machine

variable {α β : Type} {length : Nat}

def outcome (buffer : Buffer) (account : Account) :
    EStateM.Result Malformed Cursor α → EStateM.Result Halt Account (α × Buffer)
  | .ok value after => .ok (value, buffer.moved after) account
  | .error malformed _ => .error (.failed (.malformed malformed)) account

/-- Where the reader succeeds the account goes with its value, and where it fails the account
is one of those that may be left then. -/
def Ends (after : α → Account → Prop) (failed : Account → Prop) (account : Account) :
    EStateM.Result Malformed Cursor α → Prop
  | .ok value _ => after value account
  | .error _ _ => failed account

theorem Ends.eq {account last : Account} {result : EStateM.Result Malformed Cursor α}
    (ends : Ends (fun _ ended => ended = account) (· = account) last result) :
    last = account := by
  cases result with
  | ok value after => exact ends
  | error malformed after => exact ends

/-- On sound buffers of so many bytes, and from accounts of a kind, the machine does what the
reader does, and its account ends as it should. -/
def Runs (length : Nat) (before : Account → Prop) (after : α → Account → Prop)
    (failed : Account → Prop) (program : Buffer → Machine (α × Buffer))
    (reader : Reader α) : Prop :=
  ∀ buffer account, buffer.Sound → buffer.bytes.length = length → before account →
    ∃ later, program buffer account = outcome buffer later (reader buffer.cursor)
      ∧ Ends after failed later (reader buffer.cursor)

/-- On sound buffers the machine does what the reader does, and leaves its account as it is. -/
def Follows (program : Buffer → Machine (α × Buffer)) (reader : Reader α) : Prop :=
  ∀ buffer account, buffer.Sound →
    program buffer account = outcome buffer account (reader buffer.cursor)

namespace Runs

variable {before changed failed : Account → Prop} {after middle : α → Account → Prop}
  {program : Buffer → Machine (α × Buffer)} {reader : Reader α}

theorem mono {other : α → Account → Prop} (runs : Runs length before after failed program reader)
    (weaker : ∀ value account, after value account → other value account) :
    Runs length before other failed program reader := by
  intro buffer account sound long start
  obtain ⟨later, run, ends⟩ := runs buffer account sound long start
  refine ⟨later, run, ?_⟩
  cases read : reader buffer.cursor with
  | ok value _ =>
    rw [read] at ends
    exact weaker value later ends
  | error malformed _ =>
    rw [read] at ends
    exact ends

theorem given {fact : Prop} (runs : fact → Runs length before after failed program reader) :
    Runs length (fun account => fact ∧ before account) after failed program reader :=
  fun buffer account sound long start => runs start.1 buffer account sound long start.2

theorem modify (change : Account → Account)
    (changes : ∀ account, before account → changed (change account))
    (runs : Runs length changed after failed program reader) :
    Runs length before after failed (fun buffer => modify change >>= fun _ => program buffer)
      reader :=
  fun buffer account sound long start =>
    runs buffer (change account) sound long (changes account start)

theorem bind {last : β → Account → Prop} {second : α → Buffer → Machine (β × Buffer)}
    {next : α → Reader β} (runs : Runs length before middle failed program reader)
    (own : reader.Local)
    (later : ∀ value, Runs length (middle value) last failed (second value) (next value)) :
    Runs length before last failed
      (fun buffer => program buffer >>= fun found => second found.1 found.2)
      (reader >>= next) := by
  intro buffer account sound long start
  obtain ⟨between, run, ends⟩ := runs buffer account sound long start
  change ∃ ended, (program buffer >>= fun found => second found.1 found.2) account = _ ∧ _
  rw [bind_result, run, bind_result]
  cases read : reader buffer.cursor with
  | error malformed behind =>
    rw [read] at ends
    exact ⟨between, rfl, ends⟩
  | ok value behind =>
    rw [read] at ends
    obtain ⟨taken, passes⟩ := own.passes read
    obtain ⟨ended, step, finished⟩ :=
      later value (buffer.moved behind) between (sound.moved passes) long ends
    rw [Buffer.cursor_moved passes] at step finished
    refine ⟨ended, ?_, finished⟩
    simp only [outcome]
    rw [step]
    cases next value behind with
    | ok found stop => rfl
    | error malformed stop => rfl

end Runs

theorem Follows.runs {before failed : Account → Prop} {returned : α → Prop}
    {program : Buffer → Machine (α × Buffer)} {reader : Reader α}
    (follows : Follows program reader)
    (returns : ∀ cursor value after, cursor.length = length → cursor.length < 2 ^ 64 →
      reader cursor = .ok value after → returned value)
    (fails : ∀ account, before account → failed account) :
    Runs length before (fun value account => returned value ∧ before account) failed program
      reader := by
  intro buffer account sound long start
  have whole : buffer.cursor.length = length := (Buffer.length_cursor sound).trans long
  have small := sound.small
  refine ⟨account, follows buffer account sound, ?_⟩
  cases read : reader buffer.cursor with
  | ok value after => exact ⟨returns _ _ _ whole (by omega) read, start⟩
  | error malformed after => exact fails account start

theorem Follows.bind {first : Buffer → Machine (α × Buffer)}
    {second : α → Buffer → Machine (β × Buffer)} {reader : Reader α} {next : α → Reader β}
    (start : Follows first reader) (own : reader.Local) (returned : α → Prop)
    (returns : ∀ cursor value after, cursor.length < 2 ^ 64 → reader cursor = .ok value after →
      returned value)
    (later : ∀ value, returned value → Follows (second value) (next value)) :
    Follows (fun buffer => first buffer >>= fun found => second found.1 found.2)
      (reader >>= next) := by
  intro buffer account sound
  -- of all accounts only this one is there at the start, and so at the end
  have runs : Runs buffer.bytes.length (· = account) (fun _ last => last = account) (· = account)
      (fun buffer => first buffer >>= fun found => second found.1 found.2) (reader >>= next) :=
    (Runs.bind (start.runs (fun cursor value after _ => returns cursor value after)
        fun _ same => same) own fun value => Runs.given fun good =>
          (later value good).runs (fun _ _ _ _ _ _ => trivial) fun _ same => same).mono
      fun _ _ ended => ended.2
  obtain ⟨last, run, ends⟩ := runs buffer account sound rfl rfl
  obtain rfl := ends.eq
  exact run

theorem Follows.pure (value : α) :
    Follows (fun buffer => Pure.pure (value, buffer)) (Pure.pure value) := by
  intro buffer account sound
  rfl

/-! ## Operations -/

theorem plus_apply {first second : Nat} (small : first + second < 2 ^ 64) (account : Account) :
    plus first second account = .ok (first + second) account := by
  rw [plus, if_pos (show _ < UInt64.size from small)]
  rfl

theorem minus_apply {first second : Nat} (ordered : second ≤ first) (account : Account) :
    minus first second account = .ok (first - second) account := by
  rw [minus, if_pos ordered]
  rfl

theorem slice_apply {string : Bytes} {first last : Nat} (ordered : first ≤ last)
    (inside : last ≤ string.length) (account : Account) :
    slice string first last account = .ok ((string.drop first).take (last - first)) account := by
  rw [slice, if_pos ⟨ordered, inside⟩]
  rfl

theorem modify_apply (change : Account → Account) (account : Account) :
    (modify change : Machine PUnit) account = .ok ⟨⟩ (change account) := rfl

theorem mapM_byteAt {piece : Bytes} (eight : piece.length = Layout.word) (account : Account) :
    (List.range Layout.word).mapM (byteAt piece) account = .ok piece account := by
  match piece, eight with
  | [_, _, _, _, _, _, _, _], _ => rfl

/-! ## Readers -/

theorem bytes_follows (count : Nat) : Follows (bytes count) (Reader.bytes count) := by
  intro buffer account sound
  have inside := sound.inside
  have length := Buffer.length_cursor sound
  have short : (buffer.cursor.rest.take count).length
      = min count (buffer.bytes.length - buffer.position) := by
    rw [List.length_take, Buffer.cursor, List.length_drop]
  simp only [bytes, Reader.bytes]
  split
  · rename_i wide
    rw [if_pos (show UInt64.size ≤ buffer.cursor.position + count from wide)]
    rfl
  · rename_i counted
    rw [if_neg (show ¬ UInt64.size ≤ buffer.cursor.position + count from counted)]
    split
    · rename_i past
      rw [if_pos (by omega), length]
      rfl
    · rename_i enough
      rw [if_neg (by omega), bind_result, slice_apply (by omega) (by omega),
        Nat.add_sub_cancel_left]
      rfl

theorem spelled_follows {piece : Bytes} (eight : piece.length = Layout.word) :
    Follows (fun buffer => do
        let spelled ← (List.range Layout.word).mapM (byteAt piece)
        return (Bytes.toWord spelled, buffer))
      (Pure.pure (Bytes.toWord piece)) := by
  intro buffer account sound
  dsimp only
  rw [bind_result, mapM_byteAt eight]
  rfl

theorem word_follows : Follows word Reader.word := by
  exact Follows.bind (bytes_follows Layout.word) (Reader.bytes_local Layout.word) _
    (fun _ _ _ _ run => Reader.length_of_bytes_ok run) fun piece spelled =>
      spelled_follows spelled

theorem count_follows : Follows count Reader.count :=
  Follows.bind word_follows Reader.word_local (fun _ => True) (fun _ _ _ _ _ => trivial)
    fun value _ => Follows.pure value.toNat

theorem findIdx?_zero_eq_none {string : Bytes} (without : (0 : UInt8) ∉ string) :
    string.findIdx? (· = 0) = none := by
  rw [List.findIdx?_eq_none_iff]
  intro byte member
  have nonzero : byte ≠ 0 := fun zero => without (zero ▸ member)
  simpa using nonzero

theorem findIdx?_zero {name : Bytes} (later : Bytes) (whole : (0 : UInt8) ∉ name) :
    (name ++ 0 :: later).findIdx? (· = 0) = some name.length := by
  rw [List.findIdx?_append, findIdx?_zero_eq_none whole, List.findIdx?_cons]
  simp

theorem text_follows : Follows text Reader.text := by
  intro buffer account sound
  have inside := sound.inside
  have small := sound.small
  have rest : slice buffer.bytes (min buffer.position buffer.bytes.length) buffer.bytes.length
      account = .ok buffer.cursor.rest account := by
    rw [Nat.min_eq_left inside, slice_apply inside (Nat.le_refl _), List.take_of_length_le]
    · rfl
    · rw [List.length_drop]
  simp only [text]
  rw [bind_result, rest]
  dsimp only
  by_cases ended : (0 : UInt8) ∈ buffer.cursor.rest
  · obtain ⟨name, later, ahead, whole⟩ := List.eq_append_cons_of_mem ended
    -- the name and the byte behind it end within the string, so that their sum is a word
    have room : buffer.position + name.length + 1 ≤ buffer.bytes.length := by
      have length := congrArg List.length ahead
      rw [Buffer.cursor, List.length_drop, List.length_append, List.length_cons] at length
      omega
    have bound : buffer.cursor.length < 2 ^ 64 := by
      rw [Buffer.length_cursor sound]
      omega
    have taken : Reader.bytes name.length buffer.cursor
        = .ok name ⟨buffer.position + name.length, 0 :: later⟩ :=
      (Reader.bytes_reads _ _ _ _ bound).mpr ⟨rfl, ahead, rfl⟩
    rw [Reader.text_terminated whole ahead, ahead, findIdx?_zero later whole]
    dsimp only
    rw [bind_result, bytes_follows _ _ _ sound, taken]
    dsimp only [outcome, Buffer.moved]
    rw [bind_result, plus_apply (by omega)]
    dsimp only
    cases Utf8.decode name with
    | ok decoded => rfl
    | error fault => rfl
  · rw [Reader.text_unterminated ended, findIdx?_zero_eq_none ended]
    rfl

theorem many_follows {item : Buffer → Machine (α × Buffer)} {reader : Reader α}
    (follows : Follows item reader) (own : reader.Local) (count : Nat) (soFar : Array α) :
    Follows (many item count soFar) (Reader.many reader count soFar) := by
  induction count generalizing soFar with
  | zero => exact Follows.pure soFar
  | succ count ih =>
    exact Follows.bind follows own (fun _ => True) (fun _ _ _ _ _ => trivial)
      fun next _ => ih (soFar.push next)

theorem judged_follows {offset : Nat} (room : offset + 2 * Layout.word < 2 ^ 64)
    (start endExclusive permissions : UInt64) :
    Follows (fun buffer => do
        let header : RegionHeader := ⟨start, endExclusive, permissions⟩
        if endExclusive < start then
          reject offset (.backwardsRegion start endExclusive)
        else if header.flags?.isNone then
          let place ← plus offset (2 * Layout.word)
          reject place (.unknownPermissions permissions)
        else
          return (header, buffer))
      (do
        let header : RegionHeader := ⟨start, endExclusive, permissions⟩
        if endExclusive < start then
          Reader.reject offset (.backwardsRegion start endExclusive)
        else if header.flags?.isNone then
          Reader.reject (offset + 2 * Layout.word) (.unknownPermissions permissions)
        else
          return header) := by
  intro buffer account sound
  dsimp only
  split
  · rfl
  · split
    · rw [bind_result, plus_apply room]
      rfl
    · rfl

theorem header_follows : Follows header Container.header := by
  intro buffer account sound
  have inside := sound.inside
  have small := sound.small
  have two : 2 * Layout.word = 16 := rfl
  have room : buffer.position + 2 * Layout.word < 2 ^ 64 := by omega
  have words := Follows.bind word_follows Reader.word_local (fun _ => True)
    (fun _ _ _ _ _ => trivial) fun start _ =>
      Follows.bind word_follows Reader.word_local (fun _ => True)
        (fun _ _ _ _ _ => trivial) fun endExclusive _ =>
          Follows.bind word_follows Reader.word_local (fun _ => True)
            (fun _ _ _ _ _ => trivial) fun permissions _ =>
              judged_follows room start endExclusive permissions
  exact words buffer account sound

theorem regionData_follows {headers : List RegionHeader}
    (ordered : ∀ header ∈ headers, header.start ≤ header.endExclusive)
    (soFar : Array ContainerRegion) :
    Follows (regionData headers soFar) (Container.regionData headers soFar) := by
  induction headers generalizing soFar with
  | nil => exact Follows.pure soFar
  | cons header rest ih =>
    have inOrder := ordered header List.mem_cons_self
    intro buffer account sound
    have data := Follows.bind (bytes_follows header.size.toNat)
      (Reader.bytes_local header.size.toNat) (fun _ => True) (fun _ _ _ _ _ => trivial)
      fun data _ => ih (fun other member => ordered other (List.mem_cons_of_mem _ member))
        (soFar.push ⟨header, data⟩)
    have step := data buffer account sound
    simp only [regionData]
    rw [bind_result, minus_apply (UInt64.le_iff_toNat_le.mp inOrder),
      ← RegionHeader.toNat_size inOrder]
    exact step

theorem fits_follows (offset count : Nat) :
    Follows (fun buffer =>
        if count * Layout.regionHeader < UInt64.size
            ∧ count * Layout.regionHeader ≤ buffer.remaining then
          return (count, buffer)
        else reject offset (.tooManyRegions count))
      (do
        let remaining ← Reader.remaining
        if count * Layout.regionHeader ≤ remaining then return count
        else Reader.reject offset (.tooManyRegions count)) := by
  intro buffer account sound
  have small := sound.small
  have limit : UInt64.size = 2 ^ 64 := rfl
  have left : buffer.remaining ≤ buffer.bytes.length := Nat.sub_le _ _
  rw [bind_result]
  simp only [Reader.remaining, Buffer.remaining_cursor]
  by_cases enough : count * Layout.regionHeader ≤ buffer.remaining
  · rw [if_pos enough, if_pos ⟨by omega, enough⟩]
    rfl
  · rw [if_neg enough, if_neg fun both => enough both.2]
    rfl

theorem regionCount_follows : Follows regionCount Container.regionCount := by
  intro buffer account sound
  have counted := Follows.bind count_follows Reader.count_local (fun _ => True)
    (fun _ _ _ _ _ => trivial) fun count _ => fits_follows buffer.position count
  exact counted buffer account sound

/-! ## Tables -/

theorem le_of_regionCount_ok {cursor after : Cursor} {count : Nat}
    (bound : cursor.length < 2 ^ 64) (counted : Container.regionCount cursor = .ok count after) :
    count ≤ cursor.length / Layout.regionHeader := by
  have enough := ((Container.regionCount_ok_iff _ _ _ bound).mp counted).2
  have same := Container.regionCount_local.length_eq counted
  rw [Nat.le_div_iff_mul_le (by decide)]
  simp only [Cursor.remaining, Cursor.length] at *
  omega

theorem size_of_many_ok {item : Reader α} {count : Nat} {soFar all : Array α}
    {cursor after : Cursor} (run : Reader.many item count soFar cursor = .ok all after) :
    all.size = soFar.size + count := by
  induction count generalizing soFar cursor with
  | zero =>
    obtain ⟨rfl, -⟩ := (Reader.pure_ok_iff _ _ _ _).mp run
    rfl
  | succ count ih =>
    obtain ⟨next, middle, -, later⟩ := (Reader.bind_ok_iff _ _ _ _ _).mp run
    rw [ih later, Array.size_push]
    omega

theorem ordered_of_many_header_ok {count : Nat} {soFar headers : Array RegionHeader}
    {cursor after : Cursor} (bound : cursor.length < 2 ^ 64)
    (begun : ∀ header ∈ soFar.toList, header.start ≤ header.endExclusive)
    (listed : Reader.many Container.header count soFar cursor = .ok headers after) :
    ∀ header ∈ headers.toList, header.start ≤ header.endExclusive := by
  obtain ⟨items, -, same, accepted, -⟩ :=
    (Reader.many_ok_iff Container.header_reads _ _ _ _ _ bound).mp listed
  intro header member
  rw [same] at member
  rcases List.mem_append.mp member with early | late
  · exact begun header early
  · exact (accepted header late).ordered

theorem length_of_regionData_ok {headers : List RegionHeader} {count : Nat}
    {regions : List ContainerRegion} {cursor after : Cursor} (bound : cursor.length < 2 ^ 64)
    (run : (Container.regionData headers (Array.emptyWithCapacity count) >>= fun regions =>
      pure regions.toList) cursor = .ok regions after) : regions.length = headers.length := by
  obtain ⟨all, middle, read, done⟩ := (Reader.bind_ok_iff _ _ _ _ _).mp run
  obtain ⟨rfl, -⟩ := (Reader.pure_ok_iff _ _ _ _).mp done
  obtain ⟨added, rfl, same, -⟩ := (Container.regionData_ok_iff _ _ _ _ _ bound).mp read
  have same : all.toList = added := by simpa using same
  rw [same, List.length_map]

theorem dataTable_runs {start : Account} {headers : Array RegionHeader}
    (within : start.Within length) (room : headers.size ≤ length / Layout.regionHeader)
    (ordered : ∀ header ∈ headers.toList, header.start ≤ header.endExclusive) (count : Nat) :
    Runs length (· = start.tabled headers.size)
      (fun regions account => account = start.tabled regions.length ∧ account.Within length)
      (Account.Within length)
      (fun buffer => do
        let (regions, buffer) ←
          regionData headers.toList (Array.emptyWithCapacity count) buffer
        return (regions.toList, buffer))
      (do
        let regions ← Container.regionData headers.toList (Array.emptyWithCapacity count)
        return regions.toList) := by
  have tabled := within.tabled room
  have data := Follows.bind (regionData_follows ordered (Array.emptyWithCapacity count))
    (Container.regionData_local _ _) (fun _ => True) (fun _ _ _ _ _ => trivial)
    fun regions _ => Follows.pure regions.toList
  refine (data.runs (fun cursor _ _ (_ : cursor.length = length) bound run =>
    length_of_regionData_ok bound run) ?_).mono ?_
  · rintro _ rfl
    exact tabled
  · rintro regions _ ⟨same, rfl⟩
    rw [same, Array.length_toList]
    exact ⟨rfl, tabled⟩

theorem regionTable_runs {start : Account} (within : start.Within length) :
    Runs length (· = start)
      (fun regions account => account = start.tabled regions.length ∧ account.Within length)
      (Account.Within length) regionTable Container.regionTable := by
  have counted : Runs length (· = start)
      (fun count account => count ≤ length / Layout.regionHeader ∧ account = start)
      (Account.Within length) regionCount Container.regionCount :=
    regionCount_follows.runs
      (fun cursor _ _ (whole : cursor.length = length) bound run =>
        whole ▸ le_of_regionCount_ok bound run) fun _ same => same ▸ within
  have listed (count : Nat) (room : count ≤ length / Layout.regionHeader) :
      Runs length (· = { start with headerRoom := count })
        (fun headers account => (headers.size = count
            ∧ ∀ header ∈ headers.toList, header.start ≤ header.endExclusive)
          ∧ account = { start with headerRoom := count })
        (Account.Within length) (many header count (Array.emptyWithCapacity count))
        (Reader.many Container.header count (Array.emptyWithCapacity count)) :=
    (many_follows header_follows Container.header_local count _).runs
      (fun cursor _ _ (_ : cursor.length = length) bound run =>
        ⟨(size_of_many_ok run).trans (Nat.zero_add count),
          ordered_of_many_header_ok bound (by simp) run⟩)
      fun _ same => same ▸ within.makeHeaders room
  exact counted.bind Container.regionCount_local fun count => Runs.given fun room =>
    Runs.modify (fun account => { account with headerRoom := count })
      (fun account same => by rw [same]) <|
        (listed count room).bind (Reader.many_local Container.header_local _ _) fun headers =>
          Runs.given fun ⟨size, ordered⟩ =>
            Runs.modify (fun account => { account with regionRoom := count })
              (fun account same => by rw [same, ← size]; rfl)
              (dataTable_runs within (size ▸ room) ordered count)

/-! ## Symbols -/

theorem rebase_apply {program : Buffer → Machine (α × Buffer)} {reader : Reader α}
    (follows : Follows program reader) (inside : reader.FaultsInside) {buffer : Buffer}
    (sound : buffer.Sound) {sizeOffset : Nat}
    (room : sizeOffset + Layout.word + buffer.bytes.length < 2 ^ 64) (account : Account) :
    rebase sizeOffset (program buffer) account
      = outcome buffer account (reader.shifted (sizeOffset + Layout.word) buffer.cursor) := by
  have run := follows buffer account sound
  change EStateM.tryCatch (program buffer) _ account = _
  unfold EStateM.tryCatch
  rw [run, Reader.shifted]
  cases read : reader buffer.cursor with
  | ok value after => rfl
  | error malformed after =>
    have offset := inside read
    rw [Buffer.length_cursor sound] at offset
    change (plus malformed.offset sizeOffset >>= fun place =>
      plus place Layout.word >>= fun place => reject place malformed.problem) account = _
    rw [bind_result, plus_apply (by omega)]
    dsimp only
    rw [bind_result, plus_apply (by omega)]
    dsimp only [outcome, Malformed.shift]
    rw [Nat.add_assoc]
    rfl

theorem symbolEntry_apply {buffer : Buffer} (sound : buffer.Sound) {sizeOffset : Nat}
    (room : sizeOffset + Layout.word + buffer.bytes.length < 2 ^ 64) (account : Account) :
    symbolEntry sizeOffset buffer account
      = match Container.symbolEntry.shifted (sizeOffset + Layout.word) buffer.cursor with
        | .ok entry after =>
          .ok (entry, buffer.moved after) { account with symbolsRead := account.symbolsRead + 1 }
        | .error malformed _ => .error (.failed (.malformed malformed)) account := by
  have readWord := rebase_apply word_follows Reader.word_faultsInside sound room account
  simp only [symbolEntry, Reader.shifted, Container.symbolEntry] at readWord ⊢
  rw [bind_result, readWord, bind_result]
  cases addressed : Reader.word buffer.cursor with
  | error malformed after => rfl
  | ok address after =>
    obtain ⟨taken, passes⟩ := Reader.word_local.passes addressed
    have readText := rebase_apply text_follows Reader.text_faultsInside (sound.moved passes)
      room account
    rw [Buffer.cursor_moved passes] at readText
    dsimp only [outcome]
    rw [bind_result, readText, bind_result, Reader.shifted]
    cases Reader.text after with
    | error malformed last => rfl
    | ok name last => rfl

theorem position_of_symbolEntry_ok {cursor after : Cursor} {entry : ContainerSymbol}
    (run : Container.symbolEntry cursor = .ok entry after) :
    cursor.position + Layout.symbolOverhead ≤ after.position := by
  obtain ⟨address, middle, addressed, rest⟩ := (Reader.bind_ok_iff _ _ _ _ _).mp run
  obtain ⟨name, last, named, done⟩ := (Reader.bind_ok_iff _ _ _ _ _).mp rest
  obtain ⟨-, rfl⟩ := (Reader.pure_ok_iff _ _ _ _).mp done
  obtain ⟨spelled, -, -, -, position⟩ := Reader.exists_name_of_text_ok named
  have overhead : Layout.symbolOverhead = Layout.word + 1 := rfl
  rw [position, Reader.position_of_word_ok addressed]
  omega

/-- So many symbols at most are read as there is room for in the payload, since what was
read of them never takes up more than the bytes up to the place that was reached.  All that
were asked for are read where the reader succeeds. -/
theorem many_symbolEntry_apply {sizeOffset : Nat} (count : Nat) (soFar : Array ContainerSymbol)
    {buffer : Buffer} (sound : buffer.Sound)
    (room : sizeOffset + Layout.word + buffer.bytes.length < 2 ^ 64) (account : Account)
    (taken : account.symbolsRead * Layout.symbolOverhead ≤ buffer.position) :
    ∃ read, read * Layout.symbolOverhead ≤ buffer.bytes.length
      ∧ many (symbolEntry sizeOffset) count soFar buffer account
        = outcome buffer { account with symbolsRead := read }
            ((Reader.many Container.symbolEntry count soFar).shifted (sizeOffset + Layout.word)
              buffer.cursor)
      ∧ ∀ all after, Reader.many Container.symbolEntry count soFar buffer.cursor = .ok all after →
          read = account.symbolsRead + count := by
  have inside := sound.inside
  induction count generalizing soFar buffer account with
  | zero => exact ⟨account.symbolsRead, by omega, rfl, fun _ _ _ => rfl⟩
  | succ count ih =>
    simp only [many, Reader.many, Reader.shifted]
    rw [bind_result, symbolEntry_apply sound room, bind_result, Reader.shifted]
    cases run : Container.symbolEntry buffer.cursor with
    | error malformed after =>
      refine ⟨account.symbolsRead, by omega, rfl, ?_⟩
      intro all last listed
      cases listed
    | ok entry after =>
      obtain ⟨_, passes⟩ := Container.symbolEntry_local.passes run
      have further := position_of_symbolEntry_ok run
      -- the entry takes its least size at any rate, so that the bound holds one entry later
      have counted : (account.symbolsRead + 1) * Layout.symbolOverhead ≤ after.position := by
        rw [Nat.succ_mul]
        exact (Nat.add_le_add_right taken _).trans further
      obtain ⟨read, fits, rest, whole⟩ := ih (soFar.push entry) (sound.moved passes) room
        { account with symbolsRead := account.symbolsRead + 1 } counted (sound.moved passes).inside
      rw [Buffer.cursor_moved passes] at rest whole
      refine ⟨read, fits, rest, fun all last listed => ?_⟩
      have total := whole all last listed
      dsimp only at total
      omega

theorem length_of_symbolPayload_ok {payload : Bytes} {count sizeOffset : Nat}
    {symbols : List ContainerSymbol}
    (read : Container.symbolPayload payload count sizeOffset = .ok symbols) :
    symbols.length = count
      ∧ ∃ all after, Reader.many Container.symbolEntry count
          (Array.emptyWithCapacity (Container.symbolRoom count payload.length))
          (Cursor.start payload) = .ok all after := by
  unfold Container.symbolPayload at read
  dsimp only at read
  split at read
  · cases read
  · rename_i all after listed
    split at read
    · obtain rfl := Except.ok.inj read
      refine ⟨?_, all, after, listed⟩
      rw [Array.length_toList, size_of_many_ok listed]
      exact Nat.zero_add count
    · cases read

theorem symbolPayload_apply (payload : Bytes) (count sizeOffset : Nat)
    (small : payload.length < 2 ^ 63)
    (room : sizeOffset + Layout.word + payload.length < 2 ^ 64) (account : Account) :
    ∃ read, read ≤ payload.length / Layout.symbolOverhead
      ∧ symbolPayload payload count sizeOffset account
        = (match Container.symbolPayload payload count sizeOffset with
          | .ok symbols => .ok symbols (account.reading payload.length count read)
          | .error malformed =>
            .error (.failed (.malformed malformed)) (account.reading payload.length count read))
      ∧ ∀ symbols, Container.symbolPayload payload count sizeOffset = .ok symbols →
          read = count := by
  obtain ⟨read, fits, run, whole⟩ := many_symbolEntry_apply count
    (Array.emptyWithCapacity (min count (payload.length / Layout.symbolOverhead)))
    (Buffer.Sound.start small) room (account.reading payload.length count 0)
    (by simp [Account.reading])
  refine ⟨read, (Nat.le_div_iff_mul_le (by decide)).mpr fits, ?_, ?_⟩
  · simp only [symbolPayload, Container.symbolPayload, Container.symbolRoom]
    rw [bind_result, modify_apply]
    change (many (symbolEntry sizeOffset) count _ (Buffer.start payload) >>= _)
      (account.reading payload.length count 0) = _
    rw [bind_result, run, Buffer.cursor_start, Reader.shifted]
    cases listed : Reader.many Container.symbolEntry count
        (Array.emptyWithCapacity (min count (payload.length / Layout.symbolOverhead)))
        (Cursor.start payload) with
    | error malformed after => rfl
    | ok symbols after =>
      obtain ⟨_, passes⟩ := (Reader.many_local Container.symbolEntry_local _ _).passes listed
      have left := (Buffer.start payload).remaining_moved passes
      dsimp only [outcome]
      by_cases nothing : after.rest.length = 0
      · rw [if_pos (left.trans nothing), if_pos (List.isEmpty_iff_length_eq_zero.mpr nothing)]
        rfl
      · rw [if_neg fun none => nothing (left.symm.trans none),
          if_neg fun none => nothing (List.isEmpty_iff_length_eq_zero.mp none)]
        rfl
  · intro symbols accepted
    obtain ⟨-, all, after, listed⟩ := length_of_symbolPayload_ok accepted
    exact (whole all after listed).trans (Nat.zero_add count)

/-- The payload stands behind the word with its size, so that places in it are words still
when they are told as places of the whole string. -/
theorem payload_runs {start : Account} (within : start.Within length) (symbolCount : Nat) :
    Runs length (· = start)
      (fun table account =>
        account = start.reading table.2 table.1.length table.1.length ∧ account.Within length)
      (Account.Within length)
      (fun buffer => do
        let sizeOffset := buffer.position
        let (payloadSize, buffer) ← count buffer
        let (payload, buffer) ← bytes payloadSize buffer
        let symbols ← symbolPayload payload symbolCount sizeOffset
        return ((symbols, payloadSize), buffer))
      (do
        let sizeOffset ← Reader.position
        let payloadSize ← Reader.count
        let payload ← Reader.bytes payloadSize
        match Container.symbolPayload payload symbolCount sizeOffset with
        | .ok symbols => return (symbols, payloadSize)
        | .error malformed => throw malformed) := by
  rintro buffer account sound rfl rfl
  have small := sound.small
  change ∃ later, _ = outcome buffer later ((Reader.count >>= _) buffer.cursor)
    ∧ Ends _ _ later ((Reader.count >>= _) buffer.cursor)
  dsimp only
  rw [bind_result, bind_result, count_follows _ _ sound]
  cases counted : Reader.count buffer.cursor with
  | error malformed after => exact ⟨account, rfl, within⟩
  | ok payloadSize first =>
    obtain ⟨_, toFirst⟩ := Reader.count_local.passes counted
    have taking := bytes_follows payloadSize (buffer.moved first) account (sound.moved toFirst)
    rw [Buffer.cursor_moved toFirst] at taking
    dsimp only [outcome]
    rw [bind_result, taking, bind_result]
    cases taken : Reader.bytes payloadSize first with
    | error malformed after => exact ⟨account, rfl, within⟩
    | ok payload second =>
      obtain ⟨_, toSecond⟩ := (Reader.bytes_local payloadSize).passes taken
      have inside := (sound.moved (toFirst.append toSecond)).inside
      have behind := Reader.position_of_bytes_ok taken
      rw [Reader.position_of_count_ok counted] at behind
      simp only [Buffer.moved, behind, Buffer.cursor] at inside
      -- the payload lies in the string, and so do the places behind its size word
      obtain ⟨read, fits, run, whole⟩ := symbolPayload_apply payload symbolCount buffer.position
        (by omega) (by omega) account
      have within := within.reading (by omega) symbolCount fits
      refine ⟨account.reading payload.length symbolCount read, ?_⟩
      dsimp only [outcome, Buffer.cursor]
      rw [bind_result, run]
      cases accepted : Container.symbolPayload payload symbolCount buffer.position with
      | error malformed => exact ⟨rfl, within⟩
      | ok symbols =>
        refine ⟨rfl, ?_, within⟩
        rw [whole symbols accepted, Reader.length_of_bytes_ok taken,
          (length_of_symbolPayload_ok accepted).1]

theorem symbolTable_runs {start : Account} (within : start.Within length) :
    Runs length (· = start)
      (fun table account =>
        account = start.reading table.2 table.1.length table.1.length ∧ account.Within length)
      (Account.Within length) symbolTable Container.symbolTable := by
  have counted : Runs length (· = start) (fun _ account => True ∧ account = start)
      (Account.Within length) count Reader.count :=
    count_follows.runs (fun _ _ _ _ _ _ => trivial) fun _ same => same ▸ within
  exact counted.bind Reader.count_local fun symbolCount => Runs.given fun _ =>
    payload_runs within symbolCount

/-! ## Whole containers -/

theorem ending_apply {string taken : Bytes} {cursor : Cursor}
    (passes : (Buffer.start string).cursor.Passes taken cursor) (found : Container)
    (account : Account) :
    (if ((Buffer.start string).moved cursor).remaining = 0 then return found
      else reject cursor.position
        (.trailingBytes ((Buffer.start string).moved cursor).remaining) : Machine Container) account
      = match Container.noneTrailing cursor with
        | .ok _ _ => .ok found account
        | .error malformed _ => .error (.failed (.malformed malformed)) account := by
  rw [Buffer.remaining_moved passes]
  by_cases nothing : cursor.rest.length = 0
  · have ended := List.eq_nil_of_length_eq_zero nothing
    rw [if_pos nothing, (Container.noneTrailing_ok_iff () cursor cursor).mpr ⟨ended, rfl⟩]
    rfl
  · have more : cursor.rest ≠ [] := fun none => nothing (List.length_eq_zero_iff.mpr none)
    rw [if_neg nothing, Container.noneTrailing_of_ne_nil more]
    rfl

def accountOf (found : Container) : Account where
  headerRoom := found.regions.length
  regionRoom := found.regions.length
  payload := found.symbolPayloadSize
  symbolRoom := found.symbols.length
  symbolsRead := found.symbols.length

theorem reading_eq_accountOf (found : Container) {start : Account} (fresh : start = {})
    (within : Account.Within length ((start.tabled found.regions.length).reading
      found.symbolPayloadSize found.symbols.length found.symbols.length)) :
    (start.tabled found.regions.length).reading found.symbolPayloadSize found.symbols.length
      found.symbols.length = accountOf found := by
  have fits := within.read
  subst fresh
  have room : Container.symbolRoom found.symbols.length found.symbolPayloadSize
      = found.symbols.length := Nat.min_eq_left fits
  rw [Account.reading, room]
  rfl

theorem container_apply {string : Bytes} (small : string.length < 2 ^ 63) :
    ∃ account : Account, account.Within string.length
      ∧ container string {} = (match Container.parse string with
        | .ok found => .ok found account
        | .error malformed => .error (.failed (.malformed malformed)) account)
      ∧ ∀ found, Container.parse string = .ok found → account = accountOf found := by
  -- regions, symbols and the end, each from the buffer and account that the one before left
  have nothing : Account.Within string.length {} :=
    ⟨Nat.zero_le _, Nat.zero_le _, Nat.zero_le _, Nat.zero_le _, Nat.zero_le _⟩
  obtain ⟨middle, readRegions, ends⟩ :=
    regionTable_runs nothing _ _ (Buffer.Sound.start small) rfl rfl
  rw [Buffer.cursor_start] at readRegions ends
  simp only [container, Container.parse, Container.whole]
  rw [bind_result, readRegions, bind_result]
  cases regionsRead : Container.regionTable (Cursor.start string) with
  | error malformed after =>
    rw [regionsRead] at ends
    refine ⟨middle, ends, rfl, ?_⟩
    intro found accepted
    cases accepted
  | ok regions first =>
    rw [regionsRead] at ends
    obtain ⟨tabled, withinMiddle⟩ := ends
    obtain ⟨_, toFirst⟩ : ∃ taken, (Buffer.start string).cursor.Passes taken first :=
      Container.regionTable_local.passes regionsRead
    obtain ⟨later, readSymbols, ends⟩ :=
      symbolTable_runs withinMiddle _ _ ((Buffer.Sound.start small).moved toFirst) rfl rfl
    rw [Buffer.cursor_moved toFirst] at readSymbols ends
    refine ⟨later, ?_⟩
    dsimp only [outcome]
    rw [bind_result, readSymbols, bind_result]
    cases symbolsRead : Container.symbolTable first with
    | error malformed after =>
      rw [symbolsRead] at ends
      refine ⟨ends, rfl, ?_⟩
      intro found accepted
      cases accepted
    | ok table second =>
      rw [symbolsRead] at ends
      obtain ⟨counted, withinLater⟩ := ends
      obtain ⟨_, toSecond⟩ := Container.symbolTable_local.passes symbolsRead
      have ending := ending_apply (toFirst.append toSecond)
        ⟨regions, table.1, table.2, string.length⟩ later
      refine ⟨withinLater, ending.trans ?_, ?_⟩
      · dsimp only
        rw [bind_result]
        cases Container.noneTrailing second with
        | ok ended last => rfl
        | error malformed last => rfl
      · intro found accepted
        dsimp only at accepted
        rw [bind_result] at accepted
        cases ended : Container.noneTrailing second with
        | error malformed last =>
          rw [ended] at accepted
          cases accepted
        | ok found last =>
          rw [ended] at accepted
          obtain rfl := Except.ok.inj accepted
          subst counted tabled
          exact reading_eq_accountOf ⟨regions, table.1, table.2, string.length⟩ rfl withinLater

/-- Reading any string that a machine can hold comes to an end as a container or as a
malformed one: it is what the reader without bounds finds, with no sum, difference or place
that the machine does not have.  A fault is told at a place of the string or at its end.
Room is made for no more headers, regions and symbols than the bytes at hand can spell, and
no more symbols than that are read, whatever counts the string declares; for a container it
is made for the items that there are. -/
theorem container_safe (string : Bytes) (small : string.length < 2 ^ 63) :
    ∃ account : Account,
      container string {} = (match Container.parse string with
        | .ok found => .ok found account
        | .error malformed => .error (.failed (.malformed malformed)) account)
      ∧ (∀ malformed, Container.parse string = .error malformed →
          malformed.offset ≤ string.length)
      ∧ account.headerRoom ≤ string.length / 24
      ∧ account.regionRoom ≤ string.length / 24
      ∧ account.payload ≤ string.length
      ∧ account.symbolRoom ≤ account.payload / 9
      ∧ account.symbolsRead ≤ account.payload / 9
      ∧ ∀ found, Container.parse string = .ok found → account = accountOf found := by
  obtain ⟨account, within, run, exactly⟩ := container_apply small
  exact ⟨account, run, fun malformed failed => Container.offset_of_parse_error failed,
    within.headers, within.regions, within.payload, within.symbols, within.read, exactly⟩

/-- A string that declares the largest count of symbols for a payload with room for one. -/
def manyDeclared : Bytes :=
  Bytes.ofWord 0 ++ Bytes.ofWord 0xFFFFFFFFFFFFFFFF ++ Bytes.ofWord 9 ++ List.replicate 9 0

theorem container_safe_manyDeclared :
    manyDeclared.length < 2 ^ 63
      ∧ Container.parse manyDeclared = .error ⟨33, .shortRead 8 9 9⟩
      ∧ ∃ account : Account,
          container manyDeclared {}
              = .error (.failed (.malformed ⟨33, .shortRead 8 9 9⟩)) account
            ∧ account = { payload := 9, symbolRoom := 1, symbolsRead := 1 }
            ∧ account.symbolRoom ≤ account.payload / 9
            ∧ account.symbolsRead ≤ account.payload / 9 := by
  have small : manyDeclared.length < 2 ^ 63 := by decide +kernel
  have parsed : Container.parse manyDeclared = .error ⟨33, .shortRead 8 9 9⟩ := by cbv
  have ran : container manyDeclared {}
      = .error (.failed (.malformed ⟨33, .shortRead 8 9 9⟩))
          { payload := 9, symbolRoom := 1, symbolsRead := 1 } := by cbv
  obtain ⟨account, run, -, -, -, -, room, read, -⟩ := container_safe manyDeclared small
  rw [parsed] at run
  have same : account = { payload := 9, symbolRoom := 1, symbolsRead := 1 } := by
    rw [ran] at run
    exact (EStateM.Result.error.inj run).2.symm
  exact ⟨small, parsed, account, run, same, room, read⟩

/-- On strings of less than 2^61 bytes no room is asked for that a request for memory cannot
ask for, be the string a container or not. -/
theorem container_requestable (string : Bytes) (short : string.length < 2 ^ 61) :
    ∃ account : Account, account.Requestable
      ∧ container string {} = (match Container.parse string with
        | .ok found => .ok found account
        | .error malformed => .error (.failed (.malformed malformed)) account) := by
  obtain ⟨account, within, run, -⟩ := container_apply (short.trans (by norm_num))
  exact ⟨account, within.requestable short, run⟩

end Machine
end SegmentContainer
