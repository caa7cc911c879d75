import A500cg.Lib.TextBuffer

/-! `hexdump_buffer` of `util.c`: rows of hexadecimal bytes, each put together in one buffer of
text. -/

namespace A500cg.Util

open Lib

def BUFFER_TXT_SIZE : Nat := 1024

def hexChar (n : Nat) : UInt8 := if n < 10 then UInt8.ofNat (0x30 + n) else UInt8.ofNat (0x57 + n)

def hexByte (byte : UInt8) : List UInt8 :=
  [hexChar (byte.toNat / 16), hexChar (byte.toNat % 16), 0x20]

/-- `snhexdump` to the offset `str` of the buffer: the length of the text, and the buffer. -/
def snhexdump (text : List UInt8) (str size : Nat) : (data : List UInt8) → Option (Nat × List UInt8)
  | [] => some (0, text)
  | byte :: data =>
      if size > 4 then do
        let (len, text) ← snprintf text str 4 (hexByte byte)
        let (ret, text) ← snhexdump text (str + len) (size - len) data
        return (len + ret, text)
      else some (0, text)

/-- The loop of `hexdump_buffer`, for a number of passes: the strings that are printed, and the
buffer of text. There is no result if bytes are left then, or if a write leaves the buffer. -/
def hexdumpWithin (bytesPerRow : Nat) :
    (passes : Nat) → (text : List UInt8) → (buffer : List UInt8) →
      Option (List (List UInt8) × List UInt8)
  | _, text, [] => some ([], text)
  | 0, _, _ :: _ => none
  | passes + 1, text, byte :: buffer => do
      let left := buffer.length + 1
      let row := if left < bytesPerRow then left else bytesPerRow
      let (rowlen, text) ← snhexdump text 0 (BUFFER_TXT_SIZE - 1) ((byte :: buffer).take row)
      let (_, text) ← snprintf text rowlen (BUFFER_TXT_SIZE - rowlen - 1) [0x0A]
      let printed := cText text
      let (rows, text) ← hexdumpWithin bytesPerRow passes text ((byte :: buffer).drop row)
      return (printed :: rows, text)

/-- `hexdump_buffer`: a pass prints one byte at least, unless `bytes_per_row` is 0, for which it
does not end. -/
def hexdumpBuffer (text buffer : List UInt8) (bytesPerRow : Nat) :
    Option (List (List UInt8) × List UInt8) :=
  hexdumpWithin bytesPerRow buffer.length text buffer

/-- Without their newlines the rows are the hexadecimal form of every byte. -/
def Shows (rows : List (List UInt8)) (bytes : List UInt8) : Prop :=
  rows.flatten.filter (· ≠ 0x0A) = bytes.flatMap hexByte

/-- The dump ends, all writes are inside the buffer of text, and the rows show the buffer. -/
def DumpComplete (text buffer : List UInt8) (bytesPerRow : Nat) : Prop :=
  ∃ rows next, hexdumpBuffer text buffer bytesPerRow = some (rows, next) ∧ Shows rows buffer

def MAX_ROW : Nat := 340

def rowText (row : List UInt8) : List UInt8 := (row.take MAX_ROW).flatMap hexByte ++ [0x0A]

def rowsWithin (bytesPerRow : Nat) : (passes : Nat) → (buffer : List UInt8) → List (List UInt8)
  | _, [] => []
  | 0, _ :: _ => []
  | passes + 1, byte :: buffer => (byte :: buffer).take bytesPerRow ::
      rowsWithin bytesPerRow passes ((byte :: buffer).drop bytesPerRow)

theorem hexChar_ne {n : Nat} (digit : n < 16) : hexChar n ≠ 0 ∧ hexChar n ≠ 0x0A := by
  interval_cases n <;> decide

theorem hexByte_text (byte : UInt8) : 0 ∉ hexByte byte ∧ 0x0A ∉ hexByte byte := by
  have bound := byte.toNat_lt
  have high : hexChar (byte.toNat / 16) ≠ 0 ∧ hexChar (byte.toNat / 16) ≠ 0x0A :=
    hexChar_ne (by omega)
  have low : hexChar (byte.toNat % 16) ≠ 0 ∧ hexChar (byte.toNat % 16) ≠ 0x0A :=
    hexChar_ne (by omega)
  simp [hexByte, high.1.symm, high.2.symm, low.1.symm, low.2.symm]

theorem hexText (bytes : List UInt8) :
    0 ∉ bytes.flatMap hexByte ∧ 0x0A ∉ bytes.flatMap hexByte := by
  constructor
  · intro member
    obtain ⟨byte, _, there⟩ := List.mem_flatMap.mp member
    exact (hexByte_text byte).1 there
  · intro member
    obtain ⟨byte, _, there⟩ := List.mem_flatMap.mp member
    exact (hexByte_text byte).2 there

theorem hexText_length (bytes : List UInt8) :
    (bytes.flatMap hexByte).length = 3 * bytes.length := by
  induction bytes with
  | nil => rfl
  | cons byte bytes ih =>
      rw [List.flatMap_cons, List.length_append, ih, List.length_cons]
      simp only [hexByte, List.length_cons, List.length_nil]
      omega

theorem snhexdump_spec (data text : List UInt8) (str size : Nat)
    (inside : str + size ≤ text.length) :
    ∃ rest, snhexdump text str size data = some (3 * (data.take ((size - 2) / 3)).length,
        text.take str ++ (data.take ((size - 2) / 3)).flatMap hexByte ++ rest) ∧
      (text.take str ++ (data.take ((size - 2) / 3)).flatMap hexByte ++ rest).length =
        text.length := by
  induction data generalizing text str size with
  | nil => exact ⟨text.drop str, by simp [snhexdump], by simp⟩
  | cons byte data ih =>
      rw [snhexdump]
      by_cases room : size > 4
      · have length : (hexByte byte).length = 3 := rfl
        obtain ⟨tail, printed, same⟩ := snprintf_whole text str 4 (hexByte byte)
          (by omega) (by omega)
        obtain ⟨rest, dumped, kept⟩ := ih _ (str + 3) (size - 3) (by rw [same]; omega)
        have front : (text.take str ++ hexByte byte ++ 0 :: tail).take (str + 3) =
            text.take str ++ hexByte byte := by
          apply List.take_left'
          rw [List.length_append, List.length_take, length]
          omega
        have more : (size - 2) / 3 = (size - 3 - 2) / 3 + 1 := by omega
        rw [front] at dumped kept
        rw [if_pos room, more, List.take_succ_cons, List.length_cons, List.flatMap_cons,
          ← List.append_assoc (text.take str)]
        refine ⟨rest, ?_, kept.trans same⟩
        simp only [printed, length, Option.bind_eq_bind, Option.bind_some, dumped, Option.pure_def]
        rw [Nat.mul_add, Nat.add_comm]
      · have none : (size - 2) / 3 = 0 := by omega
        rw [if_neg room, none]
        exact ⟨text.drop str, by simp, by simp⟩

theorem row_spec {text : List UInt8} (size : text.length = BUFFER_TXT_SIZE) (row : List UInt8) :
    ∃ rowlen dumped rest, snhexdump text 0 (BUFFER_TXT_SIZE - 1) row = some (rowlen, dumped) ∧
      snprintf dumped rowlen (BUFFER_TXT_SIZE - rowlen - 1) [0x0A] =
        some (1, (row.take MAX_ROW).flatMap hexByte ++ [0x0A] ++ 0 :: rest) ∧
      ((row.take MAX_ROW).flatMap hexByte ++ [0x0A] ++ 0 :: rest).length = BUFFER_TXT_SIZE := by
  obtain ⟨tail, dumped, kept⟩ := snhexdump_spec row text 0 (BUFFER_TXT_SIZE - 1) (by omega)
  rw [List.take_zero, List.nil_append, show (BUFFER_TXT_SIZE - 1 - 2) / 3 = MAX_ROW from rfl]
    at dumped kept
  have few : (row.take MAX_ROW).length ≤ 340 := List.length_take_le _ _
  have length := hexText_length (row.take MAX_ROW)
  rw [size] at kept
  obtain ⟨rest, printed, same⟩ := snprintf_whole _ (3 * (row.take MAX_ROW).length)
    (BUFFER_TXT_SIZE - 3 * (row.take MAX_ROW).length - 1) [0x0A]
    (by rw [List.length_singleton, BUFFER_TXT_SIZE]; omega)
    (by rw [kept, List.length_singleton, BUFFER_TXT_SIZE]; omega)
  rw [← length, List.take_left, length] at printed
  rw [← length, List.take_left, kept] at same
  exact ⟨_, _, rest, dumped, printed, same⟩

theorem take_drop_row (bytesPerRow : Nat) (buffer : List UInt8) :
    buffer.take (if buffer.length < bytesPerRow then buffer.length else bytesPerRow) =
        buffer.take bytesPerRow ∧
      buffer.drop (if buffer.length < bytesPerRow then buffer.length else bytesPerRow) =
        buffer.drop bytesPerRow := by
  by_cases short : buffer.length < bytesPerRow
  · rw [if_pos short, List.take_length, List.drop_length, List.take_of_length_le short.le,
      List.drop_of_length_le short.le]
    exact ⟨rfl, rfl⟩
  · rw [if_neg short]
    exact ⟨rfl, rfl⟩

theorem hexdumpWithin_spec {bytesPerRow : Nat} (positive : 1 ≤ bytesPerRow) (passes : Nat)
    (text buffer : List UInt8) (size : text.length = BUFFER_TXT_SIZE)
    (enough : buffer.length ≤ passes) :
    ∃ next, hexdumpWithin bytesPerRow passes text buffer =
      some ((rowsWithin bytesPerRow passes buffer).map rowText, next) ∧
      next.length = BUFFER_TXT_SIZE := by
  induction passes generalizing text buffer with
  | zero =>
      rw [List.eq_nil_of_length_eq_zero (Nat.le_zero.mp enough)]
      exact ⟨text, by rw [hexdumpWithin, rowsWithin, List.map_nil], size⟩
  | succ passes ih =>
      cases buffer with
      | nil => exact ⟨text, by rw [hexdumpWithin, rowsWithin, List.map_nil], size⟩
      | cons byte buffer =>
          rw [List.length_cons] at enough
          obtain ⟨taken, left⟩ := take_drop_row bytesPerRow (byte :: buffer)
          rw [List.length_cons] at taken left
          obtain ⟨rowlen, dumped, rest, shown, ended, full⟩ :=
            row_spec size ((byte :: buffer).take bytesPerRow)
          obtain ⟨next, more, kept⟩ := ih _ ((byte :: buffer).drop bytesPerRow) full
            (by rw [List.length_drop, List.length_cons]; omega)
          have nul : 0 ∉ (((byte :: buffer).take bytesPerRow).take MAX_ROW).flatMap hexByte ++
              [0x0A] := by
            simpa using (hexText _).1
          refine ⟨next, ?_, kept⟩
          rw [hexdumpWithin, taken, left, shown, rowsWithin, List.map_cons]
          simp only [Option.bind_eq_bind, Option.bind_some, ended, cText_append_zero nul, more,
            Option.pure_def, rowText]

theorem filter_rowText (row : List UInt8) :
    (rowText row).filter (· ≠ 0x0A) = (row.take MAX_ROW).flatMap hexByte := by
  have kept : ((row.take MAX_ROW).flatMap hexByte).filter (· ≠ 0x0A) =
      (row.take MAX_ROW).flatMap hexByte := by
    apply List.filter_eq_self.mpr
    intro c member
    exact decide_eq_true fun newline => (hexText _).2 (newline ▸ member)
  rw [rowText, List.filter_append, kept]
  simp

theorem filter_rows (rows : List (List UInt8)) :
    (rows.map rowText).flatten.filter (· ≠ 0x0A) =
      (rows.flatMap (List.take MAX_ROW)).flatMap hexByte := by
  induction rows with
  | nil => rfl
  | cons row rows ih =>
      rw [List.map_cons, List.flatten_cons, List.filter_append, filter_rowText, ih,
        List.flatMap_cons, List.flatMap_append]

theorem rowsWithin_flatten {bytesPerRow : Nat} (positive : 1 ≤ bytesPerRow) (passes : Nat)
    (buffer : List UInt8) (enough : buffer.length ≤ passes) :
    (rowsWithin bytesPerRow passes buffer).flatten = buffer := by
  induction passes generalizing buffer with
  | zero =>
      rw [List.eq_nil_of_length_eq_zero (Nat.le_zero.mp enough)]
      rfl
  | succ passes ih =>
      cases buffer with
      | nil => rfl
      | cons byte buffer =>
          rw [List.length_cons] at enough
          rw [rowsWithin, List.flatten_cons, ih, List.take_append_drop]
          rw [List.length_drop, List.length_cons]
          omega

theorem rowsWithin_length {bytesPerRow passes : Nat} {buffer row : List UInt8}
    (member : row ∈ rowsWithin bytesPerRow passes buffer) :
    row.length ≤ min buffer.length bytesPerRow := by
  induction passes generalizing buffer with
  | zero => cases buffer <;> cases member
  | succ passes ih =>
      cases buffer with
      | nil => cases member
      | cons byte buffer =>
          obtain rfl | later := List.mem_cons.mp member
          · rw [List.length_take, min_comm]
          · have shorter := ih later
            rw [List.length_drop] at shorter
            omega

theorem flatMap_take_length_le (rows : List (List UInt8)) :
    (rows.flatMap (List.take MAX_ROW)).length ≤ rows.flatten.length := by
  induction rows with
  | nil => exact le_rfl
  | cons row rows ih =>
      rw [List.flatMap_cons, List.flatten_cons, List.length_append, List.length_append,
        List.length_take]
      omega

theorem dumpComplete_iff {bytesPerRow : Nat} (positive : 1 ≤ bytesPerRow) (text : List UInt8)
    (size : text.length = BUFFER_TXT_SIZE) (buffer : List UInt8) :
    DumpComplete text buffer bytesPerRow ↔ min buffer.length bytesPerRow ≤ MAX_ROW := by
  obtain ⟨next, ends, _⟩ := hexdumpWithin_spec positive buffer.length text buffer size le_rfl
  have whole := rowsWithin_flatten positive buffer.length buffer le_rfl
  constructor
  · rintro ⟨rows', next', ends', complete⟩
    cases ends.symm.trans ends'
    rw [Shows, filter_rows] at complete
    have lengths := congrArg List.length complete
    rw [hexText_length, hexText_length] at lengths
    -- the first row is as long as rows get
    cases buffer with
    | nil => exact Nat.zero_le _
    | cons byte buffer =>
        have rest := flatMap_take_length_le
          (rowsWithin bytesPerRow buffer.length ((byte :: buffer).drop bytesPerRow))
        have sizes := congrArg List.length whole
        rw [List.length_cons, rowsWithin] at lengths sizes
        rw [List.flatten_cons, List.length_append, List.length_take] at sizes
        rw [List.flatMap_cons, List.length_append, List.length_take, List.length_take] at lengths
        rw [List.length_cons] at lengths sizes ⊢
        omega
  · intro room
    refine ⟨_, next, ends, ?_⟩
    have uncut : (rowsWithin bytesPerRow buffer.length buffer).flatMap (List.take MAX_ROW) =
        (rowsWithin bytesPerRow buffer.length buffer).flatten := by
      have each : ∀ row ∈ rowsWithin bytesPerRow buffer.length buffer,
          row.take MAX_ROW = id row :=
        fun row member => List.take_of_length_le ((rowsWithin_length member).trans room)
      rw [List.flatMap_def, List.map_congr_left each, List.map_id]
    rw [Shows, filter_rows, uncut, whole]

theorem hexdumpBuffer_row {text : List UInt8} (size : text.length = BUFFER_TXT_SIZE)
    {buffer : List UInt8} (nonempty : buffer ≠ []) :
    ∃ next, hexdumpBuffer text buffer buffer.length = some ([rowText buffer], next) ∧
      next.length = BUFFER_TXT_SIZE := by
  have positive : 1 ≤ buffer.length := List.length_pos_iff.mpr nonempty
  obtain ⟨next, ends, kept⟩ := hexdumpWithin_spec positive buffer.length text buffer size le_rfl
  have row : rowsWithin buffer.length buffer.length buffer = [buffer] := by
    obtain ⟨byte, rest, rfl⟩ := List.exists_cons_of_ne_nil nonempty
    rw [List.length_cons, rowsWithin, ← List.length_cons (a := byte), List.take_length,
      List.drop_length]
    cases rest.length <;> rfl
  rw [row] at ends
  exact ⟨next, ends, kept⟩

end A500cg.Util
