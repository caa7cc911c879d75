import A500cg.Lib.Unicode
import Mathlib.Tactic

/-! The labels of partitions: text in UTF-8 outside, in UTF-16 in a GPT entry (`cgpt_common.c`). -/

namespace A500cg.Gpt

open Lib

structure Utf8State where
  codePoint : Nat
  expectedUnits : Nat
  decodedUnits : Nat
  maxoutput : Nat
  utf16 : List UInt16

namespace Utf8State

def decode (st : Utf8State) (codeUnit : UInt8) : Option Utf8State :=
  let heading (codePoint : UInt8) (expectedUnits : Nat) : Option Utf8State :=
    some { st with codePoint := codePoint.toNat, expectedUnits, decodedUnits := 1 }
  if st.expectedUnits ≠ st.decodedUnits then
    if codeUnit &&& 0xC0 = 0x80 then
      some { st with
        codePoint := st.codePoint <<< 6 ||| (codeUnit &&& 0x3F).toNat
        decodedUnits := st.decodedUnits + 1 }
    else none
  else if codeUnit ≤ 0x7F then heading codeUnit 1
  else if codeUnit ≤ 0xBF then none
  else if 0xC2 ≤ codeUnit ∧ codeUnit ≤ 0xDF then heading (codeUnit &&& 0x1F) 2
  else if 0xE0 ≤ codeUnit ∧ codeUnit ≤ 0xEF then heading (codeUnit &&& 0x0F) 3
  else if 0xF0 ≤ codeUnit ∧ codeUnit ≤ 0xF4 then heading (codeUnit &&& 0x07) 4
  else none

def overlong (st : Utf8State) : Bool :=
  st.expectedUnits == 2 && decide (st.codePoint ≤ 0x7F) ||
  st.expectedUnits == 3 && decide (st.codePoint ≤ 0x7FF) ||
  st.expectedUnits == 4 && decide (st.codePoint ≤ 0xFFFF)

def output (st : Utf8State) : Option Utf8State :=
  if st.expectedUnits ≠ st.decodedUnits then some st
  else if st.overlong then none
  else if st.codePoint ≤ 0xD7FF ∨ 0xE000 ≤ st.codePoint ∧ st.codePoint ≤ 0xFFFF then
    some { st with
      utf16 := st.utf16 ++ [UInt16.ofNat st.codePoint]
      maxoutput := st.maxoutput - 1 }
  else if 0x10000 ≤ st.codePoint ∧ st.codePoint ≤ 0x10FFFF ∧ 2 ≤ st.maxoutput then
    some { st with
      utf16 := st.utf16 ++ [UInt16.ofNat (0xD800 ||| ((st.codePoint >>> 10) - 0x0040)),
        UInt16.ofNat (0xDC00 ||| (st.codePoint &&& 0x03FF))]
      maxoutput := st.maxoutput - 2 }
  else none

def step (st : Utf8State) (codeUnit : UInt8) : Option Utf8State := (st.decode codeUnit).bind output

end Utf8State

/-- The loop of `UTF8ToUTF16`: whether it ends without a failure, and its locals then. -/
def utf8Loop : List UInt8 → Utf8State → Bool × Utf8State
  | [], st => (true, st)
  | codeUnit :: rest, st =>
    if codeUnit = 0 ∨ st.maxoutput = 0 then (true, st)
    else match st.step codeUnit with
      | none => (false, st)
      | some next => utf8Loop rest next

/-- `UTF8ToUTF16` of a text up to its terminator: whether it returns `CGPT_OK`, and the units it
writes. -/
def utf8ToUtf16 (utf8 : List UInt8) (maxoutput : Nat) : Bool × List UInt16 :=
  if maxoutput = 0 then (false, [])
  else
    let done := utf8Loop utf8 ⟨0, 1, 1, maxoutput - 1, []⟩
    (done.1 && done.2.expectedUnits == done.2.decodedUnits, done.2.utf16 ++ [0])

structure Utf16State where
  codePoint : Nat
  codePointReady : Bool
  maxoutput : Nat
  utf8 : List UInt8

namespace Utf16State

def decode (st : Utf16State) (codeunit : UInt16) : Option Utf16State :=
  if st.codePointReady then
    if 0xD800 ≤ codeunit ∧ codeunit ≤ 0xDBFF then
      some { st with codePointReady := false, codePoint := (codeunit &&& 0x03FF).toNat + 0x0040 }
    else some { st with codePoint := codeunit.toNat }
  else if 0xDC00 ≤ codeunit ∧ codeunit ≤ 0xDFFF then
    some { st with
      codePoint := st.codePoint <<< 10 ||| (codeunit &&& 0x03FF).toNat
      codePointReady := true }
  else none

def bytes (codePoint maxoutput : Nat) : Option (List UInt8) :=
  if codePoint ≤ 0x7F ∧ 1 ≤ maxoutput then some [UInt8.ofNat (codePoint &&& 0x7F)]
  else if codePoint ≤ 0x7FF ∧ 2 ≤ maxoutput then
    some [UInt8.ofNat (0xC0 ||| codePoint >>> 6), UInt8.ofNat (0x80 ||| codePoint &&& 0x3F)]
  else if codePoint ≤ 0xFFFF ∧ 3 ≤ maxoutput then
    some [UInt8.ofNat (0xE0 ||| codePoint >>> 12), UInt8.ofNat (0x80 ||| (codePoint >>> 6) &&& 0x3F),
      UInt8.ofNat (0x80 ||| codePoint &&& 0x3F)]
  else if codePoint ≤ 0x10FFFF ∧ 4 ≤ maxoutput then
    some [UInt8.ofNat (0xF0 ||| codePoint >>> 18), UInt8.ofNat (0x80 ||| (codePoint >>> 12) &&& 0x3F),
      UInt8.ofNat (0x80 ||| (codePoint >>> 6) &&& 0x3F), UInt8.ofNat (0x80 ||| codePoint &&& 0x3F)]
  else none

def output (st : Utf16State) : Option Utf16State :=
  if st.codePointReady then
    (bytes st.codePoint st.maxoutput).map fun written =>
      { st with utf8 := st.utf8 ++ written, maxoutput := st.maxoutput - written.length }
  else some st

def step (st : Utf16State) (codeunit : UInt16) : Option Utf16State := (st.decode codeunit).bind output

end Utf16State

def utf16Loop : List UInt16 → Utf16State → Bool × Utf16State
  | [], st => (true, st)
  | codeunit :: rest, st =>
    if codeunit = 0 ∨ st.maxoutput = 0 then (true, st)
    else match st.step codeunit with
      | none => (false, st)
      | some next => utf16Loop rest next

/-- `UTF16ToUTF8` of `maxinput` units: whether it returns `CGPT_OK`, and the text before the
terminator it writes. A surrogate still waiting for its second half at the end is no failure. -/
def utf16ToUtf8 (utf16 : List UInt16) (maxoutput : Nat) : Bool × List UInt8 :=
  if utf16 = [] ∨ maxoutput = 0 then (false, [])
  else
    let done := utf16Loop utf16 ⟨0, true, maxoutput - 1, []⟩
    (done.1, done.2.utf8)

namespace Utf8State

def heading (st : Utf8State) (codePoint expectedUnits : Nat) : Utf8State :=
  { st with codePoint, expectedUnits, decodedUnits := 1 }

def trailing (st : Utf8State) (low : Nat) : Utf8State :=
  { st with codePoint := 64 * st.codePoint + low, decodedUnits := st.decodedUnits + 1 }

theorem decode_ready {st : Utf8State} (ready : st.expectedUnits = st.decodedUnits) (u : UInt8) :
    st.decode u =
      if u.toNat ≤ 0x7F then some (st.heading u.toNat 1)
      else if u.toNat ≤ 0xC1 then none
      else if u.toNat ≤ 0xDF then some (st.heading (u.toNat % 32) 2)
      else if u.toNat ≤ 0xEF then some (st.heading (u.toNat % 16) 3)
      else if u.toNat ≤ 0xF4 then some (st.heading (u.toNat % 8) 4)
      else none := by
  have small := u.toNat_lt
  have le (a : UInt8) : u ≤ a ↔ u.toNat ≤ a.toNat := UInt8.le_iff_toNat_le
  have ge (a : UInt8) : a ≤ u ↔ a.toNat ≤ u.toNat := UInt8.le_iff_toNat_le
  have low5 := byte_low_bits u 0x1F 5 rfl
  have low4 := byte_low_bits u 0x0F 4 rfl
  have low3 := byte_low_bits u 0x07 3 rfl
  unfold decode heading
  simp only [ready, ne_eq, not_true_eq_false, if_false, le, ge, low5, low4, low3, UInt8.reduceToNat]
  split_ifs <;> first | rfl | omega

theorem decode_pending {st : Utf8State} (pending : st.expectedUnits ≠ st.decodedUnits) (u : UInt8) :
    st.decode u =
      if 0x80 ≤ u.toNat ∧ u.toNat ≤ 0xBF then some (st.trailing (u.toNat % 64)) else none := by
  have low6 := byte_low_bits u 0x3F 6 rfl
  have field : st.codePoint <<< 6 ||| u.toNat % 2 ^ 6 = 64 * st.codePoint + u.toNat % 64 := by
    rw [Nat.shiftLeft_eq, Nat.mul_comm]
    exact or_field st.codePoint (Nat.mod_lt _ (by decide))
  unfold decode trailing
  simp only [pending, ne_eq, not_false_eq_true, if_true, trailing_byte_iff, low6, field]

def push (st : Utf8State) (c : Char) : Utf8State where
  codePoint := c.toNat
  expectedUnits := (String.utf8EncodeChar c).length
  decodedUnits := (String.utf8EncodeChar c).length
  maxoutput := st.maxoutput - (utf16Units c).length
  utf16 := st.utf16 ++ utf16Units c

theorem output_char {st : Utf8State} {c : Char} (codePoint : st.codePoint = c.toNat)
    (expected : st.expectedUnits = (String.utf8EncodeChar c).length)
    (decoded : st.decodedUnits = (String.utf8EncodeChar c).length)
    (room : (utf16Units c).length ≤ st.maxoutput) : st.output = some (st.push c) := by
  have bounds := char_bounds c
  have shortest : st.overlong = false := by
    rw [overlong, codePoint, expected]
    by_cases one : c.toNat ≤ 0x7F
    · simp [utf8EncodeChar_one one]
    · by_cases two : c.toNat ≤ 0x7FF
      · simp [utf8EncodeChar_two (by omega) two, one]
      · by_cases three : c.toNat ≤ 0xFFFF
        · simp [utf8EncodeChar_three (by omega) three, two]
        · simp [utf8EncodeChar_four (c := c) (by omega), three]
  have whole : ¬ st.expectedUnits ≠ st.decodedUnits := by rw [expected, decoded]; simp
  unfold output
  rw [if_neg whole, shortest, if_neg (by simp), codePoint]
  by_cases plane : c.toNat ≤ 0xFFFF
  · rw [if_pos (by omega), push, utf16Units_one plane]
    simp [expected, decoded]
  · have pair := utf16Units_two (c := c) (by omega)
    rw [pair] at room
    have two : 2 ≤ st.maxoutput := room
    have high : 0xD800 ||| ((c.toNat >>> 10) - 0x0040) =
        0xD800 + (c.toNat - 0x10000) / 0x400 := by
      have shifted : c.toNat >>> 10 - 0x0040 = (c.toNat - 0x10000) / 0x400 := by
        rw [Nat.shiftRight_eq_div_pow]
        omega
      rw [shifted]
      exact or_field (k := 10) 54 (by omega)
    have low : 0xDC00 ||| (c.toNat &&& 0x03FF) = 0xDC00 + (c.toNat - 0x10000) % 0x400 := by
      have masked : c.toNat &&& 0x03FF = (c.toNat - 0x10000) % 0x400 := by
        have bits : c.toNat &&& 0x03FF = c.toNat % 1024 := low_bits c.toNat 10
        omega
      rw [masked]
      exact or_field (k := 10) 55 (by omega)
    rw [if_neg (by omega), if_pos (by omega), push, pair, high, low]
    simp [expected, decoded]

theorem output_pending {st : Utf8State} (pending : st.expectedUnits ≠ st.decodedUnits) :
    st.output = some st := if_pos pending

end Utf8State

theorem utf8Loop_step {st next : Utf8State} {u : UInt8} (text : u.toNat ≠ 0)
    (room : 0 < st.maxoutput) (step : st.step u = some next) (rest : List UInt8) :
    utf8Loop (u :: rest) st = utf8Loop rest next := by
  have nonzero : u ≠ 0 := by
    rintro rfl
    exact text rfl
  rw [utf8Loop, if_neg (by simp [nonzero]; omega), step]

theorem ofNat_toNat_of_le {n : Nat} (bound : n ≤ 0xFF) : (UInt8.ofNat n).toNat = n :=
  UInt8.toNat_ofNat_of_lt' (Nat.lt_succ_of_le bound)

namespace Utf8State

theorem step_heading {st : Utf8State} {u : UInt8} {codePoint expectedUnits : Nat}
    (decoded : st.decode u = some (st.heading codePoint expectedUnits)) (more : 1 < expectedUnits) :
    st.step u = some (st.heading codePoint expectedUnits) := by
  have pending : (st.heading codePoint expectedUnits).expectedUnits ≠
      (st.heading codePoint expectedUnits).decodedUnits := by
    simp only [heading]
    omega
  rw [step, decoded, Option.bind_some, output_pending pending]

theorem decode_trailing {st : Utf8State} (pending : st.expectedUnits ≠ st.decodedUnits) (n : Nat) :
    st.decode (UInt8.ofNat (n % 0x40 + 0x80)) = some (st.trailing (n % 64)) := by
  rw [decode_pending pending, ofNat_toNat_of_le (by omega), if_pos (by omega)]
  congr 2
  omega

theorem step_trailing {st : Utf8State} (more : st.decodedUnits + 1 < st.expectedUnits) (n : Nat) :
    st.step (UInt8.ofNat (n % 0x40 + 0x80)) = some (st.trailing (n % 64)) := by
  have pending : (st.trailing (n % 64)).expectedUnits ≠ (st.trailing (n % 64)).decodedUnits := by
    simp only [trailing]
    omega
  rw [step, decode_trailing (by omega), Option.bind_some, output_pending pending]

end Utf8State

theorem utf8Loop_trailing {st : Utf8State} (more : st.decodedUnits + 1 < st.expectedUnits)
    (room : 0 < st.maxoutput) (n : Nat) (rest : List UInt8) :
    utf8Loop (UInt8.ofNat (n % 0x40 + 0x80) :: rest) st = utf8Loop rest (st.trailing (n % 64)) := by
  apply utf8Loop_step
  · rw [ofNat_toNat_of_le (by omega)]
    omega
  · exact room
  · exact st.step_trailing more n

theorem utf8Loop_last {st : Utf8State} {c : Char} {n : Nat}
    (codePoint : 64 * st.codePoint + n % 64 = c.toNat)
    (expected : st.expectedUnits = (String.utf8EncodeChar c).length)
    (decoded : st.decodedUnits + 1 = (String.utf8EncodeChar c).length)
    (room : (utf16Units c).length ≤ st.maxoutput) (rest : List UInt8) :
    utf8Loop (UInt8.ofNat (n % 0x40 + 0x80) :: rest) st = utf8Loop rest (st.push c) := by
  have positive := utf16Units_length_pos c
  have out : (st.trailing (n % 64)).output = some ((st.trailing (n % 64)).push c) :=
    Utf8State.output_char codePoint expected decoded room
  apply utf8Loop_step
  · rw [ofNat_toNat_of_le (by omega)]
    omega
  · omega
  · rw [Utf8State.step, Utf8State.decode_trailing (by omega), Option.bind_some, out]
    rfl

theorem utf8Loop_heading {st : Utf8State} (ready : st.expectedUnits = st.decodedUnits)
    (room : 0 < st.maxoutput) {u : Nat} (codePoint expectedUnits : Nat) (byte : u ≤ 0xFF)
    (range : expectedUnits = 2 ∧ 0xC2 ≤ u ∧ u ≤ 0xDF ∧ codePoint = u % 32 ∨
      expectedUnits = 3 ∧ 0xE0 ≤ u ∧ u ≤ 0xEF ∧ codePoint = u % 16 ∨
      expectedUnits = 4 ∧ 0xF0 ≤ u ∧ u ≤ 0xF4 ∧ codePoint = u % 8) (rest : List UInt8) :
    utf8Loop (UInt8.ofNat u :: rest) st = utf8Loop rest (st.heading codePoint expectedUnits) := by
  have number := ofNat_toNat_of_le byte
  apply utf8Loop_step
  · omega
  · exact room
  · apply Utf8State.step_heading
    · rw [Utf8State.decode_ready ready, number]
      rcases range with ⟨rfl, low, high, rfl⟩ | ⟨rfl, low, high, rfl⟩ | ⟨rfl, low, high, rfl⟩
      · rw [if_neg (by omega), if_neg (by omega), if_pos (by omega)]
      · rw [if_neg (by omega), if_neg (by omega), if_neg (by omega), if_pos (by omega)]
      · rw [if_neg (by omega), if_neg (by omega), if_neg (by omega), if_neg (by omega),
          if_pos (by omega)]
    · omega

theorem utf8Loop_char {st : Utf8State} (ready : st.expectedUnits = st.decodedUnits) {c : Char}
    (text : c.toNat ≠ 0) (room : (utf16Units c).length ≤ st.maxoutput) (rest : List UInt8) :
    utf8Loop (String.utf8EncodeChar c ++ rest) st = utf8Loop rest (st.push c) := by
  have bounds := char_bounds c
  have positive := utf16Units_length_pos c
  by_cases one : c.toNat ≤ 0x7F
  · have bytes := utf8EncodeChar_one one
    have decoded : st.decode (UInt8.ofNat c.toNat) = some (st.heading c.toNat 1) := by
      rw [Utf8State.decode_ready ready, ofNat_toNat_of_le (by omega), if_pos one]
    have out : (st.heading c.toNat 1).output = some ((st.heading c.toNat 1).push c) :=
      Utf8State.output_char rfl (by rw [bytes]; rfl) (by rw [bytes]; rfl) room
    rw [bytes]
    apply utf8Loop_step
    · rwa [ofNat_toNat_of_le (by omega)]
    · omega
    · rw [Utf8State.step, decoded, Option.bind_some, out]
      rfl
  by_cases two : c.toNat ≤ 0x7FF
  · have bytes := utf8EncodeChar_two (c := c) (by omega) two
    have length : (String.utf8EncodeChar c).length = 2 := by rw [bytes]; rfl
    rw [bytes]
    simp only [List.cons_append, List.nil_append]
    rw [utf8Loop_heading ready (by omega) (c.toNat / 64) 2 (by omega) (by omega)]
    apply utf8Loop_last (c := c)
    · change 64 * (c.toNat / 64) + c.toNat % 64 = c.toNat
      omega
    · exact length.symm
    · exact length.symm
    · exact room
  by_cases three : c.toNat ≤ 0xFFFF
  · have bytes := utf8EncodeChar_three (c := c) (by omega) three
    have length : (String.utf8EncodeChar c).length = 3 := by rw [bytes]; rfl
    have free : 0 < st.maxoutput := by omega
    rw [bytes]
    simp only [List.cons_append, List.nil_append]
    rw [utf8Loop_heading ready free (c.toNat / 4096) 3 (by omega) (by omega),
      utf8Loop_trailing (by exact Nat.le_refl 3) (by exact free)]
    apply utf8Loop_last (c := c)
    · change 64 * (64 * (c.toNat / 4096) + c.toNat / 64 % 64) + c.toNat % 64 = c.toNat
      omega
    · exact length.symm
    · exact length.symm
    · exact room
  · have bytes := utf8EncodeChar_four (c := c) (by omega)
    have length : (String.utf8EncodeChar c).length = 4 := by rw [bytes]; rfl
    have free : 0 < st.maxoutput := by omega
    rw [bytes]
    simp only [List.cons_append, List.nil_append]
    rw [utf8Loop_heading ready free (c.toNat / 262144) 4 (by omega) (by omega),
      utf8Loop_trailing (by exact Nat.le_succ 3) (by exact free),
      utf8Loop_trailing (by exact Nat.le_refl 4) (by exact free)]
    apply utf8Loop_last (c := c)
    · change 64 * (64 * (64 * (c.toNat / 262144) + c.toNat / 4096 % 64) + c.toNat / 64 % 64) +
        c.toNat % 64 = c.toNat
      omega
    · exact length.symm
    · exact length.symm
    · exact room

theorem ofNat_eq_byte {u : UInt8} {n : Nat} (number : u.toNat = n) : UInt8.ofNat n = u := by
  rw [← number, UInt8.ofNat_toNat]

theorem Utf8State.not_overlong {st : Utf8State} (shortest : st.overlong = false) :
    (st.expectedUnits = 3 → 0x7FF < st.codePoint) ∧
      (st.expectedUnits = 4 → 0xFFFF < st.codePoint) := by
  constructor
  · intro three
    simpa [overlong, three] using shortest
  · intro four
    simpa [overlong, four] using shortest

theorem Utf8State.output_some {st next : Utf8State} (out : st.output = some next)
    (whole : st.expectedUnits = st.decodedUnits) (room : 0 < st.maxoutput) :
    st.overlong = false ∧ ∃ c : Char, c.toNat = st.codePoint ∧
      (utf16Units c).length ≤ st.maxoutput := by
  unfold output at out
  split_ifs at out with pending long plane pair
  · exact absurd whole pending
  · obtain ⟨c, number⟩ := exists_char (n := st.codePoint) (by omega)
    have shortest : st.overlong = false := by simpa using long
    exact ⟨shortest, c, number, by rw [utf16Units_one (by omega)]; exact room⟩
  · obtain ⟨c, number⟩ := exists_char (n := st.codePoint) (by omega)
    have shortest : st.overlong = false := by simpa using long
    exact ⟨shortest, c, number, by rw [utf16Units_two (by omega)]; exact pair.2.2⟩

def EndsWhole (bytes : List UInt8) (st : Utf8State) : Prop :=
  (utf8Loop bytes st).1 = true ∧
    (utf8Loop bytes st).2.expectedUnits = (utf8Loop bytes st).2.decodedUnits

theorem EndsWhole.step {u : UInt8} {rest : List UInt8} {st : Utf8State}
    (ends : EndsWhole (u :: rest) st) (text : u ≠ 0) (room : 0 < st.maxoutput) :
    ∃ next, st.step u = some next ∧ EndsWhole rest next := by
  have more : ¬ (u = 0 ∨ st.maxoutput = 0) := by
    simp [text]
    omega
  cases taken : st.step u with
  | none =>
      rw [EndsWhole, utf8Loop, if_neg more, taken] at ends
      cases ends.1
  | some next =>
      rw [EndsWhole, utf8Loop, if_neg more, taken] at ends
      exact ⟨next, rfl, ends⟩

theorem EndsWhole.trailing {bytes : List UInt8} {st : Utf8State} (ends : EndsWhole bytes st)
    (text : ∀ u ∈ bytes, u ≠ 0) (pending : st.expectedUnits ≠ st.decodedUnits)
    (room : 0 < st.maxoutput) :
    ∃ u rest next, bytes = u :: rest ∧ (0x80 ≤ u.toNat ∧ u.toNat ≤ 0xBF) ∧
      (st.trailing (u.toNat % 64)).output = some next ∧ EndsWhole rest next := by
  cases bytes with
  | nil => exact absurd ends.2 pending
  | cons u rest =>
      obtain ⟨next, taken, later⟩ := ends.step (text u List.mem_cons_self) room
      rw [Utf8State.step, Utf8State.decode_pending pending] at taken
      split_ifs at taken with range
      · exact ⟨u, rest, next, rfl, range, taken, later⟩
      · cases taken

theorem EndsWhole.inner {bytes : List UInt8} {st : Utf8State} (ends : EndsWhole bytes st)
    (text : ∀ u ∈ bytes, u ≠ 0) (pending : st.decodedUnits + 1 < st.expectedUnits)
    (room : 0 < st.maxoutput) :
    ∃ u rest, bytes = u :: rest ∧ (0x80 ≤ u.toNat ∧ u.toNat ≤ 0xBF) ∧ (∀ v ∈ rest, v ≠ 0) ∧
      EndsWhole rest (st.trailing (u.toNat % 64)) := by
  obtain ⟨u, rest, next, rfl, range, out, later⟩ := ends.trailing text (by omega) room
  have more : (st.trailing (u.toNat % 64)).expectedUnits ≠
      (st.trailing (u.toNat % 64)).decodedUnits := by
    simp only [Utf8State.trailing]
    omega
  rw [Utf8State.output_pending more] at out
  obtain rfl := Option.some.inj out
  exact ⟨u, rest, rfl, range, fun v member => text v (List.mem_cons_of_mem _ member), later⟩

theorem EndsWhole.last {bytes : List UInt8} {st : Utf8State} (ends : EndsWhole bytes st)
    (text : ∀ u ∈ bytes, u ≠ 0) (pending : st.decodedUnits + 1 = st.expectedUnits)
    (room : 0 < st.maxoutput) :
    ∃ u rest, bytes = u :: rest ∧ (0x80 ≤ u.toNat ∧ u.toNat ≤ 0xBF) ∧
      (st.trailing (u.toNat % 64)).overlong = false ∧
      ∃ c : Char, c.toNat = 64 * st.codePoint + u.toNat % 64 ∧
        (utf16Units c).length ≤ st.maxoutput := by
  obtain ⟨u, rest, next, rfl, range, out, -⟩ := ends.trailing text (by omega) room
  obtain ⟨shortest, c, number, fits⟩ := Utf8State.output_some out pending.symm room
  exact ⟨u, rest, rfl, range, shortest, c, number, fits⟩

theorem EndsWhole.char {bytes : List UInt8} {st : Utf8State} (ends : EndsWhole bytes st)
    (text : ∀ u ∈ bytes, u ≠ 0) (ready : st.expectedUnits = st.decodedUnits)
    (room : 0 < st.maxoutput) (more : bytes ≠ []) :
    ∃ c rest, bytes = String.utf8EncodeChar c ++ rest ∧ c.toNat ≠ 0 ∧
      (utf16Units c).length ≤ st.maxoutput := by
  obtain ⟨u, tail, rfl⟩ := List.exists_cons_of_ne_nil more
  have nonzero : u.toNat ≠ 0 := fun zero => text u List.mem_cons_self (UInt8.toNat_inj.mp zero)
  have clear : ∀ v ∈ tail, v ≠ 0 := fun v member => text v (List.mem_cons_of_mem _ member)
  obtain ⟨next, taken, ends⟩ := ends.step (text u List.mem_cons_self) room
  rw [Utf8State.step, Utf8State.decode_ready ready] at taken
  split_ifs at taken with one bad two three four
  · rw [Option.bind_some] at taken
    obtain ⟨-, c, number, fits⟩ := Utf8State.output_some taken rfl room
    have value : c.toNat = u.toNat := number
    have bytes : String.utf8EncodeChar c = [u] := by
      rw [utf8EncodeChar_one (by omega), value, UInt8.ofNat_toNat]
    exact ⟨c, tail, by rw [bytes]; rfl, by omega, fits⟩
  · cases taken
  · rw [Option.bind_some, Utf8State.output_pending (show (2 : Nat) ≠ 1 by decide)] at taken
    obtain rfl := Option.some.inj taken
    obtain ⟨v, rest, rfl, range, shortest, c, number, fits⟩ := ends.last clear rfl room
    have value : c.toNat = 64 * (u.toNat % 32) + v.toNat % 64 := number
    have bytes : String.utf8EncodeChar c = [u, v] := by
      rw [utf8EncodeChar_two (by omega) (by omega), ofNat_eq_byte (u := u) (by omega),
        ofNat_eq_byte (u := v) (by omega)]
    exact ⟨c, rest, by rw [bytes]; rfl, by omega, fits⟩
  · rw [Option.bind_some, Utf8State.output_pending (show (3 : Nat) ≠ 1 by decide)] at taken
    obtain rfl := Option.some.inj taken
    obtain ⟨v, rest, rfl, range, clear, ends⟩ := ends.inner clear (Nat.le_refl 3) room
    obtain ⟨w, rest, rfl, range', shortest, c, number, fits⟩ := ends.last clear rfl room
    have value : c.toNat = 64 * (64 * (u.toNat % 16) + v.toNat % 64) + w.toNat % 64 := number
    have long : 0x7FF < 64 * (64 * (u.toNat % 16) + v.toNat % 64) + w.toNat % 64 :=
      (Utf8State.not_overlong shortest).1 rfl
    have bytes : String.utf8EncodeChar c = [u, v, w] := by
      rw [utf8EncodeChar_three (by omega) (by omega), ofNat_eq_byte (u := u) (by omega),
        ofNat_eq_byte (u := v) (by omega), ofNat_eq_byte (u := w) (by omega)]
    exact ⟨c, rest, by rw [bytes]; rfl, by omega, fits⟩
  · rw [Option.bind_some, Utf8State.output_pending (show (4 : Nat) ≠ 1 by decide)] at taken
    obtain rfl := Option.some.inj taken
    obtain ⟨v, rest, rfl, range, clear, ends⟩ := ends.inner clear (Nat.le_succ 3) room
    obtain ⟨w, rest, rfl, range', clear, ends⟩ := ends.inner clear (Nat.le_refl 4) room
    obtain ⟨x, rest, rfl, range'', shortest, c, number, fits⟩ := ends.last clear rfl room
    have value : c.toNat = 64 * (64 * (64 * (u.toNat % 8) + v.toNat % 64) + w.toNat % 64) +
      x.toNat % 64 := number
    have long : 0xFFFF < 64 * (64 * (64 * (u.toNat % 8) + v.toNat % 64) + w.toNat % 64) +
      x.toNat % 64 := (Utf8State.not_overlong shortest).2 rfl
    have bounds := char_bounds c
    have bytes : String.utf8EncodeChar c = [u, v, w, x] := by
      rw [utf8EncodeChar_four (by omega), ofNat_eq_byte (u := u) (by omega),
        ofNat_eq_byte (u := v) (by omega), ofNat_eq_byte (u := w) (by omega),
        ofNat_eq_byte (u := x) (by omega)]
    exact ⟨c, rest, by rw [bytes]; rfl, by omega, fits⟩
  · cases taken

def Utf8State.pushAll (st : Utf8State) (text : List Char) : Utf8State := text.foldl push st

theorem Utf8State.pushAll_spec {st : Utf8State} (ready : st.expectedUnits = st.decodedUnits)
    (text : List Char) :
    (st.pushAll text).expectedUnits = (st.pushAll text).decodedUnits ∧
      (st.pushAll text).maxoutput = st.maxoutput - (utf16Text text).length ∧
      (st.pushAll text).utf16 = st.utf16 ++ utf16Text text := by
  induction text generalizing st with
  | nil => exact ⟨ready, rfl, (List.append_nil _).symm⟩
  | cons c text ih =>
      obtain ⟨whole, room, units⟩ := @ih (st.push c) rfl
      have unfolded : st.pushAll (c :: text) = (st.push c).pushAll text := rfl
      have left : (st.push c).maxoutput = st.maxoutput - (utf16Units c).length := rfl
      rw [unfolded, utf16Text_cons]
      apply And.intro whole
      rw [room, units, left, List.length_append]
      exact ⟨by omega, List.append_assoc ..⟩

theorem utf8Loop_text {st : Utf8State} (ready : st.expectedUnits = st.decodedUnits)
    (text : List Char) (clear : ∀ c ∈ text, c.toNat ≠ 0)
    (room : (utf16Text text).length ≤ st.maxoutput) (rest : List UInt8) :
    utf8Loop (utf8Text text ++ rest) st = utf8Loop rest (st.pushAll text) := by
  induction text generalizing st with
  | nil => rfl
  | cons c text ih =>
      rw [utf16Text_cons, List.length_append] at room
      rw [utf8Text_cons, List.append_assoc,
        utf8Loop_char ready (clear c List.mem_cons_self) (by omega)]
      apply ih rfl
      · intro d member
        exact clear d (List.mem_cons_of_mem _ member)
      · change _ ≤ st.maxoutput - (utf16Units c).length
        omega

theorem utf8Loop_stopped {rest : List UInt8} {st : Utf8State} (stop : rest = [] ∨ st.maxoutput = 0) :
    utf8Loop rest st = (true, st) := by
  cases rest with
  | nil => rfl
  | cons u rest =>
      have full : st.maxoutput = 0 := by simpa using stop
      rw [utf8Loop, if_pos (Or.inr full)]

theorem endsWhole_iff {bytes : List UInt8} {st : Utf8State} (text : ∀ u ∈ bytes, u ≠ 0)
    (ready : st.expectedUnits = st.decodedUnits) :
    EndsWhole bytes st ↔ ∃ chars rest, bytes = utf8Text chars ++ rest ∧
      (∀ c ∈ chars, c.toNat ≠ 0) ∧ (utf16Text chars).length ≤ st.maxoutput ∧
      (rest = [] ∨ (utf16Text chars).length = st.maxoutput) := by
  constructor
  · intro ends
    induction n : bytes.length using Nat.strong_induction_on generalizing bytes st with
    | _ n ih =>
      by_cases stop : bytes = [] ∨ st.maxoutput = 0
      · exact ⟨[], bytes, rfl, by simp, Nat.zero_le _, stop.imp id Eq.symm⟩
      · rw [not_or] at stop
        obtain ⟨c, rest, rfl, nonzero, fits⟩ :=
          ends.char text ready (Nat.pos_of_ne_zero stop.2) stop.1
        have shorter : 0 < (String.utf8EncodeChar c).length := by
          apply List.length_pos_of_ne_nil
          exact String.utf8EncodeChar_ne_nil
        rw [EndsWhole, utf8Loop_char ready nonzero fits] at ends
        obtain ⟨chars, last, rfl, clear, room, final⟩ :=
          @ih rest.length (by rw [← n, List.length_append]; omega) rest (st.push c)
            (fun u member => text u (List.mem_append_right _ member)) rfl ends rfl
        have left : (st.push c).maxoutput = st.maxoutput - (utf16Units c).length := rfl
        rw [left] at room final
        have units : (utf16Text (c :: chars)).length =
            (utf16Units c).length + (utf16Text chars).length := List.length_append
        refine ⟨c :: chars, last, (List.append_assoc ..).symm, ?_, by omega, ?_⟩
        · exact List.forall_mem_cons.mpr ⟨nonzero, clear⟩
        · exact final.imp id (by omega)
  · rintro ⟨chars, rest, rfl, clear, room, final⟩
    obtain ⟨whole, left, -⟩ := Utf8State.pushAll_spec ready chars
    rw [EndsWhole, utf8Loop_text ready chars clear room, utf8Loop_stopped]
    · exact ⟨rfl, whole⟩
    · rw [left]
      exact final.imp id (by omega)

theorem clear_of_bytes {chars : List Char} {rest : List UInt8}
    (text : ∀ u ∈ utf8Text chars ++ rest, u ≠ 0) : ∀ c ∈ chars, c.toNat ≠ 0 := by
  intro c member zero
  have byte : (0 : UInt8) ∈ String.utf8EncodeChar c := by
    rw [utf8EncodeChar_one (by omega), zero]
    exact List.mem_singleton.mpr rfl
  have inside : (0 : UInt8) ∈ utf8Text chars := List.mem_flatMap.mpr ⟨c, member, byte⟩
  exact text 0 (List.mem_append_left _ inside) rfl

theorem utf8ToUtf16_iff {bytes : List UInt8} (text : ∀ u ∈ bytes, u ≠ 0) (room : Nat)
    (units : List UInt16) :
    utf8ToUtf16 bytes (room + 1) = (true, units) ↔ ∃ chars rest, bytes = utf8Text chars ++ rest ∧
      (utf16Text chars).length ≤ room ∧ (rest = [] ∨ (utf16Text chars).length = room) ∧
      units = utf16Text chars ++ [0] := by
  let start : Utf8State := ⟨0, 1, 1, room, []⟩
  have result : utf8ToUtf16 bytes (room + 1) = (true, units) ↔
      EndsWhole bytes start ∧ (utf8Loop bytes start).2.utf16 ++ [0] = units := by
    rw [utf8ToUtf16, if_neg (Nat.succ_ne_zero room), EndsWhole]
    simp [start]
  rw [result, endsWhole_iff text rfl]
  have final : ∀ chars rest, bytes = utf8Text chars ++ rest → (∀ c ∈ chars, c.toNat ≠ 0) →
      (utf16Text chars).length ≤ room → (rest = [] ∨ (utf16Text chars).length = room) →
      (utf8Loop bytes start).2.utf16 = utf16Text chars := by
    rintro chars rest rfl clear fits stop
    have ready : start.expectedUnits = start.decodedUnits := rfl
    obtain ⟨-, left, written⟩ := Utf8State.pushAll_spec ready chars
    have remains : (start.pushAll chars).maxoutput = room - (utf16Text chars).length := left
    rw [utf8Loop_text rfl chars clear fits, utf8Loop_stopped (stop.imp id (by omega)), written]
    rfl
  constructor
  · rintro ⟨⟨chars, rest, whole, clear, fits, stop⟩, rfl⟩
    rw [final chars rest whole clear fits stop]
    exact ⟨chars, rest, whole, fits, stop, rfl⟩
  · rintro ⟨chars, rest, rfl, fits, stop, rfl⟩
    have clear := clear_of_bytes text
    rw [final chars rest rfl clear fits stop]
    exact ⟨⟨chars, rest, rfl, clear, fits, stop⟩, rfl⟩

theorem Utf16State.bytes_char (c : Char) {room : Nat} (some_room : 0 < room) :
    bytes c.toNat room = if (String.utf8EncodeChar c).length ≤ room then
      some (String.utf8EncodeChar c) else none := by
  have bounds := char_bounds c
  have low7 : c.toNat &&& 0x7F = c.toNat % 128 := low_bits c.toNat 7
  have low6 (n : Nat) : n &&& 0x3F = n % 64 := low_bits n 6
  have two_field {n : Nat} (small : n < 32) : 0xC0 ||| n = n + 0xc0 :=
    (or_field (k := 5) 6 small).trans (Nat.add_comm ..)
  have three_field {n : Nat} (small : n < 16) : 0xE0 ||| n = n + 0xe0 :=
    (or_field (k := 4) 14 small).trans (Nat.add_comm ..)
  have four_field {n : Nat} (small : n < 8) : 0xF0 ||| n = n + 0xf0 :=
    (or_field (k := 3) 30 small).trans (Nat.add_comm ..)
  have trailing (n : Nat) : 0x80 ||| n % 64 = n % 0x40 + 0x80 :=
    (or_field (k := 6) 2 (Nat.mod_lt n (by decide))).trans (Nat.add_comm ..)
  unfold bytes
  simp only [low7, low6, Nat.shiftRight_eq_div_pow, trailing]
  by_cases one : c.toNat ≤ 0x7F
  · rw [if_pos ⟨one, some_room⟩, utf8EncodeChar_one one, Nat.mod_eq_of_lt (by omega)]
    exact (if_pos some_room).symm
  rw [if_neg (by omega)]
  by_cases two : c.toNat ≤ 0x7FF
  · have encoded := utf8EncodeChar_two (c := c) (by omega) two
    have length : (String.utf8EncodeChar c).length = 2 := by rw [encoded]; rfl
    rw [length, encoded]
    by_cases fits : 2 ≤ room
    · rw [if_pos ⟨two, fits⟩, if_pos fits, two_field (by omega)]
      congr 3
      omega
    · rw [if_neg (by omega), if_neg (by omega), if_neg (by omega), if_neg fits]
  rw [if_neg (by omega)]
  by_cases three : c.toNat ≤ 0xFFFF
  · have encoded := utf8EncodeChar_three (c := c) (by omega) three
    have length : (String.utf8EncodeChar c).length = 3 := by rw [encoded]; rfl
    rw [length, encoded]
    by_cases fits : 3 ≤ room
    · rw [if_pos ⟨three, fits⟩, if_pos fits, three_field (by omega)]
      congr 3
      omega
    · rw [if_neg (by omega), if_neg (by omega), if_neg fits]
  rw [if_neg (by omega)]
  have encoded := utf8EncodeChar_four (c := c) (by omega)
  have length : (String.utf8EncodeChar c).length = 4 := by rw [encoded]; rfl
  rw [length, encoded]
  by_cases fits : 4 ≤ room
  · rw [if_pos ⟨by omega, fits⟩, if_pos fits, four_field (by omega)]
    congr 3
    omega
  · rw [if_neg (by omega), if_neg fits]

namespace Utf16State

def push (st : Utf16State) (c : Char) : Utf16State where
  codePoint := c.toNat
  codePointReady := true
  maxoutput := st.maxoutput - (String.utf8EncodeChar c).length
  utf8 := st.utf8 ++ String.utf8EncodeChar c

theorem output_char {st : Utf16State} {c : Char} (codePoint : st.codePoint = c.toNat)
    (ready : st.codePointReady = true) (room : 0 < st.maxoutput) :
    st.output = if (String.utf8EncodeChar c).length ≤ st.maxoutput then some (st.push c) else none := by
  rw [output, if_pos ready, codePoint, bytes_char c room]
  by_cases fits : (String.utf8EncodeChar c).length ≤ st.maxoutput
  · rw [if_pos fits, if_pos fits, Option.map_some, push, ready]
  · rw [if_neg fits, if_neg fits, Option.map_none]

theorem unit_toNat {n : Nat} (bound : n ≤ 0xFFFF) : (UInt16.ofNat n).toNat = n :=
  UInt16.toNat_ofNat_of_lt' (Nat.lt_succ_of_le bound)

theorem decode_plain {st : Utf16State} (ready : st.codePointReady = true) {c : Char}
    (plane : c.toNat ≤ 0xFFFF) :
    st.decode (UInt16.ofNat c.toNat) = some { st with codePoint := c.toNat } := by
  have bounds := char_bounds c
  have number := unit_toNat plane
  have no_surrogate : ¬ (0xD800 ≤ UInt16.ofNat c.toNat ∧ UInt16.ofNat c.toNat ≤ 0xDBFF) := by
    rw [UInt16.le_iff_toNat_le, UInt16.le_iff_toNat_le, number]
    change ¬ (0xD800 ≤ c.toNat ∧ c.toNat ≤ 0xDBFF)
    omega
  rw [decode, if_pos ready, if_neg no_surrogate, number]

theorem decode_high {st : Utf16State} (ready : st.codePointReady = true) {n : Nat} (bound : n < 0x400) :
    st.decode (UInt16.ofNat (0xD800 + n)) =
      some { st with codePointReady := false, codePoint := n + 0x0040 } := by
  have number : (UInt16.ofNat (0xD800 + n)).toNat = 0xD800 + n := unit_toNat (by omega)
  have surrogate : 0xD800 ≤ UInt16.ofNat (0xD800 + n) ∧ UInt16.ofNat (0xD800 + n) ≤ 0xDBFF := by
    rw [UInt16.le_iff_toNat_le, UInt16.le_iff_toNat_le, number]
    change 0xD800 ≤ 0xD800 + n ∧ 0xD800 + n ≤ 0xDBFF
    omega
  have low : (UInt16.ofNat (0xD800 + n) &&& 0x03FF).toNat = n := by
    rw [UInt16.toNat_and, number]
    exact (low_bits (0xD800 + n) 10).trans (by omega)
  rw [decode, if_pos ready, if_pos surrogate, low]

theorem decode_low {st : Utf16State} (waiting : st.codePointReady = false) {n : Nat}
    (bound : n < 0x400) :
    st.decode (UInt16.ofNat (0xDC00 + n)) =
      some { st with codePoint := 1024 * st.codePoint + n, codePointReady := true } := by
  have number : (UInt16.ofNat (0xDC00 + n)).toNat = 0xDC00 + n := unit_toNat (by omega)
  have surrogate : 0xDC00 ≤ UInt16.ofNat (0xDC00 + n) ∧ UInt16.ofNat (0xDC00 + n) ≤ 0xDFFF := by
    rw [UInt16.le_iff_toNat_le, UInt16.le_iff_toNat_le, number]
    change 0xDC00 ≤ 0xDC00 + n ∧ 0xDC00 + n ≤ 0xDFFF
    omega
  have low : (UInt16.ofNat (0xDC00 + n) &&& 0x03FF).toNat = n := by
    rw [UInt16.toNat_and, number]
    exact (low_bits (0xDC00 + n) 10).trans (by omega)
  have field : st.codePoint <<< 10 ||| n = 1024 * st.codePoint + n := by
    rw [Nat.shiftLeft_eq, Nat.mul_comm]
    exact or_field (k := 10) st.codePoint bound
  rw [decode, if_neg (by simp [waiting]), if_pos surrogate, low, field]

end Utf16State

theorem utf16Loop_taken {st : Utf16State} {u : UInt16} (text : u.toNat ≠ 0)
    (room : 0 < st.maxoutput) (rest : List UInt16) :
    utf16Loop (u :: rest) st = match st.step u with
      | none => (false, st)
      | some next => utf16Loop rest next := by
  have nonzero : u ≠ 0 := by
    rintro rfl
    exact text rfl
  rw [utf16Loop, if_neg (by simp [nonzero]; omega)]

theorem utf16Loop_char {st : Utf16State} (ready : st.codePointReady = true) {c : Char}
    (text : c.toNat ≠ 0) (room : 0 < st.maxoutput) (rest : List UInt16) :
    if (String.utf8EncodeChar c).length ≤ st.maxoutput then
      utf16Loop (utf16Units c ++ rest) st = utf16Loop rest (st.push c)
    else (utf16Loop (utf16Units c ++ rest) st).1 = false := by
  have bounds := char_bounds c
  by_cases plane : c.toNat ≤ 0xFFFF
  · have number := Utf16State.unit_toNat plane
    have out : ({ st with codePoint := c.toNat } : Utf16State).output =
        if (String.utf8EncodeChar c).length ≤ st.maxoutput then some (st.push c) else none :=
      Utf16State.output_char rfl ready room
    have taken : st.step (UInt16.ofNat c.toNat) =
        if (String.utf8EncodeChar c).length ≤ st.maxoutput then some (st.push c) else none := by
      rw [Utf16State.step, Utf16State.decode_plain ready plane, Option.bind_some, out]
    rw [utf16Units_one plane, List.singleton_append, utf16Loop_taken (by omega) room, taken]
    by_cases fits : (String.utf8EncodeChar c).length ≤ st.maxoutput
    · rw [if_pos fits, if_pos fits]
    · rw [if_neg fits, if_neg fits]
  · obtain ⟨high, low, high_bound, low_bound, number, units⟩ : ∃ high low, high < 0x400 ∧
        low < 0x400 ∧ 1024 * (high + 0x0040) + low = c.toNat ∧
        utf16Units c = [UInt16.ofNat (0xD800 + high), UInt16.ofNat (0xDC00 + low)] :=
      ⟨(c.toNat - 0x10000) / 0x400, (c.toNat - 0x10000) % 0x400, by omega, by omega, by omega,
        utf16Units_two (by omega)⟩
    let waiting : Utf16State := { st with codePointReady := false, codePoint := high + 0x0040 }
    have first : st.step (UInt16.ofNat (0xD800 + high)) = some waiting := by
      rw [Utf16State.step, Utf16State.decode_high ready high_bound, Option.bind_some]
      rfl
    have out : ({ waiting with codePoint := 1024 * (high + 0x0040) + low
                               codePointReady := true } : Utf16State).output =
        if (String.utf8EncodeChar c).length ≤ st.maxoutput then some (st.push c) else none :=
      Utf16State.output_char number rfl room
    have second : waiting.step (UInt16.ofNat (0xDC00 + low)) =
        if (String.utf8EncodeChar c).length ≤ st.maxoutput then some (st.push c) else none := by
      rw [Utf16State.step, Utf16State.decode_low rfl low_bound, Option.bind_some, out]
    have high_number : (UInt16.ofNat (0xD800 + high)).toNat = 0xD800 + high :=
      Utf16State.unit_toNat (by omega)
    have low_number : (UInt16.ofNat (0xDC00 + low)).toNat = 0xDC00 + low :=
      Utf16State.unit_toNat (by omega)
    rw [units, List.cons_append, List.cons_append, List.nil_append,
      utf16Loop_taken (by omega) room, first]
    dsimp only
    rw [utf16Loop_taken (by omega) (by exact room), second]
    by_cases fits : (String.utf8EncodeChar c).length ≤ st.maxoutput
    · rw [if_pos fits, if_pos fits]
    · rw [if_neg fits, if_neg fits]

def Utf16State.pushAll (st : Utf16State) (text : List Char) : Utf16State := text.foldl push st

theorem Utf16State.pushAll_utf8 (st : Utf16State) (text : List Char) :
    (st.pushAll text).utf8 = st.utf8 ++ utf8Text text := by
  induction text generalizing st with
  | nil => exact (List.append_nil _).symm
  | cons c text ih =>
      have unfolded : st.pushAll (c :: text) = (st.push c).pushAll text := rfl
      rw [unfolded, ih, push, utf8Text_cons, List.append_assoc]

theorem utf16Loop_text {st : Utf16State} (ready : st.codePointReady = true) (text : List Char)
    (clear : ∀ c ∈ text, c.toNat ≠ 0) (fits : (utf8Text text).length ≤ st.maxoutput)
    (rest : List UInt16) :
    utf16Loop (utf16Text text ++ rest) st = utf16Loop rest (st.pushAll text) := by
  induction text generalizing st with
  | nil => rfl
  | cons c text ih =>
      rw [utf8Text_cons, List.length_append] at fits
      have some_room : 0 < (String.utf8EncodeChar c).length :=
        List.length_pos_of_ne_nil String.utf8EncodeChar_ne_nil
      have taken := utf16Loop_char ready (clear c List.mem_cons_self) (by omega)
        (utf16Text text ++ rest)
      rw [if_pos (by omega)] at taken
      rw [utf16Text_cons, List.append_assoc, taken]
      apply ih rfl
      · intro d member
        exact clear d (List.mem_cons_of_mem _ member)
      · change _ ≤ st.maxoutput - (String.utf8EncodeChar c).length
        omega

theorem utf16Loop_stopped {rest : List UInt16} (st : Utf16State)
    (stop : rest = [] ∨ ∃ junk, rest = 0 :: junk) : utf16Loop rest st = (true, st) := by
  cases stop with
  | inl empty => rw [empty, utf16Loop]
  | inr terminated =>
      obtain ⟨junk, rfl⟩ := terminated
      rw [utf16Loop, if_pos (Or.inl rfl)]

theorem Utf16State.bytes_length {codePoint room : Nat} {written : List UInt8}
    (out : bytes codePoint room = some written) : written.length ≤ room := by
  unfold bytes at out
  split_ifs at out with one two three four
  · obtain rfl := Option.some.inj out
    exact one.2
  · obtain rfl := Option.some.inj out
    exact two.2
  · obtain rfl := Option.some.inj out
    exact three.2
  · obtain rfl := Option.some.inj out
    exact four.2

theorem Utf16State.decode_frame {st next : Utf16State} {u : UInt16} (taken : st.decode u = some next) :
    next.utf8 = st.utf8 ∧ next.maxoutput = st.maxoutput := by
  unfold decode at taken
  split_ifs at taken
  · obtain rfl := Option.some.inj taken
    exact ⟨rfl, rfl⟩
  · obtain rfl := Option.some.inj taken
    exact ⟨rfl, rfl⟩
  · obtain rfl := Option.some.inj taken
    exact ⟨rfl, rfl⟩

theorem Utf16State.step_room {st next : Utf16State} {u : UInt16} (taken : st.step u = some next) :
    next.utf8.length + next.maxoutput = st.utf8.length + st.maxoutput := by
  obtain ⟨middle, decoded, out⟩ := Option.bind_eq_some_iff.mp taken
  obtain ⟨utf8, room⟩ := decode_frame decoded
  unfold output at out
  split_ifs at out with ready
  · obtain ⟨written, bytes, rfl⟩ := Option.map_eq_some_iff.mp out
    have fits := bytes_length bytes
    dsimp only
    rw [← utf8, ← room, List.length_append]
    omega
  · obtain rfl := Option.some.inj out
    rw [utf8, room]

theorem utf16Loop_room (units : List UInt16) (st : Utf16State) :
    (utf16Loop units st).2.utf8.length + (utf16Loop units st).2.maxoutput =
      st.utf8.length + st.maxoutput := by
  induction units generalizing st with
  | nil => rfl
  | cons u rest ih =>
      rw [utf16Loop]
      split_ifs
      · rfl
      · cases taken : st.step u with
        | none => rfl
        | some next =>
            dsimp only
            rw [ih, Utf16State.step_room taken]

theorem utf16ToUtf8_iff {text : List Char} (clear : ∀ c ∈ text, c.toNat ≠ 0) {rest : List UInt16}
    (stop : rest = [] ∨ ∃ junk, rest = 0 :: junk) (some : utf16Text text ++ rest ≠ []) (room : Nat) :
    utf16ToUtf8 (utf16Text text ++ rest) (room + 1) = (true, utf8Text text) ↔
      (utf8Text text).length ≤ room := by
  let start : Utf16State := ⟨0, true, room, []⟩
  have result : utf16ToUtf8 (utf16Text text ++ rest) (room + 1) =
      ((utf16Loop (utf16Text text ++ rest) start).1,
        (utf16Loop (utf16Text text ++ rest) start).2.utf8) := by
    rw [utf16ToUtf8, if_neg (by simp only [some, Nat.succ_ne_zero]; decide)]
    rfl
  rw [result]
  constructor
  · intro same
    have whole := utf16Loop_room (utf16Text text ++ rest) start
    rw [(Prod.mk.inj same).2] at whole
    have empty : start.utf8.length + start.maxoutput = room := Nat.zero_add room
    omega
  · intro fits
    rw [utf16Loop_text rfl text clear fits, utf16Loop_stopped _ stop, Utf16State.pushAll_utf8]
    rfl

def writeName (old : Vector UInt16 36) (units : List UInt16) : Vector UInt16 36 :=
  Vector.ofFn fun i => units.getD i.val old[i]

theorem writeName_getElem (old : Vector UInt16 36) (units : List UInt16) {i : Nat} (bound : i < 36) :
    (writeName old units)[i] = units.getD i old[i] :=
  Vector.getElem_ofFn bound

theorem writeName_toList (old : Vector UInt16 36) {units : List UInt16} (fits : units.length ≤ 36) :
    (writeName old units).toList = units ++ old.toList.drop units.length := by
  apply List.ext_getElem
  · simp only [Vector.length_toList, List.length_append, List.length_drop]
    omega
  · intro i bound _
    rw [Vector.length_toList] at bound
    rw [Vector.getElem_toList, writeName_getElem old units bound]
    by_cases written : i < units.length
    · rw [List.getElem_append_left written]
      exact (List.getElem_eq_getD _).symm
    · rw [List.getElem_append_right (by omega), List.getElem_drop, List.getD_eq_getElem?_getD,
        List.getElem?_eq_none (by omega), Option.getD_none]
      have index : units.length + (i - units.length) = i := by omega
      simp only [Vector.getElem_toList, index]

/-- What a label keeps of the given text: all of it, or the characters that fill 35 units. -/
structure Kept (label : List UInt8) (chars : List Char) (rest : List UInt8) : Prop where
  whole : label = utf8Text chars ++ rest
  fits : (utf16Text chars).length ≤ 35
  stop : rest = [] ∨ (utf16Text chars).length = 35

/-- A label is taken exactly when it has characters to keep, and these are read back into the
72 bytes that `cgpt find` and `cgpt show` have for them exactly when they leave one free. -/
theorem label_read_back {label : List UInt8} (text : ∀ u ∈ label, u ≠ 0) (old : Vector UInt16 36) :
    ((utf8ToUtf16 label 36).1 = true ↔ ∃ chars rest, Kept label chars rest) ∧
      ∀ chars rest, Kept label chars rest →
        (utf16ToUtf8 (writeName old (utf8ToUtf16 label 36).2).toList 72 = (true, utf8Text chars) ↔
          (utf8Text chars).length ≤ 71) := by
  have written : ∀ chars rest, Kept label chars rest →
      utf8ToUtf16 label 36 = (true, utf16Text chars ++ [0]) := fun chars rest kept =>
    (utf8ToUtf16_iff text 35 _).mpr ⟨chars, rest, kept.whole, kept.fits, kept.stop, rfl⟩
  constructor
  · constructor
    · intro taken
      obtain ⟨chars, rest, whole, fits, stop, -⟩ :=
        (utf8ToUtf16_iff text 35 (utf8ToUtf16 label 36).2).mp (Prod.ext taken rfl)
      exact ⟨chars, rest, whole, fits, stop⟩
    · rintro ⟨chars, rest, kept⟩
      rw [written chars rest kept]
  · intro chars rest kept
    have clear : ∀ c ∈ chars, c.toNat ≠ 0 := clear_of_bytes (kept.whole ▸ text)
    have length : (utf16Text chars ++ [0]).length ≤ 36 := by
      have fits := kept.fits
      rw [List.length_append, List.length_singleton]
      omega
    rw [written chars rest kept, writeName_toList old length, List.append_assoc]
    exact utf16ToUtf8_iff clear (Or.inr ⟨_, rfl⟩) (by simp) 71

theorem label_read_back_kern_a :
    ((utf8ToUtf16 [0x4b, 0x45, 0x52, 0x4e, 0x2d, 0x41] 36).1 = true ↔
      ∃ chars rest, Kept [0x4b, 0x45, 0x52, 0x4e, 0x2d, 0x41] chars rest) ∧
      ∀ chars rest, Kept [0x4b, 0x45, 0x52, 0x4e, 0x2d, 0x41] chars rest →
        (utf16ToUtf8 (writeName (Vector.replicate 36 0)
          (utf8ToUtf16 [0x4b, 0x45, 0x52, 0x4e, 0x2d, 0x41] 36).2).toList 72 =
            (true, utf8Text chars) ↔ (utf8Text chars).length ≤ 71) :=
  label_read_back (by simp) (Vector.replicate 36 0)

/-- Twenty-four characters of three bytes are taken and cannot be read back. -/
example : (utf8ToUtf16 (utf8Text (List.replicate 24 '\u4e2d')) 36).1 = true ∧
    (utf16ToUtf8 (utf16Text (List.replicate 24 '\u4e2d') ++ [0]) 72).1 = false := by
  decide +kernel

end A500cg.Gpt
