import Mathlib.Data.List.DropRight
import Mathlib.Data.List.TakeWhile
import Mathlib.Tactic

/-! `strtok_r` with one separator, and the conversion `%x` of `sscanf`. -/

namespace A500cg.Lib

def cText (buf : List UInt8) : List UInt8 := buf.takeWhile (· ≠ 0)

/-- What the calls of `strtok_r` return, in turn. -/
def strtokAll (sep : UInt8) (text : List UInt8) : List (List UInt8) :=
  (text.splitOn sep).filter (· ≠ [])

/-- `isspace` in the C locale. -/
def isBlank (c : UInt8) : Bool := c == 0x20 || (0x09 ≤ c && c ≤ 0x0D)

def hexDigit (c : UInt8) : Option Nat :=
  if 0x30 ≤ c ∧ c ≤ 0x39 then some (c.toNat - 0x30)
  else if 0x41 ≤ c ∧ c ≤ 0x46 then some (c.toNat - 0x41 + 10)
  else if 0x61 ≤ c ∧ c ≤ 0x66 then some (c.toNat - 0x61 + 10)
  else none

def hexNumber (digits : List UInt8) : Nat :=
  digits.foldl (fun n c => 16 * n + (hexDigit c).getD 0) 0

inductive HexScan where
  | eof
  | noMatch
  | value (n : UInt32)
  deriving DecidableEq, Repr

def hexSign : List UInt8 → Bool × List UInt8
  | 0x2D :: rest => (true, rest)
  | 0x2B :: rest => (false, rest)
  | rest => (false, rest)

/-- The digits of the subject sequence behind an optional `0x`. -/
def hexDigits : List UInt8 → List UInt8
  | 0x30 :: 0x78 :: rest => rest.takeWhile (hexDigit · |>.isSome)
  | 0x30 :: 0x58 :: rest => rest.takeWhile (hexDigit · |>.isSome)
  | rest => rest.takeWhile (hexDigit · |>.isSome)

/-- `strtoumax` stays at its maximum when the number is too large, and negates it for a minus;
the result is stored to an `unsigned int`. -/
def hexResult (negative : Bool) (n : Nat) : UInt32 :=
  if n ≥ 2 ^ 64 then 0xFFFFFFFF
  else if negative then 0 - UInt32.ofNat n
  else UInt32.ofNat n

def scanHex (token : List UInt8) : HexScan :=
  let subject := token.dropWhile isBlank
  if subject = [] then .eof
  else
    let (negative, rest) := hexSign subject
    let digits := hexDigits rest
    if digits = [] then .noMatch else .value (hexResult negative (hexNumber digits))

theorem scanHex_eof_iff (token : List UInt8) :
    scanHex token = .eof ↔ ∀ c ∈ token, isBlank c = true := by
  rw [← List.dropWhile_eq_nil_iff, scanHex]
  constructor
  · intro ended
    by_cases blank : token.dropWhile isBlank = []
    · exact blank
    · rw [if_neg blank] at ended
      simp only at ended
      split at ended <;> cases ended
  · intro blank
    rw [if_pos blank]

theorem forall_byte {p : UInt8 → Prop} (each : ∀ n < 256, p (UInt8.ofNat n)) (byte : UInt8) :
    p byte := by
  have here := each byte.toNat byte.toNat_lt
  rwa [UInt8.ofNat_toNat] at here

theorem hexDigit_lt {c : UInt8} {n : Nat} (digit : hexDigit c = some n) : n < 16 := by
  have all : ∀ c : UInt8, ∀ n ∈ hexDigit c, n < 16 := forall_byte (by decide +kernel)
  exact all c n digit

theorem hexDigit_plain {c : UInt8} (digit : (hexDigit c).isSome = true) :
    c ≠ 0 ∧ isBlank c = false ∧ c ≠ 0x2D ∧ c ≠ 0x2B ∧ c ≠ 0x78 ∧ c ≠ 0x58 := by
  have all : ∀ c : UInt8, (hexDigit c).isSome = true →
      c ≠ 0 ∧ isBlank c = false ∧ c ≠ 0x2D ∧ c ≠ 0x2B ∧ c ≠ 0x78 ∧ c ≠ 0x58 :=
    forall_byte (by decide +kernel)
  exact all c digit

def unprefixed : List UInt8 → List UInt8
  | 0x30 :: 0x78 :: rest => rest
  | 0x30 :: 0x58 :: rest => rest
  | rest => rest

/-- The number that a text is: hexadecimal digits only, but for white space around them and a
`0x` in front. -/
def hexValue (token : List UInt8) : Option Nat :=
  let digits := unprefixed ((token.dropWhile isBlank).rdropWhile isBlank)
  if digits ≠ [] ∧ digits.all (hexDigit · |>.isSome) then some (hexNumber digits) else none

theorem hexDigits_eq (text : List UInt8) :
    hexDigits text = (unprefixed text).takeWhile (hexDigit · |>.isSome) := by
  unfold hexDigits unprefixed
  split <;> rfl

theorem hexSign_of_digit {c : UInt8} {rest : List UInt8} (digit : (hexDigit c).isSome = true) :
    hexSign (c :: rest) = (false, c :: rest) := by
  obtain ⟨_, _, minus, plus, _, _⟩ := hexDigit_plain digit
  rw [hexSign.eq_3] <;> intro rest same <;> cases same <;> contradiction

theorem unprefixed_append {text tail : List UInt8} (more : text ≠ [])
    (blank : ∀ c ∈ tail, isBlank c = true) :
    unprefixed (text ++ tail) = unprefixed text ++ tail := by
  have lower : isBlank 0x78 = false := by decide
  have upper : isBlank 0x58 = false := by decide
  match text, more with
  | [c], _ =>
      cases tail with
      | nil => simp
      | cons d rest =>
          have here := blank d List.mem_cons_self
          have single : unprefixed [c] = [c] := by rw [unprefixed.eq_3] <;> exact nofun
          rw [single, List.singleton_append, unprefixed.eq_3]
          · rintro rest same
            cases same
            simp [lower] at here
          · rintro rest same
            cases same
            simp [upper] at here
  | c :: d :: rest, _ =>
      simp only [List.cons_append]
      unfold unprefixed
      split <;> simp_all

theorem head_of_unprefixed {c : UInt8} {rest : List UInt8}
    (digits : ∀ d ∈ unprefixed (c :: rest), (hexDigit d).isSome = true) :
    (hexDigit c).isSome = true := by
  unfold unprefixed at digits
  split at digits
  · rename_i same
    cases same
    rfl
  · rename_i same
    cases same
    rfl
  · exact digits c List.mem_cons_self

theorem scanHex_of_subject {token text tail : List UInt8}
    (subject : token.dropWhile isBlank = text ++ tail) (more : unprefixed text ≠ [])
    (digits : ∀ c ∈ unprefixed text, (hexDigit c).isSome = true)
    (blank : ∀ c ∈ tail, isBlank c = true) (small : hexNumber (unprefixed text) < 2 ^ 32) :
    scanHex token = .value (UInt32.ofNat (hexNumber (unprefixed text))) := by
  have ends : tail.takeWhile (hexDigit · |>.isSome) = [] := by
    cases tail with
    | nil => rfl
    | cons d later =>
        have here := blank d List.mem_cons_self
        refine List.takeWhile_cons_of_neg fun digit => ?_
        rw [(hexDigit_plain digit).2.1] at here
        cases here
  cases text with
  | nil => exact absurd rfl more
  | cons c rest =>
      have sign := @hexSign_of_digit c (rest ++ tail) (head_of_unprefixed digits)
      have read : hexDigits (c :: rest ++ tail) = unprefixed (c :: rest) := by
        rw [hexDigits_eq, unprefixed_append (List.cons_ne_nil _ _) blank,
          List.takeWhile_append_of_pos digits, ends, List.append_nil]
      rw [List.cons_append] at read subject
      simp only [scanHex, subject, sign, read, hexResult]
      rw [if_neg (List.cons_ne_nil _ _), if_neg more, if_neg (by omega), if_neg (by simp)]

theorem scanHex_of_hexValue {token : List UInt8} {n : Nat} (value : hexValue token = some n)
    (small : n < 2 ^ 32) : scanHex token = .value (UInt32.ofNat n) := by
  rw [hexValue] at value
  split at value
  · rename_i number
    cases value
    exact scanHex_of_subject List.rdropWhile_append_rtakeWhile.symm number.1 (List.all_eq_true.mp number.2)
      (fun _ member => List.mem_rtakeWhile_imp member) small
  · cases value

theorem scanHex_pair {first second : UInt8} {high low : Nat} (digit : hexDigit first = some high)
    (digit' : hexDigit second = some low) :
    scanHex [first, second] = .value (UInt32.ofNat (16 * high + low)) := by
  have some : (hexDigit first).isSome = true := by rw [digit]; rfl
  have some' : (hexDigit second).isSome = true := by rw [digit']; rfl
  obtain ⟨_, blank, minus, plus, _, _⟩ := hexDigit_plain some
  obtain ⟨_, _, _, _, lower, upper⟩ := hexDigit_plain some'
  have small := hexDigit_lt digit
  have small' := hexDigit_lt digit'
  have subject : [first, second].dropWhile isBlank = [first, second] := by
    rw [List.dropWhile_cons_of_neg (by simp [blank])]
  have sign : hexSign [first, second] = (false, [first, second]) := by
    rw [hexSign.eq_3] <;> intro rest same <;> cases same <;> contradiction
  have digits : hexDigits [first, second] = [first, second] := by
    rw [hexDigits.eq_3]
    · simp [some, some']
    all_goals intro rest same; cases same; contradiction
  have number : hexNumber [first, second] = 16 * high + low := by
    simp [hexNumber, digit, digit']
  simp only [scanHex, subject, sign, digits, number, hexResult]
  rw [if_neg (by simp), if_neg (by simp), if_neg (by omega), if_neg (by simp)]

end A500cg.Lib
