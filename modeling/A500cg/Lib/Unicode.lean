import A500cg.Lib.HexScan
import Mathlib.Tactic

/-! Text as code units: the UTF-16 units of a character beside its UTF-8 bytes, and the bit fields
of both as numbers. -/

namespace A500cg.Lib

def utf16Units (c : Char) : List UInt16 :=
  if c.toNat ≤ 0xFFFF then [UInt16.ofNat c.toNat]
  else [UInt16.ofNat (0xD800 + (c.toNat - 0x10000) / 0x400),
    UInt16.ofNat (0xDC00 + (c.toNat - 0x10000) % 0x400)]

def utf16Text (text : List Char) : List UInt16 := text.flatMap utf16Units

def utf8Text (text : List Char) : List UInt8 := text.flatMap String.utf8EncodeChar

@[simp] theorem utf16Text_cons (c : Char) (text : List Char) :
    utf16Text (c :: text) = utf16Units c ++ utf16Text text := rfl

@[simp] theorem utf8Text_cons (c : Char) (text : List Char) :
    utf8Text (c :: text) = String.utf8EncodeChar c ++ utf8Text text := rfl

theorem char_bounds (c : Char) :
    c.toNat ≤ 0xD7FF ∨ 0xE000 ≤ c.toNat ∧ c.toNat ≤ 0x10FFFF := by
  have valid : c.toNat < 0xd800 ∨ 0xdfff < c.toNat ∧ c.toNat < 0x110000 := c.valid
  omega

theorem exists_char {n : Nat} (scalar : n ≤ 0xD7FF ∨ 0xE000 ≤ n ∧ n ≤ 0x10FFFF) :
    ∃ c : Char, c.toNat = n := by
  have small : n < 2 ^ 32 := by omega
  have number : (UInt32.ofNat n).toNat = n := UInt32.toNat_ofNat_of_lt' small
  have valid : (UInt32.ofNat n).isValidChar := by
    change (UInt32.ofNat n).toNat.isValidChar
    rw [number]
    change n < 0xd800 ∨ 0xdfff < n ∧ n < 0x110000
    omega
  exact ⟨⟨UInt32.ofNat n, valid⟩, number⟩

theorem utf16Units_length_pos (c : Char) : 0 < (utf16Units c).length := by
  unfold utf16Units
  split
  · exact Nat.one_pos
  · exact Nat.two_pos

theorem utf8EncodeChar_one {c : Char} (range : c.toNat ≤ 0x7F) :
    String.utf8EncodeChar c = [UInt8.ofNat c.toNat] := if_pos range

theorem utf8EncodeChar_two {c : Char} (low : 0x80 ≤ c.toNat) (high : c.toNat ≤ 0x7FF) :
    String.utf8EncodeChar c =
      [UInt8.ofNat (c.toNat / 64 % 0x20 + 0xc0), UInt8.ofNat (c.toNat % 0x40 + 0x80)] := by
  have not_one : ¬ c.toNat ≤ 0x7F := by omega
  exact (if_neg not_one).trans (if_pos high)

theorem utf8EncodeChar_three {c : Char} (low : 0x800 ≤ c.toNat) (high : c.toNat ≤ 0xFFFF) :
    String.utf8EncodeChar c =
      [UInt8.ofNat (c.toNat / 4096 % 0x10 + 0xe0), UInt8.ofNat (c.toNat / 64 % 0x40 + 0x80),
        UInt8.ofNat (c.toNat % 0x40 + 0x80)] := by
  have not_one : ¬ c.toNat ≤ 0x7F := by omega
  have not_two : ¬ c.toNat ≤ 0x7FF := by omega
  exact (if_neg not_one).trans ((if_neg not_two).trans (if_pos high))

theorem utf8EncodeChar_four {c : Char} (low : 0x10000 ≤ c.toNat) :
    String.utf8EncodeChar c =
      [UInt8.ofNat (c.toNat / 262144 % 0x08 + 0xf0),
        UInt8.ofNat (c.toNat / 4096 % 0x40 + 0x80), UInt8.ofNat (c.toNat / 64 % 0x40 + 0x80),
        UInt8.ofNat (c.toNat % 0x40 + 0x80)] := by
  have not_one : ¬ c.toNat ≤ 0x7F := by omega
  have not_two : ¬ c.toNat ≤ 0x7FF := by omega
  have not_three : ¬ c.toNat ≤ 0xFFFF := by omega
  exact (if_neg not_one).trans ((if_neg not_two).trans (if_neg not_three))

theorem utf16Units_one {c : Char} (range : c.toNat ≤ 0xFFFF) :
    utf16Units c = [UInt16.ofNat c.toNat] := if_pos range

theorem utf16Units_two {c : Char} (low : 0x10000 ≤ c.toNat) :
    utf16Units c = [UInt16.ofNat (0xD800 + (c.toNat - 0x10000) / 0x400),
      UInt16.ofNat (0xDC00 + (c.toNat - 0x10000) % 0x400)] := by
  have not_one : ¬ c.toNat ≤ 0xFFFF := by omega
  exact if_neg not_one

theorem low_bits (n k : Nat) : n &&& (2 ^ k - 1) = n % 2 ^ k := Nat.and_two_pow_sub_one_eq_mod n k

theorem or_field {low k : Nat} (high : Nat) (bound : low < 2 ^ k) :
    2 ^ k * high ||| low = 2 ^ k * high + low := (Nat.two_pow_add_eq_or_of_lt bound high).symm

theorem byte_low_bits (u mask : UInt8) (k : Nat) (low : mask.toNat = 2 ^ k - 1) :
    (u &&& mask).toNat = u.toNat % 2 ^ k := by
  rw [UInt8.toNat_and, low, low_bits]

theorem trailing_byte_iff (u : UInt8) :
    u &&& 0xC0 = 0x80 ↔ 0x80 ≤ u.toNat ∧ u.toNat ≤ 0xBF := by
  revert u
  apply forall_byte
  decide +kernel

end A500cg.Lib
