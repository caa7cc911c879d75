import Mathlib.Data.LawfulXor.Basic
import Mathlib.Data.UInt
import Mathlib.Tactic

/-! Byte buffers read as little-endian words, and XOR checksums over a range.

A buffer is a function from offsets to bytes, the contents of memory from some
pointer on. Words are assembled through `Nat`, so that round trips reduce to
linear arithmetic. -/

namespace A500cg.Lib

abbrev Buffer := Nat → UInt8

/-- Byte `k` of the little-endian form of `n`. -/
def leByte (n k : Nat) : UInt8 := UInt8.ofNat (n / 256 ^ k)

def le16 (buf : Buffer) (offset : Nat) : UInt16 :=
  UInt16.ofNat ((buf offset).toNat + 256 * (buf (offset + 1)).toNat)

def le32 (buf : Buffer) (offset : Nat) : UInt32 :=
  UInt32.ofNat ((buf offset).toNat + 256 * (buf (offset + 1)).toNat +
    65536 * (buf (offset + 2)).toNat + 16777216 * (buf (offset + 3)).toNat)

theorem leByte_toNat (n k : Nat) : (leByte n k).toNat = n / 256 ^ k % 256 := by
  simp [leByte]

theorem le16_toNat (buf : Buffer) (offset : Nat) :
    (le16 buf offset).toNat = (buf offset).toNat + 256 * (buf (offset + 1)).toNat := by
  have low := (buf offset).toNat_lt
  have high := (buf (offset + 1)).toNat_lt
  simp only [le16, UInt16.toNat_ofNat']
  omega

theorem le32_toNat (buf : Buffer) (offset : Nat) :
    (le32 buf offset).toNat = (buf offset).toNat + 256 * (buf (offset + 1)).toNat +
      65536 * (buf (offset + 2)).toNat + 16777216 * (buf (offset + 3)).toNat := by
  have b0 := (buf offset).toNat_lt
  have b1 := (buf (offset + 1)).toNat_lt
  have b2 := (buf (offset + 2)).toNat_lt
  have b3 := (buf (offset + 3)).toNat_lt
  simp only [le32, UInt32.toNat_ofNat']
  omega

theorem le32_congr (first second : Buffer) (i j : Nat)
    (agree : ∀ k < 4, first (i + k) = second (j + k)) : le32 first i = le32 second j := by
  have h0 := agree 0 (by decide)
  have h1 := agree 1 (by decide)
  have h2 := agree 2 (by decide)
  have h3 := agree 3 (by decide)
  simp only [Nat.add_zero] at h0
  simp only [le32, h0, h1, h2, h3]

theorem le16_congr (first second : Buffer) (i j : Nat)
    (agree : ∀ k < 2, first (i + k) = second (j + k)) : le16 first i = le16 second j := by
  have h0 := agree 0 (by decide)
  have h1 := agree 1 (by decide)
  rw [Nat.add_zero, Nat.add_zero] at h0
  rw [le16, le16, h0, h1]

theorem le16_leByte (word : UInt16) (buf : Buffer) (offset : Nat)
    (bytes : ∀ k < 2, buf (offset + k) = leByte word.toNat k) : le16 buf offset = word := by
  have h0 := bytes 0 (by decide)
  have h1 := bytes 1 (by decide)
  have bound := word.toNat_lt
  rw [Nat.add_zero] at h0
  apply UInt16.toNat_inj.mp
  rw [le16_toNat, h0, h1, leByte_toNat, leByte_toNat]
  norm_num
  omega

theorem le32_leByte (word : UInt32) (buf : Buffer) (offset : Nat)
    (bytes : ∀ k < 4, buf (offset + k) = leByte word.toNat k) : le32 buf offset = word := by
  have h0 := bytes 0 (by decide)
  have h1 := bytes 1 (by decide)
  have h2 := bytes 2 (by decide)
  have h3 := bytes 3 (by decide)
  have bound := word.toNat_lt
  rw [Nat.add_zero] at h0
  apply UInt32.toNat_inj.mp
  rw [le32_toNat, h0, h1, h2, h3]
  simp only [leByte_toNat]
  norm_num
  omega

theorem leByte_le16 (buf : Buffer) (offset k : Nat) (bound : k < 2) :
    leByte (le16 buf offset).toNat k = buf (offset + k) := by
  have b0 := (buf offset).toNat_lt
  have b1 := (buf (offset + 1)).toNat_lt
  apply UInt8.toNat_inj.mp
  rw [leByte_toNat, le16_toNat]
  interval_cases k
  · norm_num
  · norm_num
    omega

theorem leByte_le32 (buf : Buffer) (offset k : Nat) (bound : k < 4) :
    leByte (le32 buf offset).toNat k = buf (offset + k) := by
  have b0 := (buf offset).toNat_lt
  have b1 := (buf (offset + 1)).toNat_lt
  have b2 := (buf (offset + 2)).toNat_lt
  have b3 := (buf (offset + 3)).toNat_lt
  apply UInt8.toNat_inj.mp
  rw [leByte_toNat, le32_toNat]
  interval_cases k <;> norm_num <;> omega

section Xor

variable {α : Type} [XorOp α] [Zero α]

def xorRange (f : Nat → α) : Nat → α
  | 0 => 0
  | n + 1 => xorRange f n ^^^ f n

theorem xorRange_congr (f g : Nat → α) (n : Nat) (agree : ∀ i < n, f i = g i) :
    xorRange f n = xorRange g n := by
  induction n with
  | zero => rfl
  | succ n ih =>
      simp only [xorRange]
      rw [ih (fun i bound => agree i (by omega)), agree n (by omega)]

variable [LawfulXor α]

theorem xorRange_add (f : Nat → α) (m n : Nat) :
    xorRange f (m + n) = xorRange f m ^^^ xorRange (fun i => f (m + i)) n := by
  induction n with
  | zero => simp [xorRange]
  | succ n ih =>
      change xorRange f (m + n) ^^^ f (m + n) = _
      rw [ih, LawfulXor.xor_assoc]
      rfl

theorem xorRange_zero (f : Nat → α) (n : Nat) (zeros : ∀ i < n, f i = 0) :
    xorRange f n = 0 := by
  induction n with
  | zero => rfl
  | succ n ih =>
      simp only [xorRange]
      rw [ih (fun i bound => zeros i (by omega)), zeros n (by omega), xor_zero]

theorem xorRange_const (value : α) (n : Nat) : xorRange (fun _ => value) (2 * n) = 0 := by
  induction n with
  | zero => rfl
  | succ n ih =>
      change xorRange (fun _ => value) (2 * n) ^^^ value ^^^ value = 0
      rw [ih, xor_cancel_right]

theorem xorRange_update (f : Nat → α) (n k : Nat) (value : α) (inside : k < n) :
    xorRange (Function.update f k value) n = xorRange f n ^^^ f k ^^^ value := by
  induction n with
  | zero => omega
  | succ n ih =>
      simp only [xorRange]
      by_cases last : k = n
      · subst last
        rw [Function.update_self, xor_cancel_right]
        congr 1
        exact xorRange_congr _ _ _ (fun i bound => Function.update_of_ne (by omega) _ _)
      · rw [ih (by omega), Function.update_of_ne (Ne.symm last)]
        calc xorRange f n ^^^ f k ^^^ value ^^^ f n
            = xorRange f n ^^^ (f k ^^^ value ^^^ f n) := by simp only [LawfulXor.xor_assoc]
          _ = xorRange f n ^^^ (f n ^^^ (f k ^^^ value)) := by rw [LawfulXor.xor_comm (f n)]
          _ = xorRange f n ^^^ f n ^^^ f k ^^^ value := by simp only [LawfulXor.xor_assoc]

theorem xorRange_balanced (f : Nat → α) (n k : Nat) (inside : k < n) :
    xorRange (Function.update f k (xorRange (Function.update f k 0) n)) n = 0 := by
  have cleared := xorRange_update f n k 0 inside
  have filled := xorRange_update f n k (xorRange (Function.update f k 0) n) inside
  rw [filled, cleared, xor_zero, LawfulXor.xor_self]

end Xor

end A500cg.Lib
