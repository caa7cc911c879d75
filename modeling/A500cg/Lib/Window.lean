import A500cg.Lib.Files
import A500cg.Lib.Scan

/-! A search for four bytes by a 32-bit window that takes in one byte after the other. -/

namespace A500cg.Lib

def shiftIn (window : UInt32) (byte : UInt8) : UInt32 := window <<< 8 ||| byte.toUInt32

def be32 (buf : Buffer) (offset : Nat) : UInt32 :=
  UInt32.ofNat (16777216 * (buf offset).toNat + 65536 * (buf (offset + 1)).toNat +
    256 * (buf (offset + 2)).toNat + (buf (offset + 3)).toNat)

/-- The `n` bytes from `start` on as one big-endian number. -/
def beNumber (buf : Buffer) (start : Nat) : Nat → Nat
  | 0 => 0
  | n + 1 => 256 * beNumber buf start n + (buf (start + n)).toNat

theorem shiftIn_toNat (window : UInt32) (byte : UInt8) :
    (shiftIn window byte).toNat = (256 * window.toNat + byte.toNat) % 2 ^ 32 := by
  have small : byte.toNat < 2 ^ 8 := byte.toNat_lt
  have shifted : (window <<< 8).toNat = 2 ^ 8 * (window.toNat % 2 ^ 24) := by
    have bound := window.toNat_lt
    have value : (window <<< 8).toNat = window.toNat <<< 8 % 2 ^ 32 := UInt32.toNat_shiftLeft ..
    rw [value, Nat.shiftLeft_eq]
    omega
  have widened : byte.toUInt32.toNat = byte.toNat := UInt8.toNat_toUInt32 byte
  calc
    (shiftIn window byte).toNat = 2 ^ 8 * (window.toNat % 2 ^ 24) ||| byte.toNat := by
      rw [shiftIn, UInt32.toNat_or, shifted, widened]
    _ = 2 ^ 8 * (window.toNat % 2 ^ 24) + byte.toNat :=
      (Nat.two_pow_add_eq_or_of_lt small _).symm
    _ = (256 * window.toNat + byte.toNat) % 2 ^ 32 := by omega

theorem beNumber_lt (buf : Buffer) (start n : Nat) : beNumber buf start n < 256 ^ n := by
  induction n with
  | zero => simp [beNumber]
  | succ n ih =>
      have byte := (buf (start + n)).toNat_lt
      rw [beNumber, Nat.pow_succ]
      omega

theorem beNumber_add_four (buf : Buffer) (start n : Nat) :
    beNumber buf start (n + 4) = 2 ^ 32 * beNumber buf start n + (be32 buf (start + n)).toNat := by
  have b0 := (buf (start + n)).toNat_lt
  have b1 := (buf (start + n + 1)).toNat_lt
  have b2 := (buf (start + n + 2)).toNat_lt
  have b3 := (buf (start + n + 3)).toNat_lt
  rw [be32, UInt32.toNat_ofNat', Nat.mod_eq_of_lt (by omega)]
  simp only [beNumber, ← Nat.add_assoc]
  omega

theorem shiftIn_taken {buf : Buffer} {start n : Nat} {window : UInt32}
    (taken : window.toNat = beNumber buf start n % 2 ^ 32) :
    (shiftIn window (buf (start + n))).toNat = beNumber buf start (n + 1) % 2 ^ 32 := by
  rw [shiftIn_toNat, taken, beNumber]
  omega

/-- A window that has taken in `n` bytes since it was 0 shows a pattern exactly when the last
four of them spell it; a pattern whose first byte is not 0 needs all four. -/
theorem window_eq_iff {buf : Buffer} {start n : Nat} {window pattern : UInt32}
    (taken : window.toNat = beNumber buf start n % 2 ^ 32) (wide : 2 ^ 24 ≤ pattern.toNat) :
    window = pattern ↔ 4 ≤ n ∧ be32 buf (start + n - 4) = pattern := by
  by_cases few : n < 4
  · have below := beNumber_lt buf start n
    have bound : 256 ^ n ≤ 256 ^ 3 := Nat.pow_le_pow_right (by decide) (by omega)
    refine iff_of_false (fun same => ?_) (fun enough => by omega)
    rw [← same, taken] at wide
    omega
  · obtain ⟨m, rfl⟩ : ∃ m, n = m + 4 := ⟨n - 4, by omega⟩
    have value : window = be32 buf (start + m) := by
      apply UInt32.toNat_inj.mp
      have bound := (be32 buf (start + m)).toNat_lt
      rw [taken, beNumber_add_four]
      omega
    have back : start + (m + 4) - 4 = start + m := by omega
    rw [back, value]
    exact ⟨fun same => ⟨by omega, same⟩, fun both => both.2⟩

end A500cg.Lib
