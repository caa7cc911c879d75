import A500cg.Lib.Words

/-! The checksums of a boot partition, `flash_scu_emmc/ifwi.c`.

Three layers of XOR are stored inside the area they cover: one word for each
sector of the UMIP, one byte for the UMIP, one word for the whole partition. -/

namespace A500cg.Umip

open Lib

def BOOT_IFWI_SIZE : Nat := 0x400000
def BOOT_UMIP_SIZE : Nat := 0x10000
def BOOT_UMIP_SECTOR_SIZE : Nat := 0x200
def BOOT_UMIP_XOR_OFFSET : Nat := 0x7
def BOOT_IFWI_XOR_OFFSET : Nat := 0x0112d8

def xorCompute (ptr : Buffer) (offset size : Nat) : UInt32 :=
  xorRange (words ptr offset) ((size + 3) / 4)

def xorFactorize (xor : UInt32) : UInt8 :=
  let low (word : UInt32) : UInt32 := word &&& 0xff
  (low xor ^^^ low (xor >>> 8) ^^^ low (xor >>> 16) ^^^ low (xor >>> 24)).toUInt8

/-- The body of the loop of `xor_update` over the sectors. -/
def updateSector (ptr : Buffer) (i : Nat) : Buffer :=
  store32 ptr (4 * i) (xorCompute ptr (i * BOOT_UMIP_SECTOR_SIZE) BOOT_UMIP_SECTOR_SIZE)

def updateSectors (ptr : Buffer) : Buffer := (List.range' 2 126).foldl updateSector ptr

def updateUmipXor (ptr : Buffer) : Buffer :=
  let ptr := Function.update ptr BOOT_UMIP_XOR_OFFSET 0
  Function.update ptr BOOT_UMIP_XOR_OFFSET (xorFactorize (xorCompute ptr 0 BOOT_UMIP_SIZE))

def updateIfwiXor (ptr : Buffer) : Buffer :=
  let ptr := store32 ptr BOOT_IFWI_XOR_OFFSET 0
  store32 ptr BOOT_IFWI_XOR_OFFSET (xorCompute ptr 0 BOOT_IFWI_SIZE)

def xorUpdate (ptr : Buffer) : Buffer := updateIfwiXor (updateUmipXor (updateSectors ptr))

structure Balanced (ptr : Buffer) : Prop where
  sectors : ∀ i, 2 ≤ i → i < 128 → le32 ptr (4 * i) = xorRange (words ptr (512 * i)) 128
  umip : xorRange ptr 0x10000 = 0
  ifwi : xorRange (words ptr 0) 0x100000 = 0

/-- The bytes `xor_update` may store to. -/
def ChecksumByte (a : Nat) : Prop :=
  (∃ i, 2 ≤ i ∧ i < 128 ∧ 4 * i ≤ a ∧ a < 4 * i + 4) ∨ a = 7 ∨ (0x112d8 ≤ a ∧ a < 0x112dc)

theorem xorFactorize_eq (xor : UInt32) : xorFactorize xor = foldWord xor := by
  have mask : (0xff : UInt32).toUInt8 = -1 := by decide
  simp only [xorFactorize, foldWord]
  rw [leByte_shiftRight _ 0 (by decide), leByte_shiftRight _ 1 (by decide),
    leByte_shiftRight _ 2 (by decide), leByte_shiftRight _ 3 (by decide)]
  simp only [UInt32.toUInt8_xor, UInt32.toUInt8_and, mask, UInt8.and_neg_one]
  have zero : xor >>> UInt32.ofNat (8 * 0) = xor := UInt32.shiftRight_zero
  rw [zero]
  rfl

private theorem updateSectors_first (ptr : Buffer) (n : Nat) (few : n ≤ 126) :
    (∀ a, a < 8 ∨ 8 + 4 * n ≤ a → (List.range' 2 n).foldl updateSector ptr a = ptr a) ∧
    ∀ i, 2 ≤ i → i < 2 + n → le32 ((List.range' 2 n).foldl updateSector ptr) (4 * i) =
      xorRange (words ptr (512 * i)) 128 := by
  induction n with
  | zero => exact ⟨fun a _ => rfl, fun i lower upper => by omega⟩
  | succ n ih =>
      rcases ih (by omega) with ⟨frame, cells⟩
      rw [List.range'_concat, List.foldl_append]
      change (∀ a, a < 8 ∨ 8 + 4 * (n + 1) ≤ a → updateSector _ (2 + 1 * n) a = ptr a) ∧
        ∀ i, 2 ≤ i → i < 2 + (n + 1) → le32 (updateSector _ (2 + 1 * n)) (4 * i) = _
      rw [Nat.one_mul]
      generalize (List.range' 2 n).foldl updateSector ptr = done at frame cells
      have sum : xorCompute done ((2 + n) * BOOT_UMIP_SECTOR_SIZE) BOOT_UMIP_SECTOR_SIZE =
          xorRange (words ptr (512 * (2 + n))) 128 := by
        change xorRange (words done ((2 + n) * 512)) 128 = _
        rw [Nat.mul_comm]
        apply xorRange_congr
        intro k bound
        refine words_congr _ _ _ 128 ?_ k bound
        intro a lower _
        exact frame a (by omega)
      constructor
      · intro a outside
        rw [updateSector, store32_outside _ _ _ _ (by omega)]
        exact frame a (by omega)
      · intro i lower upper
        by_cases last : i = 2 + n
        · rw [last, updateSector, le32_store32_self, sum]
        · rw [updateSector, le32_store32_outside _ _ _ _ (by omega)]
          exact cells i lower (by omega)

theorem updateSectors_cells (ptr : Buffer) (i : Nat) (lower : 2 ≤ i) (upper : i < 128) :
    le32 (updateSectors ptr) (4 * i) = xorRange (words ptr (512 * i)) 128 :=
  (updateSectors_first ptr 126 (le_refl _)).2 i lower (by omega)

theorem updateSectors_outside (ptr : Buffer) (a : Nat) (outside : a < 8 ∨ 512 ≤ a) :
    updateSectors ptr a = ptr a :=
  (updateSectors_first ptr 126 (le_refl _)).1 a (by omega)

theorem updateUmipXor_outside (ptr : Buffer) (a : Nat) (outside : a ≠ 7) :
    updateUmipXor ptr a = ptr a := by
  have other : a ≠ BOOT_UMIP_XOR_OFFSET := outside
  rw [updateUmipXor, Function.update_of_ne other, Function.update_of_ne other]

theorem updateIfwiXor_outside (ptr : Buffer) (a : Nat) (outside : a < 0x112d8 ∨ 0x112dc ≤ a) :
    updateIfwiXor ptr a = ptr a := by
  have other : a < BOOT_IFWI_XOR_OFFSET ∨ BOOT_IFWI_XOR_OFFSET + 4 ≤ a := outside
  rw [updateIfwiXor, store32_outside _ _ _ _ other, store32_outside _ _ _ _ other]

theorem updateUmipXor_balanced (ptr : Buffer) : xorRange (updateUmipXor ptr) 0x10000 = 0 := by
  have folded (buf : Buffer) : xorFactorize (xorCompute buf 0 BOOT_UMIP_SIZE) =
      xorRange buf 0x10000 := by
    rw [xorFactorize_eq]
    exact foldWord_xorRange buf 0x4000
  unfold updateUmipXor
  simp only
  rw [folded, Function.update_idem]
  exact xorRange_balanced ptr 0x10000 7 (by decide)

theorem updateIfwiXor_balanced (ptr : Buffer) :
    xorRange (words (updateIfwiXor ptr) 0) 0x100000 = 0 :=
  xorRange_words_balanced ptr 0x44b6 0x100000 (by decide)

theorem xorUpdate_balanced (ptr : Buffer) : Balanced (xorUpdate ptr) := by
  constructor
  · intro i lower upper
    have cell : le32 (xorUpdate ptr) (4 * i) = le32 (updateSectors ptr) (4 * i) := by
      apply le32_congr
      intro k bound
      rw [xorUpdate, updateIfwiXor_outside _ _ (by omega), updateUmipXor_outside _ _ (by omega)]
    rw [cell, updateSectors_cells ptr i lower upper]
    apply xorRange_congr
    intro k bound
    refine words_congr _ _ _ 128 ?_ k bound
    intro a start stop
    rw [xorUpdate, updateIfwiXor_outside _ _ (by omega), updateUmipXor_outside _ _ (by omega),
      updateSectors_outside _ _ (by omega)]
  · rw [← updateUmipXor_balanced (updateSectors ptr)]
    apply xorRange_congr
    intro a bound
    rw [xorUpdate, updateIfwiXor_outside _ _ (by omega)]
  · exact updateIfwiXor_balanced _

theorem xorUpdate_outside (ptr : Buffer) (a : Nat) (outside : ¬ ChecksumByte a) :
    xorUpdate ptr a = ptr a := by
  have cells : ¬ (8 ≤ a ∧ a < 512) := by
    intro inside
    exact outside (.inl ⟨a / 4, by omega, by omega, by omega, by omega⟩)
  have byte : a ≠ 7 := fun same => outside (.inr (.inl same))
  have word : ¬ (0x112d8 ≤ a ∧ a < 0x112dc) := fun inside => outside (.inr (.inr inside))
  rw [xorUpdate, updateIfwiXor_outside _ _ (by omega), updateUmipXor_outside _ _ byte,
    updateSectors_outside _ _ (by omega)]

end A500cg.Umip
