import A500cg.Lib.WriteLog

/-! A buffer read as little-endian 32-bit words, and how the XOR of its words
folds to the XOR of its bytes. -/

namespace A500cg.Lib

def store32 (buf : Buffer) (offset : Nat) (word : UInt32) : Buffer :=
  overlay buf offset 4 (leByte word.toNat)

theorem store32_outside (buf : Buffer) (offset : Nat) (word : UInt32) (a : Nat)
    (outside : a < offset ∨ offset + 4 ≤ a) : store32 buf offset word a = buf a :=
  overlay_outside _ _ _ _ _ outside

theorem le32_store32_self (buf : Buffer) (offset : Nat) (word : UInt32) :
    le32 (store32 buf offset word) offset = word :=
  le32_leByte word _ _ (fun k bound => overlay_inside _ _ _ _ k bound)

theorem le32_store32_outside (buf : Buffer) (offset other : Nat) (word : UInt32)
    (apart : other + 4 ≤ offset ∨ offset + 4 ≤ other) :
    le32 (store32 buf offset word) other = le32 buf other := by
  apply le32_congr
  intro k bound
  exact store32_outside _ _ _ _ (by omega)

/-- The words of a buffer from `offset` on. -/
def words (buf : Buffer) (offset : Nat) : Nat → UInt32 := fun k => le32 buf (offset + 4 * k)

theorem words_congr (first second : Buffer) (offset n : Nat)
    (agree : ∀ a, offset ≤ a → a < offset + 4 * n → first a = second a) (k : Nat) (bound : k < n) :
    words first offset k = words second offset k := by
  apply le32_congr
  intro j small
  exact agree _ (by omega) (by omega)

theorem words_store32 (buf : Buffer) (cell : Nat) (word : UInt32) :
    words (store32 buf (4 * cell) word) 0 = Function.update (words buf 0) cell word := by
  funext k
  unfold words
  rw [Nat.zero_add]
  by_cases same : k = cell
  · rw [same, le32_store32_self, Function.update_self]
  · rw [le32_store32_outside _ _ _ _ (by omega), Function.update_of_ne same, Nat.zero_add]

theorem xorRange_words_balanced (buf : Buffer) (cell n : Nat) (inside : cell < n) :
    xorRange (words (store32 (store32 buf (4 * cell) 0) (4 * cell)
      (xorRange (words (store32 buf (4 * cell) 0) 0) n)) 0) n = 0 := by
  rw [words_store32, words_store32, Function.update_idem]
  exact xorRange_balanced (words buf 0) n cell inside

def foldWord (word : UInt32) : UInt8 :=
  leByte word.toNat 0 ^^^ leByte word.toNat 1 ^^^ leByte word.toNat 2 ^^^ leByte word.toNat 3

theorem leByte_shiftRight (word : UInt32) (k : Nat) (small : k < 4) :
    leByte word.toNat k = (word >>> UInt32.ofNat (8 * k)).toUInt8 := by
  apply UInt8.toNat_inj.mp
  have shift : (UInt32.ofNat (8 * k)).toNat % 32 = 8 * k := by
    rw [UInt32.toNat_ofNat']
    omega
  have power : 2 ^ (8 * k) = 256 ^ k := by rw [Nat.pow_mul]
  rw [UInt32.toNat_toUInt8, UInt32.toNat_shiftRight, leByte_toNat, shift,
    Nat.shiftRight_eq_div_pow, power]

theorem leByte_xor (first second : UInt32) (k : Nat) (small : k < 4) :
    leByte (first ^^^ second).toNat k = leByte first.toNat k ^^^ leByte second.toNat k := by
  rw [leByte_shiftRight _ k small, leByte_shiftRight _ k small, leByte_shiftRight _ k small,
    UInt32.shiftRight_xor, UInt32.toUInt8_xor]

theorem foldWord_xor (first second : UInt32) :
    foldWord (first ^^^ second) = foldWord first ^^^ foldWord second := by
  simp only [foldWord]
  rw [leByte_xor _ _ 0 (by decide), leByte_xor _ _ 1 (by decide), leByte_xor _ _ 2 (by decide),
    leByte_xor _ _ 3 (by decide)]
  generalize leByte first.toNat 0 = a0
  generalize leByte first.toNat 1 = a1
  generalize leByte first.toNat 2 = a2
  generalize leByte first.toNat 3 = a3
  generalize leByte second.toNat 0 = b0
  generalize leByte second.toNat 1 = b1
  generalize leByte second.toNat 2 = b2
  generalize leByte second.toNat 3 = b3
  ac_rfl

theorem foldWord_le32 (buf : Buffer) (offset : Nat) :
    foldWord (le32 buf offset) = xorRange (fun k => buf (offset + k)) 4 := by
  simp only [foldWord]
  rw [leByte_le32 _ _ 0 (by decide), leByte_le32 _ _ 1 (by decide), leByte_le32 _ _ 2 (by decide),
    leByte_le32 _ _ 3 (by decide)]
  simp only [xorRange, zero_xor]

theorem foldWord_xorRange (buf : Buffer) (n : Nat) :
    foldWord (xorRange (words buf 0) n) = xorRange buf (4 * n) := by
  induction n with
  | zero =>
      change foldWord 0 = 0
      decide
  | succ n ih =>
      change foldWord (xorRange (words buf 0) n ^^^ words buf 0 n) = _
      rw [foldWord_xor, ih, words, foldWord_le32, Nat.zero_add]
      exact (xorRange_add buf (4 * n) 4).symm

end A500cg.Lib
