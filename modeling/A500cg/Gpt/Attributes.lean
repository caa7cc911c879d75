import Mathlib.Tactic

/-! The attribute bits of an entry (`SetPriority`, `GetPriority` and their like in
`cgpt_common.c`). -/

namespace A500cg.Gpt

/-- The attribute bits from `offset` on, set to a value that `require` bounds. -/
def setAttribute (offset max : Nat) (value : UInt32) (att : UInt16) : Option UInt16 :=
  if value.toNat ≤ max then
    some (att &&& ~~~(UInt16.ofNat (max <<< offset)) ||| UInt16.ofNat (value.toNat <<< offset))
  else none

def setSuccessful : UInt32 → UInt16 → Option UInt16 := setAttribute 8 1
def setTries : UInt32 → UInt16 → Option UInt16 := setAttribute 4 15
def setPriority : UInt32 → UInt16 → Option UInt16 := setAttribute 0 15

def getAttribute (offset max : Nat) (att : UInt16) : Nat :=
  (att.toNat &&& max <<< offset) >>> offset

def getSuccessful : UInt16 → Nat := getAttribute 8 1
def getTries : UInt16 → Nat := getAttribute 4 15
def getPriority : UInt16 → Nat := getAttribute 0 15

theorem getAttribute_testBit (offset k : Nat) (att : UInt16) (i : Nat) :
    (getAttribute offset (2 ^ k - 1) att).testBit i =
      (decide (i < k) && att.toNat.testBit (offset + i)) := by
  rw [getAttribute, Nat.testBit_shiftRight, Nat.testBit_and, Nat.testBit_shiftLeft,
    Nat.add_sub_cancel_left, Nat.testBit_two_pow_sub_one, Bool.and_comm]
  simp

theorem getAttribute_lt (offset k : Nat) (att : UInt16) :
    getAttribute offset (2 ^ k - 1) att < 2 ^ k := by
  apply Nat.lt_pow_two_of_testBit
  intro i above
  rw [getAttribute_testBit, decide_eq_false (by omega), Bool.false_and]

theorem setAttribute_testBit {offset k : Nat} {value : UInt32} {att after : UInt16}
    (sets : setAttribute offset (2 ^ k - 1) value att = some after) {i : Nat} (bound : i < 16) :
    after.toNat.testBit i =
      if offset ≤ i ∧ i < offset + k then value.toNat.testBit (i - offset)
      else att.toNat.testBit i := by
  unfold setAttribute at sets
  split_ifs at sets with small
  obtain rfl := Option.some.inj sets
  have least : 0 < 2 ^ k := Nat.two_pow_pos k
  have high : i - offset < k ∨ value.toNat.testBit (i - offset) = false := by
    by_cases inside : i - offset < k
    · exact Or.inl inside
    · right
      apply Nat.testBit_lt_two_pow
      calc value.toNat
        _ < 2 ^ k := by omega
        _ ≤ 2 ^ (i - offset) := Nat.pow_le_pow_right (by decide) (Nat.le_of_not_lt inside)
  change ((att.toBitVec &&& ~~~(BitVec.ofNat 16 ((2 ^ k - 1) <<< offset))) |||
    BitVec.ofNat 16 (value.toNat <<< offset)).getLsbD i = _
  rw [BitVec.getLsbD_or, BitVec.getLsbD_and, BitVec.getLsbD_not, BitVec.getLsbD_ofNat,
    BitVec.getLsbD_ofNat, Nat.testBit_shiftLeft, Nat.testBit_shiftLeft, Nat.testBit_two_pow_sub_one,
    ← BitVec.testBit_toNat, decide_eq_true bound]
  change (att.toNat.testBit i && _ || _) = _
  simp only [Bool.true_and, ge_iff_le]
  by_cases from_offset : offset ≤ i
  · rw [decide_eq_true from_offset, Bool.true_and, Bool.true_and]
    by_cases inside : i - offset < k
    · rw [if_pos ⟨from_offset, by omega⟩, decide_eq_true inside, Bool.not_true, Bool.and_false,
        Bool.false_or]
    · rw [if_neg (by omega), decide_eq_false inside, Bool.not_false, Bool.and_true,
        high.resolve_left inside, Bool.or_false]
  · rw [if_neg (by omega), decide_eq_false from_offset, Bool.false_and, Bool.false_and,
      Bool.not_false, Bool.and_true, Bool.or_false]

theorem setAttribute_le {offset max : Nat} {value : UInt32} {att after : UInt16}
    (sets : setAttribute offset max value att = some after) : value.toNat ≤ max := by
  unfold setAttribute at sets
  split_ifs at sets with small
  exact small

theorem getAttribute_set {offset k : Nat} (fits : offset + k ≤ 16) {value : UInt32}
    {att after : UInt16} (sets : setAttribute offset (2 ^ k - 1) value att = some after) :
    getAttribute offset (2 ^ k - 1) after = value.toNat := by
  have small := setAttribute_le sets
  have least : 0 < 2 ^ k := Nat.two_pow_pos k
  apply Nat.eq_of_testBit_eq
  intro i
  rw [getAttribute_testBit]
  by_cases inside : i < k
  · rw [setAttribute_testBit sets (by omega), if_pos ⟨by omega, by omega⟩, decide_eq_true inside,
      Bool.true_and, Nat.add_sub_cancel_left]
  · rw [decide_eq_false inside, Bool.false_and]
    symm
    apply Nat.testBit_lt_two_pow
    calc value.toNat
      _ < 2 ^ k := by omega
      _ ≤ 2 ^ i := Nat.pow_le_pow_right (by decide) (Nat.le_of_not_lt inside)

theorem getAttribute_set_other {offset k other l : Nat} (fits : other + l ≤ 16)
    (apart : other + l ≤ offset ∨ offset + k ≤ other) {value : UInt32} {att after : UInt16}
    (sets : setAttribute offset (2 ^ k - 1) value att = some after) :
    getAttribute other (2 ^ l - 1) after = getAttribute other (2 ^ l - 1) att := by
  apply Nat.eq_of_testBit_eq
  intro i
  rw [getAttribute_testBit, getAttribute_testBit]
  by_cases inside : i < l
  · rw [setAttribute_testBit sets (by omega), if_neg (by omega)]
  · rw [decide_eq_false inside, Bool.false_and, Bool.false_and]

theorem setAttribute_twice {offset max : Nat} {value : UInt32} {att after : UInt16}
    (sets : setAttribute offset max value att = some after) :
    setAttribute offset max value after = some after := by
  have small := setAttribute_le sets
  rw [setAttribute, if_pos small] at sets ⊢
  obtain rfl := Option.some.inj sets
  apply congrArg some
  apply UInt16.toBitVec_inj.mp
  apply BitVec.eq_of_getLsbD_eq
  intro i _
  simp only [UInt16.toBitVec_or, UInt16.toBitVec_and, UInt16.toBitVec_not, BitVec.getLsbD_or,
    BitVec.getLsbD_and, BitVec.getLsbD_not]
  cases (UInt16.ofNat (value.toNat <<< offset)).toBitVec.getLsbD i <;>
    cases (UInt16.ofNat (max <<< offset)).toBitVec.getLsbD i <;> simp

end A500cg.Gpt
