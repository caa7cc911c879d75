import Mathlib.Data.BitVec
import Mathlib.Tactic

/-! Flags in a machine word: what setting and clearing one of them does to the others, and
fields of several bits. -/

namespace A500cg.Lib

variable {w : Nat}

def HasFlag (word flag : BitVec w) : Prop := word &&& flag ≠ 0

instance (word flag : BitVec w) : Decidable (HasFlag word flag) :=
  inferInstanceAs (Decidable (word &&& flag ≠ 0))

theorem hasFlag_or {x y flag : BitVec w} :
    HasFlag (x ||| y) flag ↔ HasFlag x flag ∨ HasFlag y flag := by
  simp only [HasFlag, BitVec.and_or_distrib_right]
  rw [← not_and_or]
  exact not_congr BitVec.or_eq_zero_iff

theorem hasFlag_flag_or {x flag flag' : BitVec w} :
    HasFlag x (flag ||| flag') ↔ HasFlag x flag ∨ HasFlag x flag' := by
  simp only [HasFlag, BitVec.and_or_distrib_left]
  rw [← not_and_or]
  exact not_congr BitVec.or_eq_zero_iff

theorem hasFlag_clear {x cleared flag : BitVec w} (disjoint : ¬ HasFlag cleared flag) :
    HasFlag (x &&& ~~~cleared) flag ↔ HasFlag x flag := by
  have kept : x &&& ~~~cleared &&& flag = x &&& flag := by
    have split : (x &&& cleared ||| x &&& ~~~cleared) &&& flag = x &&& flag := by
      rw [← BitVec.and_or_distrib_left]
      simp
    rw [BitVec.and_or_distrib_right] at split
    have gone : x &&& cleared &&& flag = 0 := by
      rw [BitVec.and_assoc, not_not.mp disjoint]
      simp
    simpa [gone] using split
  simp only [HasFlag, kept]

theorem not_hasFlag_clear {x cleared flag : BitVec w} (within : flag &&& cleared = flag) :
    ¬ HasFlag (x &&& ~~~cleared) flag := by
  rw [HasFlag, not_not, ← within, BitVec.and_assoc]
  have gone : ~~~cleared &&& (flag &&& cleared) = 0 := by
    rw [BitVec.and_comm flag, ← BitVec.and_assoc]
    simp
  rw [gone]
  simp

theorem hasFlag_set {x added flag : BitVec w} (disjoint : ¬ HasFlag added flag) :
    HasFlag (x ||| added) flag ↔ HasFlag x flag :=
  hasFlag_or.trans (or_iff_left disjoint)

theorem hasFlag_set_self {x flag : BitVec w} (nonzero : HasFlag flag flag) :
    HasFlag (x ||| flag) flag :=
  hasFlag_or.mpr (Or.inr nonzero)

theorem HasFlag.within {bits flags flag : BitVec w} (has : HasFlag bits flag)
    (within : bits &&& flags = bits) : HasFlag flags flag := by
  intro none
  apply has
  rw [← within, BitVec.and_assoc, none]
  simp

theorem hasFlag_comm {word flag : BitVec w} : HasFlag word flag ↔ HasFlag flag word := by
  rw [HasFlag, HasFlag, BitVec.and_comm]

theorem and_eq_flag_iff {x flag : BitVec w} (single : ∃ bit, bit < w ∧ flag = BitVec.twoPow w bit) :
    x &&& flag = flag ↔ HasFlag x flag := by
  rcases single with ⟨bit, below, rfl⟩
  have nonzero : BitVec.twoPow w bit ≠ 0 := by
    intro zero
    have isSet := congrArg (fun word => word.getLsbD bit) zero
    simp [below] at isSet
  rw [HasFlag, BitVec.and_twoPow]
  cases x.getLsbD bit with
  | true => simpa using nonzero
  | false => simpa using nonzero.symm

theorem and_eq_and_iff {x y flag : BitVec w} (single : ∃ bit, bit < w ∧ flag = BitVec.twoPow w bit) :
    x &&& flag = y &&& flag ↔ (HasFlag x flag ↔ HasFlag y flag) := by
  constructor
  · intro same
    rw [HasFlag, HasFlag, same]
  · intro both
    by_cases has : HasFlag x flag
    · rw [(and_eq_flag_iff single).mpr has, (and_eq_flag_iff single).mpr (both.mp has)]
    · have lacks : ¬ HasFlag y flag := fun there => has (both.mpr there)
      rw [not_not.mp has, not_not.mp lacks]

theorem clear_eq_self_iff {x cleared : BitVec w} : x &&& ~~~cleared = x ↔ ¬ HasFlag x cleared := by
  constructor
  · intro same
    rw [HasFlag, not_not, ← same, BitVec.and_assoc]
    simp
  · intro clear
    have split : x &&& cleared ||| x &&& ~~~cleared = x := by
      rw [← BitVec.and_or_distrib_left]
      simp
    simpa [not_not.mp clear] using split

theorem set_eq_self_iff {x : BitVec w} {bit : Nat} (below : bit < w) :
    x ||| BitVec.twoPow w bit = x ↔ HasFlag x (BitVec.twoPow w bit) := by
  constructor
  · intro same zero
    have isSet := congrArg (fun word => word.getLsbD bit) same
    have isClear := congrArg (fun word => word.getLsbD bit) zero
    simp only [BitVec.getLsbD_or, BitVec.getLsbD_and, BitVec.getLsbD_twoPow, below, decide_true,
      Bool.and_self, Bool.or_true] at isSet isClear
    rw [← isSet] at isClear
    simp at isClear
  · intro flag
    rw [HasFlag, BitVec.and_twoPow] at flag
    have present : x.getLsbD bit = true := by
      by_contra absent
      exact flag (if_neg absent)
    apply BitVec.eq_of_getLsbD_eq
    intro i _
    by_cases same : bit = i
    · subst same
      simp [present]
    · simp [same]

theorem toNat_or_shiftLeft {n : Nat} {low high : BitVec w} (below : low.toNat < 2 ^ n)
    (fits : high.toNat * 2 ^ n < 2 ^ w) :
    (low ||| high <<< n).toNat = low.toNat + high.toNat * 2 ^ n := by
  rw [BitVec.toNat_or, BitVec.toNat_shiftLeft, Nat.shiftLeft_eq, Nat.mod_eq_of_lt fits,
    Nat.or_comm, ← Nat.shiftLeft_eq, ← Nat.shiftLeft_add_eq_or_of_lt below, Nat.add_comm]

theorem toNat_field (word : BitVec w) (start : Nat) {len : Nat} (inside : len ≤ w) :
    ((word.extractLsb' start len).setWidth w).toNat = word.toNat / 2 ^ start % 2 ^ len := by
  rw [BitVec.toNat_setWidth, BitVec.extractLsb'_toNat, Nat.shiftRight_eq_div_pow]
  apply Nat.mod_eq_of_lt
  have small := Nat.mod_lt (word.toNat / 2 ^ start) (Nat.two_pow_pos len)
  exact lt_of_lt_of_le small (Nat.pow_le_pow_right (by decide) inside)

end A500cg.Lib
