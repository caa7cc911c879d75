import Mathlib.Data.List.Infix
import Mathlib.Tactic

/-! A search for a pattern in a list of cells that are read one by one: a cell behind the end
cannot be read, and a comparison ends at the first difference. -/

namespace A500cg.Lib

section Compare

variable {α : Type} [DecidableEq α]

/-- Compare the cells with the pattern; `none` if one is read that is not there. -/
def compareHead : (pattern cells : List α) → Option Bool
  | [], _ => some true
  | _ :: _, [] => none
  | p :: pattern, cell :: cells => if cell = p then compareHead pattern cells else some false

theorem compareHead_eq_true_iff {pattern cells : List α} :
    compareHead pattern cells = some true ↔ pattern <+: cells := by
  induction pattern generalizing cells with
  | nil => simp [compareHead]
  | cons p pattern ih =>
      cases cells with
      | nil => simp [compareHead]
      | cons cell cells =>
          rw [compareHead, List.cons_prefix_cons]
          by_cases same : cell = p
          · rw [if_pos same, ih]
            exact (and_iff_right same.symm).symm
          · rw [if_neg same]
            exact iff_of_false (by simp) fun both => same both.1.symm

theorem compareHead_eq_none_iff {pattern cells : List α} :
    compareHead pattern cells = none ↔ cells <+: pattern ∧ cells ≠ pattern := by
  induction pattern generalizing cells with
  | nil => simp [compareHead]
  | cons p pattern ih =>
      cases cells with
      | nil => simp [compareHead]
      | cons cell cells =>
          rw [compareHead, List.cons_prefix_cons]
          by_cases same : cell = p
          · rw [if_pos same, ih]
            simp [same]
          · rw [if_neg same]
            exact iff_of_false (by simp) fun both => same both.1.1

omit [DecidableEq α] in
theorem infix_iff_prefix_drop {pattern cells : List α} :
    pattern <:+: cells ↔ ∃ n, pattern <+: cells.drop n := by
  constructor
  · rintro ⟨front, back, rfl⟩
    refine ⟨front.length, back, ?_⟩
    rw [List.append_assoc, List.drop_left]
  · rintro ⟨n, here⟩
    exact here.isInfix.trans (List.drop_suffix n cells).isInfix

end Compare

/-- Whether one of the positions passes the test; `none` if a test cannot be made. -/
def searchIn (test : Nat → Option Bool) : List Nat → Option Bool
  | [] => some false
  | n :: rest => do if ← test n then some true else searchIn test rest

variable {test : Nat → Option Bool} {positions : List Nat}

theorem searchIn_eq_none_iff
    (ordered : positions.Pairwise fun n m => test m = some true → test n ≠ none) :
    searchIn test positions = none ↔
      (∀ m ∈ positions, test m ≠ some true) ∧ ∃ m ∈ positions, test m = none := by
  induction positions with
  | nil => simp [searchIn]
  | cons n rest ih =>
      obtain ⟨first, ordered⟩ := List.pairwise_cons.mp ordered
      rw [searchIn, List.forall_mem_cons, List.exists_mem_cons_iff]
      cases tested : test n with
      | none =>
          refine iff_of_true rfl ⟨⟨by simp, fun m member found => ?_⟩, .inl rfl⟩
          exact first m member found tested
      | some passed =>
          cases passed with
          | true => simp
          | false => simpa using ih ordered

theorem searchIn_eq_true_iff
    (ordered : positions.Pairwise fun n m => test m = some true → test n ≠ none) :
    searchIn test positions = some true ↔ ∃ m ∈ positions, test m = some true := by
  induction positions with
  | nil => simp [searchIn]
  | cons n rest ih =>
      obtain ⟨first, ordered⟩ := List.pairwise_cons.mp ordered
      rw [searchIn, List.exists_mem_cons_iff]
      cases tested : test n with
      | none =>
          apply iff_of_false (by simp)
          rintro (here | ⟨m, member, found⟩)
          · cases here
          · exact first m member found tested
      | some passed =>
          cases passed with
          | true => simp
          | false => simpa using ih ordered

end A500cg.Lib
