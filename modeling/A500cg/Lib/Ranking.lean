import Mathlib.Tactic
import Mathlib.Data.List.Sort

/-! Lists in descending order: straight insertion makes one, and a place in one is the number of
greater members. -/

namespace A500cg.Lib

variable {α : Type}

section Sorting

variable (key : α → Nat)

def insertUp (x : α) : List α → List α
  | [] => [x]
  | y :: sorted => if key y < key x then y :: insertUp x sorted else x :: y :: sorted

def sortDown (list : List α) : List α :=
  (list.foldl (fun sorted x => insertUp key x sorted) []).reverse

theorem insertUp_eq (x : α) (sorted : List α) :
    insertUp key x sorted = sorted.orderedInsert (fun a b => key a ≤ key b) x := by
  induction sorted with
  | nil => rfl
  | cons y sorted ih =>
      rw [insertUp, List.orderedInsert_cons, ih]
      by_cases less : key y < key x
      · rw [if_pos less, if_neg (Nat.not_le.mpr less)]
      · rw [if_neg less, if_pos (Nat.not_lt.mp less)]

theorem insertUp_perm (x : α) (sorted : List α) : (insertUp key x sorted).Perm (x :: sorted) := by
  rw [insertUp_eq]
  exact List.perm_orderedInsert ..

theorem insertUp_pairwise (x : α) {sorted : List α}
    (up : sorted.Pairwise fun a b => key a ≤ key b) :
    (insertUp key x sorted).Pairwise fun a b => key a ≤ key b := by
  induction sorted with
  | nil => exact List.pairwise_singleton ..
  | cons y sorted ih =>
      obtain ⟨first, rest⟩ := List.pairwise_cons.mp up
      rw [insertUp]
      split_ifs with less
      · apply List.pairwise_cons.mpr
        apply And.intro _ (ih rest)
        intro z member
        cases List.mem_cons.mp ((insertUp_perm key x sorted).mem_iff.mp member) with
        | inl new => exact new ▸ less.le
        | inr old => exact first z old
      · apply List.pairwise_cons.mpr
        apply And.intro _ up
        intro z member
        have above := Nat.not_lt.mp less
        cases List.mem_cons.mp member with
        | inl here => exact here ▸ above
        | inr old => exact above.trans (first z old)

theorem foldl_insertUp (list sorted : List α) (up : sorted.Pairwise fun a b => key a ≤ key b) :
    (list.foldl (fun sorted x => insertUp key x sorted) sorted).Perm (list ++ sorted) ∧
      (list.foldl (fun sorted x => insertUp key x sorted) sorted).Pairwise
        fun a b => key a ≤ key b := by
  induction list generalizing sorted with
  | nil => exact ⟨List.Perm.refl _, up⟩
  | cons x list ih =>
      have ⟨same, ordered⟩ := ih (insertUp key x sorted) (insertUp_pairwise key x up)
      apply And.intro _ ordered
      calc list.foldl (fun sorted x => insertUp key x sorted) (insertUp key x sorted)
        _ |>.Perm (list ++ insertUp key x sorted) := same
        _ |>.Perm (list ++ x :: sorted) := (insertUp_perm key x sorted).append_left list
        _ |>.Perm (x :: list ++ sorted) := List.perm_middle

theorem sortDown_perm (list : List α) : (sortDown key list).Perm list := by
  have same := (foldl_insertUp key list [] List.Pairwise.nil).1
  rw [List.append_nil] at same
  exact (List.reverse_perm _).trans same

theorem sortDown_pairwise (list : List α) :
    (sortDown key list).Pairwise fun a b => key b ≤ key a :=
  List.pairwise_reverse.mpr (foldl_insertUp key list [] List.Pairwise.nil).2

end Sorting

theorem card_above_of_getElem? {list : List Nat} (down : list.Pairwise fun a b => b < a) {k x : Nat}
    (place : list[k]? = some x) : (list.toFinset.filter (x < ·)).card = k := by
  induction list generalizing k with
  | nil => cases place
  | cons y list ih =>
      obtain ⟨first, rest⟩ := List.pairwise_cons.mp down
      rw [List.toFinset_cons]
      cases k with
      | zero =>
          obtain rfl : y = x := Option.some.inj place
          rw [Finset.card_eq_zero, Finset.filter_eq_empty_iff]
          intro z member
          cases Finset.mem_insert.mp member with
          | inl here => exact here ▸ Nat.lt_irrefl _
          | inr below => exact Nat.not_lt.mpr (first z (List.mem_toFinset.mp below)).le
      | succ k =>
          have later : list[k]? = some x := place
          have above := first x (List.mem_of_getElem? later)
          have fresh : y ∉ list.toFinset.filter (x < ·) := by
            intro member
            have old := List.mem_toFinset.mp (Finset.mem_filter.mp member).1
            exact Nat.lt_irrefl _ (first y old)
          rw [Finset.filter_insert, if_pos above, Finset.card_insert_of_notMem fresh, ih rest later]

end A500cg.Lib
