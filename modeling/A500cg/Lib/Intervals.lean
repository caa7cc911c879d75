import Mathlib

/-! Closed intervals compared by their ends, and lists whose members are compared each with every
other. -/

namespace A500cg.Lib

section Ends

variable {α : Type} [LinearOrder α]

theorem disjoint_Icc_iff_ends {a b c d : α} (first : a ≤ b) (second : c ≤ d) :
    Disjoint (Set.Icc a b) (Set.Icc c d) ↔
      (¬ (c ≤ a ∧ a ≤ d) ∧ ¬ (c ≤ b ∧ b ≤ d)) ∧ ¬ (a ≤ c ∧ c ≤ b) ∧ ¬ (a ≤ d ∧ d ≤ b) := by
  rw [Set.disjoint_left]
  constructor
  · intro apart
    have left := apart (Set.left_mem_Icc.mpr first)
    have right := apart (Set.right_mem_Icc.mpr first)
    have low : ¬ (a ≤ c ∧ c ≤ b) := fun inside => apart inside (Set.left_mem_Icc.mpr second)
    have high : ¬ (a ≤ d ∧ d ≤ b) := fun inside => apart inside (Set.right_mem_Icc.mpr second)
    exact ⟨⟨left, right⟩, low, high⟩
  · rintro ⟨⟨left, right⟩, low, high⟩ x ⟨ax, xb⟩ ⟨cx, xd⟩
    by_cases before : c ≤ a
    · exact left ⟨before, ax.trans xd⟩
    · exact low ⟨(not_le.mp before).le, cx.trans xb⟩

end Ends

section Pairs

variable {α : Type}

theorem pairwise_zipIdx_iff (R : α → α → Prop) (list : List α) :
    (∀ x ∈ list.zipIdx, ∀ y ∈ list.zipIdx, y.2 ≠ x.2 → R x.1 y.1) ↔
      list.Pairwise fun a b => R a b ∧ R b a := by
  rw [List.pairwise_iff_getElem]
  constructor
  · intro each i j hi hj less
    have mem_i : (list[i], i) ∈ list.zipIdx := List.mem_zipIdx_iff_getElem?.mpr (by simp [hi])
    have mem_j : (list[j], j) ∈ list.zipIdx := List.mem_zipIdx_iff_getElem?.mpr (by simp [hj])
    exact ⟨each _ mem_i _ mem_j (by simp; omega), each _ mem_j _ mem_i (by simp; omega)⟩
  · rintro pairs ⟨a, i⟩ mem_i ⟨b, j⟩ mem_j other
    have here : list[i]? = some a := List.mem_zipIdx_iff_getElem?.mp mem_i
    have there : list[j]? = some b := List.mem_zipIdx_iff_getElem?.mp mem_j
    obtain ⟨hi, rfl⟩ := List.getElem?_eq_some_iff.mp here
    obtain ⟨hj, rfl⟩ := List.getElem?_eq_some_iff.mp there
    cases Nat.lt_or_gt_of_ne other with
    | inl less => exact (pairs j i hj hi less).2
    | inr less => exact (pairs i j hi hj less).1

theorem forall_zipIdx_iff (p : α → Prop) (list : List α) :
    (∀ x ∈ list.zipIdx, p x.1) ↔ ∀ a ∈ list, p a := by
  constructor
  · intro each a member
    obtain ⟨i, hi, rfl⟩ := List.mem_iff_getElem.mp member
    exact each (list[i], i) (List.mem_zipIdx_iff_getElem?.mpr (by simp [hi]))
  · rintro each ⟨a, i⟩ member
    exact each a (List.mem_of_getElem? (List.mem_zipIdx_iff_getElem?.mp member))

theorem pairwise_set_iff {R : α → α → Prop} (symmetric : ∀ a b, R a b → R b a) {list : List α}
    (pairs : list.Pairwise R) {i : Nat} (bound : i < list.length) (a : α) :
    (list.set i a).Pairwise R ↔ ∀ j (inside : j < list.length), j ≠ i → R a list[j] := by
  rw [List.pairwise_iff_getElem] at pairs ⊢
  constructor
  · intro each j inside other
    cases Nat.lt_or_gt_of_ne other with
    | inl before =>
        have here := each j i (by simpa using inside) (by simpa using bound) before
        rw [List.getElem_set_ne (Ne.symm other), List.getElem_set_self] at here
        exact symmetric _ _ here
    | inr after =>
        have here := each i j (by simpa using bound) (by simpa using inside) after
        rw [List.getElem_set_ne (Ne.symm other), List.getElem_set_self] at here
        exact here
  · intro apart j k inside_j inside_k less
    rw [List.length_set] at inside_j inside_k
    rw [List.getElem_set, List.getElem_set]
    split_ifs with first second second
    · omega
    · exact apart k inside_k (Ne.symm second)
    · exact symmetric _ _ (apart j inside_j (Ne.symm first))
    · exact pairs j k inside_j inside_k less

theorem forall_mem_set_iff {p : α → Prop} {list : List α} (all : ∀ x ∈ list, p x) {i : Nat}
    (bound : i < list.length) (a : α) : (∀ x ∈ list.set i a, p x) ↔ p a := by
  constructor
  · intro each
    exact each a (List.mem_set bound a)
  · intro here x member
    cases List.mem_or_eq_of_mem_set member with
    | inl before => exact all x before
    | inr new => rwa [new]

end Pairs

end A500cg.Lib
