import Mathlib.Data.List.Induction
import Mathlib.Data.List.Pairwise
import Mathlib.Tactic.Common

/-! Collecting the entries of a list without duplicates, in order of first appearance. -/

namespace A500cg.Lib

variable {α β : Type} (entry : α → β) (duplicated : β → α → Bool)

/-- Appends the entry of `x` unless something kept already duplicates it. -/
def addNew (kept : List β) (x : α) : List β :=
  if kept.any (duplicated · x) then kept else kept ++ [entry x]

/-- The entries of some of the elements, in their order: no later one duplicates an
earlier one, and every element that is left out is a duplicate of one taken. -/
def DuplicateFree (xs : List α) (kept : List β) : Prop :=
  ∃ taken : List α, taken.Sublist xs ∧ kept = taken.map entry ∧
    taken.Pairwise (fun x y => duplicated (entry x) y = false) ∧
    ∀ x ∈ xs, x ∈ taken ∨ ∃ y ∈ taken, duplicated (entry y) x = true

theorem duplicateFree_foldl (xs : List α) :
    DuplicateFree entry duplicated xs (xs.foldl (addNew entry duplicated) []) := by
  induction xs using List.reverseRecOn with
  | nil => exact ⟨[], List.Sublist.slnil, rfl, List.Pairwise.nil, by simp⟩
  | append_singleton xs x ih =>
      rcases ih with ⟨taken, sub, kept, apart, covered⟩
      rw [List.foldl_append, List.foldl_cons, List.foldl_nil, kept, addNew]
      cases found : (taken.map entry).any (duplicated · x) with
      | true =>
          refine ⟨taken, sub.trans (List.sublist_append_left xs [x]), rfl, apart, ?_⟩
          intro y member
          rcases List.mem_append.mp member with before | last
          · exact covered y before
          · rw [List.mem_singleton.mp last]
            rcases List.any_eq_true.mp found with ⟨_, inside, hit⟩
            rcases List.mem_map.mp inside with ⟨z, there, rfl⟩
            exact Or.inr ⟨z, there, hit⟩
      | false =>
          have fresh : ∀ y ∈ taken, duplicated (entry y) x = false := by
            intro y inside
            have none := List.any_eq_false.mp found (entry y) (List.mem_map_of_mem inside)
            exact Bool.eq_false_iff.mpr none
          refine ⟨taken ++ [x], sub.append (List.Sublist.refl [x]), by simp, ?_, ?_⟩
          · apply List.pairwise_append.mpr
            refine ⟨apart, List.pairwise_singleton _ x, fun y inside z last => ?_⟩
            rw [List.mem_singleton.mp last]
            exact fresh y inside
          · intro y member
            rcases List.mem_append.mp member with before | last
            · rcases covered y before with inside | ⟨z, inside, hit⟩
              · exact Or.inl (List.mem_append_left _ inside)
              · exact Or.inr ⟨z, List.mem_append_left _ inside, hit⟩
            · exact Or.inl (List.mem_append_right _ last)

theorem DuplicateFree.nodup {entry : α → β} {duplicated : β → α → Bool} {xs : List α}
    {kept : List β} (collected : DuplicateFree entry duplicated xs kept)
    (found : xs.Pairwise fun x y => entry x = entry y → duplicated (entry x) y = true) :
    kept.Nodup := by
  rcases collected with ⟨taken, sub, rfl, apart, _⟩
  apply List.pairwise_map.mpr
  apply (apart.and (found.sublist sub)).imp
  intro x y both same
  rw [both.2 same] at both
  cases both.1

def firstOnes (xs : List α) : List α :=
  xs.foldl (addNew id fun y x => duplicated (entry y) x) []

theorem map_addNew (taken : List α) (x : α) :
    (addNew id (fun y x => duplicated (entry y) x) taken x).map entry =
      addNew entry duplicated (taken.map entry) x := by
  have same : (taken.map entry).any (duplicated · x) = taken.any fun y => duplicated (entry y) x :=
    List.any_map
  rw [addNew, addNew, same]
  split
  · rfl
  · simp

theorem foldl_addNew_eq_map (xs : List α) :
    xs.foldl (addNew entry duplicated) [] = (firstOnes entry duplicated xs).map entry := by
  have step : ∀ taken x, addNew entry duplicated (taken.map entry) x =
      (addNew id (fun y x => duplicated (entry y) x) taken x).map entry :=
    fun taken x => (map_addNew entry duplicated taken x).symm
  rw [firstOnes, ← List.foldl_hom (List.map entry) step]
  rfl

/-- A test for duplicates that is never wrong about a notion of sameness, and that only
looks at the part of an entry that this is about. -/
structure Tests (same : β → β → Prop) : Prop where
  refl : ∀ k, same k k
  symm : ∀ k k', same k k' → same k' k
  trans : ∀ k k' k'', same k k' → same k' k'' → same k k''
  sound : ∀ z x, duplicated (entry z) x = true → same (entry z) (entry x)
  covers : ∀ z x, duplicated (entry z) x = true → ∀ y,
    duplicated (entry z) y = duplicated (entry x) y

variable {entry duplicated} {same : β → β → Prop}

theorem Tests.stands (tests : Tests entry duplicated same) {taken : List α} {x : α}
    (covered : x ∈ taken ∨ ∃ z ∈ taken, duplicated (entry z) x = true) :
    ∃ z ∈ taken, same (entry z) (entry x) ∧
      ∀ y, duplicated (entry z) y = duplicated (entry x) y := by
  rcases covered with inside | ⟨z, inside, hit⟩
  · exact ⟨x, inside, tests.refl _, fun _ => rfl⟩
  · exact ⟨z, inside, tests.sound z x hit, tests.covers z x hit⟩

theorem Tests.pairwise_iff (tests : Tests entry duplicated same) (xs : List α) :
    (xs.foldl (addNew entry duplicated) []).Pairwise (fun k k' => ¬ same k k') ↔
      xs.Pairwise fun x y => same (entry x) (entry y) → duplicated (entry x) y = true := by
  induction xs using List.reverseRecOn with
  | nil => exact iff_of_true .nil .nil
  | append_singleton xs y ih =>
      rcases duplicateFree_foldl entry duplicated xs with ⟨taken, sub, kept, _, covered⟩
      have stands := fun x member => tests.stands (covered x member)
      rw [List.foldl_append, List.foldl_cons, List.foldl_nil, List.pairwise_append, ← ih, addNew]
      simp only [List.pairwise_singleton, true_and, List.forall_mem_singleton]
      rw [kept]
      cases found : (taken.map entry).any (duplicated · y) with
      | true =>
          rw [if_pos rfl]
          refine ⟨fun apart => ⟨apart, fun x member alike => ?_⟩, And.left⟩
          rcases List.any_eq_true.mp found with ⟨_, inside, hit⟩
          rcases List.mem_map.mp inside with ⟨w, thereW, rfl⟩
          rcases stands x member with ⟨z, thereZ, samez, covers⟩
          have both : same (entry z) (entry w) :=
            tests.trans _ _ _ samez (tests.trans _ _ _ alike
              (tests.symm _ _ (tests.sound w y hit)))
          have equal : entry z = entry w := by
            by_contra different
            have : Std.Symm fun k k' => ¬ same k k' :=
              ⟨fun _ _ apart alike => apart (tests.symm _ _ alike)⟩
            exact apart.forall (List.mem_map_of_mem thereZ) (List.mem_map_of_mem thereW)
              different both
          rw [← covers y, equal]
          exact hit
      | false =>
          rw [if_neg (by simp), List.pairwise_append]
          simp only [List.pairwise_singleton, true_and, List.forall_mem_singleton]
          refine and_congr_right fun _ =>
            ⟨fun fresh x member alike => ?_, fun tested k member alike => ?_⟩
          · rcases stands x member with ⟨z, there, samez, _⟩
            exact absurd (tests.trans _ _ _ samez alike) (fresh _ (List.mem_map_of_mem there))
          · rcases List.mem_map.mp member with ⟨z, there, rfl⟩
            have hit := tested z (sub.subset there) alike
            have none := List.any_eq_false.mp found (entry z) (List.mem_map_of_mem there)
            exact absurd hit none
end A500cg.Lib
