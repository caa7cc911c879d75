import Mathlib.Data.List.Basic

/-! The index of a candidate that one pass over a list keeps: the first entry that fits,
replaced by each later one that fits and is liked. -/

namespace A500cg.Lib

variable {α : Type} (fits liked : α → Bool)

def candidate (i : Nat) (x : α) (index : Option Nat) : Option Nat :=
  if fits x then
    if index = none then some i
    else if liked x then some i else index
  else index

def IsCandidate (xs : List α) : Option Nat → Prop
  | none => ∀ x ∈ xs, ¬ fits x = true
  | some i => ∃ x, xs[i]? = some x ∧ fits x = true ∧
      ((∃ y ∈ xs, fits y = true ∧ liked y = true) → liked x = true)

variable {fits liked} {xs : List α} {index : Option Nat}

theorem isCandidate_nil : IsCandidate fits liked [] none :=
  fun _ member => absurd member List.not_mem_nil

theorem getElem?_concat_of_eq_some {i : Nat} {x y : α} (found : xs[i]? = some y) :
    (xs ++ [x])[i]? = some y := by
  rw [List.getElem?_append_left (List.getElem?_eq_some_iff.mp found).1]
  exact found

theorem IsCandidate.keep (kept : IsCandidate fits liked xs index) {x : α}
    (worse : fits x = true → index ≠ none ∧ ¬ liked x = true) :
    IsCandidate fits liked (xs ++ [x]) index := by
  cases index with
  | none =>
      intro y member
      rcases List.mem_append.mp member with before | same
      · exact kept y before
      · rw [List.mem_singleton.mp same]
        exact fun fit => (worse fit).1 rfl
  | some i =>
      obtain ⟨y, found, fitting, best⟩ := kept
      refine ⟨y, getElem?_concat_of_eq_some found, fitting, ?_⟩
      rintro ⟨z, member, fittingZ, like⟩
      rcases List.mem_append.mp member with before | same
      · exact best ⟨z, before, fittingZ, like⟩
      · rw [List.mem_singleton.mp same] at fittingZ like
        exact absurd like (worse fittingZ).2

theorem IsCandidate.concat (kept : IsCandidate fits liked xs index) (x : α) :
    IsCandidate fits liked (xs ++ [x]) (candidate fits liked xs.length x index) := by
  have last : (xs ++ [x])[xs.length]? = some x := List.getElem?_concat_length
  rw [candidate]
  split
  · rename_i fit
    split
    · rename_i none
      subst none
      refine ⟨x, last, fit, ?_⟩
      rintro ⟨y, member, fitting, like⟩
      rcases List.mem_append.mp member with before | same
      · exact absurd fitting (kept y before)
      · rwa [← List.mem_singleton.mp same]
    · rename_i some
      split
      · rename_i like
        exact ⟨x, last, fit, fun _ => like⟩
      · rename_i dislike
        exact kept.keep fun _ => ⟨some, dislike⟩
  · rename_i unfit
    exact kept.keep fun fit => absurd fit unfit

end A500cg.Lib
