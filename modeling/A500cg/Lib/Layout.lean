import Mathlib.Data.List.Basic
import Mathlib.Tactic

/-! Items of different widths one behind the other, and arrays that are filled from the front. -/

namespace A500cg.Lib

section

variable {α : Type} (width : α → Nat)

def extent (items : List α) : Nat := (items.map width).sum

def offsets (start : Nat) : List α → List Nat
  | [] => []
  | item :: items => start :: offsets (start + width item) items

theorem extent_cons (item : α) (items : List α) :
    extent width (item :: items) = width item + extent width items := by
  rw [extent, List.map_cons, List.sum_cons, extent]

theorem offsets_length (start : Nat) (items : List α) :
    (offsets width start items).length = items.length := by
  induction items generalizing start with
  | nil => rfl
  | cons item items ih => rw [offsets, List.length_cons, ih, List.length_cons]

theorem offsets_getElem? (start : Nat) (items : List α) {k : Nat} (bound : k < items.length) :
    (offsets width start items)[k]? = some (start + extent width (items.take k)) := by
  induction items generalizing start k with
  | nil => cases bound
  | cons item items ih =>
      cases k with
      | zero => rfl
      | succ k =>
          rw [List.length_cons] at bound
          rw [offsets, List.getElem?_cons_succ, ih _ (by omega), List.take_succ_cons,
            extent_cons, Nat.add_assoc]

theorem extent_take_le (items : List α) {k : Nat} (bound : k < items.length) :
    extent width (items.take k) + width items[k] ≤ extent width items := by
  induction items generalizing k with
  | nil => cases bound
  | cons item items ih =>
      cases k with
      | zero =>
          rw [extent_cons]
          exact Nat.le_trans (Nat.zero_add _).le (Nat.le_add_right _ _)
      | succ k =>
          have later := ih (Nat.lt_of_succ_lt_succ bound)
          rw [List.take_succ_cons, extent_cons, extent_cons, List.getElem_cons_succ]
          omega

theorem length_le_extent (positive : ∀ item, 0 < width item) (items : List α) :
    items.length ≤ extent width items := by
  induction items with
  | nil => exact Nat.zero_le _
  | cons item items ih =>
      have here := positive item
      rw [List.length_cons, extent_cons]
      omega

end

section

variable {α : Type}

def storeCell (cells : List (Option α)) (i : Nat) (value : α) : Option (List (Option α)) :=
  if i < cells.length then some (cells.set i (some value)) else none

def filled (front : List α) (rest : Nat) : List (Option α) :=
  front.map some ++ List.replicate rest none

theorem filled_length (front : List α) (rest : Nat) :
    (filled front rest).length = front.length + rest := by
  rw [filled, List.length_append, List.length_map, List.length_replicate]

theorem filled_getElem? (front : List α) (rest : Nat) {k : Nat} (bound : k < front.length) :
    (filled front rest)[k]? = front[k]?.map some := by
  rw [filled, List.getElem?_append_left (by rwa [List.length_map]), List.getElem?_map]

theorem storeCell_filled (front : List α) (rest : Nat) (value : α) :
    storeCell (filled front (rest + 1)) front.length value =
      some (filled (front ++ [value]) rest) := by
  have inside : front.length < (filled front (rest + 1)).length := by
    rw [filled_length]
    omega
  have behind : (front.map some).length ≤ front.length := (List.length_map some).le
  rw [storeCell, if_pos inside, filled, List.set_append_right _ _ behind, List.length_map,
    Nat.sub_self, List.replicate_succ, List.set_cons_zero, filled, List.map_append,
    List.append_assoc]
  rfl

end

end A500cg.Lib
