import Mathlib.Data.List.Basic
import Mathlib.Tactic

/-! Text as pieces that a separator ends: how many pieces a cut gives and how long they
are, and a change of every piece that depends on the one before it. -/

namespace A500cg.Lib

variable {α : Type}

def joinEnd (sep : α) (pieces : List (List α)) : List α := pieces.flatMap (· ++ [sep])

section SplitOn

variable [DecidableEq α]

theorem splitOn_length_le (sep : α) (text : List α) :
    (text.splitOn sep).length ≤ text.length + 1 := by
  induction text with
  | nil => simp
  | cons c rest ih =>
      rw [List.splitOn_cons_eq_if_modifyHead]
      split
      · simpa using ih
      · rw [List.length_modifyHead, List.length_cons]
        omega

theorem length_le_of_mem_splitOn {sep : α} {text piece : List α}
    (member : piece ∈ text.splitOn sep) : piece.length ≤ text.length := by
  induction text generalizing piece with
  | nil =>
      have same : piece = [] := by simpa using member
      simp [same]
  | cons c rest ih =>
      have later : ∀ other ∈ rest.splitOn sep, other.length ≤ (c :: rest).length := by
        intro other inside
        have short := ih inside
        rw [List.length_cons]
        omega
      rw [List.splitOn_cons_eq_if_modifyHead] at member
      split at member
      · rcases List.mem_cons.mp member with rfl | member
        · simp
        · exact later piece member
      · cases pieces : rest.splitOn sep with
        | nil => exact absurd pieces (List.splitOn_ne_nil sep rest)
        | cons first more =>
            rw [pieces, List.modifyHead_cons] at member
            rcases List.mem_cons.mp member with rfl | member
            · have short := ih (pieces ▸ List.mem_cons_self)
              simpa using short
            · exact later piece (pieces ▸ List.mem_cons_of_mem _ member)

end SplitOn

def pairs (xs : List α) : List (α × α) := xs.zip xs.tail

def changeBehind (change : α → α → α) (xs : List α) : List α :=
  xs.take 1 ++ (pairs xs).map fun pair => change pair.1 pair.2

theorem changeBehind_zero (change : α → α → α) (xs : List α) :
    (changeBehind change xs)[0]? = xs[0]? := by
  cases xs <;> simp [changeBehind, pairs]

theorem changeBehind_succ (change : α → α → α) (xs : List α) (k : Nat) :
    (changeBehind change xs)[k + 1]? =
      xs[k]?.bind fun before => xs[k + 1]?.map fun value => change before value := by
  cases xs with
  | nil => simp [changeBehind, pairs]
  | cons x rest =>
      simp only [changeBehind, pairs, List.tail_cons, List.take_succ_cons, List.take_zero,
        List.singleton_append, List.getElem?_cons_succ, List.getElem?_map]
      rw [List.zip, List.getElem?_zipWith]
      cases (x :: rest)[k]? with
      | none => rfl
      | some before => cases rest[k]? <;> rfl

theorem changeBehind_congr_iff (change other : α → α → α) (xs : List α) :
    changeBehind change xs = changeBehind other xs ↔
      ∀ pair ∈ pairs xs, change pair.1 pair.2 = other pair.1 pair.2 := by
  simp only [changeBehind, List.append_cancel_left_eq, List.map_inj_left]

theorem changeBehind_value (xs : List α) : changeBehind (fun _ value => value) xs = xs := by
  apply List.ext_getElem?
  intro k
  cases k with
  | zero => exact changeBehind_zero _ xs
  | succ k =>
      rw [changeBehind_succ]
      cases here : xs[k]? with
      | none =>
          have short := List.getElem?_eq_none_iff.mp here
          rw [List.getElem?_eq_none (by omega)]
          rfl
      | some before =>
          rw [Option.bind_some]
          cases xs[k + 1]? <;> rfl

end A500cg.Lib
