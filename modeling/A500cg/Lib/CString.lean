import A500cg.Lib.HexScan
import Mathlib.Data.List.Basic
import Mathlib.Tactic.Common

/-! C strings: the bytes before the terminating zero, and their comparison. -/

namespace A500cg.Lib

@[ext]
structure CString where
  bytes : List UInt8
  noNul : 0 ∉ bytes
  deriving DecidableEq

def strncmp : List UInt8 → List UInt8 → Nat → Int
  | _, _, 0 => 0
  | first, second, count + 1 =>
      let a := first.headD 0
      let b := second.headD 0
      if a ≠ b then (a.toNat : Int) - b.toNat
      else if a = 0 then 0
      else strncmp first.tail second.tail count

theorem strncmp_eq_zero_iff (first second : List UInt8) (count : Nat) (nul : 0 ∉ first)
    (nul' : 0 ∉ second) (covers : first.length < count) :
    strncmp first second count = 0 ↔ first = second := by
  induction count generalizing first second with
  | zero => omega
  | succ count ih =>
      cases first with
      | nil =>
          cases second with
          | nil => simp [strncmp]
          | cons b second =>
              have nonzero : b ≠ 0 := fun same => nul' (same ▸ List.mem_cons_self)
              have value : b.toNat ≠ 0 := fun same => nonzero (UInt8.toNat_inj.mp same)
              simp [strncmp, Ne.symm nonzero]
              omega
      | cons a first =>
          have nonzero : a ≠ 0 := fun same => nul (same ▸ List.mem_cons_self)
          have value : a.toNat ≠ 0 := fun same => nonzero (UInt8.toNat_inj.mp same)
          cases second with
          | nil =>
              simp [strncmp, nonzero]
              omega
          | cons b second =>
              by_cases same : a = b
              · subst same
                have tail := ih first second (fun member => nul (List.mem_cons_of_mem _ member))
                  (fun member => nul' (List.mem_cons_of_mem _ member)) (by simpa using covers)
                simp [strncmp, nonzero, tail]
              · have apart : a.toNat ≠ b.toNat := fun equal => same (UInt8.toNat_inj.mp equal)
                simp [strncmp, same]
                omega

theorem strncmp_eq_zero_comm (first second : List UInt8) (count : Nat) :
    strncmp first second count = 0 ↔ strncmp second first count = 0 := by
  induction count generalizing first second with
  | zero => rfl
  | succ count ih =>
      rw [strncmp, strncmp]
      by_cases same : first.headD 0 = second.headD 0
      · simp only [same, ne_eq, not_true_eq_false, if_false]
        split
        · rfl
        · exact ih _ _
      · have apart : (first.headD 0).toNat ≠ (second.headD 0).toNat :=
          fun equal => same (UInt8.toNat_inj.mp equal)
        simp only [ne_eq, same, Ne.symm same, not_false_eq_true, if_true]
        omega

theorem strncmp_prefix_iff (memory second : List UInt8) (nul : 0 ∉ second) :
    strncmp (cText memory) second second.length = 0 ↔ second <+: memory := by
  induction second generalizing memory with
  | nil => simp [strncmp]
  | cons b second ih =>
      have nonzero : b ≠ 0 := fun same => nul (same ▸ List.mem_cons_self)
      have value : b.toNat ≠ 0 := fun same => nonzero (UInt8.toNat_inj.mp same)
      have tail := fun memory => ih memory (fun member => nul (List.mem_cons_of_mem _ member))
      cases memory with
      | nil =>
          simp [cText, strncmp, Ne.symm nonzero]
          omega
      | cons a memory =>
          by_cases same : a = b
          · subst same
            simpa [cText, strncmp, nonzero, List.cons_prefix_cons] using tail memory
          · have apart : a.toNat ≠ b.toNat := fun equal => same (UInt8.toNat_inj.mp equal)
            by_cases zero : a = 0
            · subst zero
              simp [cText, strncmp, same, List.cons_prefix_cons, Ne.symm same]
              omega
            · simp [cText, strncmp, same, zero, List.cons_prefix_cons, Ne.symm same]
              omega

end A500cg.Lib
