import Mathlib.Tactic

/-!
Cyclic redundancy checks with the register shifted to the right, of any width and polynomial: what
one shift does, a byte at a time by a table, and which changes of a message the check always sees.
-/

namespace A500cg.Lib

variable {w : Nat} (poly : BitVec w)

def crcShift (register : BitVec w) : BitVec w :=
  if register.getLsbD 0 then register >>> 1 ^^^ poly else register >>> 1

def crcShifts : Nat → BitVec w → BitVec w
  | 0, register => register
  | n + 1, register => crcShifts n (crcShift poly register)

def crcByte (register : BitVec w) (byte : UInt8) : BitVec w :=
  crcShifts poly 8 (register ^^^ byte.toBitVec.setWidth w)

def crcBytes (register : BitVec w) (bytes : List UInt8) : BitVec w := bytes.foldl (crcByte poly) register

theorem crcShift_xor (x y : BitVec w) : crcShift poly (x ^^^ y) = crcShift poly x ^^^ crcShift poly y := by
  have fed : ∀ a b c : BitVec w, a ^^^ c ^^^ (b ^^^ c) = a ^^^ b := by
    intro a b c
    rw [BitVec.xor_comm b c, ← BitVec.xor_assoc, BitVec.xor_assoc a c c, BitVec.xor_self,
      BitVec.xor_zero]
  unfold crcShift
  rw [BitVec.getLsbD_xor, BitVec.ushiftRight_xor_distrib]
  cases x.getLsbD 0 <;> cases y.getLsbD 0 <;> simp [fed]
  · ac_rfl
  · ac_rfl

theorem crcShifts_xor (n : Nat) (x y : BitVec w) :
    crcShifts poly n (x ^^^ y) = crcShifts poly n x ^^^ crcShifts poly n y := by
  induction n generalizing x y with
  | zero => rfl
  | succ n ih => rw [crcShifts, crcShift_xor, ih]; rfl

theorem crcShifts_add (m n : Nat) (register : BitVec w) :
    crcShifts poly (m + n) register = crcShifts poly n (crcShifts poly m register) := by
  induction m generalizing register with
  | zero => rw [Nat.zero_add]; rfl
  | succ m ih => rw [Nat.succ_add, crcShifts, ih]; rfl

theorem crcShifts_clear (n : Nat) (register : BitVec w)
    (clear : ∀ i < n, register.getLsbD i = false) : crcShifts poly n register = register >>> n := by
  induction n generalizing register with
  | zero => simp [crcShifts]
  | succ n ih =>
      have first : crcShift poly register = register >>> 1 := by
        simp [crcShift, clear 0 (Nat.succ_pos n)]
      have later : ∀ i < n, (register >>> 1).getLsbD i = false := by
        intro i bound
        rw [BitVec.getLsbD_ushiftRight]
        exact clear (1 + i) (by omega)
      rw [crcShifts, first, ih _ later, ← BitVec.shiftRight_add, Nat.add_comm 1 n]

section Injective

variable {poly} (feedback : poly.getLsbD (w - 1) = true)

include feedback

theorem crcShift_top (register : BitVec w) :
    (crcShift poly register).getLsbD (w - 1) = register.getLsbD 0 := by
  have width : 0 < w := by
    apply Nat.pos_of_ne_zero
    rintro rfl
    simp at feedback
  have moved : (register >>> 1).getLsbD (w - 1) = false := by
    rw [BitVec.getLsbD_ushiftRight]
    exact BitVec.getLsbD_of_ge _ _ (by omega)
  unfold crcShift
  cases low : register.getLsbD 0
  · simp [moved]
  · simp [moved, feedback]

theorem crcShift_eq_zero {register : BitVec w} (zero : crcShift poly register = 0#w) :
    register = 0#w := by
  have low : register.getLsbD 0 = false := by
    rw [← crcShift_top feedback, zero]
    simp
  have moved : register >>> 1 = 0#w := by simpa [crcShift, low] using zero
  apply BitVec.eq_of_getLsbD_eq
  intro i bound
  cases i with
  | zero => simpa using low
  | succ i =>
      have bit := congrArg (fun x => x.getLsbD i) moved
      simpa [BitVec.getLsbD_ushiftRight, Nat.add_comm] using bit

theorem crcShifts_inj (n : Nat) {x y : BitVec w} (same : crcShifts poly n x = crcShifts poly n y) :
    x = y := by
  induction n generalizing x y with
  | zero => exact same
  | succ n ih =>
      have step := ih same
      have zero : crcShift poly (x ^^^ y) = 0#w := by
        rw [crcShift_xor, step, BitVec.xor_self]
      exact BitVec.xor_eq_zero_iff.mp (crcShift_eq_zero feedback zero)

theorem crcBytes_inj (bytes : List UInt8) {x y : BitVec w}
    (same : crcBytes poly x bytes = crcBytes poly y bytes) : x = y := by
  induction bytes generalizing x y with
  | nil => exact same
  | cons byte bytes ih =>
      have step : crcByte poly x byte = crcByte poly y byte := ih same
      have inside := crcShifts_inj feedback 8 step
      have undone := congrArg (· ^^^ byte.toBitVec.setWidth w) inside
      simpa [BitVec.xor_assoc] using undone

end Injective

def wordOf (w : Nat) : List UInt8 → BitVec w
  | [] => 0#w
  | byte :: bytes => byte.toBitVec.setWidth w ^^^ wordOf w bytes <<< 8

theorem wordOf_cons_getLsbD (byte : UInt8) (bytes : List UInt8) {i : Nat} (bound : i < w) :
    (wordOf w (byte :: bytes)).getLsbD i =
      if i < 8 then byte.toBitVec.getLsbD i else (wordOf w bytes).getLsbD (i - 8) := by
  rw [wordOf, BitVec.getLsbD_xor, BitVec.getLsbD_setWidth, BitVec.getLsbD_shiftLeft]
  by_cases low : i < 8
  · simp [low, bound]
  · simp [low, bound, BitVec.getLsbD_of_ge byte.toBitVec i (by omega)]

theorem wordOf_getLsbD_of_ge (bytes : List UInt8) {i : Nat} (high : 8 * bytes.length ≤ i) :
    (wordOf w bytes).getLsbD i = false := by
  induction bytes generalizing i with
  | nil => simp [wordOf]
  | cons byte bytes ih =>
      rw [List.length_cons] at high
      by_cases bound : i < w
      · rw [wordOf_cons_getLsbD byte bytes bound, if_neg (by omega)]
        exact ih (by omega)
      · exact BitVec.getLsbD_of_ge _ _ (by omega)

theorem wordOf_inj {first second : List UInt8} (length : first.length = second.length)
    (fits : 8 * first.length ≤ w) (same : wordOf w first = wordOf w second) : first = second := by
  induction first generalizing second with
  | nil => exact (List.length_eq_zero_iff.mp length.symm).symm
  | cons a first ih =>
      cases second with
      | nil => cases length
      | cons b second =>
          simp only [List.length_cons] at length fits
          have bit : ∀ i < w, (wordOf w (a :: first)).getLsbD i =
              (wordOf w (b :: second)).getLsbD i := by
            intro i _
            rw [same]
          have head : a.toBitVec = b.toBitVec := by
            apply BitVec.eq_of_getLsbD_eq
            intro i low
            have here := bit i (by omega)
            rwa [wordOf_cons_getLsbD _ _ (by omega), wordOf_cons_getLsbD _ _ (by omega),
              if_pos low, if_pos low] at here
          have tail : wordOf w first = wordOf w second := by
            apply BitVec.eq_of_getLsbD_eq
            intro i bound
            by_cases shifted : i + 8 < w
            · have here := bit (i + 8) shifted
              rwa [wordOf_cons_getLsbD _ _ shifted, wordOf_cons_getLsbD _ _ shifted,
                if_neg (by omega), if_neg (by omega), Nat.add_sub_cancel] at here
            · rw [wordOf_getLsbD_of_ge first (by omega), wordOf_getLsbD_of_ge second (by omega)]
          rw [UInt8.toBitVec_inj.mp head, ih (by omega) (by omega) tail]

theorem crcBytes_burst (register : BitVec w) (bytes : List UInt8) (fits : 8 * bytes.length ≤ w) :
    crcBytes poly register bytes =
      crcShifts poly (8 * bytes.length) (register ^^^ wordOf w bytes) := by
  induction bytes generalizing register with
  | nil => simp [crcBytes, wordOf, crcShifts]
  | cons byte bytes ih =>
      rw [List.length_cons] at fits
      have clear : ∀ i < 8, (wordOf w bytes <<< 8).getLsbD i = false := by
        intro i low
        simp [BitVec.getLsbD_shiftLeft, low]
      have back : wordOf w bytes <<< 8 >>> 8 = wordOf w bytes := by
        apply BitVec.eq_of_getLsbD_eq
        intro i _
        rw [BitVec.getLsbD_ushiftRight, BitVec.getLsbD_shiftLeft]
        by_cases inside : 8 + i < w
        · simp [inside]
        · simp [inside, wordOf_getLsbD_of_ge bytes (w := w) (i := i) (by omega)]
      have taken : crcByte poly register byte ^^^ wordOf w bytes =
          crcShifts poly 8 (register ^^^ wordOf w (byte :: bytes)) := by
        rw [wordOf, ← BitVec.xor_assoc, crcShifts_xor, crcShifts_clear poly 8 _ clear, back, crcByte]
      calc
        crcBytes poly register (byte :: bytes) =
            crcBytes poly (crcByte poly register byte) bytes := rfl
        _ = crcShifts poly (8 * bytes.length) (crcByte poly register byte ^^^ wordOf w bytes) :=
          ih _ (by omega)
        _ = crcShifts poly (8 + 8 * bytes.length) (register ^^^ wordOf w (byte :: bytes)) := by
          rw [taken, crcShifts_add]
        _ = _ := by rw [List.length_cons, Nat.mul_succ, Nat.add_comm]

theorem crcBytes_ne_of_burst (feedback : poly.getLsbD (w - 1) = true) (register : BitVec w)
    (before after : List UInt8) {first second : List UInt8}
    (length : first.length = second.length) (fits : 8 * first.length ≤ w)
    (differ : first ≠ second) :
    crcBytes poly register (before ++ first ++ after) ≠
      crcBytes poly register (before ++ second ++ after) := by
  intro same
  have apart : ∀ bytes : List UInt8, crcBytes poly register (before ++ bytes ++ after) =
      crcBytes poly (crcBytes poly (crcBytes poly register before) bytes) after := by
    intro bytes
    simp [crcBytes]
  rw [apart, apart] at same
  have burst := crcBytes_inj feedback after same
  rw [crcBytes_burst poly _ first fits, crcBytes_burst poly _ second (length ▸ fits), length] at burst
  have words := congrArg (crcBytes poly register before ^^^ ·) (crcShifts_inj feedback _ burst)
  apply differ
  apply wordOf_inj length fits
  simpa [← BitVec.xor_assoc] using words

theorem crcByte_table (register : BitVec w) (byte : UInt8) :
    crcByte poly register byte =
      crcShifts poly 8 ((register.setWidth 8 ^^^ byte.toBitVec).setWidth w) ^^^ register >>> 8 := by
  have split : register ^^^ byte.toBitVec.setWidth w =
      (register.setWidth 8 ^^^ byte.toBitVec).setWidth w ^^^ register >>> 8 <<< 8 := by
    apply BitVec.eq_of_getLsbD_eq
    intro i bound
    by_cases low : i < 8
    · simp [bound, low]
    · have high : 8 + (i - 8) = i := by omega
      simp [BitVec.getLsbD_setWidth, bound, low, high,
        BitVec.getLsbD_of_ge byte.toBitVec i (by omega)]
  have clear : ∀ i < 8, (register >>> 8 <<< 8).getLsbD i = false := by
    intro i low
    simp [BitVec.getLsbD_shiftLeft, low]
  have back : register >>> 8 <<< 8 >>> 8 = register >>> 8 := by
    apply BitVec.eq_of_getLsbD_eq
    intro i _
    rw [BitVec.getLsbD_ushiftRight, BitVec.getLsbD_shiftLeft]
    by_cases inside : 8 + i < w
    · simp [inside]
    · simp [inside, BitVec.getLsbD_of_ge register (8 + i) (by omega)]
  rw [crcByte, split, crcShifts_xor, crcShifts_clear poly 8 _ clear, back]

end A500cg.Lib
