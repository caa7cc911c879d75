import Mathlib.Data.List.Basic
import Mathlib.Tactic

/-! Scanning a buffer for a pattern at a fixed stride, and merging the values found so
that the last one that is not zero wins. -/

namespace A500cg.Lib

/-- The first hit at `pos`, `pos + stride`, … that has `room` cells before the end. -/
def scan (hit : Nat → Bool) (stride room size pos : Nat) : Option Nat :=
  if pos + room ≤ size ∧ 0 < stride then
    if hit pos then some pos else scan hit stride room size (pos + stride)
  else none
termination_by size + 1 - pos
decreasing_by omega

/-- `p` is one of the places that a scan from `pos` on looks at, with room and a hit. -/
def HitFrom (hit : Nat → Bool) (stride room size pos p : Nat) : Prop :=
  pos ≤ p ∧ stride ∣ p - pos ∧ p + room ≤ size ∧ hit p = true

theorem hitFrom_next {hit : Nat → Bool} {stride room size pos p : Nat} (apart : p ≠ pos) :
    HitFrom hit stride room size pos p ↔ HitFrom hit stride room size (pos + stride) p := by
  constructor
  · intro here
    rcases here with ⟨behind, ⟨k, steps⟩, fits, found⟩
    cases k with
    | zero => omega
    | succ k =>
        rw [Nat.mul_add, Nat.mul_one] at steps
        exact ⟨by omega, ⟨k, by omega⟩, fits, found⟩
  · intro next
    rcases next with ⟨behind, ⟨k, steps⟩, fits, found⟩
    refine ⟨by omega, ⟨k + 1, ?_⟩, fits, found⟩
    rw [Nat.mul_add, Nat.mul_one]
    omega

theorem hitFrom_here {hit : Nat → Bool} {stride room size pos : Nat} :
    HitFrom hit stride room size pos pos ↔ pos + room ≤ size ∧ hit pos = true := by
  simp [HitFrom]

theorem scan_eq_some {hit : Nat → Bool} {stride room size pos q : Nat}
    (found : scan hit stride room size pos = some q) :
    HitFrom hit stride room size pos q ∧
      ∀ p, HitFrom hit stride room size pos p → q ≤ p := by
  fun_induction scan hit stride room size pos with
  | case1 pos bound here =>
      cases found
      exact ⟨hitFrom_here.mpr ⟨bound.1, here⟩, fun p other => other.1⟩
  | case2 pos bound missed ih =>
      rcases ih found with ⟨there, first⟩
      have behind : pos + stride ≤ q := there.1
      refine ⟨(hitFrom_next (by omega)).mpr there, fun p other => ?_⟩
      by_cases same : p = pos
      · rw [same] at other
        exact absurd (hitFrom_here.mp other).2 missed
      · exact first p ((hitFrom_next same).mp other)
  | case3 pos outside => cases found

theorem scan_eq_none {hit : Nat → Bool} {stride room size pos : Nat} (positive : 0 < stride)
    (missed : scan hit stride room size pos = none) (p : Nat) :
    ¬ HitFrom hit stride room size pos p := by
  fun_induction scan hit stride room size pos with
  | case1 pos bound here => cases missed
  | case2 pos bound failed ih =>
      intro other
      by_cases same : p = pos
      · rw [same] at other
        exact failed (hitFrom_here.mp other).2
      · exact ih missed ((hitFrom_next same).mp other)
  | case3 pos outside =>
      intro other
      rcases other with ⟨behind, _, fits, _⟩
      exact outside ⟨by omega, positive⟩

theorem scan_one_eq_some {hit : Nat → Bool} {room size pos q : Nat} :
    scan hit 1 room size pos = some q ↔
      pos ≤ q ∧ q + room ≤ size ∧ hit q = true ∧ ∀ p, pos ≤ p → p < q → hit p = false := by
  constructor
  · intro found
    rcases scan_eq_some found with ⟨⟨behind, _, fits, here⟩, first⟩
    refine ⟨behind, fits, here, fun p after before => ?_⟩
    apply Bool.eq_false_iff.mpr
    intro earlier
    have later := first p ⟨after, Nat.one_dvd _, by omega, earlier⟩
    omega
  · rintro ⟨behind, fits, here, first⟩
    have there : HitFrom hit 1 room size pos q := ⟨behind, Nat.one_dvd _, fits, here⟩
    cases found : scan hit 1 room size pos with
    | none => exact absurd there (scan_eq_none (by decide) found q)
    | some r =>
        rcases scan_eq_some found with ⟨⟨behind', _, _, here'⟩, least⟩
        have upper := least q there
        by_cases same : r = q
        · rw [same]
        · rw [first r behind' (by omega)] at here'
          cases here'

theorem hitFrom_iff_of_scan {hit : Nat → Bool} {stride room size pos q : Nat}
    (found : scan hit stride room size pos = some q) (p : Nat) :
    HitFrom hit stride room size pos p ↔ p = q ∨ HitFrom hit stride room size (q + stride) p := by
  rcases scan_eq_some found with ⟨⟨behind, ⟨k, steps⟩, fits, hitq⟩, first⟩
  constructor
  · intro other
    have later := first p other
    rcases other with ⟨_, ⟨m, steps'⟩, fits', hitp⟩
    by_cases same : p = q
    · exact Or.inl same
    · have here : HitFrom hit stride room size q p := by
        refine ⟨later, ⟨m - k, ?_⟩, fits', hitp⟩
        rw [Nat.mul_sub]
        omega
      exact Or.inr ((hitFrom_next same).mp here)
  · intro split
    rcases split with rfl | ⟨behind', ⟨m, steps'⟩, fits', hitp⟩
    · exact ⟨behind, ⟨k, steps⟩, fits, hitq⟩
    · refine ⟨by omega, ⟨k + 1 + m, ?_⟩, fits', hitp⟩
      rw [Nat.mul_add, Nat.mul_add, Nat.mul_one]
      omega

instance (hit : Nat → Bool) (stride room size pos p : Nat) :
    Decidable (HitFrom hit stride room size pos p) :=
  inferInstanceAs (Decidable (_ ∧ _))

def hitsFrom (hit : Nat → Bool) (stride room size pos : Nat) : List Nat :=
  (List.range size).filter fun p => HitFrom hit stride room size pos p

theorem mem_hitsFrom {hit : Nat → Bool} {stride room size pos p : Nat} (wide : 0 < room) :
    p ∈ hitsFrom hit stride room size pos ↔ HitFrom hit stride room size pos p := by
  simp only [hitsFrom, List.mem_filter, List.mem_range, decide_eq_true_eq, and_iff_right_iff_imp]
  intro here
  have fits := here.2.2.1
  omega

theorem hitsFrom_ordered (hit : Nat → Bool) (stride room size pos : Nat) :
    (hitsFrom hit stride room size pos).Pairwise (· < ·) :=
  List.pairwise_lt_range.filter _

theorem hitsFrom_of_scan {hit : Nat → Bool} {stride room size pos q : Nat} (wide : 0 < room)
    (positive : 0 < stride) (found : scan hit stride room size pos = some q) :
    hitsFrom hit stride room size pos = q :: hitsFrom hit stride room size (q + stride) := by
  refine (hitsFrom_ordered ..).eq_of_mem_iff (List.pairwise_cons.mpr ⟨?_, hitsFrom_ordered ..⟩) ?_
  · intro p later
    have behind := ((mem_hitsFrom wide).mp later).1
    omega
  · intro p
    rw [mem_hitsFrom wide, List.mem_cons, mem_hitsFrom wide]
    exact hitFrom_iff_of_scan found p

theorem hitsFrom_of_none {hit : Nat → Bool} {stride room size pos : Nat} (wide : 0 < room)
    (positive : 0 < stride) (missed : scan hit stride room size pos = none) :
    hitsFrom hit stride room size pos = [] := by
  apply List.eq_nil_iff_forall_not_mem.mpr
  intro p member
  exact scan_eq_none positive missed p ((mem_hitsFrom wide).mp member)

theorem hitsFrom_of_outside {hit : Nat → Bool} {stride room size pos : Nat} (wide : 0 < room)
    (outside : ¬ pos + room ≤ size) : hitsFrom hit stride room size pos = [] := by
  apply List.eq_nil_iff_forall_not_mem.mpr
  intro p member
  rcases (mem_hitsFrom wide).mp member with ⟨behind, _, fits, _⟩
  omega

theorem scan_one_eq_none {hit : Nat → Bool} {room size pos : Nat} :
    scan hit 1 room size pos = none ↔ ∀ p, pos ≤ p → p + room ≤ size → hit p = false := by
  constructor
  · intro missed p after fits
    apply Bool.eq_false_iff.mpr
    intro here
    exact scan_eq_none (by decide) missed p ⟨after, Nat.one_dvd _, fits, here⟩
  · intro nowhere
    apply Option.eq_none_iff_forall_ne_some.mpr
    intro q found
    rcases scan_one_eq_some.mp found with ⟨behind, fits, here, _⟩
    rw [nowhere q behind fits] at here
    cases here

theorem scan_one_shorter (hit : Nat → Bool) (room pos : Nat) {size size' : Nat}
    (shorter : size' ≤ size) :
    scan hit 1 room size' pos = (scan hit 1 room size pos).filter fun q => q + room ≤ size' := by
  cases found : scan hit 1 room size pos with
  | none =>
      apply scan_one_eq_none.mpr
      intro p after fits
      exact scan_one_eq_none.mp found p after (by omega)
  | some q =>
      rcases scan_one_eq_some.mp found with ⟨behind, fits, here, first⟩
      by_cases room' : q + room ≤ size'
      · rw [Option.filter_some, if_pos (by simpa using room')]
        exact scan_one_eq_some.mpr ⟨behind, room', here, first⟩
      · rw [Option.filter_some, if_neg (by simpa using room')]
        apply scan_one_eq_none.mpr
        intro p after fits'
        exact first p after (by omega)

/-- The hits of a search that goes on `skip` cells behind each one it finds. -/
def searchAll (hit : Nat → Bool) (room skip size pos : Nat) : List Nat :=
  match _found : scan hit 1 room size pos with
  | some q => if 0 < skip then q :: searchAll hit room skip size (q + skip) else [q]
  | none => []
termination_by size + 1 - pos
decreasing_by
  have bounds := scan_one_eq_some.mp _found
  omega

section SearchAll

variable {hit : Nat → Bool} {room skip size pos : Nat}

theorem searchAll_of_some {q : Nat} (positive : 0 < skip)
    (found : scan hit 1 room size pos = some q) :
    searchAll hit room skip size pos = q :: searchAll hit room skip size (q + skip) := by
  rw [searchAll]
  split
  · rename_i r other
    cases found.symm.trans other
    rw [if_pos positive]
  · rename_i missed
    cases found.symm.trans missed

theorem searchAll_of_none (missed : scan hit 1 room size pos = none) :
    searchAll hit room skip size pos = [] := by
  rw [searchAll]
  split
  · rename_i r found
    cases missed.symm.trans found
  · rfl

theorem of_mem_searchAll {p : Nat} (member : p ∈ searchAll hit room skip size pos) :
    pos ≤ p ∧ p + room ≤ size ∧ hit p = true := by
  fun_induction searchAll hit room skip size pos with
  | case1 pos q found positive ih =>
      rcases scan_one_eq_some.mp found with ⟨behind, fits, here, _⟩
      rcases List.mem_cons.mp member with rfl | later
      · exact ⟨behind, fits, here⟩
      · rcases ih later with ⟨behind', there⟩
        exact ⟨by omega, there⟩
  | case2 pos q found still =>
      rcases scan_one_eq_some.mp found with ⟨behind, fits, here, _⟩
      cases List.mem_singleton.mp member
      exact ⟨behind, fits, here⟩
  | case3 pos missed => cases member

theorem searchAll_shorter {size' : Nat} (positive : 0 < skip) (shorter : size' ≤ size) :
    searchAll hit room skip size' pos =
      (searchAll hit room skip size pos).filter fun q => q + room ≤ size' := by
  fun_induction searchAll hit room skip size pos with
  | case1 pos q found positive ih =>
      have cut := scan_one_shorter hit room pos shorter
      rw [found, Option.filter_some] at cut
      by_cases fits : q + room ≤ size'
      · rw [if_pos (by simpa using fits)] at cut
        rw [searchAll_of_some positive cut, List.filter_cons_of_pos (by simpa using fits), ih]
      · rw [if_neg (by simpa using fits)] at cut
        rw [searchAll_of_none cut, eq_comm]
        apply List.filter_eq_nil_iff.mpr
        intro p member
        -- every hit is at `q` or behind it, so that none has room before `size'`
        rcases List.mem_cons.mp member with rfl | later
        · simpa using fits
        · have after := (of_mem_searchAll later).1
          simp only [decide_eq_true_eq]
          omega
  | case2 pos q found still => exact absurd positive still
  | case3 pos missed =>
      have cut := scan_one_shorter hit room pos shorter
      rw [missed] at cut
      exact searchAll_of_none cut

end SearchAll

section KeepLast

variable {α : Type} [Zero α] [DecidableEq α]

def keepLast (old new : α) : α := if new ≠ 0 then new else old

theorem keepLast_zero (old : α) : keepLast old 0 = old := by simp [keepLast]

theorem keepLast_of_ne {old new : α} (nonzero : new ≠ 0) : keepLast old new = new := by
  simp [keepLast, nonzero]

def lastNonzero (values : List α) : α := (values.filter (· ≠ 0)).getLastD 0

theorem lastNonzero_zeros {values : List α} (zeros : ∀ value ∈ values, value = 0) :
    lastNonzero values = 0 := by
  have empty : values.filter (· ≠ 0) = [] := by
    apply List.filter_eq_nil_iff.mpr
    intro value member
    simpa using zeros value member
  rw [lastNonzero, empty]
  rfl

theorem foldl_keepLast (values : List α) (old : α) :
    values.foldl keepLast old = (values.filter (· ≠ 0)).getLastD old := by
  induction values generalizing old with
  | nil => rfl
  | cons value rest ih =>
      rw [List.foldl_cons, ih]
      by_cases zero : value = 0
      · rw [zero, keepLast_zero, List.filter_cons, if_neg (by simp)]
      · rw [keepLast_of_ne zero, List.filter_cons, if_pos (by simpa using zero),
          List.getLastD_cons]

end KeepLast

end A500cg.Lib
