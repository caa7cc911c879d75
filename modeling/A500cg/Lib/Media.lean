import A500cg.Lib.WriteLog
import Mathlib.Tactic

/-! Spans of bytes on a medium: reading one, laying one over the content, and how the two meet. -/

namespace A500cg.Lib

/-- The `n` bytes from an address on. -/
def span (content : Buffer) (addr n : Nat) : List UInt8 :=
  (List.range n).map fun i => content (addr + i)

def patch (content : Buffer) (addr : Nat) (bytes : List UInt8) : Buffer :=
  overlay content addr bytes.length fun i => bytes.getD i 0

@[simp] theorem span_length (content : Buffer) (addr n : Nat) : (span content addr n).length = n := by
  simp [span]

theorem span_getElem? (content : Buffer) (addr : Nat) {n i : Nat} (bound : i < n) :
    (span content addr n)[i]? = some (content (addr + i)) := by
  simp [span, bound]

theorem span_congr {first second : Buffer} {addr n : Nat}
    (agree : ∀ i < n, first (addr + i) = second (addr + i)) :
    span first addr n = span second addr n := by
  apply List.map_congr_left
  intro i member
  exact agree i (List.mem_range.mp member)

theorem patch_inside (content : Buffer) (addr : Nat) (bytes : List UInt8) {i : Nat}
    (bound : i < bytes.length) : patch content addr bytes (addr + i) = bytes[i] := by
  rw [patch, overlay_inside _ _ _ _ i bound]
  exact (List.getElem_eq_getD 0).symm

theorem patch_outside (content : Buffer) (addr : Nat) (bytes : List UInt8) (a : Nat)
    (outside : a < addr ∨ addr + bytes.length ≤ a) : patch content addr bytes a = content a :=
  overlay_outside content addr bytes.length _ a outside

theorem span_patch (content : Buffer) (addr : Nat) (bytes : List UInt8) :
    span (patch content addr bytes) addr bytes.length = bytes := by
  apply List.ext_getElem
  · exact span_length ..
  · intro i _ bound
    have here := span_getElem? (patch content addr bytes) addr bound
    rw [patch_inside content addr bytes bound] at here
    exact List.getElem?_eq_some_iff.mp here |>.2

theorem span_patch_of_disjoint (content : Buffer) (addr : Nat) (bytes : List UInt8) {start n : Nat}
    (disjoint : start + n ≤ addr ∨ addr + bytes.length ≤ start) :
    span (patch content addr bytes) start n = span content start n := by
  apply span_congr
  intro i bound
  exact patch_outside content addr bytes _ (by omega)

theorem patch_span (content : Buffer) (addr n : Nat) :
    patch content addr (span content addr n) = content := by
  funext a
  by_cases inside : addr ≤ a ∧ a < addr + n
  · obtain ⟨i, rfl⟩ := Nat.exists_eq_add_of_le inside.1
    have bound : i < (span content addr n).length := by
      rw [span_length]
      omega
    rw [patch_inside content addr _ bound]
    simp [span]
  · exact patch_outside content addr _ a (by rw [span_length]; omega)

theorem patch_getD (content : Buffer) (addr : Nat) (bytes : List UInt8) (i : Nat) :
    patch content addr bytes (addr + i) = (bytes[i]?).getD (content (addr + i)) := by
  by_cases bound : i < bytes.length
  · rw [patch_inside content addr bytes bound, List.getElem?_eq_getElem bound]
    rfl
  · rw [patch_outside content addr bytes _ (Or.inr (by omega)),
      List.getElem?_eq_none (Nat.le_of_not_lt bound)]
    rfl

theorem patch_middle {content : Buffer} {addr : Nat} {before old new after : List UInt8}
    (here : span content addr (before ++ old ++ after).length = before ++ old ++ after)
    (same : new.length = old.length) :
    patch content addr (before ++ new ++ after) = patch content (addr + before.length) new := by
  funext a
  by_cases below : a < addr
  · rw [patch_outside content addr _ a (Or.inl below),
      patch_outside content _ _ a (Or.inl (by omega))]
  obtain ⟨i, rfl⟩ := Nat.exists_eq_add_of_le (Nat.le_of_not_lt below)
  have stands : ∀ byte, (before ++ old ++ after)[i]? = some byte → content (addr + i) = byte := by
    intro byte present
    have bound := (List.getElem?_eq_some_iff.mp present).1
    rw [← here, span_getElem? content addr bound] at present
    exact Option.some.inj present
  rw [patch_getD]
  by_cases first : i < before.length
  · rw [patch_outside content _ _ _ (Or.inl (by omega)), List.append_assoc,
      List.getElem?_append_left first]
    rw [List.append_assoc, List.getElem?_append_left first] at stands
    rw [List.getElem?_eq_getElem first, stands _ (List.getElem?_eq_getElem first)]
    rfl
  obtain ⟨k, rfl⟩ := Nat.exists_eq_add_of_le (Nat.le_of_not_lt first)
  rw [← Nat.add_assoc, patch_getD, List.append_assoc, List.getElem?_append_right (by omega),
    Nat.add_sub_cancel_left]
  by_cases middle : k < new.length
  · rw [List.getElem?_append_left middle]
  · rw [List.getElem?_append_right (by omega), List.getElem?_eq_none (l := new) (by omega)]
    rw [List.append_assoc, List.getElem?_append_right (by omega), Nat.add_sub_cancel_left,
      List.getElem?_append_right (by omega), ← same] at stands
    cases present : after[k - new.length]? with
    | none => rfl
    | some byte =>
        rw [Nat.add_assoc]
        exact (stands byte present).symm

section Taken

/-- The bytes that a `write` takes of those it is given; `none` is no limit. -/
def taken (limit : Option Nat) (bytes : List UInt8) : List UInt8 :=
  match limit with
  | none => bytes
  | some n => bytes.take n

/-- Whether a `write` of `count` bytes falls short. -/
def isShort (limit : Option Nat) (count : Nat) : Bool :=
  match limit with
  | none => false
  | some n => n < count

theorem taken_length_le (limit : Option Nat) (bytes : List UInt8) :
    (taken limit bytes).length ≤ bytes.length := by
  cases limit with
  | none => exact le_refl _
  | some n => exact List.length_take_le' n bytes

theorem taken_of_not_short {limit : Option Nat} {bytes : List UInt8}
    (enough : isShort limit bytes.length = false) : taken limit bytes = bytes := by
  cases limit with
  | none => rfl
  | some n => exact List.take_of_length_le (Nat.le_of_not_lt (of_decide_eq_false enough))

/-- After a short write a byte is as it was or as the whole write leaves it. -/
theorem patch_taken (content : Buffer) (addr : Nat) (limit : Option Nat) (bytes : List UInt8)
    (a : Nat) : patch content addr (taken limit bytes) a = content a ∨
      patch content addr (taken limit bytes) a = patch content addr bytes a := by
  cases limit with
  | none => exact Or.inr rfl
  | some n =>
      by_cases below : a < addr
      · exact Or.inl (patch_outside content addr _ a (Or.inl below))
      obtain ⟨i, rfl⟩ := Nat.exists_eq_add_of_le (Nat.le_of_not_lt below)
      rw [patch_getD, patch_getD, taken]
      by_cases first : i < n
      · right
        rw [List.getElem?_take_of_lt first]
      · left
        rw [List.getElem?_eq_none (le_trans (List.length_take_le n bytes) (Nat.le_of_not_lt first))]
        rfl

end Taken

section Torn

/-- What is left of a write of which only some blocks of `unit` bytes were done. -/
def torn (unit : Nat) (done : Nat → Bool) (old new : List UInt8) : List UInt8 :=
  (List.range new.length).map fun k => if done (k / unit) then new.getD k 0 else old.getD k 0

variable {unit : Nat} {done : Nat → Bool} {old new : List UInt8}

@[simp] theorem torn_length : (torn unit done old new).length = new.length := by
  simp [torn]

theorem torn_getElem? (length : old.length = new.length) (k : Nat) :
    (torn unit done old new)[k]? = if done (k / unit) then new[k]? else old[k]? := by
  by_cases bound : k < new.length
  · have bound' : k < old.length := by omega
    rw [List.getElem?_eq_getElem bound, List.getElem?_eq_getElem bound']
    simp only [torn, List.getElem?_map, List.getElem?_range bound, Option.map_some]
    split_ifs
    · exact congrArg some (List.getElem_eq_getD 0).symm
    · exact congrArg some (List.getElem_eq_getD 0).symm
  · rw [List.getElem?_eq_none (by rw [torn_length]; omega), List.getElem?_eq_none (by omega),
      List.getElem?_eq_none (by omega)]
    split_ifs
    · rfl
    · rfl

theorem torn_eq {block : Nat} (length : old.length = new.length)
    (inside : ∀ k, old[k]? ≠ new[k]? → k / unit = block) :
    torn unit done old new = if done block then new else old := by
  cases written : done block with
  | true =>
      rw [if_pos rfl]
      apply List.ext_getElem?
      intro k
      rw [torn_getElem? length]
      split_ifs with now
      · rfl
      · by_contra differ
        rw [inside k differ] at now
        exact now written
  | false =>
      rw [if_neg (by decide)]
      apply List.ext_getElem?
      intro k
      rw [torn_getElem? length]
      split_ifs with now
      · by_contra differ
        rw [inside k (Ne.symm differ), written] at now
        cases now
      · rfl

end Torn

section Regions

variable {ι : Type} (start : ι → Nat) (bytes : ι → List UInt8)

def patches (content : Buffer) (regions : List ι) : Buffer :=
  regions.foldl (fun content i => patch content (start i) (bytes i)) content

variable {start bytes} in
theorem patches_congr {bytes' : ι → List UInt8} (content : Buffer) (regions : List ι)
    (same : ∀ i ∈ regions, bytes i = bytes' i) :
    patches start bytes content regions = patches start bytes' content regions := by
  apply List.foldl_ext
  intro content i member
  rw [same i member]

def Apart : Prop := ∀ i j, i ≠ j →
  start i + (bytes i).length ≤ start j ∨ start j + (bytes j).length ≤ start i

variable {start bytes}

theorem span_patches [DecidableEq ι] (apart : Apart start bytes) (content : Buffer)
    (regions : List ι) (i : ι) :
    span (patches start bytes content regions) (start i) (bytes i).length =
      if i ∈ regions then bytes i else span content (start i) (bytes i).length := by
  induction regions generalizing content with
  | nil => rfl
  | cons j regions ih =>
      have first : patches start bytes content (j :: regions) =
          patches start bytes (patch content (start j) (bytes j)) regions := rfl
      rw [first, ih]
      by_cases later : i ∈ regions
      · simp [later]
      · by_cases here : i = j
        · subst here
          simp [later, span_patch]
        · simp [later, here, span_patch_of_disjoint content (start j) (bytes j) (apart i j here)]

theorem patches_outside (content : Buffer) (regions : List ι) {a : Nat}
    (outside : ∀ i ∈ regions, a < start i ∨ start i + (bytes i).length ≤ a) :
    patches start bytes content regions a = content a := by
  induction regions generalizing content with
  | nil => rfl
  | cons j regions ih =>
      have first : patches start bytes content (j :: regions) =
          patches start bytes (patch content (start j) (bytes j)) regions := rfl
      rw [first, ih _ fun i member => outside i (List.mem_cons_of_mem _ member)]
      exact patch_outside content (start j) (bytes j) a (outside j List.mem_cons_self)

theorem eq_of_spans {first second : Buffer} (size : ι → Nat)
    (inside : ∀ i, span first (start i) (size i) = span second (start i) (size i))
    (outside : ∀ a, (∀ i, a < start i ∨ start i + size i ≤ a) → first a = second a) :
    first = second := by
  funext a
  by_cases covered : ∃ i, start i ≤ a ∧ a < start i + size i
  · obtain ⟨i, low, high⟩ := covered
    obtain ⟨k, rfl⟩ := Nat.exists_eq_add_of_le low
    have bound : k < size i := by omega
    have left := span_getElem? first (start i) bound
    rw [inside i, span_getElem? second (start i) bound] at left
    exact (Option.some.inj left).symm
  · apply outside
    intro i
    have here := not_and_or.mp (not_exists.mp covered i)
    omega

end Regions

end A500cg.Lib
