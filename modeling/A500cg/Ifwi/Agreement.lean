import A500cg.Ifwi.Versions

/-! When the version that `get_image_fw_rev` shows is the one that `crack_update_fw` gates
the flash on. -/

namespace A500cg.Ifwi

open Lib

/-- A whole FIP header starts at `p`. -/
def FipAt (image : List UInt8) (p : Nat) : Prop :=
  p + fipBytes ≤ image.length ∧ isFip image p = true

def AlignedFip (image : List UInt8) (p : Nat) : Prop := 4 ∣ p ∧ FipAt image p

/-- The last aligned header in which the field is set. -/
def LastSet (field : FwVersion → UInt8) (image : List UInt8) (p : Nat) : Prop :=
  AlignedFip image p ∧ field (fipHeader image p).ifwi ≠ 0 ∧
    ∀ later, p < later → AlignedFip image later → field (fipHeader image later).ifwi = 0

/-- The first magic at or behind `pos`, at any alignment. -/
def FirstMagic (image : List UInt8) (pos q : Nat) : Prop :=
  pos ≤ q ∧ q + 4 ≤ image.length ∧ isFip image q = true ∧
    ∀ p, pos ≤ p → p < q → isFip image p = false

/-- From magic to magic, past every header of version 0.0, the first header with a version. -/
inductive FirstVersioned (image : List UInt8) : Nat → Nat → Prop
  | here {pos q : Nat} (magic : FirstMagic image pos q) (fits : q + fipBytes ≤ image.length)
      (versioned : (fipHeader image q).ifwi ≠ .zero) : FirstVersioned image pos q
  | past {pos q r : Nat} (magic : FirstMagic image pos q) (fits : q + fipBytes ≤ image.length)
      (empty : (fipHeader image q).ifwi = .zero)
      (next : FirstVersioned image (q + fipBytes) r) : FirstVersioned image pos r

/-- The aligned headers, each field taken from the last of them that sets it, spell the
version of the header at `q`. -/
def MergeTo (field : FwVersion → UInt8) (image : List UInt8) (q : Nat) : Prop :=
  (∀ p, LastSet field image p → field (fipHeader image p).ifwi = field (fipHeader image q).ifwi) ∧
    ((∀ p, AlignedFip image p → field (fipHeader image p).ifwi = 0) →
      field (fipHeader image q).ifwi = 0)

theorem alignedFip_iff (image : List UInt8) (p : Nat) :
    AlignedFip image p ↔ HitFrom (isFip image) 4 fipBytes image.length 0 p := by
  simp [AlignedFip, FipAt, HitFrom]

theorem getImageLoop_field {field : FwVersion → UInt8}
    (merge : ∀ old new, field (old.update new) = keepLast (field old) (field new))
    {image : List UInt8} {pos : Nat} {found : Bool} {v w : FirmwareVersions}
    (result : getImageLoop image pos found v = some w) :
    (∃ p, HitFrom (isFip image) 4 fipBytes image.length pos p ∧
      field (fipHeader image p).ifwi ≠ 0 ∧ field w.ifwi = field (fipHeader image p).ifwi ∧
      ∀ later, p < later → HitFrom (isFip image) 4 fipBytes image.length pos later →
        field (fipHeader image later).ifwi = 0) ∨
    ((∀ p, HitFrom (isFip image) 4 fipBytes image.length pos p →
      field (fipHeader image p).ifwi = 0) ∧ field w.ifwi = field v.ifwi) := by
  fun_induction getImageLoop image pos found v with
  | case1 pos found v inside hit scanned ih =>
      have split := hitFrom_iff_of_scan scanned
      have updated : field (v.update (fipHeader image hit)).ifwi =
          keepLast (field v.ifwi) (field (fipHeader image hit).ifwi) := merge _ _
      rcases ih result with ⟨p, there, set, value, last⟩ | ⟨unset, value⟩
      · refine Or.inl ⟨p, (split p).mpr (Or.inr there), set, value, ?_⟩
        intro later behind other
        rcases (split later).mp other with rfl | other
        · have := there.1
          omega
        · exact last later behind other
      · rw [updated] at value
        by_cases zero : field (fipHeader image hit).ifwi = 0
        · rw [zero, keepLast_zero] at value
          refine Or.inr ⟨fun p other => ?_, value⟩
          rcases (split p).mp other with rfl | other
          · exact zero
          · exact unset p other
        · rw [keepLast_of_ne zero] at value
          refine Or.inl ⟨hit, (split hit).mpr (Or.inl rfl), zero, value, ?_⟩
          intro later behind other
          rcases (split later).mp other with rfl | other
          · omega
          · exact unset later other
  | case2 pos v inside scanned =>
      cases result
      exact Or.inr ⟨fun p other => absurd other (scan_eq_none (by decide) scanned p), rfl⟩
  | case3 pos found v inside scanned unfound => cases result
  | case4 pos found v outside =>
      cases result
      refine Or.inr ⟨fun p other => ?_, rfl⟩
      have behind := other.1
      have fits := other.2.2.1
      omega

theorem getImageLoop_isSome {image : List UInt8} {pos : Nat} {found : Bool}
    {v : FirmwareVersions}
    (met : found = true ∨ ∃ p, HitFrom (isFip image) 4 fipBytes image.length pos p) :
    ∃ w, getImageLoop image pos found v = some w := by
  fun_induction getImageLoop image pos found v with
  | case1 pos found v inside hit scanned ih => exact ih (Or.inl rfl)
  | case2 pos v inside scanned => exact ⟨v, rfl⟩
  | case3 pos found v inside scanned unfound =>
      rcases met with yes | ⟨p, other⟩
      · exact absurd yes unfound
      · exact absurd other (scan_eq_none (by decide) scanned p)
  | case4 pos found v outside => exact ⟨v, rfl⟩

theorem getImageFwRev_field {field : FwVersion → UInt8}
    (merge : ∀ old new, field (old.update new) = keepLast (field old) (field new))
    (start : field .zero = 0) {image : List UInt8} {v : FirmwareVersions}
    (result : getImageFwRev image = some v) :
    (∃ p, LastSet field image p ∧ field v.ifwi = field (fipHeader image p).ifwi) ∨
      ((∀ p, AlignedFip image p → field (fipHeader image p).ifwi = 0) ∧ field v.ifwi = 0) := by
  rcases getImageLoop_field merge result with ⟨p, there, set, value, last⟩ | ⟨unset, value⟩
  · refine Or.inl ⟨p, ⟨(alignedFip_iff image p).mpr there, set, ?_⟩, value⟩
    intro later behind other
    exact last later behind ((alignedFip_iff image later).mp other)
  · refine Or.inr ⟨fun p other => unset p ((alignedFip_iff image p).mp other), ?_⟩
    rw [value]
    exact start

theorem firstMagic_of_find {image : List UInt8} {pos q : Nat}
    (found : findFipPattern image pos = some q) : FirstMagic image pos q := scan_one_eq_some.mp found

theorem find_of_firstMagic {image : List UInt8} {pos q : Nat}
    (magic : FirstMagic image pos q) : findFipPattern image pos = some q :=
  scan_one_eq_some.mpr magic

theorem crackLoop_eq_some (image : List UInt8) (pos : Nat) (w : FwVersion) :
    crackLoop image pos = some w ↔
      ∃ q, FirstVersioned image pos q ∧ w = (fipHeader image q).ifwi := by
  constructor
  · intro result
    fun_induction crackLoop image pos with
    | case1 pos missed => cases result
    | case2 pos q found fits empty ih =>
        rcases ih result with ⟨r, next, value⟩
        exact ⟨r, .past (firstMagic_of_find found) fits empty next, value⟩
    | case3 pos q found fits versioned =>
        cases result
        exact ⟨q, .here (firstMagic_of_find found) fits versioned, rfl⟩
    | case4 pos q found short => cases result
  · intro described
    rcases described with ⟨q, trace, rfl⟩
    induction trace with
    | here magic fits versioned =>
        rw [crackLoop, find_of_firstMagic magic]
        simp only [fits, versioned, ↓reduceIte, ↓reduceDIte]
    | past magic fits empty next ih =>
        rw [crackLoop, find_of_firstMagic magic]
        simp only [fits, empty, ih, ↓reduceIte, ↓reduceDIte]

theorem lastSet_unique {field : FwVersion → UInt8} {image : List UInt8} {p q : Nat}
    (first : LastSet field image p) (second : LastSet field image q) : p = q := by
  rcases Nat.lt_trichotomy p q with before | same | after
  · exact absurd (first.2.2 q before second.1) second.2.1
  · exact same
  · exact absurd (second.2.2 p after first.1) first.2.1

theorem field_eq_iff_mergeTo {field : FwVersion → UInt8}
    (merge : ∀ old new, field (old.update new) = keepLast (field old) (field new))
    (start : field .zero = 0) {image : List UInt8} {v : FirmwareVersions}
    (result : getImageFwRev image = some v) (q : Nat) :
    field v.ifwi = field (fipHeader image q).ifwi ↔ MergeTo field image q := by
  rcases getImageFwRev_field merge start result with ⟨p, last, value⟩ | ⟨unset, value⟩
  · rw [value]
    constructor
    · intro same
      refine ⟨fun p' last' => ?_, fun unset => absurd (unset p last.1) last.2.1⟩
      rw [lastSet_unique last' last]
      exact same
    · intro merged
      exact merged.1 p last
  · rw [value]
    constructor
    · intro same
      exact ⟨fun p last => absurd (unset p last.1) last.2.1, fun _ => same.symm⟩
    · intro merged
      exact (merged.2 unset).symm

theorem update_major (old new : FwVersion) :
    (old.update new).major = keepLast old.major new.major := rfl

theorem update_minor (old new : FwVersion) :
    (old.update new).minor = keepLast old.minor new.minor := rfl

theorem version_ext {v w : FwVersion} (major : v.major = w.major) (minor : v.minor = w.minor) :
    v = w := by
  cases v
  cases w
  exact congrArg₂ FwVersion.mk major minor

theorem getImageFwRev_nonzero (image : List UInt8) :
    (∃ v, getImageFwRev image = some v ∧ v.ifwi ≠ .zero) ↔
      ∃ p, AlignedFip image p ∧ (fipHeader image p).ifwi ≠ .zero := by
  constructor
  · intro shown
    rcases shown with ⟨v, result, nonzero⟩
    rcases getImageFwRev_field update_major rfl result with ⟨p, last, _⟩ | ⟨_, major⟩
    · exact ⟨p, last.1, fun zero => last.2.1 (congrArg FwVersion.major zero)⟩
    · rcases getImageFwRev_field update_minor rfl result with ⟨p, last, _⟩ | ⟨_, minor⟩
      · exact ⟨p, last.1, fun zero => last.2.1 (congrArg FwVersion.minor zero)⟩
      · exact absurd (version_ext major minor) nonzero
  · intro carried
    rcases carried with ⟨p, aligned, nonzero⟩
    have met := (alignedFip_iff image p).mp aligned
    rcases getImageLoop_isSome (v := .zero) (Or.inr ⟨p, met⟩) with ⟨v, result⟩
    refine ⟨v, result, fun zero => nonzero ?_⟩
    have major := congrArg FwVersion.major zero
    have minor := congrArg FwVersion.minor zero
    apply version_ext
    · rcases getImageFwRev_field update_major rfl result with ⟨r, last, value⟩ | ⟨unset, _⟩
      · exact absurd (value.symm.trans major) last.2.1
      · exact unset p aligned
    · rcases getImageFwRev_field update_minor rfl result with ⟨r, last, value⟩ | ⟨unset, _⟩
      · exact absurd (value.symm.trans minor) last.2.1
      · exact unset p aligned

/-- Where both readers succeed and the first shows a version, they report the same. -/
def ReadersAgree (image : List UInt8) : Prop :=
  ∀ v w, getImageFwRev image = some v → v.ifwi ≠ .zero → crackUpdateFw image = some w →
    v.ifwi = w

theorem readersAgree_iff_merged (image : List UInt8) :
    ReadersAgree image ↔
      ∀ q, FirstVersioned image 0 q →
        (∃ p, AlignedFip image p ∧ (fipHeader image p).ifwi ≠ .zero) →
          MergeTo FwVersion.major image q ∧ MergeTo FwVersion.minor image q := by
  constructor
  · intro agree q trace carried
    rcases (getImageFwRev_nonzero image).mpr carried with ⟨v, result, nonzero⟩
    have cracked := (crackLoop_eq_some image 0 _).mpr ⟨q, trace, rfl⟩
    have same := agree v _ result nonzero cracked
    exact ⟨(field_eq_iff_mergeTo update_major rfl result q).mp (congrArg FwVersion.major same),
      (field_eq_iff_mergeTo update_minor rfl result q).mp (congrArg FwVersion.minor same)⟩
  · intro merged v w result nonzero cracked
    rcases (crackLoop_eq_some image 0 w).mp cracked with ⟨q, trace, rfl⟩
    have carried := (getImageFwRev_nonzero image).mp ⟨v, result, nonzero⟩
    rcases merged q trace carried with ⟨major, minor⟩
    exact version_ext ((field_eq_iff_mergeTo update_major rfl result q).mpr major)
      ((field_eq_iff_mergeTo update_minor rfl result q).mpr minor)

def bareFip (major minor : UInt8) : List UInt8 :=
  [0x24, 0x46, 0x49, 0x50] ++ List.replicate 36 0 ++ [minor, major, 0, 0]

/-- Two headers in a row: the file reader takes the first, the buffer reader the last. -/
theorem readers_differ_on_two_headers : ¬ ReadersAgree (bareFip 1 2 ++ bareFip 3 4) := by
  intro agree
  have trace : FirstVersioned (bareFip 1 2 ++ bareFip 3 4) 0 0 :=
    .here ⟨by decide, by decide, by decide, fun p _ before => by omega⟩ (by decide) (by decide)
  have carried : AlignedFip (bareFip 1 2 ++ bareFip 3 4) 44 :=
    ⟨by decide, by decide, by decide⟩
  have last : LastSet FwVersion.major (bareFip 1 2 ++ bareFip 3 4) 44 := by
    refine ⟨carried, by decide, fun later behind other => ?_⟩
    have fits : later + 44 ≤ 88 := other.2.1
    omega
  rcases (getImageFwRev_nonzero _).mpr ⟨44, carried, by decide⟩ with ⟨v, result, nonzero⟩
  have same := agree v _ result nonzero ((crackLoop_eq_some _ 0 _).mpr ⟨0, trace, rfl⟩)
  have merged := (field_eq_iff_mergeTo update_major rfl result 0).mp
    (congrArg FwVersion.major same)
  exact absurd (merged.1 44 last) (by decide)

end A500cg.Ifwi
