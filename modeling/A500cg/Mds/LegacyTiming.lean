import A500cg.Mds.PreferredMode

/-! The timing that the legacy `drm_hdmi.cpp` chooses for a video. -/

namespace A500cg.Mds.Legacy

open Lib

structure MDSHDMITiming where
  refresh : UInt32
  width : Int
  height : Int
  interlace : Int
  ratio : Int
  deriving DecidableEq, Repr

def MDSHDMITiming.zero : MDSHDMITiming := ⟨0, 0, 0, 0, 0⟩

def DRM_HDMI_VIDEO_EXT : Int := 2

structure LegacyBuild where
  flagInterlace : UInt32
  flagPar16_9 : UInt32
  flagPar4_3 : UInt32
  typePreferred : UInt32

/-- The build of the other `drm_hdmi.cpp` that selects the same preferred mode: there is no
`VPG_DRM` here, and no aspect ratio of its own. -/
def LegacyBuild.preferred (build : LegacyBuild) : PreferredBuild :=
  ⟨⟨false, build.flagInterlace, build.flagPar16_9, build.flagPar4_3, 0, 0⟩, build.typePreferred⟩

/-- What the driver reports: the modes, unless the pointer is null, what the examination of
the EDID finds, and the bytes of the EDID that name the product. -/
structure LegacyConnector where
  modes : Option (List TypedMode)
  status : ConnectStatus
  productInfo : List UInt8
  deriving DecidableEq, Repr

structure DrmContext where
  hdmiSupported : Bool
  newDevice : Bool
  connected : Bool
  preferredModeIndex : Nat
  modeValid : Bool
  modeSelected : MDSHDMITiming
  productInfo : List UInt8
  hdmiConnector : Option LegacyConnector
  deriving DecidableEq, Repr

def drmInit (hdmiSupported : Bool) : DrmContext :=
  ⟨hdmiSupported, false, false, 0, false, .zero, List.replicate 8 0, none⟩

def drmIsPreferredFlags (build : LegacyBuild) (flags : UInt32) : Bool :=
  flags &&& build.flagPar16_9 ≠ 0 && flags &&& build.flagInterlace = 0

def getHdmiConnector (found : Option LegacyConnector) (c : DrmContext) :
    Option (List TypedMode) × DrmContext :=
  let c := if c.hdmiConnector = none then { c with hdmiConnector := found } else c
  (c.hdmiConnector.bind LegacyConnector.modes, c)

def lookAtProduct (productInfo : List UInt8) (c : DrmContext) : DrmContext :=
  if c.productInfo ≠ productInfo then
    { c with newDevice := true, modeValid := false, productInfo := productInfo }
  else c

def drmHdmiGetConnectionStatus (build : LegacyBuild) (found : Option LegacyConnector)
    (c : DrmContext) : ConnectStatus × DrmContext :=
  if !c.hdmiSupported then (.disconnected, c)
  else
    let c := { c with hdmiConnector := none, connected := false }
    match getHdmiConnector found c with
    | (none, c) => (.disconnected, c)
    | (some modes, c) =>
        let status := c.hdmiConnector.elim .disconnected LegacyConnector.status
        if status = .disconnected then (.disconnected, c)
        else
          let c := { c with connected := true }
          let c := lookAtProduct (c.hdmiConnector.elim [] LegacyConnector.productInfo) c
          (status, { c with
            preferredModeIndex := drmSelectPreferredmode build.preferred modes })

def LegacyBuild.timing (build : LegacyBuild) (mode : TypedMode) : MDSHDMITiming where
  refresh := mode.vrefresh
  width := mode.hdisplay
  height := mode.vdisplay
  interlace := (mode.flags &&& build.flagInterlace).toInt32.toInt
  ratio :=
    if mode.flags &&& build.flagPar16_9 ≠ 0 then 2
    else if mode.flags &&& build.flagPar4_3 ≠ 0 then 1 else 0

def drmHdmiSetTiming (build : LegacyBuild) (modes : List TypedMode) (index : Nat) :
    MDSHDMITiming :=
  match modes[index]? with
  | none => .zero
  | some mode => build.timing mode

abbrev Indexed := TypedMode × Nat

/-- The loop that fills `index_matched`. -/
def matchModes (width height : Int) : (i : Nat) → List TypedMode → List Indexed → List Indexed
  | _, [], matched => matched
  | i, mode :: rest, matched =>
      let matched := if width = mode.hdisplay && height = mode.vdisplay then matched ++ [(mode, i)]
        else matched
      if matched.length ≥ HDMI_TIMING_MAX then matched
      else matchModes width height (i + 1) rest matched

/-- The first `if` of the body. -/
def lookMaxVrefresh (build : LegacyBuild) (entry max : Indexed) : Indexed :=
  if entry.1.vrefresh > max.1.vrefresh then entry
  else if entry.1.vrefresh = max.1.vrefresh then
    if drmIsPreferredFlags build entry.1.flags then entry else max
  else max

/-- The loop over the matched modes: `max_vrefresh_index` and `best_vrefresh_index` behind it;
a best index of -1 is `none`. -/
def selectVrefresh (build : LegacyBuild) (refresh : UInt32) :
    List Indexed → (max : Indexed) → (best : Option Indexed) → Indexed × Option Indexed
  | [], max, best => (max, best)
  | entry :: rest, max, best =>
      let max := lookMaxVrefresh build entry max
      if refresh = 0 then selectVrefresh build refresh rest max best
      else if entry.1.vrefresh % refresh = 0 then
        if entry.1.vrefresh = refresh then
          if drmIsPreferredFlags build entry.1.flags then (max, some entry)
          else selectVrefresh build refresh rest max best
        else if best.elim true fun best => entry.1.vrefresh > best.1.vrefresh then
          selectVrefresh build refresh rest max (some entry)
        else selectVrefresh build refresh rest max best
      else selectVrefresh build refresh rest max best

def targetSize (width height : Int) : Int × Int :=
  if width ≤ 1280 && height ≤ 720 then (1280, 720) else (1920, 1080)

/-- The part of `drm_hdmi_getTiming` for a video. -/
def selectVideoTiming (build : LegacyBuild) (preferredModeIndex : Nat) (modes : List TypedMode)
    (info : MDSHDMITiming) : MDSHDMITiming :=
  let (width, height) := targetSize info.width info.height
  match matchModes width height 0 modes [] with
  | [] => drmHdmiSetTiming build modes preferredModeIndex
  | first :: rest =>
      match selectVrefresh build info.refresh (first :: rest) first none with
      | (_, some best) => drmHdmiSetTiming build modes best.2
      | (max, none) => drmHdmiSetTiming build modes max.2

def drmHdmiGetTiming (build : LegacyBuild) (found : Option LegacyConnector) (mode : Int)
    (info : Option MDSHDMITiming) (c : DrmContext) :
    (Bool × Option MDSHDMITiming) × DrmContext :=
  match info with
  | none => ((false, none), c)
  | some info =>
      if !c.hdmiSupported || !c.connected then ((false, some info), c)
      else if c.modeValid then ((true, some c.modeSelected), c)
      else match getHdmiConnector found c with
        | (none, c) => ((false, some info), c)
        | (some modes, c) =>
            if mode ≠ DRM_HDMI_VIDEO_EXT then
              ((true, some (drmHdmiSetTiming build modes c.preferredModeIndex)), c)
            else ((true, some (selectVideoTiming build c.preferredModeIndex modes info)), c)

/-! What is expected. -/

def targetModes (modes : List TypedMode) (asked : MDSHDMITiming) : List TypedMode :=
  modes.filter fun mode =>
    (mode.hdisplay : Int) = (targetSize asked.width asked.height).1 &&
      (mode.vdisplay : Int) = (targetSize asked.width asked.height).2

variable (build : LegacyBuild) (modes : List TypedMode) (asked : MDSHDMITiming)

def HasRefresh : Prop := ∃ mode ∈ targetModes modes asked, mode.vrefresh = asked.refresh

/-- The timing of a mode of the list: of the resolution, at the rate or else at a multiple of
it, if there are such modes. -/
structure RightTiming (given : MDSHDMITiming) : Prop where
  listed : ∃ mode ∈ modes, given = build.timing mode
  target : targetModes modes asked ≠ [] →
    ∃ mode ∈ targetModes modes asked, given = build.timing mode
  exact : HasRefresh modes asked → given.refresh = asked.refresh
  multiple : ¬ HasRefresh modes asked →
    (∃ mode ∈ targetModes modes asked, asked.refresh.toNat ∣ mode.vrefresh.toNat) →
      asked.refresh.toNat ∣ given.refresh.toNat

/-- There is a mode, and either none of the resolution has the rate, or one that has it is
progressive 16:9, or no rate at the resolution is higher or 0. -/
structure RefreshKept : Prop where
  nonempty : modes ≠ []
  kept : ¬ HasRefresh modes asked ∨
    (∃ mode ∈ targetModes modes asked, mode.vrefresh = asked.refresh ∧
      drmIsPreferredFlags build mode.flags = true) ∨
    ∀ mode ∈ targetModes modes asked, 0 < mode.vrefresh ∧ mode.vrefresh ≤ asked.refresh

variable {build modes asked}

theorem matchModes_eq (width height : Int) (i : Nat) (rest : List TypedMode)
    (matched : List Indexed) (few : matched.length + rest.length ≤ HDMI_TIMING_MAX) :
    matchModes width height i rest matched = matched ++ (rest.zipIdx i).filter fun entry =>
      width = entry.1.hdisplay && height = entry.1.vdisplay := by
  induction rest generalizing i matched with
  | nil => simp [matchModes]
  | cons mode rest ih =>
      rw [matchModes, List.zipIdx_cons, List.filter_cons]
      rw [List.length_cons] at few
      by_cases fits : (width = mode.hdisplay && height = mode.vdisplay) = true
      · rw [if_pos fits, if_pos fits, List.append_cons _ _ (List.filter _ _)]
        split
        · rename_i full
          rw [List.length_append, List.length_singleton] at full
          have last : rest = [] := List.length_eq_zero_iff.mp (by omega)
          rw [last]
          simp
        · apply ih
          rw [List.length_append, List.length_singleton]
          omega
      · rw [if_neg fits, if_neg fits, if_neg (by omega)]
        exact ih (i + 1) matched (by omega)

def indexedTargets (modes : List TypedMode) (asked : MDSHDMITiming) : List Indexed :=
  matchModes (targetSize asked.width asked.height).1 (targetSize asked.width asked.height).2 0
    modes []

theorem mem_indexedTargets (few : modes.length ≤ HDMI_TIMING_MAX) {entry : Indexed} :
    entry ∈ indexedTargets modes asked ↔
      modes[entry.2]? = some entry.1 ∧ entry.1 ∈ targetModes modes asked := by
  rw [indexedTargets, matchModes_eq _ _ _ _ _ (by simpa using few), List.nil_append,
    List.mem_filter, List.mem_zipIdx_iff_getElem?, targetModes, List.mem_filter]
  refine and_congr_right fun there => ?_
  rw [and_iff_right (List.mem_of_getElem? there)]
  simp only [eq_comm]

theorem exists_mem_targetModes_iff (few : modes.length ≤ HDMI_TIMING_MAX)
    (p : TypedMode → Prop) : (∃ mode ∈ targetModes modes asked, p mode) ↔
      ∃ entry ∈ indexedTargets modes asked, p entry.1 := by
  constructor
  · rintro ⟨mode, target, holds⟩
    obtain ⟨i, there⟩ := List.mem_iff_getElem?.mp (List.mem_filter.mp target).1
    exact ⟨(mode, i), (mem_indexedTargets few).mpr ⟨there, target⟩, holds⟩
  · rintro ⟨entry, member, holds⟩
    exact ⟨entry.1, ((mem_indexedTargets few).mp member).2, holds⟩

def OtherMultiple (refresh : UInt32) (entry : Indexed) : Prop :=
  entry.1.vrefresh % refresh = 0 ∧ entry.1.vrefresh ≠ refresh

/-- The entry has the rate, and the preferred flags. -/
def Preferred (build : LegacyBuild) (refresh : UInt32) (entry : Indexed) : Prop :=
  entry.1.vrefresh = refresh ∧ drmIsPreferredFlags build entry.1.flags = true

structure Tracks (build : LegacyBuild) (refresh : UInt32) (all seen : List Indexed)
    (max : Indexed) (best : Option Indexed) : Prop where
  max_mem : max ∈ all
  max_le : ∀ entry ∈ seen, entry.1.vrefresh ≤ max.1.vrefresh
  passed : ∀ entry ∈ seen, ¬ Preferred build refresh entry
  best_none : best = none → ∀ entry ∈ seen, ¬ OtherMultiple refresh entry
  best_some : ∀ entry, best = some entry → entry ∈ all ∧ OtherMultiple refresh entry

variable {refresh : UInt32} {all seen rest : List Indexed} {max : Indexed}
  {best : Option Indexed}

theorem lookMaxVrefresh_cases (build : LegacyBuild) (entry max : Indexed) :
    (lookMaxVrefresh build entry max = entry ∨ lookMaxVrefresh build entry max = max) ∧
      entry.1.vrefresh ≤ (lookMaxVrefresh build entry max).1.vrefresh ∧
      max.1.vrefresh ≤ (lookMaxVrefresh build entry max).1.vrefresh := by
  rw [lookMaxVrefresh]
  split
  · rename_i larger
    exact ⟨.inl rfl, UInt32.le_refl _, UInt32.le_of_lt larger⟩
  · rename_i smaller
    split
    · rename_i equal
      split
      · exact ⟨.inl rfl, UInt32.le_refl _, UInt32.le_of_eq equal.symm⟩
      · exact ⟨.inr rfl, UInt32.le_of_eq equal, UInt32.le_refl _⟩
    · exact ⟨.inr rfl, UInt32.not_lt.mp smaller, UInt32.le_refl _⟩

theorem Tracks.pass (tracks : Tracks build refresh all seen max best) {entry : Indexed}
    (member : entry ∈ all) (passed : ¬ Preferred build refresh entry) {next : Option Indexed}
    (none : next = none → best = none ∧ ¬ OtherMultiple refresh entry)
    (some : ∀ other, next = some other → best = some other ∨
      (other = entry ∧ OtherMultiple refresh entry)) :
    Tracks build refresh all (seen ++ [entry]) (lookMaxVrefresh build entry max) next := by
  obtain ⟨one, entry_le, max_le⟩ := lookMaxVrefresh_cases build entry max
  refine ⟨?_, ?_, ?_, ?_, ?_⟩
  · rcases one with same | same
    · rw [same]
      exact member
    · rw [same]
      exact tracks.max_mem
  · rw [List.forall_mem_append, List.forall_mem_singleton]
    exact ⟨fun other earlier => UInt32.le_trans (tracks.max_le other earlier) max_le, entry_le⟩
  · rw [List.forall_mem_append, List.forall_mem_singleton]
    exact ⟨tracks.passed, passed⟩
  · intro empty
    rw [List.forall_mem_append, List.forall_mem_singleton]
    exact ⟨tracks.best_none (none empty).1, (none empty).2⟩
  · intro other kept
    rcases some other kept with before | ⟨rfl, multiple⟩
    · exact tracks.best_some other before
    · exact ⟨member, multiple⟩

theorem selectVrefresh_cases (nonzero : refresh ≠ 0)
    (tracks : Tracks build refresh all seen max best) (whole : all = seen ++ rest) :
    (∃ entry ∈ all, Preferred build refresh entry ∧
        (selectVrefresh build refresh rest max best).2 = some entry) ∨
      Tracks build refresh all all (selectVrefresh build refresh rest max best).1
        (selectVrefresh build refresh rest max best).2 := by
  induction rest generalizing seen max best with
  | nil =>
      rw [List.append_nil] at whole
      subst whole
      exact .inr tracks
  | cons entry rest ih =>
      have member : entry ∈ all := by simp [whole]
      rw [List.append_cons] at whole
      rw [selectVrefresh, if_neg nonzero]
      split
      · rename_i multiple
        split
        · rename_i exact
          split
          · rename_i flags
            exact .inl ⟨entry, member, ⟨exact, flags⟩, rfl⟩
          · rename_i flags
            refine ih (tracks.pass member (fun preferred => flags preferred.2) ?_ ?_) whole
            · exact fun none => ⟨none, fun other => other.2 exact⟩
            · exact fun other same => .inl same
        · rename_i other
          have another : OtherMultiple refresh entry := ⟨multiple, other⟩
          split
          · refine ih (tracks.pass member (fun preferred => other preferred.1) ?_ ?_) whole
            · exact fun none => absurd none (Option.some_ne_none _)
            · exact fun _ same => .inr ⟨(Option.some.inj same).symm, another⟩
          · rename_i smaller
            refine ih (tracks.pass member (fun preferred => other preferred.1) ?_ ?_) whole
            · exact fun none => absurd (by simp [none]) smaller
            · exact fun _ same => .inl same
      · rename_i multiple
        refine ih (tracks.pass member (fun preferred => ?_) ?_ ?_) whole
        · apply multiple
          rw [preferred.1, UInt32.mod_self]
        · exact fun none => ⟨none, fun other => multiple other.1⟩
        · exact fun other same => .inl same

theorem drmHdmiSetTiming_of_getElem? (build : LegacyBuild) {index : Nat} {mode : TypedMode}
    (found : modes[index]? = some mode) :
    drmHdmiSetTiming build modes index = build.timing mode := by
  rw [drmHdmiSetTiming, found]

def Chosen (build : LegacyBuild) (refresh : UInt32) (all : List Indexed) (entry : Indexed) : Prop :=
  Preferred build refresh entry ∨
    (∀ other ∈ all, ¬ Preferred build refresh other) ∧
      (OtherMultiple refresh entry ∨
        (∀ other ∈ all, ¬ OtherMultiple refresh other) ∧
          ∀ other ∈ all, other.1.vrefresh ≤ entry.1.vrefresh)

theorem selectVideoTiming_chosen (build : LegacyBuild) (preferredModeIndex : Nat)
    (few : modes.length ≤ HDMI_TIMING_MAX) (nonzero : asked.refresh ≠ 0)
    (some : indexedTargets modes asked ≠ []) :
    ∃ entry ∈ indexedTargets modes asked,
      Chosen build asked.refresh (indexedTargets modes asked) entry ∧
        selectVideoTiming build preferredModeIndex modes asked = build.timing entry.1 := by
  have timed : ∀ entry ∈ indexedTargets modes asked,
      drmHdmiSetTiming build modes entry.2 = build.timing entry.1 :=
    fun entry member => drmHdmiSetTiming_of_getElem? build ((mem_indexedTargets few).mp member).1
  obtain ⟨first, rest, cut⟩ := List.exists_cons_of_ne_nil some
  rw [indexedTargets] at cut
  simp only [selectVideoTiming, cut]
  rw [← indexedTargets] at cut
  rw [cut] at timed ⊢
  have start : Tracks build asked.refresh (first :: rest) [] first none :=
    ⟨List.mem_cons_self, by simp, by simp, by simp, by simp⟩
  have loop := selectVrefresh_cases nonzero start rfl
  generalize selectVrefresh build asked.refresh (first :: rest) first none = ended at loop ⊢
  obtain ⟨max, best⟩ := ended
  rcases loop with ⟨entry, member, preferred, rfl⟩ | tracks
  · exact ⟨entry, member, .inl preferred, timed entry member⟩
  · cases best with
    | none =>
        refine ⟨max, tracks.max_mem, .inr ⟨tracks.passed, .inr ?_⟩, timed max tracks.max_mem⟩
        exact ⟨tracks.best_none rfl, tracks.max_le⟩
    | some entry =>
        obtain ⟨member, multiple⟩ := tracks.best_some entry rfl
        exact ⟨entry, member, .inr ⟨tracks.passed, .inl multiple⟩, timed entry member⟩

theorem selectVideoTiming_preferred (build : LegacyBuild) (preferredModeIndex : Nat)
    (none : indexedTargets modes asked = []) :
    selectVideoTiming build preferredModeIndex modes asked =
      drmHdmiSetTiming build modes preferredModeIndex := by
  rw [indexedTargets] at none
  simp only [selectVideoTiming, none]

theorem mod_eq_zero_iff {rate refresh : UInt32} :
    rate % refresh = 0 ↔ refresh.toNat ∣ rate.toNat := by
  rw [← UInt32.toNat_inj, UInt32.toNat_mod, Nat.dvd_iff_mod_eq_zero]
  rfl

theorem drmSelectPreferredmode_found (build : PreferredBuild) (nonempty : modes ≠ []) :
    ∃ mode, modes[drmSelectPreferredmode build modes]? = some mode := by
  by_cases at60 : PreferredAt60Hz build modes
  · obtain ⟨index, found⟩ := drmSelectPreferredmode_preferred at60
    rw [index]
    exact found
  · have seen {fits liked : TypedMode → Bool} {i : Nat}
        (kept : IsCandidate fits liked (beforePreferred build modes) (some i)) :
        ∃ mode, modes[i]? = some mode := by
      obtain ⟨mode, found, _⟩ := kept
      exact ⟨mode, getElem?_beforePreferred found⟩
    rcases drmSelectPreferredmode_fallback at60 with ⟨c, tracks, ⟨i, large, index⟩ |
      ⟨_, i, small, index⟩ | ⟨_, _, i, max, index⟩ | ⟨_, _, _, index⟩⟩
    · rw [index]
      exact seen (large ▸ tracks.is1080P)
    · rw [index]
      exact seen (small ▸ tracks.is720P)
    · obtain ⟨mode, found, _⟩ := (tracks.some i max).1
      rw [index]
      exact ⟨mode, getElem?_beforePreferred found⟩
    · obtain ⟨head, rest, rfl⟩ := List.exists_cons_of_ne_nil nonempty
      rw [index]
      exact ⟨head, rfl⟩

theorem indexedTargets_eq_nil_iff (few : modes.length ≤ HDMI_TIMING_MAX) :
    indexedTargets modes asked = [] ↔ targetModes modes asked = [] := by
  have same : (∃ mode ∈ targetModes modes asked, True) ↔
      ∃ entry ∈ indexedTargets modes asked, True :=
    exists_mem_targetModes_iff few fun _ => True
  simp only [and_true] at same
  rw [List.eq_nil_iff_forall_not_mem, List.eq_nil_iff_forall_not_mem, ← not_exists, ← not_exists,
    same]

theorem chosen_right_iff (few : modes.length ≤ HDMI_TIMING_MAX)
    {entry : Indexed} (member : entry ∈ indexedTargets modes asked)
    (chosen : Chosen build asked.refresh (indexedTargets modes asked) entry) :
    RightTiming build modes asked (build.timing entry.1) ↔
      (HasRefresh modes asked → entry.1.vrefresh = asked.refresh) := by
  obtain ⟨found, target⟩ := (mem_indexedTargets few).mp member
  refine ⟨fun right => right.exact, fun exact => ?_⟩
  refine ⟨⟨entry.1, List.mem_of_getElem? found, rfl⟩, fun _ => ⟨entry.1, target, rfl⟩, exact, ?_⟩
  intro without multiple
  obtain ⟨mode, inTarget, divides⟩ := multiple
  have another : mode.vrefresh ≠ asked.refresh := fun same => without ⟨mode, inTarget, same⟩
  obtain ⟨other, listed, multiple⟩ := (exists_mem_targetModes_iff few
    fun mode => mode.vrefresh % asked.refresh = 0 ∧ mode.vrefresh ≠ asked.refresh).mp
      ⟨mode, inTarget, mod_eq_zero_iff.mpr divides, another⟩
  rcases chosen with preferred | ⟨_, multiple' | ⟨none, _⟩⟩
  · exact absurd ⟨entry.1, target, preferred.1⟩ without
  · exact mod_eq_zero_iff.mp multiple'.1
  · exact absurd multiple (none other listed)

theorem eq_of_multiple {rate refresh : UInt32} (multiple : rate % refresh = 0)
    (positive : 0 < rate) (le : rate ≤ refresh) : rate = refresh := by
  apply UInt32.toNat_inj.mp
  apply Nat.le_antisymm (UInt32.le_iff_toNat_le.mp le)
  exact Nat.le_of_dvd (UInt32.lt_iff_toNat_lt.mp positive) (mod_eq_zero_iff.mp multiple)

theorem chosen_exact_iff (few : modes.length ≤ HDMI_TIMING_MAX) (nonzero : asked.refresh ≠ 0)
    {entry : Indexed}
    (member : entry ∈ indexedTargets modes asked)
    (chosen : Chosen build asked.refresh (indexedTargets modes asked) entry) :
    (HasRefresh modes asked → entry.1.vrefresh = asked.refresh) ↔
      ¬ HasRefresh modes asked ∨
      (∃ mode ∈ targetModes modes asked, mode.vrefresh = asked.refresh ∧
        drmIsPreferredFlags build mode.flags = true) ∨
      ∀ mode ∈ targetModes modes asked, 0 < mode.vrefresh ∧ mode.vrefresh ≤ asked.refresh := by
  have target := ((mem_indexedTargets few).mp member).2
  rw [imp_iff_not_or]
  refine or_congr_right' fun has => ?_
  rw [exists_mem_targetModes_iff few
    fun mode => mode.vrefresh = asked.refresh ∧ drmIsPreferredFlags build mode.flags = true]
  constructor
  · intro exact
    rcases chosen with preferred | ⟨_, multiple | ⟨none, largest⟩⟩
    · exact .inl ⟨entry, member, preferred⟩
    · exact absurd exact multiple.2
    · refine .inr fun mode inTarget => ?_
      obtain ⟨i, found⟩ := List.mem_iff_getElem?.mp (List.mem_filter.mp inTarget).1
      have listed : (mode, i) ∈ indexedTargets modes asked :=
        (mem_indexedTargets few).mpr ⟨found, inTarget⟩
      refine ⟨UInt32.pos_iff_ne_zero.mpr fun zero => none _ listed ⟨?_, ?_⟩,
        exact ▸ largest _ listed⟩
      · rw [zero, UInt32.zero_mod]
      · rw [zero]
        exact nonzero.symm
  · rintro (⟨preferred, listed, isPreferred⟩ | within)
    · rcases chosen with preferred' | ⟨none, _⟩
      · exact preferred'.1
      · exact absurd isPreferred (none preferred listed)
    · obtain ⟨positive, le⟩ := within entry.1 target
      rcases chosen with preferred | ⟨_, multiple | ⟨_, largest⟩⟩
      · exact preferred.1
      · exact eq_of_multiple multiple.1 positive le
      · obtain ⟨mode, inTarget, same⟩ := not_not.mp has
        obtain ⟨i, found⟩ := List.mem_iff_getElem?.mp (List.mem_filter.mp inTarget).1
        have reached := largest (mode, i) ((mem_indexedTargets few).mpr ⟨found, inTarget⟩)
        exact UInt32.le_antisymm le (same ▸ reached)

theorem selectVideoTiming_right_iff (build : LegacyBuild) (few : modes.length ≤ HDMI_TIMING_MAX)
    (nonzero : asked.refresh ≠ 0) :
    RightTiming build modes asked
      (selectVideoTiming build (drmSelectPreferredmode build.preferred modes) modes asked) ↔
      RefreshKept build modes asked := by
  by_cases nonempty : modes = []
  · refine iff_of_false (fun right => ?_) fun kept => kept.nonempty nonempty
    obtain ⟨mode, member, _⟩ := right.listed
    rw [nonempty] at member
    cases member
  · by_cases none : indexedTargets modes asked = []
    · have noTargets := (indexedTargets_eq_nil_iff few).mp none
      have without : ¬ HasRefresh modes asked := by simp [HasRefresh, noTargets]
      obtain ⟨mode, found⟩ := drmSelectPreferredmode_found build.preferred nonempty
      rw [selectVideoTiming_preferred build _ none, drmHdmiSetTiming_of_getElem? build found]
      refine iff_of_true ⟨?_, ?_, ?_, ?_⟩ ⟨nonempty, .inl without⟩
      · exact ⟨mode, List.mem_of_getElem? found, rfl⟩
      · exact fun some => absurd noTargets some
      · exact fun has => absurd has without
      · simp [noTargets]
    · obtain ⟨entry, member, chosen, given⟩ := selectVideoTiming_chosen build
        (drmSelectPreferredmode build.preferred modes) few nonzero none
      rw [given, chosen_right_iff few member chosen, chosen_exact_iff few nonzero member chosen]
      exact ⟨fun kept => ⟨nonempty, kept⟩, RefreshKept.kept⟩

structure DrmContext.Shows (build : LegacyBuild) (modes : List TypedMode) (c : DrmContext) :
    Prop where
  hdmiSupported : c.hdmiSupported = true
  connected : c.connected = true
  linked : ∃ sink, c.hdmiConnector = some sink ∧ sink.modes = some modes
  preferredModeIndex : c.preferredModeIndex = drmSelectPreferredmode build.preferred modes

theorem lookAtProduct_same (productInfo : List UInt8) (c : DrmContext) :
    (lookAtProduct productInfo c).hdmiSupported = c.hdmiSupported ∧
      (lookAtProduct productInfo c).connected = c.connected ∧
      (lookAtProduct productInfo c).hdmiConnector = c.hdmiConnector := by
  rw [lookAtProduct]
  split
  · exact ⟨rfl, rfl, rfl⟩
  · exact ⟨rfl, rfl, rfl⟩

theorem drmHdmiGetConnectionStatus_shows (build : LegacyBuild) (c : DrmContext)
    (sink : LegacyConnector) (listed : sink.modes = some modes)
    (connected : (drmHdmiGetConnectionStatus build (some sink) c).1 ≠ .disconnected) :
    (drmHdmiGetConnectionStatus build (some sink) c).2.Shows build modes := by
  obtain ⟨shown, status, productInfo⟩ := sink
  obtain rfl : shown = some modes := listed
  obtain ⟨hdmiSupported, newDevice, before, index, valid, selected, product, connector⟩ := c
  have found (status : ConnectStatus) := lookAtProduct_same productInfo
    ⟨true, newDevice, true, index, valid, selected, product, some ⟨some modes, status, productInfo⟩⟩
  cases hdmiSupported with
  | false => exact absurd rfl connected
  | true =>
      cases status with
      | disconnected => exact absurd rfl connected
      | hdmi => exact ⟨(found _).1, (found _).2.1, ⟨_, (found _).2.2, rfl⟩, rfl⟩
      | dvi => exact ⟨(found _).1, (found _).2.1, ⟨_, (found _).2.2, rfl⟩, rfl⟩

theorem DrmContext.Shows.drmHdmiGetTiming {c : DrmContext} (shows : c.Shows build modes)
    (unselected : c.modeValid = false) (again : Option LegacyConnector) (asked : MDSHDMITiming) :
    (drmHdmiGetTiming build again DRM_HDMI_VIDEO_EXT (some asked) c).1 =
      (true, some (selectVideoTiming build (drmSelectPreferredmode build.preferred modes) modes
        asked)) := by
  obtain ⟨sink, linked, listed⟩ := shows.linked
  simp [Legacy.drmHdmiGetTiming, shows.hdmiSupported, shows.connected, unselected,
    getHdmiConnector, linked, listed, shows.preferredModeIndex]

/-- For a sink that a poll has found, the timing of a video is right exactly if the rate is
kept. -/
theorem legacy_video_timing_iff (build : LegacyBuild) (c : DrmContext) (sink : LegacyConnector)
    (again : Option LegacyConnector)
    (connected : (drmHdmiGetConnectionStatus build (some sink) c).1 ≠ .disconnected)
    (listed : sink.modes = some modes) (few : modes.length ≤ HDMI_TIMING_MAX)
    (unselected : (drmHdmiGetConnectionStatus build (some sink) c).2.modeValid = false)
    (nonzero : asked.refresh ≠ 0) :
    (∃ given, (drmHdmiGetTiming build again DRM_HDMI_VIDEO_EXT (some asked)
        (drmHdmiGetConnectionStatus build (some sink) c).2).1 = (true, some given) ∧
      RightTiming build modes asked given) ↔ RefreshKept build modes asked := by
  have shows := drmHdmiGetConnectionStatus_shows build c sink listed connected
  rw [shows.drmHdmiGetTiming unselected again asked,
    ← selectVideoTiming_right_iff build few nonzero]
  simp

def psbLegacy : LegacyBuild := ⟨0x10, 0x8000, 0x4000, 8⟩

def cinema : LegacyConnector :=
  ⟨some [wideMode 1280 720 24 0, wideMode 1280 720 48 0], .hdmi, [1, 2, 3, 4, 5, 6, 7, 8]⟩

theorem cinema_at_24Hz : ∃ given, (drmHdmiGetTiming psbLegacy none DRM_HDMI_VIDEO_EXT
    (some ⟨24, 640, 480, 0, 0⟩) (drmHdmiGetConnectionStatus psbLegacy (some cinema)
      (drmInit true)).2).1 = (true, some given) ∧
    RightTiming psbLegacy [wideMode 1280 720 24 0, wideMode 1280 720 48 0] ⟨24, 640, 480, 0, 0⟩
      given := by
  apply (legacy_video_timing_iff psbLegacy (drmInit true) cinema none (by decide) rfl (by decide)
    rfl (by decide)).mpr
  refine ⟨by decide, .inr (.inl ⟨wideMode 1280 720 24 0, by decide, rfl, by decide⟩)⟩

/-- Without a flag for the aspect ratio the mode at 24 Hz is dropped for the one at 48 Hz. -/
theorem plain_24Hz_dropped : ¬ ∃ given, (drmHdmiGetTiming psbLegacy none DRM_HDMI_VIDEO_EXT
    (some ⟨24, 640, 480, 0, 0⟩) (drmHdmiGetConnectionStatus psbLegacy
      (some ⟨some [⟨⟨1280, 720, 24, 0, 0⟩, 0⟩, wideMode 1280 720 48 0], .hdmi, []⟩)
      (drmInit true)).2).1 = (true, some given) ∧
    RightTiming psbLegacy [⟨⟨1280, 720, 24, 0, 0⟩, 0⟩, wideMode 1280 720 48 0]
      ⟨24, 640, 480, 0, 0⟩ given := by
  rintro ⟨given, returned, right⟩
  have exact := right.exact ⟨⟨⟨1280, 720, 24, 0, 0⟩, 0⟩, by decide, rfl⟩
  cases (Prod.mk.inj returned).2
  revert exact
  decide

end A500cg.Mds.Legacy
