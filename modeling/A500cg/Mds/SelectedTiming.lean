import A500cg.Lib.Flags
import A500cg.Mds.PreferredMode

/-! Which of the parsed timings can be selected, and which one is reported as the current
timing. -/

namespace A500cg.Mds

open Lib

def OneBit (flag : UInt32) : Prop := ∃ bit, bit < 32 ∧ flag.toBitVec = BitVec.twoPow 32 bit

/-- What the headers define: flags of one bit each, and the numbers of the aspect ratios. -/
structure DrmBuild.Headers (build : DrmBuild) : Prop where
  flags : build.vpgDrm = false →
    OneBit build.flagInterlace ∧ OneBit build.flagPar16_9 ∧ OneBit build.flagPar4_3
  aspects : build.vpgDrm = true → build.aspect16_9 = 2 ∧ build.aspect4_3 = 1

/-- Two modes of one size and one refresh, interlaced both or neither. -/
def DrmBuild.Alike (build : DrmBuild) (x y : ModeInfo) : Prop :=
  x.hdisplay = y.hdisplay ∧ x.vdisplay = y.vdisplay ∧ x.vrefresh = y.vrefresh ∧
    (x.flags &&& build.flagInterlace ≠ 0 ↔ y.flags &&& build.flagInterlace ≠ 0)

/-- Modes that are alike are told apart by the flag for 4:3 only if neither of them is 16:9.
In a `VPG_DRM` build they have all flags in common if their ratio is the same, and the later
one has one of the three aspects that there is a ratio for. -/
def DrmBuild.Separates (build : DrmBuild) (x y : ModeInfo) : Prop :=
  build.Alike x y →
    if build.vpgDrm then (build.timing x).ratio = (build.timing y).ratio →
      x.flags = y.flags ∧ y.pictureAspectRatio ≤ 2
    else x.flags &&& build.flagPar16_9 ≠ 0 → y.flags &&& build.flagPar16_9 ≠ 0 →
      x.flags &&& build.flagPar4_3 = y.flags &&& build.flagPar4_3

/-- A copy of each timing is found where it is, with its own flags. -/
def EverySelectable (c : DrmContext) : Prop :=
  ∀ (i : Nat) entry, c.hdmiTimings[i]? = some entry →
    drmHdmiCheckTiming (some entry) c = ((true, some entry), { c with selectedModeIndex := i })

def DrmContext.ready (c : DrmContext) (modes : List ModeInfo) (status : ConnectStatus) :
    DrmContext :=
  { c with
    hdmiSupported := true
    connected := true
    hdmiTimings := []
    hdmiConnector := some ⟨some modes, status⟩ }

theorem sameTiming_iff (k k' : MDSHdmiTiming) : sameTiming k k' = true ↔
    k.width = k'.width ∧ k.height = k'.height ∧ k.refresh = k'.refresh ∧
      k.interlace = k'.interlace ∧ k.ratio = k'.ratio := by
  simp [sameTiming, and_assoc]

theorem sameTiming_refl (k : MDSHdmiTiming) : sameTiming k k = true :=
  (sameTiming_iff k k).mpr ⟨rfl, rfl, rfl, rfl, rfl⟩

theorem sameTiming_symm {k k' : MDSHdmiTiming} (same : sameTiming k k' = true) :
    sameTiming k' k = true := by
  rw [sameTiming_iff] at same ⊢
  exact ⟨same.1.symm, same.2.1.symm, same.2.2.1.symm, same.2.2.2.1.symm, same.2.2.2.2.symm⟩

theorem OneBit.and_eq_iff {flag : UInt32} (single : OneBit flag) (x y : UInt32) :
    x &&& flag = y &&& flag ↔ (x &&& flag ≠ 0 ↔ y &&& flag ≠ 0) := by
  have bits := @and_eq_and_iff 32 x.toBitVec y.toBitVec flag.toBitVec single
  simp only [HasFlag, ne_eq, ← UInt32.toBitVec_and] at bits
  simpa [← UInt32.toBitVec_inj] using bits

namespace DrmBuild

variable {build : DrmBuild} {x y z : ModeInfo}

theorem sameTiming_timing_iff : sameTiming (build.timing x) (build.timing y) = true ↔
    build.Alike x y ∧ (build.timing x).ratio = (build.timing y).ratio := by
  have interlace : (build.timing x).interlace = (build.timing y).interlace ↔
      (x.flags &&& build.flagInterlace ≠ 0 ↔ y.flags &&& build.flagInterlace ≠ 0) := by
    simp only [timing]
    split <;> split <;> simp_all
  rw [sameTiming_iff, interlace, Alike]
  simp [timing, and_assoc]

theorem duplicated_psb_iff (psb : build.vpgDrm = false) :
    build.duplicated (build.timing x) y = true ↔
      x.hdisplay = y.hdisplay ∧ x.vdisplay = y.vdisplay ∧ x.vrefresh = y.vrefresh ∧
        x.flags &&& build.flagInterlace = y.flags &&& build.flagInterlace ∧
        x.flags &&& build.flagPar16_9 = y.flags &&& build.flagPar16_9 ∧
        x.flags &&& build.flagPar4_3 = y.flags &&& build.flagPar4_3 := by
  simp [duplicated, timing, psb, and_assoc]

theorem duplicated_vpg_iff (vpg : build.vpgDrm = true) :
    build.duplicated (build.timing x) y = true ↔
      x.hdisplay = y.hdisplay ∧ x.vdisplay = y.vdisplay ∧ x.vrefresh = y.vrefresh ∧
        x.flags = y.flags ∧ (build.timing x).ratio = y.pictureAspectRatio.toNat := by
  simp [duplicated, timing, vpg, and_assoc]

theorem ratio_psb (psb : build.vpgDrm = false) (mode : ModeInfo) :
    (build.timing mode).ratio =
      if mode.flags &&& build.flagPar16_9 ≠ 0 then 2
      else if mode.flags &&& build.flagPar4_3 ≠ 0 then 1 else 0 := by
  simp [timing, psb]

theorem ratio_vpg (headers : build.Headers) (vpg : build.vpgDrm = true) (mode : ModeInfo) :
    (build.timing mode).ratio =
      if mode.pictureAspectRatio ≤ 2 then (mode.pictureAspectRatio.toNat : Int) else 0 := by
  obtain ⟨wide, narrow⟩ := headers.aspects vpg
  simp only [timing, vpg, if_true, wide, narrow, UInt32.le_iff_toNat_le, ← UInt32.toNat_inj]
  have two : (2 : UInt32).toNat = 2 := rfl
  have one : (1 : UInt32).toNat = 1 := rfl
  rw [two, one]
  split
  · rename_i isWide
    simp [isWide]
  · split
    · rename_i isNarrow
      simp [isNarrow]
    · split <;> omega

theorem ratio_eq_aspect_iff (headers : build.Headers) (vpg : build.vpgDrm = true)
    (mode : ModeInfo) :
    (build.timing mode).ratio = mode.pictureAspectRatio.toNat ↔ mode.pictureAspectRatio ≤ 2 := by
  rw [ratio_vpg headers vpg]
  split
  · rename_i known
    exact iff_of_true rfl known
  · rename_i unknown
    refine iff_of_false (fun zero => unknown ?_) unknown
    rw [UInt32.le_iff_toNat_le]
    omega

theorem ratio_eq_of_duplicated (headers : build.Headers)
    (hit : build.duplicated (build.timing x) y = true) :
    (build.timing x).ratio = (build.timing y).ratio := by
  cases vpg : build.vpgDrm with
  | false =>
      obtain ⟨_, _, _, _, wide, narrow⟩ := (duplicated_psb_iff vpg).mp hit
      rw [ratio_psb vpg, ratio_psb vpg, wide, narrow]
  | true =>
      obtain ⟨_, _, _, _, aspect⟩ := (duplicated_vpg_iff vpg).mp hit
      have known : y.pictureAspectRatio ≤ 2 := by
        rw [ratio_vpg headers vpg] at aspect
        rw [UInt32.le_iff_toNat_le]
        split at aspect
        · rename_i small
          rw [UInt32.le_iff_toNat_le] at small
          omega
        · omega
      rw [aspect, (ratio_eq_aspect_iff headers vpg y).mpr known]

theorem alike_of_duplicated (hit : build.duplicated (build.timing x) y = true) :
    build.Alike x y := by
  cases vpg : build.vpgDrm with
  | false =>
      obtain ⟨width, height, refresh, interlace, _⟩ := (duplicated_psb_iff vpg).mp hit
      exact ⟨width, height, refresh, by rw [interlace]⟩
  | true =>
      obtain ⟨width, height, refresh, flags, _⟩ := (duplicated_vpg_iff vpg).mp hit
      exact ⟨width, height, refresh, by rw [flags]⟩

theorem duplicated_congr (headers : build.Headers)
    (hit : build.duplicated (build.timing x) y = true) (z : ModeInfo) :
    build.duplicated (build.timing x) z = build.duplicated (build.timing y) z := by
  rw [Bool.eq_iff_iff]
  have ratio := ratio_eq_of_duplicated headers hit
  cases vpg : build.vpgDrm with
  | false =>
      obtain ⟨width, height, refresh, interlace, wide, narrow⟩ := (duplicated_psb_iff vpg).mp hit
      rw [duplicated_psb_iff vpg, duplicated_psb_iff vpg, width, height, refresh, interlace, wide,
        narrow]
  | true =>
      obtain ⟨width, height, refresh, flags, _⟩ := (duplicated_vpg_iff vpg).mp hit
      rw [duplicated_vpg_iff vpg, duplicated_vpg_iff vpg, width, height, refresh, flags, ratio]

theorem timing_tests (headers : build.Headers) :
    Tests build.timing build.duplicated fun k k' => sameTiming k k' = true where
  refl := sameTiming_refl
  symm := fun _ _ => sameTiming_symm
  trans := fun k k' k'' first second => by
    rw [sameTiming_iff] at first second ⊢
    rw [first.1, first.2.1, first.2.2.1, first.2.2.2.1, first.2.2.2.2]
    exact second
  sound := fun _ _ hit =>
    sameTiming_timing_iff.mpr ⟨alike_of_duplicated hit, ratio_eq_of_duplicated headers hit⟩
  covers := fun _ _ hit => duplicated_congr headers hit

theorem separates_iff (headers : build.Headers) : build.Separates x y ↔
    (sameTiming (build.timing x) (build.timing y) = true →
      build.duplicated (build.timing x) y = true) := by
  rw [sameTiming_timing_iff, and_imp, Separates]
  refine forall_congr' fun alike => ?_
  obtain ⟨width, height, refresh, interlace⟩ := alike
  cases vpg : build.vpgDrm with
  | false =>
      obtain ⟨oneInterlace, oneWide, oneNarrow⟩ := headers.flags vpg
      rw [duplicated_psb_iff vpg, oneInterlace.and_eq_iff, oneWide.and_eq_iff,
        oneNarrow.and_eq_iff, ratio_psb vpg, ratio_psb vpg]
      simp only [width, height, refresh, interlace, Bool.false_eq_true, if_false, true_and]
      by_cases wideX : x.flags &&& build.flagPar16_9 = 0
      all_goals by_cases wideY : y.flags &&& build.flagPar16_9 = 0
      all_goals by_cases narrowX : x.flags &&& build.flagPar4_3 = 0
      all_goals by_cases narrowY : y.flags &&& build.flagPar4_3 = 0
      all_goals simp [wideX, wideY, narrowX, narrowY]
  | true =>
      rw [duplicated_vpg_iff vpg]
      simp only [width, height, refresh, true_and, if_true]
      refine forall_congr' fun ratio => ?_
      rw [ratio, ratio_eq_aspect_iff headers vpg]

end DrmBuild

theorem drmHdmiCheckTiming_own_iff {c : DrmContext} (supported : c.hdmiSupported = true)
    (connected : c.connected = true) {i : Nat} {entry : MDSHdmiTiming}
    (listed : c.hdmiTimings[i]? = some entry) :
    drmHdmiCheckTiming (some entry) c = ((true, some entry), { c with selectedModeIndex := i }) ↔
      c.hdmiTimings.findIdx? (sameTiming entry) = some i := by
  simp only [drmHdmiCheckTiming, supported, connected, Bool.not_true, Bool.or_self,
    Bool.false_eq_true, if_false]
  cases found : c.hdmiTimings.findIdx? (sameTiming entry) with
  | none => simp
  | some j =>
      constructor
      · intro chosen
        have index : (j : Int) = i := congrArg (fun result => result.2.selectedModeIndex) chosen
        rw [Int.ofNat_inj.mp index]
      · intro same
        cases same
        have own : c.hdmiTimings.getD i entry = entry := by
          rw [List.getD_eq_getElem?_getD, listed]
          rfl
        simp only [own]

theorem everySelectable_iff {c : DrmContext} (supported : c.hdmiSupported = true)
    (connected : c.connected = true) : EverySelectable c ↔
      c.hdmiTimings.Pairwise fun k k' => ¬ sameTiming k k' = true := by
  rw [List.pairwise_iff_getElem]
  constructor
  · intro selectable i j inI inJ earlier same
    have own := selectable j _ (List.getElem?_eq_getElem inJ)
    rw [drmHdmiCheckTiming_own_iff supported connected (List.getElem?_eq_getElem inJ),
      List.findIdx?_eq_some_iff_getElem] at own
    obtain ⟨_, _, first⟩ := own
    exact first i earlier (sameTiming_symm same)
  · intro apart i entry listed
    rcases List.getElem?_eq_some_iff.mp listed with ⟨inI, rfl⟩
    rw [drmHdmiCheckTiming_own_iff supported connected listed, List.findIdx?_eq_some_iff_getElem]
    refine ⟨inI, sameTiming_refl _, fun j earlier same => ?_⟩
    exact apart j i (earlier.trans inI) inI earlier (sameTiming_symm same)

/-- Every timing that is parsed from a list of modes can be selected exactly if the search
tells apart what the test for duplicates does. -/
theorem every_timing_selectable_iff (build : DrmBuild) (headers : build.Headers)
    (modes : List ModeInfo) (few : modes.length ≤ HDMI_TIMING_MAX) (status : ConnectStatus)
    (found : Option Connector) (c : DrmContext) :
    EverySelectable (parseHdmiTimings build found (c.ready modes status)).2 ↔
      modes.Pairwise build.Separates := by
  have parsed := parseHdmiTimings_linked build found (c := c.ready modes status) rfl rfl few
  rw [parsed, everySelectable_iff rfl rfl]
  have tests := (DrmBuild.timing_tests headers).pairwise_iff modes
  simp only [← DrmBuild.separates_iff headers] at tests
  exact tests

theorem psbBuild_headers : psbBuild.Headers where
  flags := fun _ =>
    ⟨⟨4, by decide, by decide⟩, ⟨15, by decide, by decide⟩, ⟨14, by decide, by decide⟩⟩
  aspects := fun vpg => absurd vpg (by decide)

def europeanModes : List ModeInfo :=
  [⟨1920, 1080, 50, 0x8000, 0⟩, ⟨1920, 1080, 50, 0x4000, 0⟩, ⟨1920, 1080, 50, 0x8010, 0⟩]

theorem europeanModes_selectable :
    EverySelectable (parseHdmiTimings psbBuild none
      ((drmInit true).ready europeanModes .hdmi)).2 := by
  apply (every_timing_selectable_iff psbBuild psbBuild_headers europeanModes (by decide) .hdmi none
    (drmInit true)).mpr
  have tested : europeanModes.Pairwise fun x y =>
      sameTiming (psbBuild.timing x) (psbBuild.timing y) = true →
        psbBuild.duplicated (psbBuild.timing x) y = true := by decide
  exact tested.imp (DrmBuild.separates_iff psbBuild_headers).mpr

/-- The 16:9 mode with the flag for 4:3 is saved behind the one without it, and its copy
selects that one. -/
theorem second_wide_mode_not_selectable :
    ¬ EverySelectable (parseHdmiTimings psbBuild none
      ((drmInit true).ready [⟨1920, 1080, 60, 0x8000, 0⟩, ⟨1920, 1080, 60, 0xC000, 0⟩] .hdmi)).2 := by
  intro selectable
  have own := selectable 1 ⟨1920, 1080, 60, 0, 2, 0xC000⟩ (by decide)
  exact absurd own (by decide)

/-- The context with the index that `drm_select_preferredmode` sets. -/
structure PreferredContext extends DrmContext where
  preferredModeIndex : Int

structure TypedConnector where
  modes : Option (List TypedMode)
  status : ConnectStatus

def TypedConnector.toConnector (connector : TypedConnector) : Connector :=
  ⟨connector.modes.map (List.map TypedMode.toModeInfo), connector.status⟩

namespace PreferredContext

/-- The poll of `updateHdmiConnectStatusLocked`. A mode is selected for a sink that is
connected. -/
def poll (build : PreferredBuild) (found : Option TypedConnector) (c : PreferredContext) :
    PreferredContext :=
  let connector := found.map TypedConnector.toConnector
  { toDrmContext := pollConnector connector c.toDrmContext
    preferredModeIndex :=
      if (drmHdmiGetConnectionStatus connector c.toDrmContext).1 = .disconnected then
        c.preferredModeIndex
      else (found.bind TypedConnector.modes).elim c.preferredModeIndex fun modes =>
        drmSelectPreferredmode build modes }

def getTimingNumber (build : PreferredBuild) (found : Option TypedConnector)
    (c : PreferredContext) : PreferredContext :=
  { c with
    toDrmContext := (drmHdmiGetTimingNumber build.toDrmBuild (found.map TypedConnector.toConnector)
      c.toDrmContext).2 }

def checkTiming (timing : Option MDSHdmiTiming) (c : PreferredContext) :
    (Bool × Option MDSHdmiTiming) × PreferredContext :=
  let (done, context) := drmHdmiCheckTiming timing c.toDrmContext
  (done, { c with toDrmContext := context })

/-- `drm_hdmi_get_current_timing`; `null` says that the caller's pointer is null. -/
def drmHdmiGetCurrentTiming (null : Bool) (c : PreferredContext) : Except Int MDSHdmiTiming :=
  if null then .error UNKNOWN_ERROR
  else
    let current := if 0 ≤ c.selectedModeIndex then c.selectedModeIndex else c.preferredModeIndex
    if 0 ≤ current then
      let size := c.hdmiTimings.length
      if size ≤ 0 ∨ (size : Int) ≤ current then .error UNKNOWN_ERROR
      else match c.hdmiTimings[current.toNat]? with
        | none => .error UNKNOWN_ERROR
        | some backup => .ok backup
    else .error UNKNOWN_ERROR

end PreferredContext

structure ConnectedSink where
  modes : List TypedMode
  status : ConnectStatus
  connected : status ≠ .disconnected
  nonempty : modes ≠ []
  few : modes.length ≤ HDMI_TIMING_MAX

def ConnectedSink.connector (sink : ConnectedSink) : TypedConnector := ⟨some sink.modes, sink.status⟩

namespace PreferredContext

def emptied (c : PreferredContext) : PreferredContext :=
  { c with hdmiSupported := true, hdmiTimings := [], selectedModeIndex := -1 }

def asked (build : PreferredBuild) (sink : ConnectedSink) (later : Option TypedConnector)
    (c : PreferredContext) : PreferredContext :=
  (c.emptied.poll build (some sink.connector)).getTimingNumber build later

def tried (c : PreferredContext) (timings : List MDSHdmiTiming) : PreferredContext :=
  timings.foldl (fun c timing => (c.checkTiming (some timing)).2) c

/-- The current timing is known, it has the size and the refresh of the preferred mode as
long as none is selected, and it is the one that was selected last. -/
structure Reports (modes : List TypedMode) (c : PreferredContext) : Prop where
  known : ∃ timing, c.drmHdmiGetCurrentTiming false = .ok timing
  preferred : c.selectedModeIndex < 0 → ∃ timing mode,
    c.drmHdmiGetCurrentTiming false = .ok timing ∧
      modes[c.preferredModeIndex.toNat]? = some mode ∧ timing.width = mode.hdisplay ∧
        timing.height = mode.vdisplay ∧ timing.refresh = mode.vrefresh
  selected : ∀ wanted, (c.checkTiming (some wanted)).1.1 = true → ∃ timing,
    (c.checkTiming (some wanted)).2.drmHdmiGetCurrentTiming false = .ok timing ∧
      sameTiming wanted timing = true

end PreferredContext

def DrmBuild.distinctModes (build : DrmBuild) (modes : List TypedMode) : List ModeInfo :=
  firstOnes build.timing build.duplicated (modes.map TypedMode.toModeInfo)

/-- The distinct modes have one with the size and the refresh of the preferred mode in its
place. -/
def PreferredInPlace (build : PreferredBuild) (modes : List TypedMode) : Prop :=
  ∃ mode distinct, modes[drmSelectPreferredmode build modes]? = some mode ∧
    (build.distinctModes modes)[drmSelectPreferredmode build modes]? = some distinct ∧
      distinct.hdisplay = mode.hdisplay ∧ distinct.vdisplay = mode.vdisplay ∧
        distinct.vrefresh = mode.vrefresh

structure PreferredContext.Holds (build : PreferredBuild) (modes : List TypedMode)
    (c : PreferredContext) : Prop where
  hdmiTimings : c.hdmiTimings = (build.distinctModes modes).map build.timing
  preferredModeIndex : c.preferredModeIndex = drmSelectPreferredmode build modes
  selectedModeIndex : c.selectedModeIndex = -1 ∨
    ∃ i : Nat, i < c.hdmiTimings.length ∧ c.selectedModeIndex = i

namespace PreferredContext

variable {build : PreferredBuild} {modes : List TypedMode} {c : PreferredContext}

theorem asked_holds (build : PreferredBuild) (c : PreferredContext) (sink : ConnectedSink)
    (later : Option TypedConnector) :
    (c.asked build sink later).Holds build sink.modes ∧
      (c.asked build sink later).selectedModeIndex = -1 := by
  obtain ⟨modes, status, connected, nonempty, few⟩ := sink
  have polled : c.emptied.poll build (some ⟨some modes, status⟩) =
      { toDrmContext := c.emptied.toDrmContext.ready (modes.map TypedMode.toModeInfo) status
        preferredModeIndex := drmSelectPreferredmode build modes } := by
    cases status with
    | disconnected => exact absurd rfl connected
    | hdmi => rfl
    | dvi => rfl
  have short : (modes.map TypedMode.toModeInfo).length ≤ HDMI_TIMING_MAX := by
    rw [List.length_map]
    exact few
  have parsed : (drmHdmiGetTimingNumber build.toDrmBuild (later.map TypedConnector.toConnector)
      (c.emptied.toDrmContext.ready (modes.map TypedMode.toModeInfo) status)).2 =
        { c.emptied.toDrmContext.ready (modes.map TypedMode.toModeInfo) status with
          hdmiTimings := (modes.map TypedMode.toModeInfo).foldl
            (addNew build.timing build.duplicated) [] } :=
    parseHdmiTimings_linked build.toDrmBuild (later.map TypedConnector.toConnector)
      (c := c.emptied.toDrmContext.ready (modes.map TypedMode.toModeInfo) status) rfl rfl short
  rw [asked, ConnectedSink.connector, polled, getTimingNumber, parsed]
  exact ⟨⟨foldl_addNew_eq_map _ _ _, rfl, .inl rfl⟩, rfl⟩

theorem checkTiming_cases (c : PreferredContext) (timing : MDSHdmiTiming) :
    ((c.checkTiming (some timing)).1.1 = false ∧ (c.checkTiming (some timing)).2 = c) ∨
      ∃ (i : Nat) (entry : MDSHdmiTiming), c.hdmiTimings[i]? = some entry ∧
        sameTiming timing entry = true ∧ (c.checkTiming (some timing)).2 =
          { c with toDrmContext := { c.toDrmContext with selectedModeIndex := i } } := by
  simp only [checkTiming, drmHdmiCheckTiming]
  split
  · exact .inl ⟨rfl, rfl⟩
  · cases found : c.hdmiTimings.findIdx? (sameTiming timing) with
    | none => exact .inl ⟨rfl, rfl⟩
    | some i =>
        obtain ⟨inside, same, _⟩ := List.findIdx?_eq_some_iff_getElem.mp found
        exact .inr ⟨i, _, List.getElem?_eq_getElem inside, same, rfl⟩

theorem Holds.tried (holds : c.Holds build modes) (timings : List MDSHdmiTiming) :
    (c.tried timings).Holds build modes := by
  induction timings generalizing c with
  | nil => exact holds
  | cons timing rest ih =>
      have kept : (c.checkTiming (some timing)).2.Holds build modes := by
        rcases c.checkTiming_cases timing with ⟨_, same⟩ | ⟨i, entry, listed, _, selected⟩
        · rw [same]
          exact holds
        · rw [selected]
          have inside := (List.getElem?_eq_some_iff.mp listed).1
          exact ⟨holds.hdmiTimings, holds.preferredModeIndex, .inr ⟨i, inside, rfl⟩⟩
      exact ih kept

theorem current_eq {i : Nat} (current : (if 0 ≤ c.selectedModeIndex then c.selectedModeIndex
      else c.preferredModeIndex) = i) (timing : MDSHdmiTiming) :
    c.drmHdmiGetCurrentTiming false = .ok timing ↔ c.hdmiTimings[i]? = some timing := by
  simp only [drmHdmiGetCurrentTiming, current, Bool.false_eq_true, if_false, Int.natCast_nonneg,
    if_true, Int.toNat_natCast, Int.ofNat_le]
  split
  · rename_i outside
    rw [List.getElem?_eq_none (by omega)]
    simp
  · cases c.hdmiTimings[i]? with
    | none => simp
    | some backup => simp

theorem current_selected {i : Nat} (selected : c.selectedModeIndex = i) (timing : MDSHdmiTiming) :
    c.drmHdmiGetCurrentTiming false = .ok timing ↔ c.hdmiTimings[i]? = some timing := by
  apply current_eq
  rw [selected, if_pos (Int.natCast_nonneg i)]

theorem current_preferred (none : c.selectedModeIndex = -1) {i : Nat}
    (preferred : c.preferredModeIndex = i) (timing : MDSHdmiTiming) :
    c.drmHdmiGetCurrentTiming false = .ok timing ↔ c.hdmiTimings[i]? = some timing := by
  apply current_eq
  rw [none, if_neg (by decide), preferred]

theorem Holds.current_preferred_iff (holds : c.Holds build modes)
    (none : c.selectedModeIndex = -1) : (∃ timing mode,
      c.drmHdmiGetCurrentTiming false = .ok timing ∧
        modes[c.preferredModeIndex.toNat]? = some mode ∧ timing.width = mode.hdisplay ∧
          timing.height = mode.vdisplay ∧ timing.refresh = mode.vrefresh) ↔
      PreferredInPlace build modes := by
  simp only [current_preferred none holds.preferredModeIndex, holds.hdmiTimings,
    holds.preferredModeIndex, Int.toNat_natCast, List.getElem?_map, Option.map_eq_some_iff]
  constructor
  · rintro ⟨timing, mode, ⟨distinct, found, rfl⟩, listed, width, height, refresh⟩
    exact ⟨mode, distinct, listed, found, Int.ofNat_inj.mp width, Int.ofNat_inj.mp height, refresh⟩
  · rintro ⟨mode, distinct, listed, found, width, height, refresh⟩
    exact ⟨_, mode, ⟨distinct, found, rfl⟩, listed, Int.ofNat_inj.mpr width,
      Int.ofNat_inj.mpr height, refresh⟩

theorem Holds.reports (holds : c.Holds build modes) (inPlace : PreferredInPlace build modes) :
    c.Reports modes := by
  have preferred := fun none => (holds.current_preferred_iff none).mpr inPlace
  constructor
  · rcases holds.selectedModeIndex with none | ⟨i, inside, selected⟩
    · obtain ⟨timing, _, known, _⟩ := preferred none
      exact ⟨timing, known⟩
    · exact ⟨_, (current_selected selected _).mpr (List.getElem?_eq_getElem inside)⟩
  · intro negative
    rcases holds.selectedModeIndex with none | ⟨i, _, selected⟩
    · exact preferred none
    · omega
  · intro wanted done
    rcases c.checkTiming_cases wanted with ⟨failed, _⟩ | ⟨i, entry, listed, same, selected⟩
    · cases failed.symm.trans done
    · rw [selected]
      exact ⟨entry, (current_selected rfl entry).mpr listed, same⟩

end PreferredContext

/-- The current timing is reported, whatever is tried, exactly if the duplicates leave the
preferred mode in its place. -/
theorem current_timing_reported_iff (build : PreferredBuild) (sink : ConnectedSink)
    (later : Option TypedConnector) (c : PreferredContext) :
    (∀ timings, ((c.asked build sink later).tried timings).Reports sink.modes) ↔
      PreferredInPlace build sink.modes := by
  obtain ⟨holds, none⟩ := c.asked_holds build sink later
  constructor
  · intro reports
    have first := (reports []).preferred (by
      rw [PreferredContext.tried, List.foldl_nil, none]
      decide)
    exact (holds.current_preferred_iff none).mp first
  · intro inPlace timings
    exact (holds.tried timings).reports inPlace

def repeatedSink : ConnectedSink where
  modes := [wideMode 1280 720 60 0, wideMode 1280 720 60 0, wideMode 1920 1080 60 8]
  status := .hdmi
  connected := by decide
  nonempty := by decide
  few := by decide

/-- The preferred index 2 is behind the two timings. -/
theorem repeatedSink_not_reported :
    ¬ ((PreferredContext.mk (drmInit true) (-1)).asked psbPreferred repeatedSink none).Reports
      repeatedSink.modes := by
  intro reports
  obtain ⟨timing, known⟩ := reports.known
  have failed : ((PreferredContext.mk (drmInit true) (-1)).asked psbPreferred repeatedSink
      none).drmHdmiGetCurrentTiming false = .error UNKNOWN_ERROR := by decide
  cases failed.symm.trans known

end A500cg.Mds
