import A500cg.Mds.LegacyModes

/-! The panel of the legacy composer: `mMipiOn`, `MDS_MIPI_ON` and the DRM layer say the same
until an off request is served that the policy does not allow. -/

namespace A500cg.Mds.Legacy

open Lib

namespace Composer

/-- The flag, the bit and the last value given to `drm_mipi_setMode` say the same; the panel
is on before the first call. -/
structure PanelAgrees (c : Composer) : Prop where
  bit : HasFlag c.mMode MDS_MIPI_ON ↔ c.mMipiOn = true
  device : c.panel.getLast?.getD true = c.mMipiOn

structure PanelSame (c next : Composer) : Prop where
  bit : HasFlag next.mMode MDS_MIPI_ON ↔ HasFlag c.mMode MDS_MIPI_ON
  panel : next.panel = c.panel
  mMipiOn : next.mMipiOn = c.mMipiOn

theorem PanelSame.trans {c middle next : Composer} (first : PanelSame c middle)
    (second : PanelSame middle next) : PanelSame c next :=
  ⟨second.bit.trans first.bit, second.panel.trans first.panel,
    second.mMipiOn.trans first.mMipiOn⟩

theorem Frame.panelSame {touched : BitVec 32} {c next : Composer} (frame : Frame touched c next)
    (apart : ¬ HasFlag touched MDS_MIPI_ON) : PanelSame c next :=
  ⟨frame.flag _ apart, (frame.panel apart).1, (frame.panel apart).2⟩

theorem PanelAgrees.same {c next : Composer} (agrees : PanelAgrees c) (same : PanelSame c next) :
    PanelAgrees next := by
  constructor
  · rw [same.bit, same.mMipiOn]
    exact agrees.bit
  · rw [same.panel, same.mMipiOn]
    exact agrees.device

theorem PanelAgrees.frame {touched : BitVec 32} {c next : Composer} (agrees : PanelAgrees c)
    (frame : Frame touched c next) (apart : ¬ HasFlag touched MDS_MIPI_ON) :
    PanelAgrees next :=
  agrees.same (frame.panelSame apart)

theorem panel_emit (c : Composer) (on : Bool) :
    (c.emit (.mipiSetMode on)).panel.getLast?.getD true = on := by
  simp [Composer.panel, Composer.emit, Call.mipi?]

theorem panelAgrees_on (c : Composer) :
    PanelAgrees { (c.emit (.mipiSetMode true)).setMode MDS_MIPI_ON with mMipiOn := true } :=
  ⟨iff_of_true (hasFlag_set_self (by decide)) rfl, panel_emit c true⟩

theorem panelAgrees_off (c : Composer) :
    PanelAgrees { (c.emit (.mipiSetMode false)).clearMode MDS_MIPI_ON with mMipiOn := false } :=
  ⟨iff_of_false (not_hasFlag_clear (by decide)) Bool.noConfusion, panel_emit c false⟩

theorem turnOnMipi_panel (c : Composer) :
    PanelSame c c.turnOnMipi ∨ PanelAgrees c.turnOnMipi := by
  simp only [turnOnMipi]
  split
  · exact Or.inr (panelAgrees_on _)
  · exact Or.inl ⟨Iff.rfl, rfl, rfl⟩

theorem setHdmiMode_l_panel (dviSupported : Bool) (answers : Answers) (c : Composer) :
    PanelSame c (setHdmiMode_l dviSupported answers c).2 ∨
      PanelAgrees (setHdmiMode_l dviSupported answers c).2 := by
  have started : PanelSame c
      (c.updateVideoPlaying.emit (.getConnectionStatus answers.connectStatus)) := by
    have shown := (updateVideoPlaying_frame c).panelSame (by decide)
    refine ⟨shown.bit, ?_, shown.mMipiOn⟩
    rw [← shown.panel]
    simp [Composer.panel, Composer.emit, Call.mipi?]
  simp only [setHdmiMode_l]
  generalize c.updateVideoPlaying.emit (.getConnectionStatus answers.connectStatus) = p
    at started ⊢
  split
  · have left := ((Frame.refl MDS_HDMI_CONNECTED p).broadcastMode.trans
      (mConnectStatus_frame (by decide) .dvi)).panelSame (by decide)
    exact Or.inl (started.trans left)
  · have followed := followConnection_frame
      (if p.needsMipi answers.connectStatus then p.turnOnMipi else p) answers
    have rest := followed.panelSame (by decide)
    have lit : PanelSame p (if p.needsMipi answers.connectStatus then p.turnOnMipi else p) ∨
        PanelAgrees (if p.needsMipi answers.connectStatus then p.turnOnMipi else p) := by
      split
      · exact turnOnMipi_panel p
      · exact Or.inl ⟨Iff.rfl, rfl, rfl⟩
    rcases lit with same | agrees
    · exact Or.inl ((started.trans same).trans rest)
    · exact Or.inr (agrees.same rest)

theorem PanelAgrees.setHdmiMode_l {c : Composer} (agrees : PanelAgrees c) (dviSupported : Bool)
    (answers : Answers) : PanelAgrees (setHdmiMode_l dviSupported answers c).2 := by
  rcases setHdmiMode_l_panel dviSupported answers c with same | agrees
  · exact agrees.same same
  · exact agrees

theorem setModePolicy_l_lit (dviSupported : Bool) (answers : Answers) {c : Composer}
    (agrees : HasFlag c.mMode MDS_MIPI_ON → PanelAgrees c) :
    PanelAgrees (setModePolicy_l dviSupported answers MDS_MIPI_OFF_NOT_ALLOWED c).2 := by
  have checked : c.checkMode MDS_MIPI_ON = true ↔ HasFlag c.mMode MDS_MIPI_ON :=
    checkMode_iff (by decide)
  refine PanelAgrees.frame ?_ (Frame.refl MDS_WIDI_ON _).broadcastMode (by decide)
  split
  · exact panelAgrees_on _
  · rename_i lit
    have isSet : HasFlag c.mMode MDS_MIPI_ON := checked.mp (Bool.eq_true_of_not_eq_false fun off =>
      lit (congrArg (! ·) off))
    have known := agrees isSet
    exact ⟨iff_of_true (hasFlag_set_self (by decide)) rfl,
      known.device.trans (known.bit.mp isSet)⟩

theorem PanelAgrees.checkMode {c : Composer} (agrees : PanelAgrees c) :
    c.checkMode MDS_MIPI_ON = c.mMipiOn := by
  have checked : c.checkMode MDS_MIPI_ON = true ↔ HasFlag c.mMode MDS_MIPI_ON :=
    checkMode_iff (by decide)
  exact Bool.eq_iff_iff.mpr (checked.trans agrees.bit)

theorem PanelAgrees.setModePolicy_l {c : Composer} (agrees : PanelAgrees c) (dviSupported : Bool)
    (answers : Answers) (policy : Int) :
    PanelAgrees (setModePolicy_l dviSupported answers policy c).2 := by
  simp only [Composer.setModePolicy_l]
  split
  · have noted : PanelAgrees { c with mHdmiPolicy := policy } := ⟨agrees.bit, agrees.device⟩
    exact noted.setHdmiMode_l dviSupported answers
  · split
    · rename_i lit
      subst lit
      exact setModePolicy_l_lit dviSupported answers fun _ => agrees
    · split
      · have noted : PanelAgrees { c with mMipiPolicy := policy } := ⟨agrees.bit, agrees.device⟩
        refine PanelAgrees.frame ?_ (Frame.refl MDS_WIDI_ON _).broadcastMode (by decide)
        split
        · exact panelAgrees_off _
        · rename_i dark
          rw [Bool.not_eq_true, noted.checkMode] at dark
          exact ⟨iff_of_false (not_hasFlag_clear (by decide)) Bool.noConfusion,
            noted.device.trans dark⟩
      · exact agrees

/-- An off request is served that switches nothing off: the panel is on, there is no Widi
extension, the video is on HDMI, and the policy does not allow the panel to be off. -/
def HalfOff (c : Composer) (event : Answers × Operation) : Prop :=
  event.2 = .threadServes ∧ c.mipiOn = some false ∧ c.mMipiOn = true ∧ c.mWidiVideoExt = false ∧
    HasFlag c.mMode MDS_HDMI_VIDEO_EXT ∧ c.mMipiPolicy ≠ MDS_MIPI_OFF_ALLOWED

theorem not_halfOff (c : Composer) (answers : Answers) {operation : Operation}
    (other : operation ≠ .threadServes) : ¬ HalfOff c (answers, operation) :=
  fun half => other half.1

theorem PanelAgrees.setMipiMode_l {c : Composer} (agrees : PanelAgrees c) (on : Bool) :
    ¬ (on = false ∧ c.mMipiOn = true ∧ c.mWidiVideoExt = false ∧
      HasFlag c.mMode MDS_HDMI_VIDEO_EXT ∧ c.mMipiPolicy ≠ MDS_MIPI_OFF_ALLOWED) ↔
      PanelAgrees (setMipiMode_l on c).2 := by
  have checked : c.checkMode MDS_HDMI_VIDEO_EXT = true ↔ HasFlag c.mMode MDS_HDMI_VIDEO_EXT :=
    checkMode_iff (by decide)
  simp only [Composer.setMipiMode_l]
  by_cases same : c.mMipiOn = on
  · rw [if_pos same]
    refine iff_of_true ?_ agrees
    rintro ⟨off, lit, _⟩
    rw [same, off] at lit
    cases lit
  · rw [if_neg same]
    cases on with
    | true => exact iff_of_true (fun half => Bool.noConfusion half.1) (panelAgrees_on c)
    | false =>
        have lit : c.mMipiOn = true := Bool.eq_true_of_not_eq_false same
        cases widi : c.mWidiVideoExt with
        | true => exact iff_of_true (fun half => Bool.noConfusion half.2.2.1) (panelAgrees_off c)
        | false =>
            cases extended : c.checkMode MDS_HDMI_VIDEO_EXT with
            | false =>
                refine iff_of_true (fun half => ?_)
                  (agrees.frame (Frame.refl MDS_WIDI_ON c).broadcastMode (by decide))
                rw [checked.mpr half.2.2.2.1] at extended
                cases extended
            | true =>
                by_cases allowed : c.mMipiPolicy = MDS_MIPI_OFF_ALLOWED
                · rw [if_pos allowed]
                  exact iff_of_true (fun half => half.2.2.2.2 allowed) (panelAgrees_off c)
                · rw [if_neg allowed]
                  refine iff_of_false (fun no => no ⟨rfl, lit, rfl, checked.mp extended, allowed⟩) ?_
                  -- The bit stays set, and only the flag says off.
                  intro next
                  have equal : c.mMipiOn = true ↔ false = true := agrees.bit.symm.trans next.bit
                  exact Bool.noConfusion (equal.mp lit)

theorem PanelAgrees.threadServes {c : Composer} (agrees : PanelAgrees c) :
    ¬ (c.mipiOn = some false ∧ c.mMipiOn = true ∧ c.mWidiVideoExt = false ∧
      HasFlag c.mMode MDS_HDMI_VIDEO_EXT ∧ c.mMipiPolicy ≠ MDS_MIPI_OFF_ALLOWED) ↔
      PanelAgrees c.threadServes := by
  rw [Composer.threadServes]
  cases taken : c.mipiOn with
  | none => exact iff_of_true (fun half => Option.some_ne_none _ half.1.symm) agrees
  | some on =>
      have same : PanelAgrees { (Composer.setMipiMode_l on c).2 with mipiOn := none } ↔
          PanelAgrees (Composer.setMipiMode_l on c).2 :=
        ⟨fun next => ⟨next.bit, next.device⟩, fun next => ⟨next.bit, next.device⟩⟩
      rw [same, ← agrees.setMipiMode_l on]
      simp only [Option.some.injEq]

theorem PanelAgrees.prepareForVideo {c : Composer} (agrees : PanelAgrees c) (dviSupported : Bool)
    (answers : Answers) (status : Int) :
    PanelAgrees (c.prepareForVideo dviSupported answers status).2 := by
  have noted : PanelAgrees { c with mVideoState := status } := ⟨agrees.bit, agrees.device⟩
  have told : PanelAgrees ({ c with mVideoState := status }.emit (.setVideoStatus status)) :=
    noted.frame ((Frame.refl MDS_WIDI_ON _).emit ⟨rfl, rfl, rfl⟩) (by decide)
  rw [Composer.prepareForVideo]
  split
  · exact agrees
  · dsimp only
    split
    · have zeroed : PanelAgrees { { c with mVideoState := status }.emit
          (.setVideoStatus status) with mVideo := MDSVideoSourceInfo.zero } :=
        ⟨told.bit, told.device⟩
      exact zeroed.setHdmiMode_l dviSupported answers
    · exact told

theorem PanelAgrees.step {dviSupported : Bool} {c : Composer} (agrees : PanelAgrees c)
    (ready : c.mDrmInit = true) (event : Answers × Operation) :
    ¬ HalfOff c event ↔ PanelAgrees (c.step dviSupported event) := by
  rcases event with ⟨answers, operation⟩
  simp only [Composer.step, ready, Bool.true_eq_false, if_false]
  cases operation with
  | updateVideoInfo info =>
      have noted : PanelAgrees { c with mVideo := info } := ⟨agrees.bit, agrees.device⟩
      exact iff_of_true (not_halfOff c answers Operation.noConfusion)
        (noted.setHdmiMode_l dviSupported answers)
  | prepareForVideo status =>
      exact iff_of_true (not_halfOff c answers Operation.noConfusion)
        (agrees.prepareForVideo dviSupported answers status)
  | notifyHotPlug =>
      apply iff_of_true (not_halfOff c answers Operation.noConfusion)
      have next := agrees.setHdmiMode_l dviSupported answers
      simp only [notifyHotPlug]
      split
      · exact next.frame ((Frame.refl MDS_WIDI_ON _).emit ⟨rfl, rfl, rfl⟩) (by decide)
      · exact next
  | setModePolicy policy =>
      exact iff_of_true (not_halfOff c answers Operation.noConfusion)
        (agrees.setModePolicy_l dviSupported answers policy)
  | notifyWidi on =>
      exact iff_of_true (not_halfOff c answers Operation.noConfusion)
        (agrees.frame (notifyWidi_frame on c) (by decide))
  | notifyMipi on =>
      exact iff_of_true (not_halfOff c answers Operation.noConfusion) ⟨agrees.bit, agrees.device⟩
  | threadTakes =>
      apply iff_of_true (not_halfOff c answers Operation.noConfusion)
      dsimp only
      split
      · exact ⟨agrees.bit, agrees.device⟩
      · exact agrees
  | threadServes =>
      rw [← agrees.threadServes]
      simp only [HalfOff, true_and]

theorem setHdmiMode_l_mDrmInit (dviSupported : Bool) (answers : Answers) (c : Composer) :
    (setHdmiMode_l dviSupported answers c).2.mDrmInit = c.mDrmInit := by
  simp only [setHdmiMode_l]
  split
  · exact (updateVideoPlaying_frame c).mDrmInit
  · exact (followConnection_frame _ answers).mDrmInit.trans
      ((turnOnMipiIfNeeded_frame _ _).mDrmInit.trans (updateVideoPlaying_frame c).mDrmInit)

theorem setModePolicy_l_mDrmInit (dviSupported : Bool) (answers : Answers) (policy : Int)
    (c : Composer) : (setModePolicy_l dviSupported answers policy c).2.mDrmInit = c.mDrmInit := by
  by_cases hdmi : policy = MDS_HDMI_ON_NOT_ALLOWED ∨ policy = MDS_HDMI_ON_ALLOWED
  · have chosen : (policy = MDS_HDMI_ON_NOT_ALLOWED || policy = MDS_HDMI_ON_ALLOWED) = true := by
      simpa using hdmi
    simp only [setModePolicy_l, chosen, if_true]
    exact setHdmiMode_l_mDrmInit dviSupported answers _
  · rw [not_or] at hdmi
    exact (setModePolicy_l_mipi_frame dviSupported answers c hdmi.1 hdmi.2).mDrmInit

theorem step_mDrmInit (dviSupported : Bool) (c : Composer) (event : Answers × Operation) :
    (c.step dviSupported event).mDrmInit = c.mDrmInit := by
  rcases event with ⟨answers, operation⟩
  simp only [Composer.step]
  split
  · rfl
  · cases operation with
    | updateVideoInfo info => exact setHdmiMode_l_mDrmInit dviSupported answers _
    | prepareForVideo status =>
        simp only [prepareForVideo]
        split
        · rfl
        · split
          · exact setHdmiMode_l_mDrmInit dviSupported answers _
          · rfl
    | notifyHotPlug =>
        simp only [notifyHotPlug]
        split
        · exact setHdmiMode_l_mDrmInit dviSupported answers c
        · exact setHdmiMode_l_mDrmInit dviSupported answers c
    | setModePolicy policy => exact setModePolicy_l_mDrmInit dviSupported answers policy c
    | notifyWidi on => exact (notifyWidi_frame on c).mDrmInit
    | notifyMipi on => rfl
    | threadTakes =>
        dsimp only
        split
        · rfl
        · rfl
    | threadServes => exact (threadServes_frame c).mDrmInit

theorem initialize_l_ready {boot : Boot} (opened : boot.drmInit = true) :
    (initialize_l boot).mDrmInit = true ∧ (initialize_l boot).PanelAgrees := by
  have dark : ¬ HasFlag (construct boot.mVideoState).mMode MDS_MIPI_ON :=
    fun lit => lit BitVec.zero_and
  simp only [initialize_l, opened, Bool.not_true, Bool.false_eq_true, if_false]
  rw [setModePolicy_l_mDrmInit]
  cases boot.isSupported with
  | false => exact ⟨rfl, setModePolicy_l_lit _ _ fun lit => absurd lit dark⟩
  | true =>
      refine ⟨setModePolicy_l_mDrmInit _ _ _ _, setModePolicy_l_lit _ _ fun lit => ?_⟩
      rcases setHdmiMode_l_panel boot.dviSupported boot.answers
        { construct boot.mVideoState with mDrmInit := true, mHdmiPolicy := MDS_HDMI_ON_ALLOWED } with
        same | agrees
      · exact absurd (same.bit.mp lit) dark
      · exact agrees

end Composer

/-- The three say the same after every operation exactly if `drm_init` succeeded and no off
request is served that switches nothing off. -/
theorem legacy_panel_agrees_iff (boot : Boot) (events : List (Answers × Operation)) :
    (∀ before, before <+: events → (Composer.run boot before).PanelAgrees) ↔
      boot.drmInit = true ∧ Along (fun c event => some (Composer.step boot.dviSupported c event))
        (fun c event => ¬ Composer.HalfOff c event) (initialize_l boot) events := by
  cases opened : boot.drmInit with
  | false =>
      refine iff_of_false (fun all => ?_) (fun both => Bool.noConfusion both.1)
      have start := (all [] List.nil_prefix).bit
      simp only [Composer.run, initialize_l, opened, List.foldl_nil, Bool.not_false, if_true] at start
      exact start.mpr rfl BitVec.zero_and
  | true =>
      rcases Composer.initialize_l_ready opened with ⟨ready, agrees⟩
      have kept : ∀ c event, c.mDrmInit = true → True →
          (Composer.step boot.dviSupported c event).mDrmInit = true :=
        fun c event ready _ => (Composer.step_mDrmInit _ c event).trans ready
      have keeps : ∀ c event, c.mDrmInit = true → c.PanelAgrees → True →
          (¬ c.HalfOff event ↔ (Composer.step boot.dviSupported c event).PanelAgrees) :=
        fun c event ready agrees _ => agrees.step ready event
      rw [and_iff_right rfl]
      exact holds_throughout_iff_along kept keeps ready agrees fun _ _ => trivial

/-- A video plays on HDMI, the policy keeps the panel on, and an off request is served: the
panel is on, but `mMipiOn` says off. -/
theorem off_request_against_policy :
    ¬ (Composer.run ⟨true, true, true, ⟨.hdmi, true, false⟩, 0⟩
      [(⟨.hdmi, true, false⟩, .updateVideoInfo ⟨true, false, 60, 1280, 720, false⟩),
        (⟨.hdmi, true, false⟩, .setModePolicy MDS_MIPI_OFF_NOT_ALLOWED),
        (⟨.hdmi, true, false⟩, .notifyMipi false), (⟨.hdmi, true, false⟩, .threadTakes),
        (⟨.hdmi, true, false⟩, .threadServes)]).PanelAgrees := by
  intro agrees
  have off := agrees.bit.mp (by decide)
  revert off
  decide

end A500cg.Mds.Legacy
