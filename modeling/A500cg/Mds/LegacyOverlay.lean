import A500cg.Mds.LegacyModes

/-! The overlay of the legacy composer: it is off in the mode word only while HDMI shows a clone,
until the policy turns that HDMI off, and the mode that was broadcast last is the current one. -/

namespace A500cg.Mds.Legacy

open Lib

def Call.mode? : Call → Option (BitVec 32)
  | .modeChange mode => some mode
  | _ => none

inductive Operation.Locked : Operation → Prop where
  | updateVideoInfo (info : MDSVideoSourceInfo) : Locked (.updateVideoInfo info)
  | prepareForVideo (status : Int) : Locked (.prepareForVideo status)
  | notifyHotPlug : Locked .notifyHotPlug
  | setModePolicy (policy : Int) : Locked (.setModePolicy policy)

namespace Composer

def messages (c : Composer) : List (BitVec 32) := c.calls.filterMap Call.mode?

/-- The last message carries the mode. -/
def Told (c : Composer) : Prop := c.messages.getLast? = some c.mMode

/-- The overlay is off only for a clone. -/
def Shaded (c : Composer) : Prop :=
  HasFlag c.mMode MDS_OVERLAY_OFF → HasFlag c.mMode MDS_HDMI_CLONE

/-- What is claimed of the state behind an operation; nothing is ever broadcast if `drm_init`
failed. -/
structure OverlayLaw (c : Composer) : Prop where
  shaded : c.Shaded
  told : c.mDrmInit = true → c.Told

/-- The policy turns off an HDMI that shows a clone, while it is connected. -/
def TurnsOffClone (c : Composer) (event : Answers × Operation) : Prop :=
  event.2 = .setModePolicy MDS_HDMI_ON_NOT_ALLOWED ∧ event.1.connectStatus ≠ .disconnected ∧
    HasFlag c.mMode MDS_HDMI_CLONE

theorem not_turnsOffClone (c : Composer) (answers : Answers) {operation : Operation}
    (other : operation ≠ .setModePolicy MDS_HDMI_ON_NOT_ALLOWED) :
    ¬ TurnsOffClone c (answers, operation) :=
  fun turnsOff => other turnsOff.1

theorem told_broadcastMode (c : Composer) : c.broadcastMode.Told := by
  simp [Told, messages, broadcastMode, emit, Call.mode?]

theorem Told.emit {c : Composer} (told : c.Told) {call : Call} (silent : call.mode? = none) :
    (c.emit call).Told := by
  simpa [Told, messages, Composer.emit, silent] using told

/-! Every exit of `setHdmiMode_l` broadcasts the mode that it leaves. -/

theorem hdmiDisconnected_told (c : Composer) : c.hdmiDisconnected.Told := by
  simp only [hdmiDisconnected]
  split
  · exact told_broadcastMode c
  · generalize ((c.emit (.notifyAudioHotplug false)).emit (.disableHdcp false)).clearHdmi = d
    have told : (d.broadcastMode.emit .onHdmiDisconnected).Told := (told_broadcastMode d).emit rfl
    exact told

theorem turnOffHdmi_told (c : Composer) : c.turnOffHdmi.Told := by
  simp only [turnOffHdmi]
  split
  · exact told_broadcastMode c
  · exact (told_broadcastMode _).emit rfl

theorem hdmiAllowed_told (c : Composer) (answers : Answers) (notify : Bool) :
    (c.hdmiAllowed answers notify).Told := by
  simp only [hdmiAllowed]
  split
  · exact told_broadcastMode _
  · split
    · exact told_broadcastMode _
    · split
      · exact (told_broadcastMode _).emit rfl
      · exact told_broadcastMode _

theorem followConnection_told (c : Composer) (answers : Answers) :
    (c.followConnection answers).Told := by
  simp only [followConnection]
  split
  · exact hdmiDisconnected_told c
  · split
    · exact turnOffHdmi_told _
    · exact hdmiAllowed_told _ _ _

theorem setHdmiMode_l_told (dviSupported : Bool) (answers : Answers) (c : Composer) :
    (setHdmiMode_l dviSupported answers c).2.Told := by
  simp only [setHdmiMode_l]
  split
  · exact told_broadcastMode _
  · exact followConnection_told _ answers

theorem Told.setModePolicy_l {c : Composer} (dviSupported : Bool) (answers : Answers)
    (policy : Int) (told : policy ≠ MDS_MIPI_OFF_NOT_ALLOWED → c.Told) :
    (setModePolicy_l dviSupported answers policy c).2.Told := by
  simp only [Composer.setModePolicy_l]
  split
  · exact setHdmiMode_l_told dviSupported answers _
  · split
    · exact told_broadcastMode _
    · rename_i other
      split
      · exact told_broadcastMode _
      · exact told other

theorem Told.step {c : Composer} (told : c.Told) (dviSupported : Bool)
    {event : Answers × Operation} (locked : event.2.Locked) : (c.step dviSupported event).Told := by
  obtain ⟨answers, operation⟩ := event
  rw [Composer.step]
  split
  · exact told
  · cases locked with
    | updateVideoInfo info => exact setHdmiMode_l_told dviSupported answers _
    | prepareForVideo status =>
        simp only [prepareForVideo]
        split
        · exact told
        · split
          · exact setHdmiMode_l_told dviSupported answers _
          · exact told.emit rfl
    | notifyHotPlug =>
        have next := setHdmiMode_l_told dviSupported answers c
        simp only [notifyHotPlug]
        split
        · exact next.emit rfl
        · exact next
    | setModePolicy policy => exact Told.setModePolicy_l dviSupported answers policy fun _ => told

/-- A clone has the overlay off. -/
def Covered (c : Composer) : Prop :=
  HasFlag c.mMode MDS_HDMI_CLONE → HasFlag c.mMode MDS_OVERLAY_OFF

structure OverlaySame (c next : Composer) : Prop where
  clone : HasFlag next.mMode MDS_HDMI_CLONE ↔ HasFlag c.mMode MDS_HDMI_CLONE
  overlay : HasFlag next.mMode MDS_OVERLAY_OFF ↔ HasFlag c.mMode MDS_OVERLAY_OFF
  mHdmiPolicy : next.mHdmiPolicy = c.mHdmiPolicy

theorem Frame.overlaySame {touched : BitVec 32} {c next : Composer} (frame : Frame touched c next)
    (apart : ¬ HasFlag touched (MDS_HDMI_CLONE ||| MDS_OVERLAY_OFF)) : OverlaySame c next := by
  rw [hasFlag_flag_or, not_or] at apart
  exact ⟨frame.flag _ apart.1, frame.flag _ apart.2, frame.mHdmiPolicy⟩

theorem OverlaySame.trans {c middle next : Composer} (first : OverlaySame c middle)
    (second : OverlaySame middle next) : OverlaySame c next :=
  ⟨second.clone.trans first.clone, second.overlay.trans first.overlay,
    second.mHdmiPolicy.trans first.mHdmiPolicy⟩

/-- What a pass through `setHdmiMode_l` does to the two bits: where nothing is shown there is no
clone, and the overlay stays off without one exactly if the policy has turned off a clone. -/
structure Passes (status : ConnectStatus) (c next : Composer) : Prop where
  covered : next.Covered
  off : c.mHdmiPolicy = MDS_HDMI_ON_NOT_ALLOWED → ¬ HasFlag next.mMode MDS_HDMI_CLONE
  shaded : c.Shaded → (¬ (c.mHdmiPolicy = MDS_HDMI_ON_NOT_ALLOWED ∧ status ≠ .disconnected ∧
    HasFlag c.mMode MDS_HDMI_CLONE) ↔ next.Shaded)

variable {c next : Composer} {status : ConnectStatus}

theorem OverlaySame.passes (same : OverlaySame c next) (covered : c.Covered)
    (off : c.mHdmiPolicy = MDS_HDMI_ON_NOT_ALLOWED → ¬ HasFlag c.mMode MDS_HDMI_CLONE) :
    Passes status c next := by
  refine ⟨?_, ?_, fun shaded => iff_of_true (fun turned => off turned.1 turned.2.2) ?_⟩
  · rw [Covered, same.clone, same.overlay]
    exact covered
  · rw [same.clone]
    exact off
  · rw [Shaded, same.clone, same.overlay]
    exact shaded

theorem hdmiDisconnected_passes (flags : Flags c) (covered : c.Covered) :
    Passes .disconnected c c.hdmiDisconnected := by
  have checked : c.checkMode MDS_HDMI_CONNECTED = true ↔ HasFlag c.mMode MDS_HDMI_CONNECTED :=
    checkMode_iff (by decide)
  rw [hdmiDisconnected]
  cases connected : c.checkMode MDS_HDMI_CONNECTED with
  | false =>
      have none : ¬ HasFlag c.mMode MDS_HDMI_CLONE := by
        intro clone
        rw [checked.mpr (flags.on (flags.clone clone))] at connected
        cases connected
      exact OverlaySame.passes ⟨Iff.rfl, Iff.rfl, rfl⟩ covered fun _ => none
  | true =>
      have clone : ¬ HasFlag ((c.emit (.notifyAudioHotplug false)).emit
          (.disableHdcp false)).clearHdmi.mMode MDS_HDMI_CLONE := by
        simp (disch := decide) only [clearHdmi, Composer.clearMode, hasFlag_clear,
          not_hasFlag_clear, not_false_eq_true]
      have overlay : ¬ HasFlag ((c.emit (.notifyAudioHotplug false)).emit
          (.disableHdcp false)).clearHdmi.mMode MDS_OVERLAY_OFF := not_hasFlag_clear (by decide)
      refine ⟨fun has => absurd has clone, fun _ => clone, fun _ => ?_⟩
      exact iff_of_true (fun turned => turned.2.1 rfl) fun has => absurd has overlay

theorem turnOffHdmi_passes (flags : Flags c) (covered : c.Covered)
    (notAllowed : c.mHdmiPolicy = MDS_HDMI_ON_NOT_ALLOWED) (plugged : status ≠ .disconnected) :
    Passes status c c.turnOffHdmi := by
  have checked : c.checkMode MDS_HDMI_ON = true ↔ HasFlag c.mMode MDS_HDMI_ON :=
    checkMode_iff (by decide)
  have frame := turnOffHdmi_frame c
  have overlay := frame.flag MDS_OVERLAY_OFF (by decide)
  have clone : ¬ HasFlag c.turnOffHdmi.mMode MDS_HDMI_CLONE := by
    rw [turnOffHdmi]
    cases on : c.checkMode MDS_HDMI_ON with
    | false =>
        intro clone
        rw [checked.mpr (flags.clone clone)] at on
        cases on
    | true =>
        simp (disch := decide) only [Bool.not_true, Bool.false_eq_true, if_false,
          Composer.clearMode, Composer.broadcastMode, Composer.emit, hasFlag_clear,
          not_hasFlag_clear, not_false_eq_true]
  refine ⟨fun has => absurd has clone, fun _ => clone, fun shaded => ?_⟩
  rw [Shaded, overlay]
  constructor
  · intro kept off
    exact absurd ⟨notAllowed, plugged, shaded off⟩ kept
  · intro next turned
    exact clone (next (covered turned.2.2))

theorem turnOnOverlay_iff (c : Composer) : HasFlag c.turnOnOverlay.mMode MDS_OVERLAY_OFF ↔
    HasFlag c.mMode MDS_OVERLAY_OFF ∧ ¬ HasFlag c.mMode MDS_HDMI_VIDEO_EXT := by
  have checked : c.checkMode MDS_HDMI_VIDEO_EXT = true ↔ HasFlag c.mMode MDS_HDMI_VIDEO_EXT :=
    checkMode_iff (by decide)
  rw [turnOnOverlay, ← checked]
  split
  · rename_i extended
    exact iff_of_false (not_hasFlag_clear (by decide)) fun both => both.2 extended
  · rename_i other
    exact (and_iff_left other).symm

theorem changeHdmiMode_overlay (c : Composer) (answers : Answers) :
    HasFlag (c.changeHdmiMode answers).mMode MDS_OVERLAY_OFF ↔ c.mVideo.isPlaying = false := by
  have video : (c.changeHdmiMode answers).mVideo = c.mVideo :=
    (changeHdmiMode_frame c answers).mVideo
  have extended := (changeHdmiMode_flags c answers).2.1
  revert extended
  rw [← video]
  simp only [changeHdmiMode]
  generalize off : ((c.emit _).disableHdcp.setHdmiTiming.enableHdcp answers).setMode
    MDS_OVERLAY_OFF = d
  have set : HasFlag d.mMode MDS_OVERLAY_OFF := by
    rw [← off]
    exact hasFlag_set_self (by decide)
  have chosen : HasFlag d.chooseMode.broadcastMode.turnOnHdmi.mMode MDS_OVERLAY_OFF :=
    ((turnOnHdmi_frame _).flag _ (by decide)).mpr (((chooseMode_frame d).flag _ (by decide)).mpr set)
  generalize d.chooseMode.broadcastMode.turnOnHdmi = e at chosen ⊢
  intro extended
  have lit : HasFlag e.turnOnOverlay.mMode MDS_HDMI_VIDEO_EXT ↔
      HasFlag e.mMode MDS_HDMI_VIDEO_EXT := (turnOnOverlay_frame e).flag _ (by decide)
  calc HasFlag e.turnOnOverlay.mMode MDS_OVERLAY_OFF
      ↔ ¬ HasFlag e.mMode MDS_HDMI_VIDEO_EXT := (turnOnOverlay_iff e).trans (and_iff_right chosen)
    _ ↔ ¬ HasFlag e.turnOnOverlay.mMode MDS_HDMI_VIDEO_EXT := not_congr lit.symm
    _ ↔ e.turnOnOverlay.broadcastMode.mVideo.isPlaying = false :=
      (not_congr extended).trans (Bool.not_eq_true _).to_iff

theorem hdmiAllowed_passes (covered : c.Covered)
    (allowed : c.mHdmiPolicy ≠ MDS_HDMI_ON_NOT_ALLOWED) (answers : Answers) (notify : Bool) :
    Passes status c (c.hdmiAllowed answers notify) := by
  have stays : Passes status c
      { c with mConnectStatus := answers.connectStatus }.broadcastMode :=
    OverlaySame.passes ⟨Iff.rfl, Iff.rfl, rfl⟩ covered fun off => absurd off allowed
  have changed {d : Composer} (mode : d.mMode =
      ({ c with mConnectStatus := answers.connectStatus }.changeHdmiMode answers).mMode) :
      Passes status c d := by
    have both : HasFlag d.mMode MDS_HDMI_CLONE ↔ HasFlag d.mMode MDS_OVERLAY_OFF := by
      rw [mode, changeHdmiMode_overlay]
      exact (changeHdmiMode_flags _ answers).2.2
    refine ⟨both.mp, fun off => absurd off allowed, fun _ => ?_⟩
    exact iff_of_true (fun turned => allowed turned.1) both.mpr
  simp only [hdmiAllowed]
  split
  · exact stays
  · split
    · exact stays
    · split
      · exact changed rfl
      · exact changed rfl

theorem Passes.congr {before : Composer} (same : OverlaySame before c)
    (passes : Passes status c next) : Passes status before next := by
  have shaded := passes.shaded
  rw [Shaded, same.clone, same.overlay, same.mHdmiPolicy] at shaded
  exact ⟨passes.covered, same.mHdmiPolicy ▸ passes.off, shaded⟩

theorem OverlaySame.covered (same : OverlaySame c next) (covered : c.Covered) : next.Covered := by
  rw [Covered, same.clone, same.overlay]
  exact covered

theorem notifyPluggedOff_mode (c : Composer) (status : ConnectStatus) (notify : Bool) :
    (c.notifyPluggedOff status notify).mMode = c.mMode := by
  rw [notifyPluggedOff]
  split
  · rfl
  · rfl

theorem followConnection_passes (flags : Flags c) (covered : c.Covered) (answers : Answers) :
    Passes answers.connectStatus c (c.followConnection answers) := by
  simp only [followConnection]
  split
  · rename_i gone
    rw [gone]
    exact hdmiDisconnected_passes flags covered
  · rename_i plugged
    have connected : OverlaySame c (c.setMode MDS_HDMI_CONNECTED) :=
      (setMode_frame (by decide) : Frame MDS_HDMI_CONNECTED c _).overlaySame (by decide)
    split
    · rename_i notAllowed
      have noted := connected.trans ((notifyPluggedOff_frame (c.setMode MDS_HDMI_CONNECTED)
        answers.connectStatus (c.mMode &&& MDS_HDMI_CONNECTED = 0)).overlaySame (by decide))
      have fits : Flags ((c.setMode MDS_HDMI_CONNECTED).notifyPluggedOff answers.connectStatus
          (c.mMode &&& MDS_HDMI_CONNECTED = 0)) :=
        flags.setConnected.same fun _ _ => by rw [notifyPluggedOff_mode]
      have policy : c.mHdmiPolicy = MDS_HDMI_ON_NOT_ALLOWED := notAllowed
      have off := turnOffHdmi_passes fits (noted.covered covered) (noted.mHdmiPolicy.trans policy)
        plugged
      exact off.congr noted
    · rename_i allowed
      exact (hdmiAllowed_passes (connected.covered covered) allowed answers _).congr connected

theorem setHdmiMode_l_passes (flags : Flags c) (covered : c.Covered) (answers : Answers) :
    Passes answers.connectStatus c (setHdmiMode_l true answers c).2 := by
  have playing := updateVideoPlaying_frame c
  have shown := playing.overlaySame (by decide)
  have same : OverlaySame c
      (c.updateVideoPlaying.emit (.getConnectionStatus answers.connectStatus)) :=
    ⟨shown.clone, shown.overlay, shown.mHdmiPolicy⟩
  have started : Flags (c.updateVideoPlaying.emit (.getConnectionStatus answers.connectStatus)) :=
    (flags.frame playing (by decide)).same fun _ _ => Iff.rfl
  simp only [setHdmiMode_l, Bool.not_true, Bool.false_and, Bool.false_eq_true, if_false]
  generalize c.updateVideoPlaying.emit (.getConnectionStatus answers.connectStatus) = p
    at same started ⊢
  have panel := turnOnMipiIfNeeded_frame p answers.connectStatus
  have same := same.trans (panel.overlaySame (by decide))
  have lit := started.frame panel (by decide)
  exact (followConnection_passes lit (same.covered covered) answers).congr same

/-- What is known between two operations if `drm_init` succeeded. -/
structure Settled (c : Composer) : Prop where
  running : c.Running
  covered : c.Covered
  off : c.mHdmiPolicy = MDS_HDMI_ON_NOT_ALLOWED → ¬ HasFlag c.mMode MDS_HDMI_CLONE

theorem setHdmiMode_l_mHdmiPolicy (answers : Answers) (c : Composer) :
    (setHdmiMode_l true answers c).2.mHdmiPolicy = c.mHdmiPolicy := by
  simp only [setHdmiMode_l, Bool.not_true, Bool.false_and, Bool.false_eq_true, if_false]
  exact (followConnection_frame _ answers).mHdmiPolicy.trans
    ((turnOnMipiIfNeeded_frame _ _).mHdmiPolicy.trans (updateVideoPlaying_frame c).mHdmiPolicy)

theorem settled_setHdmiMode_l (sound : Sound c) (ready : c.mDrmInit = true) (covered : c.Covered)
    (answers : Answers) : Settled (setHdmiMode_l true answers c).2 := by
  have passes := setHdmiMode_l_passes sound.toFlags covered answers
  refine ⟨sound.setHdmiMode_l ready answers, passes.covered, fun policy => ?_⟩
  exact passes.off ((setHdmiMode_l_mHdmiPolicy answers c).symm.trans policy)

theorem Settled.frame {touched : BitVec 32} (settled : Settled c) (frame : Frame touched c next)
    (apart : ¬ HasFlag touched (hdmiBits ||| MDS_VIDEO_PLAYING ||| MDS_OVERLAY_OFF)) :
    Settled next := by
  have within : ¬ HasFlag touched (MDS_HDMI_CLONE ||| MDS_OVERLAY_OFF) :=
    fun has => apart (hasFlag_comm.mp ((hasFlag_comm.mp has).within (by decide)))
  rw [hasFlag_flag_or, not_or] at apart
  have same := frame.overlaySame within
  refine ⟨settled.running.frame frame apart.1, same.covered settled.covered, ?_⟩
  rw [same.clone, same.mHdmiPolicy]
  exact settled.off

/-- The policy that `setHdmiMode_l` meets in an operation that comes to it. -/
def policyOf (c : Composer) : Operation → Int
  | .setModePolicy policy => policy
  | _ => c.mHdmiPolicy

def unprepared (c : Composer) (status : Int) : Composer :=
  { { c with mVideoState := status }.emit (.setVideoStatus status) with
    mVideo := MDSVideoSourceInfo.zero }

theorem prepareForVideo_eq (dviSupported : Bool) (answers : Answers) (status : Int)
    (c : Composer) : (prepareForVideo dviSupported answers status c).2 =
      if c.mVideoState = status then c
      else if status = MDS_VIDEO_UNPREPARED then
        (setHdmiMode_l dviSupported answers (c.unprepared status)).2
      else { c with mVideoState := status }.emit (.setVideoStatus status) := by
  simp only [prepareForVideo, unprepared, apply_ite Prod.snd]

theorem step_cases (sound : Sound c) (ready : c.mDrmInit = true) {event : Answers × Operation}
    (locked : event.2.Locked) :
    (∃ before, Sound before ∧ before.mDrmInit = true ∧ before.mMode = c.mMode ∧
      before.mHdmiPolicy = c.policyOf event.2 ∧
        Frame MDS_MIPI_ON (setHdmiMode_l true event.1 before).2 (c.step true event)) ∨
    (event.2 ≠ .setModePolicy MDS_HDMI_ON_NOT_ALLOWED ∧
      Frame MDS_MIPI_ON c (c.step true event)) := by
  obtain ⟨answers, operation⟩ := event
  simp only [Composer.step, ready, Bool.true_eq_false, if_false]
  cases locked with
  | updateVideoInfo info =>
      exact .inl ⟨{ c with mVideo := info }, sound.same rfl rfl rfl, ready, rfl, rfl, .refl _ _⟩
  | prepareForVideo status =>
      have told : Frame MDS_MIPI_ON c
          ({ c with mVideoState := status }.emit (.setVideoStatus status)) := by
        refine Frame.emit ?_ ⟨rfl, rfl, rfl⟩
        exact ⟨rfl, rfl, rfl, rfl, fun _ _ => Iff.rfl, fun _ => ⟨rfl, rfl⟩, fun _ => ⟨rfl, rfl⟩⟩
      have zeroed : Sound (c.unprepared status) :=
        sound.same rfl (told.connection (by decide)).1 rfl
      simp only [prepareForVideo_eq]
      split
      · exact .inr ⟨Operation.noConfusion, .refl _ c⟩
      · split
        · exact .inl ⟨c.unprepared status, zeroed, ready, rfl, rfl, .refl _ _⟩
        · exact .inr ⟨Operation.noConfusion, told⟩
  | notifyHotPlug =>
      refine .inl ⟨c, sound, ready, rfl, rfl, ?_⟩
      simp only [notifyHotPlug]
      split
      · exact emit_frame ⟨rfl, rfl, rfl⟩
      · exact .refl _ _
  | setModePolicy policy =>
      by_cases hdmi : policy = MDS_HDMI_ON_NOT_ALLOWED ∨ policy = MDS_HDMI_ON_ALLOWED
      · have chosen : (policy = MDS_HDMI_ON_NOT_ALLOWED || policy = MDS_HDMI_ON_ALLOWED) = true := by
          simpa using hdmi
        simp only [Composer.setModePolicy_l, chosen, if_true]
        exact .inl ⟨{ c with mHdmiPolicy := policy }, sound.same rfl rfl rfl, ready, rfl, rfl,
          .refl _ _⟩
      · rw [not_or] at hdmi
        refine .inr ⟨fun same => hdmi.1 (Operation.setModePolicy.inj same), ?_⟩
        exact setModePolicy_l_mipi_frame true answers c hdmi.1 hdmi.2

theorem Settled.step (settled : Settled c) {event : Answers × Operation}
    (locked : event.2.Locked) : Settled (c.step true event) := by
  rcases step_cases settled.running.1.toSound settled.running.2 locked with
    ⟨before, sound, ready, mode, _, rest⟩ | ⟨_, frame⟩
  · have covered : before.Covered := by
      rw [Covered, mode]
      exact settled.covered
    exact (settled_setHdmiMode_l sound ready covered event.1).frame rest (by decide)
  · exact settled.frame frame (by decide)

theorem Settled.turnsOffClone_iff (settled : Settled c) {event : Answers × Operation}
    (locked : event.2.Locked) : TurnsOffClone c event ↔
      c.policyOf event.2 = MDS_HDMI_ON_NOT_ALLOWED ∧ event.1.connectStatus ≠ .disconnected ∧
        HasFlag c.mMode MDS_HDMI_CLONE := by
  obtain ⟨answers, operation⟩ := event
  have never (other : operation ≠ .setModePolicy MDS_HDMI_ON_NOT_ALLOWED)
      (policy : c.policyOf operation = c.mHdmiPolicy) : TurnsOffClone c (answers, operation) ↔
        c.policyOf operation = MDS_HDMI_ON_NOT_ALLOWED ∧ answers.connectStatus ≠ .disconnected ∧
          HasFlag c.mMode MDS_HDMI_CLONE :=
    iff_of_false (not_turnsOffClone c answers other) fun turned =>
      settled.off (policy.symm.trans turned.1) turned.2.2
  cases locked with
  | updateVideoInfo info => exact never Operation.noConfusion rfl
  | prepareForVideo status => exact never Operation.noConfusion rfl
  | notifyHotPlug => exact never Operation.noConfusion rfl
  | setModePolicy policy => simp only [TurnsOffClone, policyOf, Operation.setModePolicy.injEq]

theorem Settled.step_shaded (settled : Settled c) (shaded : c.Shaded)
    {event : Answers × Operation} (locked : event.2.Locked) :
    ¬ TurnsOffClone c event ↔ (c.step true event).Shaded := by
  rcases step_cases settled.running.1.toSound settled.running.2 locked with
    ⟨before, sound, ready, mode, policy, rest⟩ | ⟨other, frame⟩
  · have covered : before.Covered := by
      rw [Covered, mode]
      exact settled.covered
    have passes := setHdmiMode_l_passes sound.toFlags covered event.1
    have same := rest.overlaySame (by decide)
    have next := passes.shaded (by rw [Shaded, mode]; exact shaded)
    rw [Shaded, same.clone, same.overlay, ← Shaded, ← next, mode, policy,
      settled.turnsOffClone_iff locked]
  · have same := frame.overlaySame (by decide)
    rw [Shaded, same.clone, same.overlay]
    exact iff_of_true (fun turned => other turned.1) shaded

theorem step_setModePolicy {c : Composer} (ready : c.mDrmInit = true) (answers : Answers)
    (policy : Int) :
    c.step true (answers, .setModePolicy policy) = (setModePolicy_l true answers policy c).2 := by
  simp only [step, ready, Bool.true_eq_false, if_false]

theorem initialize_l_settled {boot : Boot} (dvi : boot.dviSupported = true)
    (opened : boot.drmInit = true) :
    Settled (initialize_l boot) ∧ (initialize_l boot).OverlayLaw := by
  have start := construct_invariant boot.mVideoState
  have off : ∀ flag, ¬ HasFlag (construct boot.mVideoState).mMode flag :=
    fun flag has => has BitVec.zero_and
  have ready : Settled { construct boot.mVideoState with mDrmInit := true } :=
    ⟨⟨⟨start.toSound.same rfl rfl rfl, start.polled, start.playing⟩, rfl⟩,
      fun has => absurd has (off _), fun _ => off _⟩
  have after {c : Composer} (policy : Int) (other : policy ≠ MDS_HDMI_ON_NOT_ALLOWED)
      (both : c.Settled ∧ c.Shaded) :
      (setModePolicy_l true boot.answers policy c).2.Settled ∧
        (setModePolicy_l true boot.answers policy c).2.Shaded := by
    have locked : (boot.answers, Operation.setModePolicy policy).2.Locked := .setModePolicy policy
    rw [← step_setModePolicy both.1.running.2]
    refine ⟨both.1.step locked, (both.1.step_shaded both.2 locked).mp ?_⟩
    exact fun turned => other (Operation.setModePolicy.inj turned.1)
  have told : (initialize_l boot).Told := by
    simp only [initialize_l, opened, Bool.not_true, Bool.false_eq_true, if_false]
    exact Told.setModePolicy_l _ _ _ fun other => absurd rfl other
  have both : (initialize_l boot).Settled ∧ (initialize_l boot).Shaded := by
    simp only [initialize_l, dvi, opened, Bool.not_true, Bool.false_eq_true, if_false]
    apply after _ (by decide)
    split
    · exact after _ (by decide) ⟨ready, fun has => absurd has (off _)⟩
    · exact ⟨ready, fun has => absurd has (off _)⟩
  exact ⟨both.1, both.2, fun _ => told⟩

theorem initialize_l_failed {boot : Boot} (failed : boot.drmInit = false) :
    initialize_l boot = construct boot.mVideoState := by
  simp only [initialize_l, failed, Bool.not_false, if_true]

end Composer

/-- The law holds after every operation exactly if no policy turns off an HDMI that shows a
clone. -/
theorem legacy_overlay_iff (boot : Boot) (dvi : boot.dviSupported = true)
    (events : List (Answers × Operation)) (locked : ∀ event ∈ events, event.2.Locked) :
    (∀ before, before <+: events → (Composer.run boot before).OverlayLaw) ↔
      Along (fun c event => some (Composer.step boot.dviSupported c event))
        (fun c event => ¬ c.TurnsOffClone event) (initialize_l boot) events := by
  rw [dvi]
  cases opened : boot.drmInit with
  | true =>
      obtain ⟨settled, law⟩ := Composer.initialize_l_settled dvi opened
      have kept : ∀ (c : Composer) (event : Answers × Operation), c.Settled → event.2.Locked →
          (c.step true event).Settled := fun c event settled locked => settled.step locked
      have keeps : ∀ (c : Composer) (event : Answers × Operation), c.Settled → c.OverlayLaw →
          event.2.Locked → (¬ c.TurnsOffClone event ↔ (c.step true event).OverlayLaw) := by
        intro c event settled law locked
        rw [settled.step_shaded law.shaded locked]
        have told := (law.told settled.running.2).step true locked
        exact ⟨fun next => ⟨next, fun _ => told⟩, fun next => next.shaded⟩
      simp only [Composer.run, dvi]
      exact holds_throughout_iff_along kept keeps settled law locked
  | false =>
      rw [Composer.initialize_l_failed opened]
      have off : ∀ flag, ¬ HasFlag (Composer.construct boot.mVideoState).mMode flag :=
        fun flag has => has BitVec.zero_and
      refine iff_of_true (fun before _ => ?_) ?_
      · rw [Composer.run, Composer.initialize_l_failed opened, Composer.run_not_ready _ rfl]
        exact ⟨fun has => absurd has (off _), fun ready => Bool.noConfusion ready⟩
      · apply along_of_invariant ?_ ?_ (rfl : _ = Composer.construct boot.mVideoState)
        · rintro c event next rfl taken
          cases taken
          rfl
        · rintro c event rfl turned
          exact off _ turned.2.2

theorem clone_unplugged : (Composer.run ⟨true, true, true, ⟨.hdmi, true, false⟩, 0⟩
    [(⟨.disconnected, false, false⟩, .notifyHotPlug)]).OverlayLaw := by
  refine (legacy_overlay_iff ⟨true, true, true, ⟨.hdmi, true, false⟩, 0⟩ rfl
    [(⟨.disconnected, false, false⟩, .notifyHotPlug)] ?_).mpr
    ⟨?_, fun _ _ => trivial⟩ _ List.prefix_rfl
  · rintro event member
    rw [List.mem_singleton.mp member]
    exact .notifyHotPlug
  · exact Composer.not_turnsOffClone _ _ Operation.noConfusion

/-- A clone is shown, and the policy turns HDMI off. -/
theorem clone_turned_off : ¬ (Composer.run ⟨true, true, true, ⟨.hdmi, true, false⟩, 0⟩
    [(⟨.hdmi, true, false⟩, .setModePolicy MDS_HDMI_ON_NOT_ALLOWED)]).OverlayLaw := by
  intro law
  have clone := law.shaded (by decide)
  revert clone
  decide

end A500cg.Mds.Legacy
