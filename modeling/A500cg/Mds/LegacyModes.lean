import A500cg.Mds.Legacy

/-! The HDMI side of the legacy composer: the mode word stays consistent with the polls, the
video and what the audio driver was told, whatever is called. -/

namespace A500cg.Mds.Legacy

open Lib

def Call.status? : Call → Option ConnectStatus
  | .getConnectionStatus status => some status
  | _ => none

def Call.audio? : Call → Option Bool
  | .notifyAudioHotplug plugin => some plugin
  | _ => none

def Call.mipi? : Call → Option Bool
  | .mipiSetMode on => some on
  | _ => none

def Call.Quiet (call : Call) : Prop :=
  call.status? = none ∧ call.audio? = none ∧ call.mipi? = none

namespace Composer

def polls (c : Composer) : List ConnectStatus := c.calls.filterMap Call.status?

/-- The values given to `drm_hdmi_notify_audio_hotplug`. -/
def audio (c : Composer) : List Bool := c.calls.filterMap Call.audio?

/-- The values given to `drm_mipi_setMode`. -/
def panel (c : Composer) : List Bool := c.calls.filterMap Call.mipi?

theorem checkMode_iff {c : Composer} {flag : BitVec 32}
    (single : ∃ bit, bit < 32 ∧ flag = BitVec.twoPow 32 bit) :
    c.checkMode flag = true ↔ HasFlag c.mMode flag := by
  rw [checkMode, decide_eq_true_iff]
  exact and_eq_flag_iff single

/-- Only the touched bits may differ, and what goes with them: the panel with its bit, the
audio driver and `mConnectStatus` with the one of the connection. -/
structure Frame (touched : BitVec 32) (c next : Composer) : Prop where
  mDrmInit : next.mDrmInit = c.mDrmInit
  mHdmiPolicy : next.mHdmiPolicy = c.mHdmiPolicy
  mVideo : next.mVideo = c.mVideo
  polls : next.polls = c.polls
  flag : ∀ flag, ¬ HasFlag touched flag → (HasFlag next.mMode flag ↔ HasFlag c.mMode flag)
  connection : ¬ HasFlag touched MDS_HDMI_CONNECTED →
    next.audio = c.audio ∧ next.mConnectStatus = c.mConnectStatus
  panel : ¬ HasFlag touched MDS_MIPI_ON → next.panel = c.panel ∧ next.mMipiOn = c.mMipiOn

variable {touched bits : BitVec 32} {c middle next : Composer}

theorem Frame.refl (touched : BitVec 32) (c : Composer) : Frame touched c c :=
  ⟨rfl, rfl, rfl, rfl, fun _ _ => Iff.rfl, fun _ => ⟨rfl, rfl⟩, fun _ => ⟨rfl, rfl⟩⟩

theorem Frame.trans (first : Frame touched c middle) (second : Frame touched middle next) :
    Frame touched c next where
  mDrmInit := second.mDrmInit.trans first.mDrmInit
  mHdmiPolicy := second.mHdmiPolicy.trans first.mHdmiPolicy
  mVideo := second.mVideo.trans first.mVideo
  polls := second.polls.trans first.polls
  flag := fun flag apart => (second.flag flag apart).trans (first.flag flag apart)
  connection := fun apart => ⟨(second.connection apart).1.trans (first.connection apart).1,
    (second.connection apart).2.trans (first.connection apart).2⟩
  panel := fun apart => ⟨(second.panel apart).1.trans (first.panel apart).1,
    (second.panel apart).2.trans (first.panel apart).2⟩

theorem Frame.mono (frame : Frame bits c next) (within : bits &&& touched = bits) :
    Frame touched c next where
  mDrmInit := frame.mDrmInit
  mHdmiPolicy := frame.mHdmiPolicy
  mVideo := frame.mVideo
  polls := frame.polls
  flag := fun flag apart => frame.flag flag fun has => apart (has.within within)
  connection := fun apart => frame.connection fun has => apart (has.within within)
  panel := fun apart => frame.panel fun has => apart (has.within within)

theorem emit_frame {call : Call} (quiet : call.Quiet) : Frame touched c (c.emit call) := by
  refine ⟨rfl, rfl, rfl, ?_, fun _ _ => Iff.rfl, fun _ => ⟨?_, rfl⟩, fun _ => ⟨?_, rfl⟩⟩
  · simp [Composer.polls, emit, quiet.1]
  · simp [audio, emit, quiet.2.1]
  · simp [Composer.panel, emit, quiet.2.2]

theorem setMode_frame (within : bits &&& touched = bits) : Frame touched c (c.setMode bits) := by
  refine ⟨rfl, rfl, rfl, rfl, ?_, fun _ => ⟨rfl, rfl⟩, fun _ => ⟨rfl, rfl⟩⟩
  intro flag apart
  exact hasFlag_set fun has => apart (has.within within)

theorem clearMode_frame (within : bits &&& touched = bits) :
    Frame touched c (c.clearMode bits) := by
  refine ⟨rfl, rfl, rfl, rfl, ?_, fun _ => ⟨rfl, rfl⟩, fun _ => ⟨rfl, rfl⟩⟩
  intro flag apart
  exact hasFlag_clear fun has => apart (has.within within)

theorem emit_audio_frame (connection : HasFlag touched MDS_HDMI_CONNECTED) (plugin : Bool) :
    Frame touched c (c.emit (.notifyAudioHotplug plugin)) := by
  refine ⟨rfl, rfl, rfl, ?_, fun _ _ => Iff.rfl, fun apart => absurd connection apart,
    fun _ => ⟨?_, rfl⟩⟩
  · simp [Composer.polls, emit, Call.status?]
  · simp [Composer.panel, emit, Call.mipi?]

theorem mConnectStatus_frame (connection : HasFlag touched MDS_HDMI_CONNECTED)
    (status : ConnectStatus) : Frame touched c { c with mConnectStatus := status } :=
  ⟨rfl, rfl, rfl, rfl, fun _ _ => Iff.rfl, fun apart => absurd connection apart,
    fun _ => ⟨rfl, rfl⟩⟩

theorem emit_mipi_frame (panel : HasFlag touched MDS_MIPI_ON) (on : Bool) :
    Frame touched c (c.emit (.mipiSetMode on)) := by
  refine ⟨rfl, rfl, rfl, ?_, fun _ _ => Iff.rfl, fun _ => ⟨?_, rfl⟩,
    fun apart => absurd panel apart⟩
  · simp [Composer.polls, emit, Call.status?]
  · simp [audio, emit, Call.audio?]

theorem mMipiOn_frame (panel : HasFlag touched MDS_MIPI_ON) (on : Bool) :
    Frame touched c { c with mMipiOn := on } :=
  ⟨rfl, rfl, rfl, rfl, fun _ _ => Iff.rfl, fun _ => ⟨rfl, rfl⟩, fun apart => absurd panel apart⟩

theorem mMipiPolicy_frame (policy : Int) : Frame touched c { c with mMipiPolicy := policy } :=
  ⟨rfl, rfl, rfl, rfl, fun _ _ => Iff.rfl, fun _ => ⟨rfl, rfl⟩, fun _ => ⟨rfl, rfl⟩⟩

theorem Frame.emit (frame : Frame touched c next) {call : Call} (quiet : call.Quiet) :
    Frame touched c (next.emit call) :=
  frame.trans (emit_frame quiet)

theorem Frame.setMode (frame : Frame touched c next) (within : bits &&& touched = bits) :
    Frame touched c (next.setMode bits) :=
  frame.trans (setMode_frame within)

theorem Frame.clearMode (frame : Frame touched c next) (within : bits &&& touched = bits) :
    Frame touched c (next.clearMode bits) :=
  frame.trans (clearMode_frame within)

theorem Frame.broadcastMode (frame : Frame touched c next) : Frame touched c next.broadcastMode :=
  frame.emit ⟨rfl, rfl, rfl⟩

theorem Frame.ite {condition : Prop} [Decidable condition] {other : Composer}
    (yes : condition → Frame touched c next) (no : ¬ condition → Frame touched c other) :
    Frame touched c (if condition then next else other) := by
  split
  · exact yes ‹_›
  · exact no ‹_›

/-! What the parts of `setHdmiMode_l` touch. -/

theorem updateVideoPlaying_frame (c : Composer) :
    Frame MDS_VIDEO_PLAYING c c.updateVideoPlaying :=
  .ite (fun _ => setMode_frame (by decide)) (fun _ => clearMode_frame (by decide))

theorem turnOnMipi_frame (c : Composer) : Frame MDS_MIPI_ON c c.turnOnMipi := by
  refine .ite (fun _ => ?_) (fun _ => mMipiPolicy_frame _)
  exact (((mMipiPolicy_frame _).trans (emit_mipi_frame (by decide) true)).setMode
    (by decide)).trans (mMipiOn_frame (by decide) true)

theorem turnOffHdmi_frame (c : Composer) :
    Frame (MDS_HDCP_ON ||| MDS_HDMI_ON ||| MDS_HDMI_CLONE ||| MDS_HDMI_VIDEO_EXT) c
      c.turnOffHdmi := by
  refine .ite (fun _ => (Frame.refl _ c).broadcastMode) (fun _ => ?_)
  have disabled : Frame (MDS_HDCP_ON ||| MDS_HDMI_ON ||| MDS_HDMI_CLONE ||| MDS_HDMI_VIDEO_EXT) c
      (if c.checkMode MDS_HDCP_ON then c.emit (.disableHdcp true) else c) :=
    .ite (fun _ => emit_frame ⟨rfl, rfl, rfl⟩) (fun _ => .refl _ c)
  exact ((((disabled.clearMode (by decide)).clearMode (by decide)).clearMode
    (by decide)).clearMode (by decide)).broadcastMode.emit ⟨rfl, rfl, rfl⟩

theorem disableHdcp_frame (c : Composer) : Frame MDS_HDCP_ON c c.disableHdcp :=
  .ite (fun _ => (emit_frame ⟨rfl, rfl, rfl⟩).clearMode (by decide)) (fun _ => .refl _ c)

theorem setHdmiTiming_frame (c : Composer) : Frame touched c c.setHdmiTiming :=
  .ite (fun _ => emit_frame ⟨rfl, rfl, rfl⟩) (fun _ => emit_frame ⟨rfl, rfl, rfl⟩)

theorem enableHdcp_frame (c : Composer) (answers : Answers) :
    Frame MDS_HDCP_ON c (c.enableHdcp answers) :=
  .ite (fun _ => (emit_frame ⟨rfl, rfl, rfl⟩).setMode (by decide))
    (fun _ => emit_frame ⟨rfl, rfl, rfl⟩)

theorem chooseMode_frame (c : Composer) :
    Frame (MDS_HDMI_CLONE ||| MDS_HDMI_VIDEO_EXT) c c.chooseMode := by
  refine .ite (fun _ => ?_) (fun _ => (clearMode_frame (by decide)).setMode (by decide))
  have chosen : Frame (MDS_HDMI_CLONE ||| MDS_HDMI_VIDEO_EXT) c
      ((c.setMode MDS_HDMI_VIDEO_EXT).clearMode MDS_HDMI_CLONE) :=
    (setMode_frame (by decide)).clearMode (by decide)
  exact ⟨rfl, rfl, rfl, rfl, chosen.flag, chosen.connection, chosen.panel⟩

theorem turnOnHdmi_frame (c : Composer) : Frame MDS_HDMI_ON c c.turnOnHdmi :=
  .ite (fun _ => ((emit_frame ⟨rfl, rfl, rfl⟩).setMode (by decide)).broadcastMode)
    (fun _ => .refl _ c)

theorem turnOnOverlay_frame (c : Composer) : Frame MDS_OVERLAY_OFF c c.turnOnOverlay :=
  .ite (fun _ => clearMode_frame (by decide)) (fun _ => .refl _ c)

def modeBits : BitVec 32 :=
  MDS_HDMI_ON ||| MDS_HDMI_CLONE ||| MDS_HDMI_VIDEO_EXT ||| MDS_HDCP_ON ||| MDS_OVERLAY_OFF

theorem changeHdmiMode_frame (c : Composer) (answers : Answers) :
    Frame modeBits c (c.changeHdmiMode answers) := by
  simp only [changeHdmiMode]
  refine Frame.broadcastMode (Frame.trans ?_ ((turnOnOverlay_frame _).mono (by decide)))
  refine Frame.trans ?_ ((turnOnHdmi_frame _).mono (by decide))
  refine Frame.broadcastMode (Frame.trans ?_ ((chooseMode_frame _).mono (by decide)))
  refine Frame.setMode (Frame.trans ?_ ((enableHdcp_frame _ _).mono (by decide))) (by decide)
  refine Frame.trans (Frame.trans ?_ ((disableHdcp_frame _).mono (by decide)))
    (setHdmiTiming_frame _)
  exact emit_frame ⟨rfl, rfl, rfl⟩

theorem chooseMode_flags (c : Composer) :
    (HasFlag c.chooseMode.mMode MDS_HDMI_VIDEO_EXT ↔ c.mVideo.isPlaying = true) ∧
      (HasFlag c.chooseMode.mMode MDS_HDMI_CLONE ↔ c.mVideo.isPlaying = false) := by
  simp only [chooseMode]
  cases c.mVideo.isPlaying with
  | true =>
      exact ⟨iff_of_true ((hasFlag_clear (by decide)).mpr (hasFlag_set_self (by decide))) rfl,
        iff_of_false (not_hasFlag_clear (by decide)) Bool.noConfusion⟩
  | false =>
      refine ⟨iff_of_false (fun has => ?_) Bool.noConfusion,
        iff_of_true (hasFlag_set_self (by decide)) rfl⟩
      exact not_hasFlag_clear (by decide) ((hasFlag_set (by decide)).mp has)

theorem turnOnHdmi_on (c : Composer) : HasFlag c.turnOnHdmi.mMode MDS_HDMI_ON := by
  simp only [turnOnHdmi]
  split
  · exact hasFlag_set_self (by decide)
  · rename_i on
    rw [Bool.not_eq_true', Bool.not_eq_false, checkMode_iff (by decide)] at on
    exact on

theorem changeHdmiMode_flags (c : Composer) (answers : Answers) :
    HasFlag (c.changeHdmiMode answers).mMode MDS_HDMI_ON ∧
      (HasFlag (c.changeHdmiMode answers).mMode MDS_HDMI_VIDEO_EXT ↔ c.mVideo.isPlaying = true) ∧
      (HasFlag (c.changeHdmiMode answers).mMode MDS_HDMI_CLONE ↔ c.mVideo.isPlaying = false) := by
  have video : (c.changeHdmiMode answers).mVideo = c.mVideo := (changeHdmiMode_frame c answers).mVideo
  rw [← video]
  simp only [changeHdmiMode]
  generalize ((c.emit _).disableHdcp.setHdmiTiming.enableHdcp answers).setMode MDS_OVERLAY_OFF = d
  have lit := turnOnOverlay_frame d.chooseMode.broadcastMode.turnOnHdmi
  have on := turnOnHdmi_frame d.chooseMode.broadcastMode
  have flags := chooseMode_flags d
  have same : d.chooseMode.broadcastMode.turnOnHdmi.turnOnOverlay.broadcastMode.mVideo = d.mVideo :=
    (lit.broadcastMode.mVideo.trans on.mVideo).trans (chooseMode_frame d).mVideo
  rw [same]
  refine ⟨(lit.flag _ (by decide)).mpr (turnOnHdmi_on _), ?_, ?_⟩
  · exact (lit.flag _ (by decide)).trans ((on.flag _ (by decide)).trans flags.1)
  · exact (lit.flag _ (by decide)).trans ((on.flag _ (by decide)).trans flags.2)

end Composer

/-- True, false, true, and so on. -/
def Alternating (values : List Bool) : Prop :=
  ∀ i value, values[i]? = some value → value = decide (i % 2 = 0)

theorem Alternating.append {values : List Bool} (alternating : Alternating values) {value : Bool}
    (next : value = decide (values.length % 2 = 0)) : Alternating (values ++ [value]) := by
  intro i other at_i
  rcases Nat.lt_trichotomy i values.length with before | last | behind
  · rw [List.getElem?_append_left before] at at_i
    exact alternating i other at_i
  · subst last
    rw [List.getElem?_concat_length] at at_i
    cases at_i
    exact next
  · rw [List.getElem?_eq_none (by simp; omega)] at at_i
    cases at_i

def hdmiBits : BitVec 32 :=
  MDS_HDMI_CONNECTED ||| MDS_HDMI_ON ||| MDS_HDMI_CLONE ||| MDS_HDMI_VIDEO_EXT ||| MDS_HDCP_ON

namespace Composer

structure Flags (c : Composer) : Prop where
  exclusive : ¬ (HasFlag c.mMode MDS_HDMI_CLONE ∧ HasFlag c.mMode MDS_HDMI_VIDEO_EXT)
  clone : HasFlag c.mMode MDS_HDMI_CLONE → HasFlag c.mMode MDS_HDMI_ON
  videoExt : HasFlag c.mMode MDS_HDMI_VIDEO_EXT → HasFlag c.mMode MDS_HDMI_ON
  hdcp : HasFlag c.mMode MDS_HDCP_ON → HasFlag c.mMode MDS_HDMI_ON
  on : HasFlag c.mMode MDS_HDMI_ON → HasFlag c.mMode MDS_HDMI_CONNECTED

/-- The flags fit together, and the audio driver knows of the connection. -/
structure Sound (c : Composer) : Prop extends Flags c where
  alternating : Alternating c.audio
  told : HasFlag c.mMode MDS_HDMI_CONNECTED ↔ c.audio.length % 2 = 1
  status : ¬ HasFlag c.mMode MDS_HDMI_CONNECTED → c.mConnectStatus = .disconnected

inductive HdmiFlag : BitVec 32 → Prop where
  | on : HdmiFlag MDS_HDMI_ON
  | clone : HdmiFlag MDS_HDMI_CLONE
  | videoExt : HdmiFlag MDS_HDMI_VIDEO_EXT
  | hdcp : HdmiFlag MDS_HDCP_ON

theorem Flags.carried {c next : Composer} (flags : Flags c)
    (same : ∀ flag, HdmiFlag flag → (HasFlag next.mMode flag ↔ HasFlag c.mMode flag))
    (connected : HasFlag next.mMode MDS_HDMI_ON → HasFlag next.mMode MDS_HDMI_CONNECTED) :
    Flags next := by
  have on := same _ .on
  have clone := same _ .clone
  have videoExt := same _ .videoExt
  refine ⟨?_, ?_, ?_, ?_, connected⟩
  · rw [clone, videoExt]
    exact flags.exclusive
  · rw [clone, on]
    exact flags.clone
  · rw [videoExt, on]
    exact flags.videoExt
  · rw [same _ .hdcp, on]
    exact flags.hdcp

theorem Flags.same {c next : Composer} (flags : Flags c)
    (same : ∀ flag, flag &&& hdmiBits = flag →
      (HasFlag next.mMode flag ↔ HasFlag c.mMode flag)) : Flags next := by
  refine flags.carried (fun flag listed => same flag (by cases listed <;> decide)) ?_
  rw [same MDS_HDMI_ON (by decide), same MDS_HDMI_CONNECTED (by decide)]
  exact flags.on

theorem not_hasFlag_of_within_hdmiBits {touched flag : BitVec 32}
    (apart : ¬ HasFlag touched hdmiBits) (within : flag &&& hdmiBits = flag) :
    ¬ HasFlag touched flag :=
  fun has => apart (hasFlag_comm.mp ((hasFlag_comm.mp has).within within))

theorem Flags.frame {touched : BitVec 32} {c next : Composer} (flags : Flags c)
    (frame : Frame touched c next) (apart : ¬ HasFlag touched hdmiBits) : Flags next :=
  flags.same fun flag within => frame.flag flag (not_hasFlag_of_within_hdmiBits apart within)

theorem Sound.frame {touched : BitVec 32} {c next : Composer} (sound : Sound c)
    (frame : Frame touched c next) (apart : ¬ HasFlag touched hdmiBits) : Sound next := by
  have connected : ¬ HasFlag touched MDS_HDMI_CONNECTED :=
    not_hasFlag_of_within_hdmiBits apart (by decide)
  rcases frame.connection connected with ⟨audio, status⟩
  refine ⟨sound.toFlags.frame frame apart, ?_, ?_, ?_⟩
  · rw [audio]
    exact sound.alternating
  · rw [audio, frame.flag _ connected]
    exact sound.told
  · rw [status, frame.flag _ connected]
    exact sound.status

theorem Sound.emit {c : Composer} (sound : Sound c) {call : Call} (quiet : call.Quiet) :
    Sound (c.emit call) :=
  sound.frame (emit_frame quiet : Frame MDS_OVERLAY_OFF c (c.emit call)) (by decide)

theorem Sound.plugged {c next : Composer} (sound : Sound c) (flags : Flags next)
    (connected : HasFlag next.mMode MDS_HDMI_CONNECTED)
    (audio : next.audio =
      if HasFlag c.mMode MDS_HDMI_CONNECTED then c.audio else c.audio ++ [true]) :
    Sound next ∧ HasFlag next.mMode MDS_HDMI_CONNECTED := by
  refine ⟨?_, connected⟩
  by_cases before : HasFlag c.mMode MDS_HDMI_CONNECTED
  · rw [if_pos before] at audio
    refine ⟨flags, ?_, ?_, fun off => absurd connected off⟩
    · rw [audio]
      exact sound.alternating
    · rw [audio]
      exact iff_of_true connected (sound.told.mp before)
  · rw [if_neg before] at audio
    have even : c.audio.length % 2 = 0 := by
      have notOdd := mt sound.told.mpr before
      omega
    refine ⟨flags, ?_, ?_, fun off => absurd connected off⟩
    · rw [audio]
      exact sound.alternating.append (by simp [even])
    · rw [audio, List.length_append, List.length_singleton]
      exact iff_of_true connected (by omega)

theorem Flags.off {c : Composer} (on : ¬ HasFlag c.mMode MDS_HDMI_ON)
    (rest : ¬ HasFlag c.mMode (MDS_HDMI_CLONE ||| MDS_HDMI_VIDEO_EXT ||| MDS_HDCP_ON)) :
    Flags c := by
  simp only [hasFlag_flag_or, not_or] at rest
  exact ⟨fun both => rest.1.1 both.1, fun has => absurd has rest.1.1, fun has => absurd has rest.1.2,
    fun has => absurd has rest.2, fun has => absurd has on⟩

theorem Sound.unplugged {c next : Composer} (sound : Sound c)
    (before : HasFlag c.mMode MDS_HDMI_CONNECTED) (flags : Flags next)
    (gone : ¬ HasFlag next.mMode MDS_HDMI_CONNECTED) (audio : next.audio = c.audio ++ [false])
    (status : next.mConnectStatus = .disconnected) : Sound next := by
  have odd := sound.told.mp before
  refine ⟨flags, ?_, ?_, fun _ => status⟩
  · rw [audio]
    exact sound.alternating.append (by simp [odd])
  · rw [audio, List.length_append, List.length_singleton]
    exact iff_of_false gone (by omega)

/-! The exits of `setHdmiMode_l`. -/

theorem clearHdmi_frame (c : Composer) :
    Frame (MDS_HDMI_CONNECTED ||| modeBits) c c.clearHdmi :=
  (((((clearMode_frame (by decide)).clearMode (by decide)).clearMode (by decide)).clearMode
    (by decide)).clearMode (by decide)).clearMode (by decide)

theorem clearHdmi_flags (c : Composer) :
    Flags c.clearHdmi ∧ ¬ HasFlag c.clearHdmi.mMode MDS_HDMI_CONNECTED := by
  refine ⟨.off ?_ ?_, ?_⟩
  all_goals
    simp (disch := decide) only [clearHdmi, Composer.clearMode, hasFlag_flag_or, hasFlag_clear,
      not_hasFlag_clear, or_self, not_false_eq_true]

theorem hdmiDisconnected_frame (c : Composer) :
    Frame (MDS_HDMI_CONNECTED ||| modeBits) c c.hdmiDisconnected := by
  refine .ite (fun _ => ?_) (fun _ => ?_)
  · exact (Frame.refl _ c).broadcastMode.trans (mConnectStatus_frame (by decide) _)
  · have told : Frame (MDS_HDMI_CONNECTED ||| modeBits) c
        ((c.emit (.notifyAudioHotplug false)).emit (.disableHdcp false)) :=
      (emit_audio_frame (by decide) false).emit ⟨rfl, rfl, rfl⟩
    exact ((told.trans (clearHdmi_frame _)).broadcastMode.emit ⟨rfl, rfl, rfl⟩).trans
      (mConnectStatus_frame (by decide) _)

theorem Sound.hdmiDisconnected {c : Composer} (sound : Sound c) :
    Sound c.hdmiDisconnected ∧ ¬ HasFlag c.hdmiDisconnected.mMode MDS_HDMI_CONNECTED := by
  have checked : c.checkMode MDS_HDMI_CONNECTED = true ↔ HasFlag c.mMode MDS_HDMI_CONNECTED :=
    checkMode_iff (by decide)
  cases before : c.checkMode MDS_HDMI_CONNECTED with
  | true =>
      rcases clearHdmi_flags ((c.emit (.notifyAudioHotplug false)).emit (.disableHdcp false)) with
        ⟨off, gone⟩
      simp only [Composer.hdmiDisconnected, before, Bool.not_true, Bool.false_eq_true, if_false]
      refine ⟨sound.unplugged (checked.mp before) (off.same fun _ _ => Iff.rfl) gone ?_ rfl, gone⟩
      simp [Composer.audio, clearHdmi, Composer.clearMode, Composer.broadcastMode, Composer.emit,
        Call.audio?]
  | false =>
      have gone : ¬ HasFlag c.mMode MDS_HDMI_CONNECTED := by
        rw [← checked, before]
        exact Bool.noConfusion
      have noted : Sound { c with mConnectStatus := .disconnected } :=
        ⟨sound.toFlags.same fun _ _ => Iff.rfl, sound.alternating, sound.told, fun _ => rfl⟩
      simp only [Composer.hdmiDisconnected, before, Bool.not_false, if_true]
      exact ⟨noted.emit ⟨rfl, rfl, rfl⟩, gone⟩

theorem turnOffHdmi_flags {c : Composer} (flags : Flags c) : Flags c.turnOffHdmi := by
  simp only [turnOffHdmi]
  split
  · exact flags.same fun _ _ => Iff.rfl
  · generalize (if c.checkMode MDS_HDCP_ON = true then c.emit (.disableHdcp true) else c) = d
    apply Flags.off
    all_goals
      simp (disch := decide) only [Composer.clearMode, Composer.broadcastMode, Composer.emit,
        hasFlag_flag_or, hasFlag_clear, not_hasFlag_clear, or_self, not_false_eq_true]

theorem Sound.turnOffHdmi {c : Composer} (sound : Sound c) : Sound c.turnOffHdmi := by
  have frame := turnOffHdmi_frame c
  rcases frame.connection (by decide) with ⟨audio, status⟩
  refine ⟨turnOffHdmi_flags sound.toFlags, ?_, ?_, ?_⟩
  · rw [audio]
    exact sound.alternating
  · rw [audio, frame.flag _ (by decide)]
    exact sound.told
  · rw [status, frame.flag _ (by decide)]
    exact sound.status

theorem Flags.setConnected {c : Composer} (flags : Flags c) :
    Flags (c.setMode MDS_HDMI_CONNECTED) := by
  refine flags.carried (fun flag listed => ?_) fun _ => hasFlag_set_self (by decide)
  exact hasFlag_set (by cases listed <;> decide)

theorem notifyPluggedOff_frame (c : Composer) (status : ConnectStatus) (notify : Bool) :
    Frame MDS_HDMI_CONNECTED c (c.notifyPluggedOff status notify) :=
  .ite (fun _ => (emit_audio_frame (by decide) true).trans (mConnectStatus_frame (by decide) _))
    (fun _ => .refl _ c)

theorem Sound.pluggedOff {c : Composer} (sound : Sound c) (ready : c.mDrmInit = true)
    {status : ConnectStatus} (plugged : status ≠ .disconnected) {next : Composer}
    (noted : next = (c.setMode MDS_HDMI_CONNECTED).notifyPluggedOff status
      (c.mMode &&& MDS_HDMI_CONNECTED = 0)) :
    Sound next ∧ HasFlag next.mMode MDS_HDMI_CONNECTED := by
  rw [noted]
  by_cases before : HasFlag c.mMode MDS_HDMI_CONNECTED
  · have known : decide (c.mMode &&& MDS_HDMI_CONNECTED = 0) = false := decide_eq_false before
    simp only [notifyPluggedOff, known, Bool.and_false, Bool.false_and, Bool.false_eq_true,
      if_false]
    exact sound.plugged sound.toFlags.setConnected (hasFlag_set_self (by decide)) (if_pos before).symm
  · have new : decide (c.mMode &&& MDS_HDMI_CONNECTED = 0) = true :=
      decide_eq_true (not_not.mp before)
    have changed : (c.setMode MDS_HDMI_CONNECTED).mConnectStatus ≠ status := by
      rw [show (c.setMode MDS_HDMI_CONNECTED).mConnectStatus = .disconnected from
        sound.status before]
      exact plugged.symm
    have initialised : (c.setMode MDS_HDMI_CONNECTED).mDrmInit = true := ready
    simp only [notifyPluggedOff, new, changed, initialised, decide_true, ne_eq, not_false_eq_true,
      Bool.and_self, if_true]
    refine sound.plugged (sound.toFlags.setConnected.same fun _ _ => Iff.rfl)
      (hasFlag_set_self (by decide)) ?_
    rw [if_neg before]
    simp [Composer.audio, Composer.emit, Composer.setMode, Call.audio?]

theorem hdmiAllowed_frame (c : Composer) (answers : Answers) (notify : Bool) :
    Frame (MDS_HDMI_CONNECTED ||| modeBits) c (c.hdmiAllowed answers notify) := by
  have noted : Frame (MDS_HDMI_CONNECTED ||| modeBits) c
      { c with mConnectStatus := answers.connectStatus } := mConnectStatus_frame (by decide) _
  refine .ite (fun _ => noted.broadcastMode) fun _ => .ite (fun _ => noted.broadcastMode) fun _ => ?_
  have changed := noted.trans ((changeHdmiMode_frame _ answers).mono (by decide))
  exact .ite (fun _ => changed.trans (emit_audio_frame (by decide) true)) (fun _ => changed)

theorem audio_emit (c : Composer) (plugin : Bool) :
    (c.emit (.notifyAudioHotplug plugin)).audio = c.audio ++ [plugin] := by
  simp [Composer.audio, Composer.emit, Call.audio?]

theorem changeHdmiMode_fits {c : Composer} (answers : Answers)
    (connected : HasFlag c.mMode MDS_HDMI_CONNECTED) : Flags (c.changeHdmiMode answers) := by
  rcases changeHdmiMode_flags c answers with ⟨on, videoExt, clone⟩
  have kept := ((changeHdmiMode_frame c answers).flag MDS_HDMI_CONNECTED (by decide)).mpr connected
  refine ⟨?_, fun _ => on, fun _ => on, fun _ => on, fun _ => kept⟩
  rw [clone, videoExt]
  rintro ⟨silent, playing⟩
  rw [silent] at playing
  cases playing

theorem Sound.allowed {c : Composer} (sound : Sound c) (ready : c.mDrmInit = true)
    (answers : Answers) {next : Composer}
    (changed : next = (c.setMode MDS_HDMI_CONNECTED).hdmiAllowed answers
      (c.mMode &&& MDS_HDMI_CONNECTED = 0)) :
    Sound next ∧ HasFlag next.mMode MDS_HDMI_CONNECTED := by
  rw [changed]
  have noted : Flags { c.setMode MDS_HDMI_CONNECTED with
      mConnectStatus := answers.connectStatus } :=
    sound.toFlags.setConnected.same fun _ _ => Iff.rfl
  simp only [Composer.hdmiAllowed]
  generalize settled : { c.setMode MDS_HDMI_CONNECTED with
    mConnectStatus := answers.connectStatus } = d at noted ⊢
  have connected : HasFlag d.mMode MDS_HDMI_CONNECTED := by
    rw [← settled]
    exact hasFlag_set_self (by decide)
  have audio : d.audio = c.audio := by
    rw [← settled]
    rfl
  -- Where HDMI is in the wanted mode already, it was connected before.
  have stays : HasFlag c.mMode MDS_HDMI_ON →
      Sound d.broadcastMode ∧ HasFlag d.broadcastMode.mMode MDS_HDMI_CONNECTED := by
    intro on
    refine sound.plugged (noted.same fun _ _ => Iff.rfl) connected ?_
    rw [if_pos (sound.on on), ← audio]
    exact ((Frame.refl MDS_OVERLAY_OFF d).broadcastMode.connection (by decide)).1
  split
  · rename_i extended
    rw [Bool.and_eq_true, checkMode_iff (by decide), ← settled] at extended
    exact stays (sound.videoExt ((hasFlag_set (by decide)).mp extended.2))
  · split
    · rename_i cloned
      rw [Bool.and_eq_true, checkMode_iff (by decide), ← settled] at cloned
      exact stays (sound.clone ((hasFlag_set (by decide)).mp cloned.2))
    · have frame := changeHdmiMode_frame d answers
      have flags := changeHdmiMode_fits answers connected
      have kept := (frame.flag MDS_HDMI_CONNECTED (by decide)).mpr connected
      have same := (frame.connection (by decide)).1.trans audio
      have initialised : (d.changeHdmiMode answers).mDrmInit = true := by
        rw [frame.mDrmInit, ← settled]
        exact ready
      rw [initialised, Bool.and_true]
      split
      · rename_i new
        have before : ¬ HasFlag c.mMode MDS_HDMI_CONNECTED := not_not.mpr (of_decide_eq_true new)
        refine sound.plugged (flags.same fun _ _ => Iff.rfl) kept ?_
        rw [audio_emit, same, if_neg before]
      · rename_i known
        have before : HasFlag c.mMode MDS_HDMI_CONNECTED := fun zero => known (decide_eq_true zero)
        apply sound.plugged flags kept
        rw [if_pos before, same]

theorem followConnection_frame (c : Composer) (answers : Answers) :
    Frame (MDS_HDMI_CONNECTED ||| modeBits) c (c.followConnection answers) := by
  have plugged : Frame (MDS_HDMI_CONNECTED ||| modeBits) c (c.setMode MDS_HDMI_CONNECTED) :=
    setMode_frame (by decide)
  refine .ite (fun _ => hdmiDisconnected_frame c) fun _ => .ite (fun _ => ?_) fun _ => ?_
  · exact (plugged.trans ((notifyPluggedOff_frame _ _ _).mono (by decide))).trans
      ((turnOffHdmi_frame _).mono (by decide))
  · exact plugged.trans (hdmiAllowed_frame _ _ _)

theorem Sound.followConnection {c : Composer} (sound : Sound c) (ready : c.mDrmInit = true)
    (answers : Answers) :
    Sound (c.followConnection answers) ∧
      (HasFlag (c.followConnection answers).mMode MDS_HDMI_CONNECTED ↔
        answers.connectStatus ≠ .disconnected) := by
  simp only [Composer.followConnection]
  split
  · rename_i gone
    exact ⟨sound.hdmiDisconnected.1, iff_of_false sound.hdmiDisconnected.2 (not_not.mpr gone)⟩
  · rename_i plugged
    split
    · rcases sound.pluggedOff ready plugged rfl with ⟨noted, connected⟩
      exact ⟨noted.turnOffHdmi, iff_of_true (((turnOffHdmi_frame _).flag _ (by decide)).mpr connected)
        plugged⟩
    · rcases sound.allowed ready answers rfl with ⟨changed, connected⟩
      exact ⟨changed, iff_of_true connected plugged⟩

structure Invariant (c : Composer) : Prop extends Sound c where
  polled : HasFlag c.mMode MDS_HDMI_CONNECTED ↔
    ∃ status, c.polls.getLast? = some status ∧ status ≠ .disconnected
  playing : HasFlag c.mMode MDS_VIDEO_PLAYING ↔ c.mVideo.isPlaying = true

theorem Sound.same {c next : Composer} (sound : Sound c) (mode : next.mMode = c.mMode)
    (audio : next.audio = c.audio) (status : next.mConnectStatus = c.mConnectStatus) :
    Sound next := by
  refine ⟨sound.toFlags.same fun _ _ => by rw [mode], ?_, ?_, ?_⟩
  · rw [audio]
    exact sound.alternating
  · rw [mode, audio]
    exact sound.told
  · rw [mode, status]
    exact sound.status

theorem Invariant.frame {touched : BitVec 32} {c next : Composer} (invariant : Invariant c)
    (frame : Frame touched c next) (apart : ¬ HasFlag touched hdmiBits)
    (silent : ¬ HasFlag touched MDS_VIDEO_PLAYING) (wired : ¬ HasFlag touched MDS_HDMI_CONNECTED) :
    Invariant next := by
  refine ⟨invariant.toSound.frame frame apart, ?_, ?_⟩
  · rw [frame.flag _ wired, frame.polls]
    exact invariant.polled
  · rw [frame.flag _ silent, frame.mVideo]
    exact invariant.playing

theorem updateVideoPlaying_flag (c : Composer) :
    HasFlag c.updateVideoPlaying.mMode MDS_VIDEO_PLAYING ↔ c.mVideo.isPlaying = true := by
  simp only [updateVideoPlaying]
  cases c.mVideo.isPlaying with
  | true => exact iff_of_true (hasFlag_set_self (by decide)) rfl
  | false => exact iff_of_false (not_hasFlag_clear (by decide)) Bool.noConfusion

theorem turnOnMipiIfNeeded_frame (c : Composer) (status : ConnectStatus) :
    Frame MDS_MIPI_ON c (if c.needsMipi status then c.turnOnMipi else c) :=
  .ite (fun _ => turnOnMipi_frame c) (fun _ => .refl _ c)

/-- What is known between two operations if `drm_init` succeeded. -/
def Running (c : Composer) : Prop := Invariant c ∧ c.mDrmInit = true

theorem Sound.setHdmiMode_l {c : Composer} (sound : Sound c) (ready : c.mDrmInit = true)
    (answers : Answers) : Running (setHdmiMode_l true answers c).2 := by
  have playing := updateVideoPlaying_frame c
  have polled : (c.updateVideoPlaying.emit (.getConnectionStatus answers.connectStatus)).polls =
      c.polls ++ [answers.connectStatus] := by
    rw [← playing.polls]
    simp [Composer.polls, Composer.emit, Call.status?]
  have started : Sound (c.updateVideoPlaying.emit (.getConnectionStatus answers.connectStatus)) := by
    refine (sound.frame playing (by decide)).same rfl ?_ rfl
    simp [Composer.audio, Composer.emit, Call.audio?]
  have initialised : (c.updateVideoPlaying.emit
      (.getConnectionStatus answers.connectStatus)).mDrmInit = true := playing.mDrmInit.trans ready
  have shown : HasFlag (c.updateVideoPlaying.emit
      (.getConnectionStatus answers.connectStatus)).mMode MDS_VIDEO_PLAYING ↔
      (c.updateVideoPlaying.emit
        (.getConnectionStatus answers.connectStatus)).mVideo.isPlaying = true := by
    rw [show (c.updateVideoPlaying.emit (.getConnectionStatus answers.connectStatus)).mVideo =
      c.mVideo from playing.mVideo]
    exact updateVideoPlaying_flag c
  simp only [Composer.setHdmiMode_l, Bool.not_true, Bool.false_and, Bool.false_eq_true, if_false]
  generalize c.updateVideoPlaying.emit (.getConnectionStatus answers.connectStatus) = p
    at polled started initialised shown ⊢
  have panel := turnOnMipiIfNeeded_frame p answers.connectStatus
  have lit := started.frame panel (by decide)
  have ready := panel.mDrmInit.trans initialised
  have followed := followConnection_frame
    (if p.needsMipi answers.connectStatus then p.turnOnMipi else p) answers
  rcases lit.followConnection ready answers with ⟨sound, connected⟩
  refine ⟨⟨sound, ?_, ?_⟩, followed.mDrmInit.trans ready⟩
  · rw [connected, followed.polls, panel.polls, polled]
    simp
  · rw [followed.flag _ (by decide), panel.flag _ (by decide), followed.mVideo, panel.mVideo]
    exact shown

/-! The other operations. -/

theorem setModePolicy_l_mipi_frame (dviSupported : Bool) (answers : Answers) (c : Composer)
    {policy : Int} (notAllowed : policy ≠ MDS_HDMI_ON_NOT_ALLOWED)
    (allowed : policy ≠ MDS_HDMI_ON_ALLOWED) :
    Frame MDS_MIPI_ON c (setModePolicy_l dviSupported answers policy c).2 := by
  simp only [setModePolicy_l, notAllowed, allowed, decide_false, Bool.or_self, Bool.false_eq_true,
    if_false]
  split
  · refine Frame.broadcastMode (Frame.trans (Frame.setMode ?_ (by decide))
      (mMipiOn_frame (by decide) true))
    exact .ite (fun _ => (mMipiPolicy_frame _).trans (emit_mipi_frame (by decide) true))
      (fun _ => mMipiPolicy_frame _)
  · split
    · refine Frame.broadcastMode (Frame.trans (Frame.clearMode ?_ (by decide))
        (mMipiOn_frame (by decide) false))
      exact .ite (fun _ => (mMipiPolicy_frame _).trans (emit_mipi_frame (by decide) false))
        (fun _ => mMipiPolicy_frame _)
    · exact .refl _ c

theorem setMipiMode_l_frame (on : Bool) (c : Composer) :
    Frame MDS_MIPI_ON c (setMipiMode_l on c).2 := by
  have switchedOff : Frame MDS_MIPI_ON c ((c.emit (.mipiSetMode false)).clearMode MDS_MIPI_ON) :=
    (emit_mipi_frame (by decide) false).clearMode (by decide)
  simp only [setMipiMode_l]
  split
  · exact .refl _ c
  · split
    · exact ((emit_mipi_frame (by decide) true).setMode (by decide)).trans
        (mMipiOn_frame (by decide) on)
    · split
      · split
        · exact (Frame.refl _ c).broadcastMode
        · refine Frame.trans ?_ (mMipiOn_frame (by decide) on)
          exact .ite (fun _ => switchedOff) (fun _ => .refl _ c)
      · exact switchedOff.trans (mMipiOn_frame (by decide) on)

theorem notifyWidi_frame (on : Bool) (c : Composer) : Frame MDS_WIDI_ON c (notifyWidi on c).2 := by
  have noted : Frame MDS_WIDI_ON c { c with mWidiVideoExt := on } :=
    ⟨rfl, rfl, rfl, rfl, fun _ _ => Iff.rfl, fun _ => ⟨rfl, rfl⟩, fun _ => ⟨rfl, rfl⟩⟩
  exact .ite (fun _ => noted.setMode (by decide)) (fun _ => noted.clearMode (by decide))

theorem threadServes_frame (c : Composer) : Frame MDS_MIPI_ON c c.threadServes := by
  simp only [threadServes]
  split
  · exact .refl _ c
  · rename_i on taken
    apply (setMipiMode_l_frame on c).trans
    exact ⟨rfl, rfl, rfl, rfl, fun _ _ => Iff.rfl, fun _ => ⟨rfl, rfl⟩, fun _ => ⟨rfl, rfl⟩⟩

theorem Running.frame {touched : BitVec 32} {c next : Composer} (running : Running c)
    (frame : Frame touched c next) (apart : ¬ HasFlag touched (hdmiBits ||| MDS_VIDEO_PLAYING)) :
    Running next := by
  simp only [hasFlag_flag_or, not_or] at apart
  refine ⟨running.1.frame frame apart.1 apart.2 fun has => apart.1 ?_,
    frame.mDrmInit.trans running.2⟩
  exact hasFlag_comm.mp ((hasFlag_comm.mp has).within (by decide))

theorem Sound.setModePolicy_l {c : Composer} (sound : Sound c) (ready : c.mDrmInit = true)
    (answers : Answers) {policy : Int}
    (hdmi : policy = MDS_HDMI_ON_NOT_ALLOWED ∨ policy = MDS_HDMI_ON_ALLOWED) :
    Running (setModePolicy_l true answers policy c).2 := by
  have chosen : (policy = MDS_HDMI_ON_NOT_ALLOWED || policy = MDS_HDMI_ON_ALLOWED) = true := by
    simpa using hdmi
  have noted : Sound { c with mHdmiPolicy := policy } := sound.same rfl rfl rfl
  simp only [Composer.setModePolicy_l, chosen, if_true]
  exact noted.setHdmiMode_l ready answers

theorem Running.setModePolicy_l {c : Composer} (running : Running c) (answers : Answers)
    (policy : Int) : Running (setModePolicy_l true answers policy c).2 := by
  by_cases hdmi : policy = MDS_HDMI_ON_NOT_ALLOWED ∨ policy = MDS_HDMI_ON_ALLOWED
  · exact running.1.toSound.setModePolicy_l running.2 answers hdmi
  · rw [not_or] at hdmi
    exact running.frame (setModePolicy_l_mipi_frame true answers c hdmi.1 hdmi.2) (by decide)

theorem Running.prepareForVideo {c : Composer} (running : Running c) (answers : Answers)
    (status : Int) : Running (prepareForVideo true answers status c).2 := by
  have noted : Frame MDS_WIDI_ON c { c with mVideoState := status } :=
    ⟨rfl, rfl, rfl, rfl, fun _ _ => Iff.rfl, fun _ => ⟨rfl, rfl⟩, fun _ => ⟨rfl, rfl⟩⟩
  have told : Frame MDS_WIDI_ON c
      ({ c with mVideoState := status }.emit (.setVideoStatus status)) :=
    noted.emit ⟨rfl, rfl, rfl⟩
  have next := running.frame told (by decide)
  simp only [Composer.prepareForVideo]
  split
  · exact running
  · split
    · have zeroed : Sound { { c with mVideoState := status }.emit (.setVideoStatus status) with
          mVideo := MDSVideoSourceInfo.zero } := next.1.toSound.same rfl rfl rfl
      exact zeroed.setHdmiMode_l next.2 answers
    · exact next

theorem Running.step {c : Composer} (running : Running c) (event : Answers × Operation) :
    Running (c.step true event) := by
  rcases event with ⟨answers, operation⟩
  have ready := running.2
  simp only [Composer.step, ready, Bool.true_eq_false, if_false]
  cases operation with
  | updateVideoInfo info =>
      have noted : Sound { c with mVideo := info } := running.1.toSound.same rfl rfl rfl
      exact noted.setHdmiMode_l ready answers
  | prepareForVideo status => exact running.prepareForVideo answers status
  | notifyHotPlug =>
      have next := running.1.toSound.setHdmiMode_l ready answers
      simp only [notifyHotPlug]
      split
      · exact next.frame ((Frame.refl MDS_WIDI_ON _).emit ⟨rfl, rfl, rfl⟩) (by decide)
      · exact next
  | setModePolicy policy => exact running.setModePolicy_l answers policy
  | notifyWidi on => exact running.frame (notifyWidi_frame on c) (by decide)
  | notifyMipi on => exact ⟨⟨running.1.toSound.same rfl rfl rfl, running.1.polled,
      running.1.playing⟩, ready⟩
  | threadTakes =>
      dsimp only
      split
      · exact ⟨⟨running.1.toSound.same rfl rfl rfl, running.1.polled, running.1.playing⟩, ready⟩
      · exact running
  | threadServes => exact running.frame (threadServes_frame c) (by decide)

theorem construct_invariant (mVideoState : Int) : Invariant (construct mVideoState) := by
  have off : ∀ flag, ¬ HasFlag (construct mVideoState).mMode flag := by
    intro flag has
    exact has (BitVec.zero_and)
  refine ⟨⟨.off (off _) (off _), ?_, ?_, fun _ => rfl⟩, ?_, ?_⟩
  · intro i value found
    cases found
  · exact iff_of_false (off _) Nat.zero_ne_one
  · apply iff_of_false (off _)
    rintro ⟨status, last, _⟩
    cases last
  · exact iff_of_false (off _) Bool.noConfusion

structure Consistent (c : Composer) : Prop extends Flags c where
  polled : HasFlag c.mMode MDS_HDMI_CONNECTED ↔
    ∃ status, c.polls.getLast? = some status ∧ status ≠ .disconnected
  playing : HasFlag c.mMode MDS_VIDEO_PLAYING ↔ c.mVideo.isPlaying = true
  alternating : Alternating c.audio

theorem Invariant.consistent {c : Composer} (invariant : Invariant c) : Consistent c :=
  ⟨invariant.toFlags, invariant.polled, invariant.playing, invariant.alternating⟩

theorem run_not_ready (dviSupported : Bool) {c : Composer} (failed : c.mDrmInit = false)
    (events : List (Answers × Operation)) : events.foldl (Composer.step dviSupported) c = c := by
  induction events with
  | nil => rfl
  | cons event rest ih =>
      rw [List.foldl_cons, Composer.step, if_pos failed]
      exact ih

theorem initialize_l_consistent (boot : Boot) (dvi : boot.dviSupported = true) :
    (initialize_l boot).Running ∨
      (Invariant (initialize_l boot) ∧ (initialize_l boot).mDrmInit = false) := by
  have start := construct_invariant boot.mVideoState
  have opened : Running { construct boot.mVideoState with mDrmInit := true } :=
    ⟨⟨start.toSound.same rfl rfl rfl, start.polled, start.playing⟩, rfl⟩
  simp only [initialize_l, dvi]
  cases boot.drmInit with
  | false => exact Or.inr ⟨start, rfl⟩
  | true =>
      apply Or.inl
      simp only [Bool.not_true, Bool.false_eq_true, if_false]
      apply Running.setModePolicy_l
      split
      · exact opened.setModePolicy_l boot.answers _
      · exact opened

end Composer

/-- Between any two operations of a build with `DVI_SUPPORTED`, the mode word is consistent
with the last poll and the video, and the audio driver was told of plugs and unplugs in
turn. -/
theorem legacy_modes_consistent (boot : Boot) (dvi : boot.dviSupported = true)
    (events : List (Answers × Operation)) : (Composer.run boot events).Consistent := by
  simp only [Composer.run, dvi]
  rcases Composer.initialize_l_consistent boot dvi with running | ⟨invariant, failed⟩
  · have kept : (events.foldl (Composer.step true) (initialize_l boot)).Running :=
      invariant_throughout (fun c event running _ => running.step event) running
        (along_true _ _ events) events (List.prefix_refl _)
    exact kept.1.consistent
  · rw [Composer.run_not_ready true failed events]
    exact invariant.consistent

theorem legacy_modes_consistent_unplugged :
    (Composer.run ⟨true, true, true, ⟨.hdmi, true, false⟩, 0⟩
      [(⟨.hdmi, false, false⟩, .updateVideoInfo ⟨true, false, 60, 1280, 720, false⟩),
        (⟨.disconnected, false, false⟩, .notifyHotPlug)]).Consistent ∧
    (Composer.run ⟨true, true, true, ⟨.hdmi, true, false⟩, 0⟩
      [(⟨.hdmi, false, false⟩, .updateVideoInfo ⟨true, false, 60, 1280, 720, false⟩),
        (⟨.disconnected, false, false⟩, .notifyHotPlug)]).audio = [true, false] :=
  ⟨legacy_modes_consistent _ rfl _, by decide⟩

end A500cg.Mds.Legacy
