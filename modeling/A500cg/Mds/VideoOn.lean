import A500cg.Mds.Composer

/-! The mode word keeps `MDS_VIDEO_ON` in step with the sessions, whatever is called. -/

namespace A500cg.Mds

open Lib

namespace Composer

def run (c : Composer) (calls : List (Answers × Call)) : Composer :=
  calls.foldl (fun c call => (c.call call.1 call.2).composer) c

/-- `MDS_VIDEO_ON` is set exactly if a session is prepared. -/
def Mirrors (c : Composer) : Prop :=
  HasFlag c.mMode MDS_VIDEO_ON ↔ ∃ i, (c.mVideos i).mState = MDS_VIDEO_PREPARED

structure SameVideo (c next : Composer) : Prop where
  flag : HasFlag next.mMode MDS_VIDEO_ON ↔ HasFlag c.mMode MDS_VIDEO_ON
  states : ∀ i, (next.mVideos i).mState = (c.mVideos i).mState

theorem SameVideo.refl (c : Composer) : SameVideo c c := ⟨Iff.rfl, fun _ => rfl⟩

theorem Mirrors.sameVideo {c next : Composer} (mirrors : c.Mirrors) (same : SameVideo c next) :
    next.Mirrors := by
  simp only [Mirrors, same.flag, same.states]
  exact mirrors

theorem hasVideoPlaying_l_iff (c : Composer) :
    c.hasVideoPlaying_l = true ↔ ∃ i, (c.mVideos i).mState = MDS_VIDEO_PREPARED := by
  simp only [hasVideoPlaying_l, decide_eq_true_eq, Nat.one_le_iff_ne_zero, ← Nat.pos_iff_ne_zero]
  rw [List.countP_pos_iff]
  simp

theorem updateVideoOn_mirrors (c : Composer) : c.updateVideoOn.Mirrors := by
  have flag : HasFlag c.updateVideoOn.mMode MDS_VIDEO_ON ↔ c.hasVideoPlaying_l = true := by
    simp only [updateVideoOn]
    split
    · rename_i playing
      exact iff_of_true (hasFlag_or.mpr (.inr (by decide))) playing
    · rename_i silent
      exact iff_of_false (not_hasFlag_clear (by decide)) silent
  exact flag.trans c.hasVideoPlaying_l_iff

theorem polledMode_video (mode : BitVec 32) (status : ConnectStatus) :
    HasFlag (polledMode mode status) MDS_VIDEO_ON ↔ HasFlag mode MDS_VIDEO_ON := by
  cases status with
  | disconnected => exact hasFlag_clear (by decide)
  | hdmi => exact hasFlag_or.trans (or_iff_left (by decide))
  | dvi => exact hasFlag_or.trans (or_iff_left (by decide))

theorem updateHdmiConnectStatusLocked_sameVideo (c : Composer) (answers : Answers) :
    SameVideo c (c.updateHdmiConnectStatusLocked answers).composer := by
  by_cases ready : c.mDrmInit = true
  · rw [updateHdmiConnectStatusLocked_composer answers ready]
    exact ⟨polledMode_video _ _, fun _ => rfl⟩
  · simp only [updateHdmiConnectStatusLocked, if_pos (Bool.eq_false_iff.mpr ready)]
    exact .refl c

end Composer

theorem ScalingOnly.sameVideo {c : Composer} {outcome : Outcome} (only : ScalingOnly c outcome) :
    Composer.SameVideo c outcome.composer := by
  constructor
  · rw [only.mMode]
  · intro i
    rw [only.mVideos]

namespace Composer

theorem setSession_states (c : Composer) (i : Fin MDS_VIDEO_SESSION_MAX_VALUE)
    (session : MultiDisplayVideoSession) (state : session.mState = (c.mVideos i).mState) (j) :
    ((c.setSession i session).mVideos j).mState = (c.mVideos j).mState := by
  by_cases same : j = i
  · subst same
    simp [setSession, state]
  · simp [setSession, same]

theorem updateVideoSourceInfo_states (c : Composer) (sessionId : Int) (info : MDSVideoSourceInfo)
    (j) :
    ((c.updateVideoSourceInfo sessionId info).composer.mVideos j).mState =
      (c.mVideos j).mState := by
  simp only [updateVideoSourceInfo]
  split
  · rfl
  · split
    · rfl
    · exact c.setSession_states _ ((c.mVideos _).setInfo info) rfl j

theorem setDecoderOutputResolution_mState (session : MultiDisplayVideoSession)
    (config : DecoderConfig) :
    (session.setDecoderOutputResolution config).2.mState = session.mState := by
  simp only [MultiDisplayVideoSession.setDecoderOutputResolution]
  split <;> rfl

end Composer

def Call.SetsSessions : Call → Prop
  | .updateVideoState _ _ => True
  | .resetVideoPlayback => True
  | _ => False

namespace Composer

theorem updateHdmiConnectionStatus_sameVideo (c : Composer) (answers : Answers)
    (connected : Bool) :
    SameVideo c.updateVideoOn (c.updateHdmiConnectionStatus answers connected).composer := by
  have polled := c.updateVideoOn.updateHdmiConnectStatusLocked_sameVideo answers
  have hotplug := c.updateHdmiConnectionStatus_frame answers connected
  constructor
  · rw [hotplug.mMode]
    exact polled.flag
  · intro i
    rw [hotplug.mVideos]
    rfl

theorem call_sameVideo (c : Composer) (answers : Answers) (call : Call)
    (other : ¬ call.SetsSessions)
    (notHdmi : ∀ connected, call ≠ .updateHdmiConnectionStatus connected) :
    SameVideo c (c.call answers call).composer := by
  cases call with
  | updateVideoState sessionId state => exact absurd trivial other
  | resetVideoPlayback => exact absurd trivial other
  | updateVideoSourceInfo sessionId info =>
      refine ⟨?_, c.updateVideoSourceInfo_states sessionId info⟩
      simp only [call, updateVideoSourceInfo]
      split
      · rfl
      · split <;> rfl
  | setDecoderOutputResolution sessionId config =>
      simp only [call, setDecoderOutputResolution]
      split
      · exact .refl c
      · exact ⟨Iff.rfl, c.setSession_states _ _ (setDecoderOutputResolution_mState _ _)⟩
  | updateHdmiConnectionStatus connected => exact absurd rfl (notHdmi connected)
  | updateWidiConnectionStatus connected =>
      cases connected with
      | true => exact ⟨hasFlag_or.trans (or_iff_left (by decide)), fun _ => rfl⟩
      | false => exact ⟨hasFlag_clear (by decide), fun _ => rfl⟩
  | registerCallback cbk =>
      cases cbk with
      | none => exact .refl c
      | some cbk =>
          have polled := { c with
            mMDSCallback := some cbk }.updateHdmiConnectStatusLocked_sameVideo answers
          exact ⟨polled.flag, polled.states⟩
  | unregisterCallback => exact ⟨Iff.rfl, fun _ => rfl⟩
  | registerListener listener name msg => exact ⟨Iff.rfl, fun _ => rfl⟩
  | unregisterListener listenerId => exact ⟨Iff.rfl, fun _ => rfl⟩
  | setHdmiScalingType type => exact (c.setHdmiScalingType_scalingOnly answers type).sameVideo
  | setHdmiOverscan hVal vVal => exact (c.setHdmiOverscan_scalingOnly answers hVal vVal).sameVideo
  | setVppState dpyId connected status =>
      simp only [call, setVppState]
      split
      · split
        · exact .refl c
        · exact ⟨Iff.rfl, fun _ => rfl⟩
      · have raised : HasFlag (c.mMode ||| MDS_VPP_CHANGED) MDS_VIDEO_ON ↔
            HasFlag c.mMode MDS_VIDEO_ON := hasFlag_or.trans (or_iff_left (by decide))
        exact ⟨(hasFlag_clear (by decide)).trans raised, fun _ => rfl⟩

theorem call_states (c : Composer) (answers : Answers) (call : Call)
    (other : ¬ call.SetsSessions) (i) :
    ((c.call answers call).composer.mVideos i).mState = (c.mVideos i).mState := by
  by_cases hdmi : ∃ connected, call = .updateHdmiConnectionStatus connected
  · rcases hdmi with ⟨connected, rfl⟩
    exact (c.updateHdmiConnectionStatus_sameVideo answers connected).states i
  · exact (c.call_sameVideo answers call other (not_exists.mp hdmi)).states i

theorem initVideoSessions_l_silent (c : Composer) :
    ¬ ∃ i, (c.initVideoSessions_l.mVideos i).mState = MDS_VIDEO_PREPARED := by
  intro playing
  rcases playing with ⟨i, prepared⟩
  have closed : MDS_VIDEO_UNPREPARED = MDS_VIDEO_PREPARED := prepared
  exact absurd closed (by decide)

theorem resetVideoPlayback_mirrors {c : Composer} (mirrors : c.Mirrors) :
    c.resetVideoPlayback.composer.Mirrors := by
  simp only [resetVideoPlayback]
  split
  · exact mirrors
  · exact iff_of_false (not_hasFlag_clear (by decide)) c.initVideoSessions_l_silent

theorem call_mirrors {c : Composer} (answers : Answers) (call : Call) (mirrors : c.Mirrors) :
    (c.call answers call).composer.Mirrors := by
  by_cases hdmi : ∃ connected, call = .updateHdmiConnectionStatus connected
  · rcases hdmi with ⟨connected, rfl⟩
    exact c.updateVideoOn_mirrors.sameVideo
      (c.updateHdmiConnectionStatus_sameVideo answers connected)
  by_cases sets : call.SetsSessions
  · cases call with
    | updateVideoState sessionId state =>
        simp only [Composer.call]
        rcases c.updateVideoState_cases answers sessionId state with ⟨_, refused⟩ |
          ⟨i, _, _, same⟩ | ⟨i, session, _, _, stored⟩
        · rw [refused]
          exact mirrors
        · rw [same]
          exact mirrors
        · rw [stored]
          exact updateVideoOn_mirrors _
    | resetVideoPlayback => exact resetVideoPlayback_mirrors mirrors
    | _ => exact sets.elim
  · exact mirrors.sameVideo (c.call_sameVideo answers call sets (not_exists.mp hdmi))

theorem construct_mirrors (memory) (answers : Answers) :
    (construct true memory answers).Mirrors := by
  have clear : ¬ HasFlag MDS_MODE_NONE MDS_VIDEO_ON := by decide
  have silent : ({ construct false memory answers with
      mDrmInit := true }.initVideoSessions_l).Mirrors :=
    iff_of_false clear (initVideoSessions_l_silent _)
  exact silent.sameVideo (updateHdmiConnectStatusLocked_sameVideo _ answers)

end Composer

/-- In every state that operations lead to after a successful `init`, `MDS_VIDEO_ON` is set
exactly if a session is prepared, and only `updateVideoState` and `resetVideoPlayback` set
states of sessions. -/
theorem video_on_mirrors_sessions
    (memory : Fin MDS_VIDEO_SESSION_MAX_VALUE → MultiDisplayVideoSession) (answers : Answers)
    (calls : List (Answers × Call)) :
    let c := (Composer.construct true memory answers).run calls
    (HasFlag c.mMode MDS_VIDEO_ON ↔ ∃ i, (c.mVideos i).mState = MDS_VIDEO_PREPARED) ∧
    ∀ answers call, ¬ call.SetsSessions →
      ∀ i, ((c.call answers call).composer.mVideos i).mState = (c.mVideos i).mState := by
  have mirrors : ((Composer.construct true memory answers).run calls).Mirrors :=
    List.foldlRecOn calls _ (Composer.construct_mirrors memory answers)
      fun c mirrors call _ => Composer.call_mirrors call.1 call.2 mirrors
  exact ⟨mirrors, Composer.call_states _⟩

end A500cg.Mds
