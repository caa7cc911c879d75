import A500cg.Lib.Latest
import A500cg.Lib.Machine
import A500cg.Mds.VideoOn

/-! The source information and the decoder resolution that the composer keeps for each video
session, and how old they may be when they are asked for. -/

namespace A500cg.Mds

open Lib

namespace MultiDisplayVideoSession

def getInfo (session : MultiDisplayVideoSession) : Except Int MDSVideoSourceInfo :=
  if session.mInfoValid = false then .error UNKNOWN_ERROR else .ok session.mInfo

def getDecoderOutputResolution (session : MultiDisplayVideoSession) : Except Int DecoderConfig :=
  if session.mState < MDS_VIDEO_PREPARING ∨ MDS_VIDEO_UNPREPARED < session.mState then
    .error UNKNOWN_ERROR
  else if session.mDecoderConfigValid = false then .error UNKNOWN_ERROR
  else .ok session.mDecoderConfig

end MultiDisplayVideoSession

namespace Composer

/-- `getVideoSourceInfo`; `null` says that the caller's pointer is null. -/
def getVideoSourceInfo (c : Composer) (sessionId : Int) (null : Bool) :
    Except Int MDSVideoSourceInfo :=
  if null then .error BAD_VALUE
  else match sessionIndex sessionId with
    | none => .error UNKNOWN_ERROR
    | some i =>
        if (c.mVideos i).mState ≠ MDS_VIDEO_PREPARED then .error UNKNOWN_ERROR
        else (c.mVideos i).getInfo

def getValidDecoderConfigVideoSession_l (c : Composer) :
    Option (Fin MDS_VIDEO_SESSION_MAX_VALUE) :=
  (List.finRange MDS_VIDEO_SESSION_MAX_VALUE).find? fun i =>
    (c.mVideos i).getDecoderOutputResolution.isOk

def getDecoderOutputResolution (c : Composer) (_sessionId : Int) : Except Int DecoderConfig :=
  match c.getValidDecoderConfigVideoSession_l with
  | none => .error UNKNOWN_ERROR
  | some i => (c.mVideos i).getDecoderOutputResolution

end Composer

variable (s : Fin MDS_VIDEO_SESSION_MAX_VALUE)

def Call.info? : Call → Option MDSVideoSourceInfo
  | .updateVideoSourceInfo sessionId info => if sessionIndex sessionId = some s then some info else none
  | _ => none

def Call.config? : Call → Option DecoderConfig
  | .setDecoderOutputResolution sessionId config =>
      if sessionIndex sessionId = some s then some config else none
  | _ => none

/-- The call closes a session: it sets the session to `MDS_VIDEO_UNPREPARED`, or it resets
the playback. -/
def Call.Closes : Call → Prop
  | .updateVideoState sessionId state =>
      sessionIndex sessionId = some s ∧ state = MDS_VIDEO_UNPREPARED
  | .resetVideoPlayback => True
  | _ => False

structure Playback where
  composer : Composer
  calls : List Call

def Playback.start (memory : Fin MDS_VIDEO_SESSION_MAX_VALUE → MultiDisplayVideoSession)
    (answers : Answers) : Playback :=
  ⟨Composer.construct true memory answers, []⟩

def Playback.call (p : Playback) (event : Answers × Call) : Playback :=
  ⟨(p.composer.call event.1 event.2).composer, p.calls ++ [event.2]⟩

namespace Playback

/-- The latest information for a session since it was closed. -/
def LatestInfo (p : Playback) : MDSVideoSourceInfo → Prop :=
  Latest (Call.info? s) (Call.Closes s) p.calls

def LatestConfig (p : Playback) : DecoderConfig → Prop :=
  Latest (Call.config? s) (Call.Closes s) p.calls

/-- What is read is never older than the last time the session was closed. -/
structure NotStale (p : Playback) : Prop where
  info : ∀ sessionId null info, p.composer.getVideoSourceInfo sessionId null = .ok info →
    ∃ s, sessionIndex sessionId = some s ∧
      (p.composer.mVideos s).mState = MDS_VIDEO_PREPARED ∧ p.LatestInfo s info
  config : ∀ sessionId config, p.composer.getDecoderOutputResolution sessionId = .ok config ↔
    ∃ s, p.LatestConfig s config ∧ ∀ t < s, ∀ other, ¬ p.LatestConfig t other

end Playback

/-- A session that holds nothing. -/
def MultiDisplayVideoSession.Empty (session : MultiDisplayVideoSession) : Prop :=
  session.mInfoValid = false ∧ session.mDecoderConfigValid = false

/-- A session that is already closed holds nothing when it is closed once more. -/
def Cleared (p : Playback) (event : Answers × Call) : Prop :=
  match event.2 with
  | .updateVideoState sessionId state => ∀ s, sessionIndex sessionId = some s →
      state = MDS_VIDEO_UNPREPARED → (p.composer.mVideos s).mState = MDS_VIDEO_UNPREPARED →
        (p.composer.mVideos s).Empty
  | .resetVideoPlayback => (∀ s, (p.composer.mVideos s).mState = MDS_VIDEO_UNPREPARED) →
      ∀ s, (p.composer.mVideos s).Empty
  | _ => True

def MultiDisplayVideoSession.InRange (session : MultiDisplayVideoSession) : Prop :=
  MDS_VIDEO_PREPARING ≤ session.mState ∧ session.mState ≤ MDS_VIDEO_UNPREPARED

inductive SessionStep (call : Call) (session next : MultiDisplayVideoSession) : Prop
  | kept : call.info? s = none → call.config? s = none → ¬ call.Closes s →
      next.mInfo = session.mInfo → next.mInfoValid = session.mInfoValid →
      next.mDecoderConfig = session.mDecoderConfig →
      next.mDecoderConfigValid = session.mDecoderConfigValid →
      (session.InRange → next.InRange) → SessionStep call session next
  | informed {info : MDSVideoSourceInfo} : call.info? s = some info → call.config? s = none →
      ¬ call.Closes s → next = session.setInfo info → SessionStep call session next
  | configured {config : DecoderConfig} : call.info? s = none → call.config? s = some config →
      ¬ call.Closes s → next = (session.setDecoderOutputResolution config).2 →
      SessionStep call session next
  | closed : call.info? s = none → call.config? s = none → call.Closes s → next.Empty →
      (session.InRange → next.InRange) → SessionStep call session next

theorem SessionStep.same {call : Call} {session next : MultiDisplayVideoSession}
    (info : call.info? s = none) (config : call.config? s = none) (stays : ¬ call.Closes s)
    (same : next = session) : SessionStep s call session next := by
  subst same
  exact .kept info config stays rfl rfl rfl rfl id

theorem MultiDisplayVideoSession.init_empty (session : MultiDisplayVideoSession) :
    session.init.Empty := ⟨rfl, rfl⟩

theorem MultiDisplayVideoSession.init_inRange (session : MultiDisplayVideoSession) :
    session.init.InRange := by
  change MDS_VIDEO_PREPARING ≤ MDS_VIDEO_UNPREPARED ∧ MDS_VIDEO_UNPREPARED ≤ MDS_VIDEO_UNPREPARED
  decide

namespace Composer

variable {s}

theorem setSession_other {c : Composer} {session : MultiDisplayVideoSession}
    {i : Fin MDS_VIDEO_SESSION_MAX_VALUE} {sessionId : Int}
    (index : sessionIndex sessionId ≠ some s) (other : sessionIndex sessionId = some i) :
    (c.setSession i session).mVideos s = c.mVideos s := by
  have apart : s ≠ i := fun same => index (same ▸ other)
  exact Function.update_of_ne apart _ _

theorem setState_session {i : Fin MDS_VIDEO_SESSION_MAX_VALUE} {sessionId state : Int}
    (index : sessionIndex sessionId = some i) (session : MultiDisplayVideoSession)
    (accepted : ¬ (state < MDS_VIDEO_PREPARING ∨ MDS_VIDEO_UNPREPARED < state)) :
    SessionStep i (.updateVideoState sessionId state) session
      (if decide (MDS_VIDEO_UNPREPARED ≤ state) then (session.setState state).2.init
        else (session.setState state).2) := by
  obtain ⟨low, high⟩ := not_or.mp accepted
  by_cases closed : MDS_VIDEO_UNPREPARED ≤ state
  · rw [if_pos (decide_eq_true closed)]
    have closes : Call.Closes i (.updateVideoState sessionId state) :=
      ⟨index, le_antisymm (not_lt.mp high) closed⟩
    exact .closed rfl rfl closes (MultiDisplayVideoSession.init_empty _)
      fun _ => MultiDisplayVideoSession.init_inRange _
  · rw [if_neg (by simp [closed]), MultiDisplayVideoSession.setState, if_neg accepted]
    refine .kept rfl rfl (fun closes => closed closes.2.ge) rfl rfl rfl rfl fun _ => ?_
    exact ⟨not_lt.mp low, not_lt.mp high⟩

theorem updateVideoState_session {p : Playback} (answers : Answers) {sessionId state : Int}
    (cleared : Cleared p (answers, .updateVideoState sessionId state)) :
    SessionStep s (.updateVideoState sessionId state) (p.composer.mVideos s)
      ((p.composer.updateVideoState answers sessionId state).composer.mVideos s) := by
  by_cases index : sessionIndex sessionId = some s
  · have closes : Call.Closes s (.updateVideoState sessionId state) ↔
        state = MDS_VIDEO_UNPREPARED := and_iff_right index
    simp only [updateVideoState, index]
    split
    · rename_i same
      by_cases closed : state = MDS_VIDEO_UNPREPARED
      · exact .closed rfl rfl (closes.mpr closed) (cleared s index closed (same.trans closed)) id
      · exact .same s rfl rfl (fun now => closed (closes.mp now)) rfl
    · by_cases refused : state < MDS_VIDEO_PREPARING ∨ MDS_VIDEO_UNPREPARED < state
      · have stays : ¬ Call.Closes s (.updateVideoState sessionId state) := by
          intro now
          rw [closes.mp now] at refused
          exact absurd refused (by decide)
        rw [if_pos (by simp [MultiDisplayVideoSession.setState, refused, UNKNOWN_ERROR, NO_ERROR])]
        exact .same s rfl rfl stays rfl
      · rw [if_neg (by simp [MultiDisplayVideoSession.setState, refused])]
        simp only [updateVideoOn, setSession, Function.update_self]
        exact setState_session index _ refused
  · refine .same s rfl rfl (fun closes => index closes.1) ?_
    rcases p.composer.updateVideoState_cases answers sessionId state with ⟨_, refused⟩ |
      ⟨i, _, _, same⟩ | ⟨i, session, other, _, stored⟩
    · rw [refused]
    · rw [same]
    · rw [stored]
      exact setSession_other index other

theorem getVideoSessionSize_l_le_zero_iff (c : Composer) : c.getVideoSessionSize_l ≤ 0 ↔
    ∀ i, (c.mVideos i).mState = MDS_VIDEO_UNPREPARED := by
  rw [getVideoSessionSize_l, Nat.le_zero, List.countP_eq_zero]
  simp

theorem resetVideoPlayback_session {p : Playback} (answers : Answers)
    (cleared : Cleared p (answers, .resetVideoPlayback)) :
    SessionStep s .resetVideoPlayback (p.composer.mVideos s)
      (p.composer.resetVideoPlayback.composer.mVideos s) := by
  rw [resetVideoPlayback]
  split
  · rename_i none
    exact .closed rfl rfl trivial
      (cleared (p.composer.getVideoSessionSize_l_le_zero_iff.mp none) s) id
  · exact .closed rfl rfl trivial (p.composer.mVideos s).init_empty
      fun _ => (p.composer.mVideos s).init_inRange

theorem updateVideoSourceInfo_session {p : Playback} (ready : p.composer.mDrmInit = true)
    {sessionId : Int} (info : MDSVideoSourceInfo) :
    SessionStep s (.updateVideoSourceInfo sessionId info) (p.composer.mVideos s)
      ((p.composer.updateVideoSourceInfo sessionId info).composer.mVideos s) := by
  by_cases index : sessionIndex sessionId = some s
  · refine .informed (if_pos index) rfl id ?_
    simp only [updateVideoSourceInfo, ready, index, setSession, reduceCtorEq, if_false,
      Function.update_self]
  · refine .same s (if_neg index) rfl id ?_
    simp only [updateVideoSourceInfo, ready, reduceCtorEq, if_false]
    split
    · rfl
    · rename_i i other
      exact setSession_other index other

theorem setDecoderOutputResolution_session (c : Composer) (sessionId : Int)
    (config : DecoderConfig) :
    SessionStep s (.setDecoderOutputResolution sessionId config) (c.mVideos s)
      ((c.setDecoderOutputResolution sessionId config).composer.mVideos s) := by
  by_cases index : sessionIndex sessionId = some s
  · refine .configured rfl (if_pos index) id ?_
    simp only [setDecoderOutputResolution, index, setSession, Function.update_self]
  · refine .same s rfl (if_neg index) id ?_
    simp only [setDecoderOutputResolution]
    split
    · rfl
    · rename_i i other
      exact setSession_other index other

theorem call_session {p : Playback} (ready : p.composer.mDrmInit = true)
    {event : Answers × Call} (cleared : Cleared p event) :
    SessionStep s event.2 (p.composer.mVideos s) ((p.call event).composer.mVideos s) := by
  obtain ⟨answers, call⟩ := event
  cases call with
  | updateVideoState sessionId state => exact updateVideoState_session answers cleared
  | resetVideoPlayback => exact resetVideoPlayback_session answers cleared
  | updateVideoSourceInfo sessionId info => exact updateVideoSourceInfo_session ready info
  | setDecoderOutputResolution sessionId config =>
      exact p.composer.setDecoderOutputResolution_session sessionId config
  | updateHdmiConnectionStatus connected =>
      have hotplug := p.composer.updateHdmiConnectionStatus_frame answers connected
      exact .same s rfl rfl id (congrFun hotplug.mVideos s)
  | updateWidiConnectionStatus connected => exact .same s rfl rfl id rfl
  | registerCallback cbk =>
      have polled := p.composer.registerCallback_frame answers cbk
      exact .same s rfl rfl id (congrFun polled.mVideos s)
  | unregisterCallback => exact .same s rfl rfl id rfl
  | registerListener listener name msg => exact .same s rfl rfl id rfl
  | unregisterListener listenerId => exact .same s rfl rfl id rfl
  | setHdmiScalingType type =>
      have only := p.composer.setHdmiScalingType_scalingOnly answers type
      exact .same s rfl rfl id (congrFun only.mVideos s)
  | setHdmiOverscan hVal vVal =>
      have only := p.composer.setHdmiOverscan_scalingOnly answers hVal vVal
      exact .same s rfl rfl id (congrFun only.mVideos s)
  | setVppState dpyId connected status =>
      refine .same s rfl rfl id ?_
      simp only [Playback.call, call, setVppState]
      split
      · split <;> rfl
      · rfl

end Composer

/-- A session that holds what it was given last since it was closed. -/
structure Tracked (calls : List Call) (session : MultiDisplayVideoSession) : Prop where
  inRange : session.InRange
  info : ∀ info, Latest (Call.info? s) (Call.Closes s) calls info ↔
    session.mInfoValid = true ∧ session.mInfo = info
  config : ∀ config, Latest (Call.config? s) (Call.Closes s) calls config ↔
    session.mDecoderConfigValid = true ∧ session.mDecoderConfig = config

variable {s}

theorem Tracked.step {calls : List Call} {call : Call} {session next : MultiDisplayVideoSession}
    (tracked : Tracked s calls session) (taken : SessionStep s call session next) :
    Tracked s (calls ++ [call]) next := by
  cases taken with
  | kept noInfo noConfig stays sameInfo infoValid sameConfig configValid ranged =>
      refine ⟨ranged tracked.inRange, fun info => ?_, fun config => ?_⟩
      · rw [latest_concat_iff, noInfo, sameInfo, infoValid, ← tracked.info]
        simp [stays]
      · rw [latest_concat_iff, noConfig, sameConfig, configValid, ← tracked.config]
        simp [stays]
  | informed given noConfig stays stored =>
      subst stored
      refine ⟨tracked.inRange, fun info => ?_, fun config => ?_⟩
      · rw [latest_concat_iff, given]
        simp [MultiDisplayVideoSession.setInfo]
      · rw [latest_concat_iff, noConfig]
        simp [stays, MultiDisplayVideoSession.setInfo, ← tracked.config]
  | configured noInfo given stays stored =>
      have accepted : ¬ (session.mState < MDS_VIDEO_PREPARING ∨
          MDS_VIDEO_UNPREPARED < session.mState) := by
        have range := tracked.inRange
        simp only [MultiDisplayVideoSession.InRange] at range
        omega
      rw [MultiDisplayVideoSession.setDecoderOutputResolution, if_neg accepted] at stored
      subst stored
      refine ⟨tracked.inRange, fun info => ?_, fun config => ?_⟩
      · rw [latest_concat_iff, noInfo]
        simp [stays, ← tracked.info]
      · rw [latest_concat_iff, given]
        simp
  | closed noInfo noConfig closes empty ranged =>
      refine ⟨ranged tracked.inRange, fun info => ?_, fun config => ?_⟩
      · rw [latest_concat_iff, noInfo, empty.1]
        simp [closes]
      · rw [latest_concat_iff, noConfig, empty.2]
        simp [closes]

structure Playback.Sound (p : Playback) : Prop where
  mDrmInit : p.composer.mDrmInit = true
  sessions : ∀ s, Tracked s p.calls (p.composer.mVideos s)

namespace Playback

theorem Sound.call {p : Playback} (sound : p.Sound) {event : Answers × Call}
    (cleared : Cleared p event) : (p.call event).Sound := by
  constructor
  · exact (p.composer.call_mDrmInit event.1 event.2).trans sound.mDrmInit
  · intro s
    exact (sound.sessions s).step (Composer.call_session sound.mDrmInit cleared)

theorem start_sound (memory) (answers : Answers) : (start memory answers).Sound := by
  refine ⟨(Composer.construct_frame memory answers).1, fun s => ?_⟩
  have polled := ({ Composer.construct false memory answers with
    mDrmInit := true }.initVideoSessions_l).updateHdmiConnectStatusLocked_frame answers
  have fresh : (start memory answers).composer.mVideos s = (memory s).init :=
    congrFun polled.mVideos s
  rw [fresh]
  refine ⟨MultiDisplayVideoSession.init_inRange _, fun info => ?_, fun config => ?_⟩
  · exact iff_of_false not_latest_nil fun valid => Bool.false_ne_true valid.1
  · exact iff_of_false not_latest_nil fun valid => Bool.false_ne_true valid.1

end Playback

theorem MultiDisplayVideoSession.getDecoderOutputResolution_eq_ok_iff
    {session : MultiDisplayVideoSession} (range : session.InRange) (config : DecoderConfig) :
    session.getDecoderOutputResolution = .ok config ↔
      session.mDecoderConfigValid = true ∧ session.mDecoderConfig = config := by
  have accepted : ¬ (session.mState < MDS_VIDEO_PREPARING ∨
      MDS_VIDEO_UNPREPARED < session.mState) := by
    simp only [MultiDisplayVideoSession.InRange] at range
    omega
  rw [MultiDisplayVideoSession.getDecoderOutputResolution, if_neg accepted]
  cases session.mDecoderConfigValid with
  | true => simp
  | false => simp

theorem find?_finRange_eq_some_iff {n : Nat} {found : Fin n → Bool} {i : Fin n} :
    (List.finRange n).find? found = some i ↔
      found i = true ∧ ∀ j < i, ¬ found j = true := by
  rw [List.find?_eq_some_iff_getElem]
  refine and_congr_right fun _ => ⟨?_, fun lowest => ?_⟩
  · rintro ⟨k, bound, rfl, lowest⟩ j below
    have earlier := lowest j (by simpa [Fin.lt_def] using below)
    simpa using earlier
  · refine ⟨i, by simp, by simp, fun j below => ?_⟩
    have earlier := lowest ⟨j, below.trans i.isLt⟩ below
    simpa using earlier

theorem isOk_iff {Value : Type} {result : Except Int Value} :
    result.isOk = true ↔ ∃ value, result = .ok value := by
  cases result with
  | error code => simp [Except.isOk, Except.toBool]
  | ok value => simp [Except.isOk, Except.toBool]

namespace Playback

theorem Sound.latestConfig_iff {p : Playback} (sound : p.Sound)
    (s : Fin MDS_VIDEO_SESSION_MAX_VALUE) (config : DecoderConfig) :
    p.LatestConfig s config ↔
      (p.composer.mVideos s).getDecoderOutputResolution = .ok config := by
  have session := sound.sessions s
  exact (session.config config).trans
    (MultiDisplayVideoSession.getDecoderOutputResolution_eq_ok_iff session.inRange config).symm

theorem Sound.latestInfo {p : Playback} (sound : p.Sound) {sessionId : Int} {null : Bool}
    {info : MDSVideoSourceInfo} (read : p.composer.getVideoSourceInfo sessionId null = .ok info) :
    ∃ s, sessionIndex sessionId = some s ∧
      (p.composer.mVideos s).mState = MDS_VIDEO_PREPARED ∧ p.LatestInfo s info := by
  simp only [Composer.getVideoSourceInfo] at read
  split at read
  · cases read
  split at read
  · cases read
  rename_i i index
  split at read
  · cases read
  rename_i prepared
  simp only [MultiDisplayVideoSession.getInfo] at read
  split at read
  · cases read
  rename_i valid
  refine ⟨i, index, not_not.mp prepared, ((sound.sessions i).info info).mpr ⟨?_, ?_⟩⟩
  · exact Bool.not_eq_false _ ▸ valid
  · exact Except.ok.inj read

theorem Sound.lowestConfig_iff {p : Playback} (sound : p.Sound) (sessionId : Int)
    (config : DecoderConfig) : p.composer.getDecoderOutputResolution sessionId = .ok config ↔
      ∃ s, p.LatestConfig s config ∧ ∀ t < s, ∀ other, ¬ p.LatestConfig t other := by
  have first : ∀ s, p.composer.getValidDecoderConfigVideoSession_l = some s ↔
      (∃ config, p.LatestConfig s config) ∧ ∀ t < s, ∀ other, ¬ p.LatestConfig t other := by
    intro s
    rw [Composer.getValidDecoderConfigVideoSession_l, find?_finRange_eq_some_iff]
    simp only [isOk_iff, sound.latestConfig_iff, not_exists]
  have read : p.composer.getDecoderOutputResolution sessionId = .ok config ↔
      ∃ s, p.composer.getValidDecoderConfigVideoSession_l = some s ∧
        (p.composer.mVideos s).getDecoderOutputResolution = .ok config := by
    rw [Composer.getDecoderOutputResolution]
    cases p.composer.getValidDecoderConfigVideoSession_l with
    | none => simp
    | some s => simp
  rw [read]
  refine exists_congr fun s => ?_
  rw [first, ← sound.latestConfig_iff]
  constructor
  · rintro ⟨⟨_, lowest⟩, latest⟩
    exact ⟨latest, lowest⟩
  · rintro ⟨latest, lowest⟩
    exact ⟨⟨⟨config, latest⟩, lowest⟩, latest⟩

theorem Sound.notStale {p : Playback} (sound : p.Sound) : p.NotStale :=
  ⟨fun _ _ _ read => sound.latestInfo read, sound.lowestConfig_iff⟩

end Playback

/-- In every run whose steps are `Cleared`, nothing that is read in a state that the run
reaches is older than the last time its session was closed. -/
theorem playback_never_stale
    (memory : Fin MDS_VIDEO_SESSION_MAX_VALUE → MultiDisplayVideoSession) (answers : Answers)
    (events : List (Answers × Call))
    (cleared : Along (fun p event => some (p.call event)) Cleared (Playback.start memory answers)
      events)
    (before : List (Answers × Call)) (isPrefix : before <+: events) :
    (before.foldl Playback.call (Playback.start memory answers)).NotStale := by
  have preserved : ∀ p event, p.Sound → Cleared p event → (p.call event).Sound :=
    fun p event sound cleared => sound.call cleared
  have sound := invariant_throughout preserved (Playback.start_sound memory answers) cleared
    before isPrefix
  exact sound.notStale

def film : MDSVideoSourceInfo := ⟨24, 1920, 1080, false, true⟩

def playedFilm : List Call :=
  [.updateVideoSourceInfo 0 film, .updateVideoState 0 MDS_VIDEO_PREPARED,
    .updateVideoState 0 MDS_VIDEO_UNPREPARED]

def reopenedSession : List Call :=
  [.updateVideoSourceInfo 0 film, .updateVideoState 0 MDS_VIDEO_UNPREPARED,
    .updateVideoState 0 MDS_VIDEO_PREPARED]

def Playback.quiet : Playback :=
  .start (fun _ => .blank) (Answers.polling .disconnected)

def withAnswers (calls : List Call) : List (Answers × Call) :=
  calls.map fun call => (Answers.polling .disconnected, call)

theorem playedFilm_never_stale :
    ((withAnswers (playedFilm.take 2)).foldl Playback.call .quiet).NotStale ∧
      ((withAnswers (playedFilm.take 2)).foldl Playback.call .quiet).composer.getVideoSourceInfo
        0 false = .ok film := by
  refine ⟨playback_never_stale _ _ (withAnswers playedFilm) ?_ _ ⟨_, rfl⟩, by decide⟩
  refine ⟨trivial, fun next taken => ?_⟩
  cases taken
  refine ⟨fun _ _ state => absurd state (by decide), fun next taken => ?_⟩
  cases taken
  refine ⟨fun s index _ state => ?_, fun _ _ => trivial⟩
  cases index
  exact absurd state (by decide)

theorem reopenedSession_stale :
    ¬ ((withAnswers reopenedSession).foldl Playback.call .quiet).NotStale := by
  intro notStale
  obtain ⟨s, index, _, latest⟩ := notStale.info 0 false film (by decide)
  have calls : ((withAnswers reopenedSession).foldl Playback.call .quiet).calls =
      [.updateVideoSourceInfo 0 film] ++ [.updateVideoState 0 MDS_VIDEO_UNPREPARED] ++
        [.updateVideoState 0 MDS_VIDEO_PREPARED] := rfl
  rw [Playback.LatestInfo, calls, latest_concat_iff, latest_concat_iff] at latest
  simp [Call.info?, Call.Closes, index] at latest

end A500cg.Mds
