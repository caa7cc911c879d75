import A500cg.Lib.Flags
import A500cg.Mds.Listeners

/-! `MultiDisplayComposer`: the video sessions, the mode word, the external connections and
the scaling state. The steps are whole operations in sequence. What the DRM layer, the
display callback and SurfaceFlinger answer during a step is an argument of it, and what they
and the listeners are told is part of its outcome. -/

namespace A500cg.Mds

open Lib

def MDS_MODE_NONE : BitVec 32 := 0
def MDS_DVI_CONNECTED : BitVec 32 := 1
def MDS_HDMI_CONNECTED : BitVec 32 := 1 <<< 1
def MDS_WIDI_ON : BitVec 32 := 1 <<< 2
def MDS_VIDEO_ON : BitVec 32 := 1 <<< 3
def MDS_VPP_CHANGED : BitVec 32 := 1 <<< 4

-- A state arrives as any integer of a parcel, so `MDS_VIDEO_STATE` is not a closed type.
def MDS_VIDEO_PREPARING : Int := 1
def MDS_VIDEO_PREPARED : Int := 2
def MDS_VIDEO_UNPREPARING : Int := 3
def MDS_VIDEO_UNPREPARED : Int := 4

def MDS_SCALING_NONE : BitVec 32 := 0
def overscan_max : BitVec 32 := 5

inductive DisplayId where
  | primary
  | external
  | virtual
  deriving DecidableEq, Repr

inductive ConnectStatus where
  | disconnected
  | hdmi
  | dvi
  deriving DecidableEq, Repr

structure MDSVideoSourceInfo where
  frameRate : Int
  displayW : Int
  displayH : Int
  isInterlaced : Bool
  isProtected : Bool
  deriving DecidableEq, Repr

def MDSVideoSourceInfo.zero : MDSVideoSourceInfo := ⟨0, 0, 0, false, false⟩

structure DecoderConfig where
  width : Int
  height : Int
  offX : Int
  offY : Int
  bufWidth : Int
  bufHeight : Int
  deriving DecidableEq, Repr

structure MultiDisplayVideoSession where
  mState : Int
  mInfo : MDSVideoSourceInfo
  mInfoValid : Bool
  mDecoderConfig : DecoderConfig
  mDecoderConfigValid : Bool
  deriving DecidableEq, Repr

namespace MultiDisplayVideoSession

def setState (session : MultiDisplayVideoSession) (state : Int) : Int × MultiDisplayVideoSession :=
  if state < MDS_VIDEO_PREPARING ∨ MDS_VIDEO_UNPREPARED < state then (UNKNOWN_ERROR, session)
  else (NO_ERROR, { session with mState := state })

def setInfo (session : MultiDisplayVideoSession) (info : MDSVideoSourceInfo) :
    MultiDisplayVideoSession :=
  { session with mInfo := info, mInfoValid := true }

def setDecoderOutputResolution (session : MultiDisplayVideoSession) (config : DecoderConfig) :
    Int × MultiDisplayVideoSession :=
  if session.mState < MDS_VIDEO_PREPARING ∨ MDS_VIDEO_UNPREPARED < session.mState then
    (UNKNOWN_ERROR, session)
  else (NO_ERROR, { session with mDecoderConfig := config, mDecoderConfigValid := true })

def init (session : MultiDisplayVideoSession) : MultiDisplayVideoSession :=
  { session with
    mState := MDS_VIDEO_UNPREPARED
    mInfo := MDSVideoSourceInfo.zero
    mInfoValid := false
    mDecoderConfigValid := false }

end MultiDisplayVideoSession

/-- What the calls out of the composer return during one operation; each of them is made
at most once. -/
structure Answers where
  /-- The status that the DRM poll finds. -/
  connectStatus : ConnectStatus
  /-- The results of the callback. -/
  updateVideoState : Int
  setHdmiScalingType : Int
  setHdmiOverscan : Int
  /-- The service manager finds SurfaceFlinger. -/
  surfaceFlinger : Bool
  /-- `transact` succeeds, so that the reply is there. -/
  delivered : Bool
  /-- The result in the reply. -/
  reply : Int
  deriving DecidableEq, Repr

-- The status of `transact` is thrown away, and an empty reply reads 0.
def Answers.transact (answers : Answers) : Int := if answers.delivered then answers.reply else 0

inductive Effect where
  | onMdsMessage (listener : MultiDisplayListener) (mode : BitVec 32)
  | onHdmiDisconnected
  | notifyAudioHotplug (connected : Bool)
  | updateVideoState (sessionId state : Int)
  | setHdmiScalingType (type : BitVec 32)
  | setHdmiOverscan (hVal vVal : BitVec 32)
  | scalingSetting (scale : BitVec 32)
  deriving DecidableEq

/-- The members of the class; `listeners` holds `mListeners` and `mListenerId`. -/
structure Composer where
  mDrmInit : Bool
  mMode : BitVec 32
  mHorizontalStep : BitVec 32
  mVerticalStep : BitVec 32
  mDisplayId : DisplayId
  mScaleType : BitVec 32
  mSurfaceComposer : Bool
  mMDSCallback : Option Nat
  listeners : ListenerTable
  mVideos : Fin MDS_VIDEO_SESSION_MAX_VALUE → MultiDisplayVideoSession

structure Outcome where
  result : Int
  composer : Composer
  effects : List Effect

/-- `CHECK_VIDEO_SESSION_ID`. -/
def sessionIndex (sessionId : Int) : Option (Fin MDS_VIDEO_SESSION_MAX_VALUE) :=
  if valid : 0 ≤ sessionId ∧ sessionId < MDS_VIDEO_SESSION_MAX_VALUE then
    some ⟨sessionId.toNat, by omega⟩
  else none

namespace Composer

def updateHdmiConnectStatusLocked (c : Composer) (answers : Answers) : Outcome :=
  if c.mDrmInit = false then ⟨NO_INIT, c, []⟩
  else match answers.connectStatus with
    | .hdmi => ⟨NO_ERROR, { c with mMode := c.mMode ||| MDS_HDMI_CONNECTED }, []⟩
    | .dvi => ⟨NO_ERROR, { c with mMode := c.mMode ||| MDS_DVI_CONNECTED }, []⟩
    | .disconnected =>
        ⟨NO_ERROR, { c with mMode := c.mMode &&& ~~~(MDS_HDMI_CONNECTED ||| MDS_DVI_CONNECTED) },
          [.onHdmiDisconnected]⟩

/-- A null callback is `none`. -/
def registerCallback (c : Composer) (answers : Answers) : Option Nat → Outcome
  | none => ⟨BAD_VALUE, c, []⟩
  | some cbk =>
      let updated := { c with mMDSCallback := some cbk }.updateHdmiConnectStatusLocked answers
      ⟨NO_ERROR, updated.composer, updated.effects⟩

def unregisterCallback (c : Composer) : Outcome := ⟨NO_ERROR, { c with mMDSCallback := none }, []⟩

/-- `broadcastMessageLocked` of the mode. -/
def modeMessages (c : Composer) (ignoreVideoDriver : Bool) : List Effect :=
  (c.listeners.broadcastMessageLocked MDS_MSG_MODE_CHANGE ignoreVideoDriver).map
    fun listener => .onMdsMessage listener c.mMode

def setDisplayScalingLocked (c : Composer) (answers : Answers) (mode stepx stepy : BitVec 32) :
    Outcome :=
  if c.mSurfaceComposer = false ∧ answers.surfaceFlinger = false then ⟨UNKNOWN_ERROR, c, []⟩
  else ⟨answers.transact, { c with mSurfaceComposer := true },
    [.scalingSetting (mode ||| stepx <<< 16 ||| stepy <<< 24)]⟩

def hasVideoPlaying_l (c : Composer) : Bool :=
  let size := (List.finRange _).countP fun i => (c.mVideos i).mState = MDS_VIDEO_PREPARED
  1 ≤ size

def getVideoSessionSize_l (c : Composer) : Nat :=
  (List.finRange _).countP fun i => (c.mVideos i).mState ≠ MDS_VIDEO_UNPREPARED

def initVideoSessions_l (c : Composer) : Composer :=
  { c with mVideos := fun i => (c.mVideos i).init }

/-- The update of `MDS_VIDEO_ON`, in two operations. -/
def updateVideoOn (c : Composer) : Composer :=
  { c with
    mMode := if c.hasVideoPlaying_l then c.mMode ||| MDS_VIDEO_ON
      else c.mMode &&& ~~~MDS_VIDEO_ON }

/-- The callback's part in the scaling reset of a hotplug. The overscan is only reached
after a scaling type that was accepted. -/
def callbackReset (c : Composer) (answers : Answers) : Int × List Effect :=
  match c.mMDSCallback with
  | none => (UNKNOWN_ERROR, [])
  | some _ =>
      if c.mScaleType = MDS_SCALING_NONE then (UNKNOWN_ERROR, [])
      else if answers.setHdmiScalingType = NO_ERROR ∧
          (c.mHorizontalStep ≠ 0 ∨ c.mVerticalStep ≠ 0) then
        (answers.setHdmiOverscan, [.setHdmiScalingType MDS_SCALING_NONE, .setHdmiOverscan 0 0])
      else (answers.setHdmiScalingType, [.setHdmiScalingType MDS_SCALING_NONE])

def resetScaling (c : Composer) (answers : Answers) : Outcome :=
  let reset := c.callbackReset answers
  let scaled :=
    if reset.1 ≠ NO_ERROR ∧
        (c.mScaleType ≠ MDS_SCALING_NONE ∨ c.mHorizontalStep ≠ 0 ∨ c.mVerticalStep ≠ 0) then
      c.setDisplayScalingLocked answers MDS_SCALING_NONE 0 0
    else ⟨reset.1, c, []⟩
  ⟨NO_ERROR,
    if scaled.result = NO_ERROR then
      { scaled.composer with
        mScaleType := MDS_SCALING_NONE, mHorizontalStep := 0, mVerticalStep := 0 }
    else scaled.composer,
    reset.2 ++ scaled.effects⟩

def notifyHotplugLocked (c : Composer) (answers : Answers) (dispId : DisplayId)
    (connected : Bool) : Outcome :=
  if dispId = .virtual then
    let next := { c with
      mMode := if connected then c.mMode ||| MDS_WIDI_ON else c.mMode &&& ~~~MDS_WIDI_ON }
    ⟨NO_ERROR, next, next.modeMessages false⟩
  else
    let updated := c.updateVideoOn.updateHdmiConnectStatusLocked answers
    let told :=
      if c.mMode ≠ updated.composer.mMode then
        updated.composer.modeMessages false ++ [.notifyAudioHotplug connected]
      else []
    let reset := updated.composer.resetScaling answers
    ⟨NO_ERROR, reset.composer, updated.effects ++ told ++ reset.effects⟩

def updateHdmiConnectionStatus (c : Composer) (answers : Answers) (connected : Bool) : Outcome :=
  c.notifyHotplugLocked answers .external connected

def updateWidiConnectionStatus (c : Composer) (answers : Answers) (connected : Bool) : Outcome :=
  c.notifyHotplugLocked answers .virtual connected

def setSession (c : Composer) (i : Fin MDS_VIDEO_SESSION_MAX_VALUE)
    (session : MultiDisplayVideoSession) : Composer :=
  { c with mVideos := Function.update c.mVideos i session }

def callbackVideoState (c : Composer) (sessionId state : Int) : List Effect :=
  c.mMDSCallback.toList.map fun _ => .updateVideoState sessionId state

def updateVideoState (c : Composer) (answers : Answers) (sessionId state : Int) : Outcome :=
  match sessionIndex sessionId with
  | none => ⟨UNKNOWN_ERROR, c, []⟩
  | some i =>
      if (c.mVideos i).mState = state then ⟨NO_ERROR, c, []⟩
      else
        let set := (c.mVideos i).setState state
        if set.1 ≠ NO_ERROR then ⟨UNKNOWN_ERROR, c, []⟩
        else
          -- The session of a closed player is reset, and the video driver, which may have
          -- been unloaded by then, is not told.
          let closed := decide (MDS_VIDEO_UNPREPARED ≤ state)
          let next := (c.setSession i (if closed then set.2.init else set.2)).updateVideoOn
          ⟨c.mMDSCallback.elim NO_ERROR fun _ => answers.updateVideoState, next,
            c.callbackVideoState sessionId state ++
              if c.mMode ≠ next.mMode then next.modeMessages closed else []⟩

def resetVideoPlayback (c : Composer) : Outcome :=
  if c.getVideoSessionSize_l ≤ 0 then ⟨NO_ERROR, c, []⟩
  else
    let next := { c.initVideoSessions_l with mMode := c.mMode &&& ~~~MDS_VIDEO_ON }
    ⟨NO_ERROR, next,
      c.callbackVideoState (-1) MDS_VIDEO_UNPREPARED ++ next.modeMessages false⟩

def updateVideoSourceInfo (c : Composer) (sessionId : Int) (info : MDSVideoSourceInfo) : Outcome :=
  if c.mDrmInit = false then ⟨NO_INIT, c, []⟩
  else match sessionIndex sessionId with
    | none => ⟨UNKNOWN_ERROR, c, []⟩
    | some i => ⟨NO_ERROR, c.setSession i ((c.mVideos i).setInfo info), []⟩

def setDecoderOutputResolution (c : Composer) (sessionId : Int) (config : DecoderConfig) :
    Outcome :=
  match sessionIndex sessionId with
  | none => ⟨UNKNOWN_ERROR, c, []⟩
  | some i =>
      let set := (c.mVideos i).setDecoderOutputResolution config
      ⟨set.1, c.setSession i set.2, []⟩

def setHdmiScalingType (c : Composer) (answers : Answers) (type : BitVec 32) : Outcome :=
  let asked : Int × List Effect :=
    match c.mMDSCallback with
    | none => (UNKNOWN_ERROR, [])
    | some _ => (answers.setHdmiScalingType, [.setHdmiScalingType type])
  let scaled :=
    if asked.1 ≠ NO_ERROR then
      c.setDisplayScalingLocked answers type c.mHorizontalStep c.mVerticalStep
    else ⟨asked.1, c, []⟩
  ⟨scaled.result,
    if scaled.result = NO_ERROR then { scaled.composer with mScaleType := type }
    else scaled.composer,
    asked.2 ++ scaled.effects⟩

/-- The compensation that is set for a request; both are `int` there. -/
def overscanStep (val : BitVec 32) : BitVec 32 :=
  if overscan_max.slt val then 0 else overscan_max - val

def setHdmiOverscan (c : Composer) (answers : Answers) (hVal vVal : BitVec 32) : Outcome :=
  let hVal := overscanStep hVal
  let vVal := overscanStep vVal
  let asked : Int × List Effect :=
    match c.mMDSCallback with
    | none => (UNKNOWN_ERROR, [])
    | some _ => (answers.setHdmiOverscan, [.setHdmiOverscan hVal vVal])
  let scaled :=
    if asked.1 ≠ NO_ERROR then c.setDisplayScalingLocked answers c.mScaleType hVal vVal
    else ⟨asked.1, c, []⟩
  ⟨scaled.result,
    if scaled.result = NO_ERROR then
      { scaled.composer with mHorizontalStep := hVal, mVerticalStep := vVal }
    else scaled.composer,
    asked.2 ++ scaled.effects⟩

def setVppState (c : Composer) (dpyId : DisplayId) (connected : Bool) (status : Int) : Outcome :=
  if status = -1 then
    if dpyId ≠ .virtual then ⟨UNKNOWN_ERROR, c, []⟩
    else ⟨NO_ERROR, { c with mDisplayId := if connected then dpyId else .primary }, []⟩
  else
    -- The listeners see `MDS_VPP_CHANGED`, which is taken back right after.
    let raised := { c with mMode := c.mMode ||| MDS_VPP_CHANGED }
    ⟨NO_ERROR, { raised with mMode := raised.mMode &&& ~~~MDS_VPP_CHANGED },
      raised.modeMessages false⟩

def registerListener (c : Composer) (listener : Option Nat) (name : Option CString)
    (msg : BitVec 32) : Outcome :=
  let registered := c.listeners.registerListener listener name msg
  ⟨registered.1, { c with listeners := registered.2 }, []⟩

def unregisterListener (c : Composer) (listenerId : Int) : Outcome :=
  let removed := c.listeners.unregisterListener listenerId
  ⟨removed.1, { c with listeners := removed.2 }, []⟩

def allocateVideoSessionId (c : Composer) : Int :=
  match (List.finRange MDS_VIDEO_SESSION_MAX_VALUE).find? fun i =>
      (c.mVideos i).mState = MDS_VIDEO_UNPREPARED with
  | some i => i
  | none => -1

/-- The constructor and `init`. The sessions are whatever the memory holds until `init`
has reached them. -/
def construct (drmInit : Bool) (memory : Fin MDS_VIDEO_SESSION_MAX_VALUE → MultiDisplayVideoSession)
    (answers : Answers) : Composer :=
  let c : Composer := {
    mDrmInit := false
    mMode := MDS_MODE_NONE
    mHorizontalStep := 0
    mVerticalStep := 0
    mDisplayId := .primary
    mScaleType := MDS_SCALING_NONE
    mSurfaceComposer := false
    mMDSCallback := none
    listeners := ListenerTable.initial
    mVideos := memory }
  if drmInit then
    ({ c with mDrmInit := true }.initVideoSessions_l.updateHdmiConnectStatusLocked answers).composer
  else c

end Composer

inductive Call where
  | updateVideoState (sessionId state : Int)
  | resetVideoPlayback
  | updateVideoSourceInfo (sessionId : Int) (info : MDSVideoSourceInfo)
  | setDecoderOutputResolution (sessionId : Int) (config : DecoderConfig)
  | updateHdmiConnectionStatus (connected : Bool)
  | updateWidiConnectionStatus (connected : Bool)
  | registerCallback (cbk : Option Nat)
  | unregisterCallback
  | registerListener (listener : Option Nat) (name : Option CString) (msg : BitVec 32)
  | unregisterListener (listenerId : Int)
  | setHdmiScalingType (type : BitVec 32)
  | setHdmiOverscan (hVal vVal : BitVec 32)
  | setVppState (dpyId : DisplayId) (connected : Bool) (status : Int)

def Composer.call (c : Composer) (answers : Answers) : Call → Outcome
  | .updateVideoState sessionId state => c.updateVideoState answers sessionId state
  | .resetVideoPlayback => c.resetVideoPlayback
  | .updateVideoSourceInfo sessionId info => c.updateVideoSourceInfo sessionId info
  | .setDecoderOutputResolution sessionId config => c.setDecoderOutputResolution sessionId config
  | .updateHdmiConnectionStatus connected => c.updateHdmiConnectionStatus answers connected
  | .updateWidiConnectionStatus connected => c.updateWidiConnectionStatus answers connected
  | .registerCallback cbk => c.registerCallback answers cbk
  | .unregisterCallback => c.unregisterCallback
  | .registerListener listener name msg => c.registerListener listener name msg
  | .unregisterListener listenerId => c.unregisterListener listenerId
  | .setHdmiScalingType type => c.setHdmiScalingType answers type
  | .setHdmiOverscan hVal vVal => c.setHdmiOverscan answers hVal vVal
  | .setVppState dpyId connected status => c.setVppState dpyId connected status

def Answers.polling (status : ConnectStatus) : Answers :=
  ⟨status, NO_ERROR, NO_ERROR, NO_ERROR, true, true, NO_ERROR⟩

def MultiDisplayVideoSession.blank : MultiDisplayVideoSession :=
  ⟨0, MDSVideoSourceInfo.zero, false, ⟨0, 0, 0, 0, 0, 0⟩, false⟩

def Effect.message? : Effect → Option (MultiDisplayListener × BitVec 32)
  | .onMdsMessage listener mode => some (listener, mode)
  | _ => none

def Effect.audio? : Effect → Option Bool
  | .notifyAudioHotplug connected => some connected
  | _ => none

def Outcome.messages (outcome : Outcome) : List (MultiDisplayListener × BitVec 32) :=
  outcome.effects.filterMap Effect.message?

def Outcome.audio (outcome : Outcome) : List Bool := outcome.effects.filterMap Effect.audio?

def polledMode (mode : BitVec 32) : ConnectStatus → BitVec 32
  | .hdmi => mode ||| MDS_HDMI_CONNECTED
  | .dvi => mode ||| MDS_DVI_CONNECTED
  | .disconnected => mode &&& ~~~(MDS_HDMI_CONNECTED ||| MDS_DVI_CONNECTED)

def Shows (mode : BitVec 32) : ConnectStatus → Prop
  | .hdmi => HasFlag mode MDS_HDMI_CONNECTED
  | .dvi => HasFlag mode MDS_DVI_CONNECTED
  | .disconnected => ¬ HasFlag mode MDS_HDMI_CONNECTED ∧ ¬ HasFlag mode MDS_DVI_CONNECTED

theorem polledMode_eq_self_iff (mode : BitVec 32) (status : ConnectStatus) :
    polledMode mode status = mode ↔ Shows mode status := by
  cases status with
  | hdmi => exact @set_eq_self_iff 32 mode 1 (by decide)
  | dvi => exact @set_eq_self_iff 32 mode 0 (by decide)
  | disconnected => exact clear_eq_self_iff.trans ((not_congr hasFlag_flag_or).trans not_or)

structure PollOnly (c : Composer) (outcome : Outcome) : Prop where
  mDrmInit : outcome.composer.mDrmInit = c.mDrmInit
  listeners : outcome.composer.listeners = c.listeners
  mVideos : outcome.composer.mVideos = c.mVideos
  messages : outcome.messages = []
  audio : outcome.audio = []

structure ScalingOnly (c : Composer) (outcome : Outcome) : Prop extends PollOnly c outcome where
  mMode : outcome.composer.mMode = c.mMode

structure Hotplug (c : Composer) (answers : Answers) (next : Composer) : Prop where
  mMode : next.mMode = (c.updateVideoOn.updateHdmiConnectStatusLocked answers).composer.mMode
  mDrmInit : next.mDrmInit = c.mDrmInit
  listeners : next.listeners = c.listeners
  mVideos : next.mVideos = c.mVideos

namespace Composer

theorem updateHdmiConnectStatusLocked_composer {c : Composer} (answers : Answers)
    (ready : c.mDrmInit = true) :
    (c.updateHdmiConnectStatusLocked answers).composer =
      { c with mMode := polledMode c.mMode answers.connectStatus } := by
  simp only [updateHdmiConnectStatusLocked, ready]
  cases answers.connectStatus <;> rfl

theorem setDisplayScalingLocked_scalingOnly (c : Composer) (answers : Answers)
    (mode stepx stepy : BitVec 32) :
    ScalingOnly c (c.setDisplayScalingLocked answers mode stepx stepy) := by
  simp only [setDisplayScalingLocked]
  split <;> exact ⟨⟨rfl, rfl, rfl, rfl, rfl⟩, rfl⟩

end Composer

theorem ScalingOnly.unchanged (c : Composer) (result : Int) : ScalingOnly c ⟨result, c, []⟩ :=
  ⟨⟨rfl, rfl, rfl, rfl, rfl⟩, rfl⟩

theorem ScalingOnly.stored {c : Composer} {scaled : Outcome} (only : ScalingOnly c scaled)
    {asked : List Effect} (messages : asked.filterMap Effect.message? = [])
    (audio : asked.filterMap Effect.audio? = []) (result : Int) (type hVal vVal : BitVec 32) :
    ScalingOnly c ⟨result,
      if scaled.result = NO_ERROR then
        { scaled.composer with
          mScaleType := type, mHorizontalStep := hVal, mVerticalStep := vVal }
      else scaled.composer,
      asked ++ scaled.effects⟩ := by
  refine ⟨⟨?_, ?_, ?_, ?_, ?_⟩, ?_⟩
  · rw [← only.mDrmInit]
    split <;> rfl
  · rw [← only.listeners]
    split <;> rfl
  · rw [← only.mVideos]
    split <;> rfl
  · have quiet := only.messages
    simp only [Outcome.messages] at quiet ⊢
    rw [List.filterMap_append, messages, quiet, List.append_nil]
  · have quiet := only.audio
    simp only [Outcome.audio] at quiet ⊢
    rw [List.filterMap_append, audio, quiet, List.append_nil]
  · rw [← only.mMode]
    split <;> rfl

namespace Composer

theorem fallback_scalingOnly (c : Composer) (answers : Answers) (needed : Prop)
    [Decidable needed] (asked : Int) (mode stepx stepy : BitVec 32) :
    ScalingOnly c
      (if needed then c.setDisplayScalingLocked answers mode stepx stepy else ⟨asked, c, []⟩) := by
  split
  · exact c.setDisplayScalingLocked_scalingOnly answers mode stepx stepy
  · exact .unchanged c asked

theorem resetScaling_scalingOnly (c : Composer) (answers : Answers) :
    ScalingOnly c (c.resetScaling answers) := by
  have quiet : (c.callbackReset answers).2.filterMap Effect.message? = [] ∧
      (c.callbackReset answers).2.filterMap Effect.audio? = [] := by
    simp only [callbackReset]
    repeat' split
    all_goals exact ⟨rfl, rfl⟩
  simp only [resetScaling]
  exact (c.fallback_scalingOnly answers _ _ _ _ _).stored quiet.1 quiet.2 _ _ _ _

theorem setHdmiScalingType_scalingOnly (c : Composer) (answers : Answers) (type : BitVec 32) :
    ScalingOnly c (c.setHdmiScalingType answers type) := by
  simp only [setHdmiScalingType]
  split
  · exact (c.fallback_scalingOnly answers _ _ _ _ _).stored rfl rfl _ _ _ _
  · exact (c.fallback_scalingOnly answers _ _ _ _ _).stored rfl rfl _ _ _ _

theorem setHdmiOverscan_scalingOnly (c : Composer) (answers : Answers) (hVal vVal : BitVec 32) :
    ScalingOnly c (c.setHdmiOverscan answers hVal vVal) := by
  simp only [setHdmiOverscan]
  split
  · exact (c.fallback_scalingOnly answers _ _ _ _ _).stored rfl rfl _ _ _ _
  · exact (c.fallback_scalingOnly answers _ _ _ _ _).stored rfl rfl _ _ _ _

theorem modeMessages_messages (c : Composer) (ignoreVideoDriver : Bool) :
    (c.modeMessages ignoreVideoDriver).filterMap Effect.message? =
      (c.listeners.broadcastMessageLocked MDS_MSG_MODE_CHANGE ignoreVideoDriver).map
        fun listener => (listener, c.mMode) := by
  simp only [modeMessages, List.filterMap_map]
  exact congrFun List.filterMap_eq_map _

theorem modeMessages_audio (c : Composer) (ignoreVideoDriver : Bool) :
    (c.modeMessages ignoreVideoDriver).filterMap Effect.audio? = [] := by
  simp [modeMessages, List.filterMap_map, Effect.audio?]

theorem updateHdmiConnectStatusLocked_frame (c : Composer) (answers : Answers) :
    PollOnly c (c.updateHdmiConnectStatusLocked answers) := by
  simp only [updateHdmiConnectStatusLocked]
  split
  · constructor <;> rfl
  · cases answers.connectStatus <;> constructor <;> rfl

theorem registerCallback_frame (c : Composer) (answers : Answers) (cbk : Option Nat) :
    PollOnly c (c.registerCallback answers cbk) := by
  cases cbk with
  | none => exact ⟨rfl, rfl, rfl, rfl, rfl⟩
  | some cbk =>
      have polled := { c with
        mMDSCallback := some cbk }.updateHdmiConnectStatusLocked_frame answers
      exact ⟨polled.mDrmInit, polled.listeners, polled.mVideos, polled.messages, polled.audio⟩

theorem registerCallback_mMode {c : Composer} (answers : Answers) (cbk : Nat)
    (ready : c.mDrmInit = true) :
    (c.registerCallback answers (some cbk)).composer.mMode =
      polledMode c.mMode answers.connectStatus := by
  have composer := @updateHdmiConnectStatusLocked_composer
    { c with mMDSCallback := some cbk } answers ready
  exact congrArg mMode composer

theorem construct_frame (memory) (answers : Answers) :
    (construct true memory answers).mDrmInit = true ∧
      (construct true memory answers).listeners = ListenerTable.initial := by
  have polled := ({ construct false memory answers with
    mDrmInit := true }.initVideoSessions_l).updateHdmiConnectStatusLocked_frame answers
  exact ⟨polled.mDrmInit, polled.listeners⟩

theorem updateHdmiConnectionStatus_frame (c : Composer) (answers : Answers) (connected : Bool) :
    Hotplug c answers (c.updateHdmiConnectionStatus answers connected).composer := by
  have polled := c.updateVideoOn.updateHdmiConnectStatusLocked_frame answers
  have scaling := (c.updateVideoOn.updateHdmiConnectStatusLocked answers).composer
    |>.resetScaling_scalingOnly answers
  exact ⟨scaling.mMode, scaling.mDrmInit.trans polled.mDrmInit,
    scaling.listeners.trans polled.listeners, scaling.mVideos.trans polled.mVideos⟩

theorem updateHdmiConnectionStatus_messages (c : Composer) (answers : Answers)
    (connected : Bool) :
    (c.updateHdmiConnectionStatus answers connected).messages =
      if c.mMode ≠ (c.updateVideoOn.updateHdmiConnectStatusLocked answers).composer.mMode then
        ((c.updateVideoOn.updateHdmiConnectStatusLocked answers).composer.modeMessages
          false).filterMap Effect.message?
      else [] := by
  have polled := (c.updateVideoOn.updateHdmiConnectStatusLocked_frame answers).messages
  have scaling := ((c.updateVideoOn.updateHdmiConnectStatusLocked answers).composer
    |>.resetScaling_scalingOnly answers).messages
  simp only [Outcome.messages] at polled scaling
  simp only [updateHdmiConnectionStatus, notifyHotplugLocked, Outcome.messages, reduceCtorEq,
    if_false, List.filterMap_append, polled, scaling, List.nil_append, List.append_nil]
  split
  · rw [List.filterMap_append]
    exact List.append_nil _
  · rfl

theorem updateHdmiConnectionStatus_audio (c : Composer) (answers : Answers) (connected : Bool) :
    (c.updateHdmiConnectionStatus answers connected).audio =
      if c.mMode ≠ (c.updateVideoOn.updateHdmiConnectStatusLocked answers).composer.mMode then
        [connected]
      else [] := by
  have polled := (c.updateVideoOn.updateHdmiConnectStatusLocked_frame answers).audio
  have scaling := ((c.updateVideoOn.updateHdmiConnectStatusLocked answers).composer
    |>.resetScaling_scalingOnly answers).audio
  simp only [Outcome.audio] at polled scaling
  simp only [updateHdmiConnectionStatus, notifyHotplugLocked, Outcome.audio, reduceCtorEq,
    if_false, List.filterMap_append, polled, scaling, List.nil_append, List.append_nil]
  split
  · rw [List.filterMap_append, modeMessages_audio]
    rfl
  · rfl

/-- A state update is refused, or finds the state in place, or stores it in one session and
brings the mode up to date, with a message to the listeners if that has changed. -/
theorem updateVideoState_cases (c : Composer) (answers : Answers) (sessionId state : Int) :
    ((sessionIndex sessionId = none ∨ state < MDS_VIDEO_PREPARING ∨
        MDS_VIDEO_UNPREPARED < state) ∧
      c.updateVideoState answers sessionId state = ⟨UNKNOWN_ERROR, c, []⟩) ∨
    (∃ i, sessionIndex sessionId = some i ∧ (c.mVideos i).mState = state ∧
      c.updateVideoState answers sessionId state = ⟨NO_ERROR, c, []⟩) ∨
    ∃ i session, sessionIndex sessionId = some i ∧ session.mState = state ∧
      c.updateVideoState answers sessionId state =
        ⟨c.mMDSCallback.elim NO_ERROR fun _ => answers.updateVideoState,
          (c.setSession i session).updateVideoOn,
          c.callbackVideoState sessionId state ++
            if c.mMode ≠ (c.setSession i session).updateVideoOn.mMode then
              (c.setSession i session).updateVideoOn.modeMessages
                (decide (MDS_VIDEO_UNPREPARED ≤ state))
            else []⟩ := by
  simp only [updateVideoState]
  split
  · rename_i index
    exact .inl ⟨.inl index, rfl⟩
  · rename_i i index
    split
    · rename_i same
      exact .inr (.inl ⟨i, index, same, rfl⟩)
    · by_cases refused : state < MDS_VIDEO_PREPARING ∨ MDS_VIDEO_UNPREPARED < state
      · have result : ((c.mVideos i).setState state).1 ≠ NO_ERROR := by
          simp only [MultiDisplayVideoSession.setState, if_pos refused]
          decide
        rw [if_pos result]
        exact .inl ⟨.inr refused, rfl⟩
      · have set : (c.mVideos i).setState state =
            (NO_ERROR, { c.mVideos i with mState := state }) := if_neg refused
        rw [set, if_neg (by simp)]
        refine .inr (.inr ⟨i, _, index, ?_, rfl⟩)
        simp only [decide_eq_true_eq]
        split
        · rename_i closed
          have bound := not_lt.mp (not_or.mp refused).2
          exact le_antisymm closed bound
        · rfl

theorem call_mDrmInit (c : Composer) (answers : Answers) (call : Call) :
    (c.call answers call).composer.mDrmInit = c.mDrmInit := by
  cases call with
  | updateVideoState sessionId state =>
      simp only [Composer.call]
      rcases c.updateVideoState_cases answers sessionId state with ⟨_, refused⟩ |
        ⟨i, _, _, same⟩ | ⟨i, session, _, _, stored⟩
      · rw [refused]
      · rw [same]
      · rw [stored]
        rfl
  | resetVideoPlayback =>
      simp only [Composer.call, resetVideoPlayback]
      split <;> rfl
  | updateVideoSourceInfo sessionId info =>
      simp only [Composer.call, updateVideoSourceInfo]
      split
      · rfl
      · split <;> rfl
  | setDecoderOutputResolution sessionId config =>
      simp only [Composer.call, setDecoderOutputResolution]
      split <;> rfl
  | updateHdmiConnectionStatus connected =>
      exact (c.updateHdmiConnectionStatus_frame answers connected).mDrmInit
  | updateWidiConnectionStatus connected => rfl
  | registerCallback cbk => exact (c.registerCallback_frame answers cbk).mDrmInit
  | unregisterCallback => rfl
  | registerListener listener name msg => rfl
  | unregisterListener listenerId => rfl
  | setHdmiScalingType type => exact (c.setHdmiScalingType_scalingOnly answers type).mDrmInit
  | setHdmiOverscan hVal vVal => exact (c.setHdmiOverscan_scalingOnly answers hVal vVal).mDrmInit
  | setVppState dpyId connected status =>
      simp only [Composer.call, setVppState]
      split
      · split <;> rfl
      · rfl

end Composer

end A500cg.Mds
