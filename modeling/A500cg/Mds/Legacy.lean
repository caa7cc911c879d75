import A500cg.Lib.Flags
import A500cg.Lib.Machine
import A500cg.Mds.Composer

/-! The legacy `MultiDisplayComposer` (`ctp_legacy`): the mode word, the HDMI and panel
policies, and the thread that serves the panel requests.

The steps are whole operations in sequence; the thread takes a request in one step and
serves it in another. What the DRM layer answers is an argument of the step. The
calls out of the composer are collected in `calls`; a broadcast is one call, whoever listens. -/

namespace A500cg.Mds.Legacy

open Lib

def MDS_MIPI_ON : BitVec 32 := 0x1
def MDS_HDMI_CONNECTED : BitVec 32 := 0x1 <<< 3
def MDS_HDMI_ON : BitVec 32 := 0x1 <<< 4
def MDS_HDMI_CLONE : BitVec 32 := 0x1 <<< 5
def MDS_HDMI_VIDEO_EXT : BitVec 32 := 0x1 <<< 6
def MDS_WIDI_ON : BitVec 32 := 0x1 <<< 7
def MDS_VIDEO_PLAYING : BitVec 32 := 0x1 <<< 23
def MDS_HDCP_ON : BitVec 32 := 0x1 <<< 24
def MDS_OVERLAY_OFF : BitVec 32 := 0x1 <<< 25

-- A policy arrives as any integer of a parcel.
def MDS_HDMI_ON_NOT_ALLOWED : Int := 0
def MDS_HDMI_ON_ALLOWED : Int := 1
def MDS_MIPI_OFF_NOT_ALLOWED : Int := 2
def MDS_MIPI_OFF_ALLOWED : Int := 3

def MDS_NO_ERROR : Int := 0
def MDS_ERROR : Int := -1

structure MDSVideoSourceInfo where
  isPlaying : Bool
  isProtected : Bool
  frameRate : Int
  displayW : Int
  displayH : Int
  isInterlaced : Bool
  deriving DecidableEq, Repr

def MDSVideoSourceInfo.zero : MDSVideoSourceInfo := ⟨false, false, 0, 0, 0, false⟩

inductive TimingRequest where
  | videoExt (width height refresh : Int)
  | clone
  deriving DecidableEq, Repr

/-- A call out of the composer, with its answer where one is read. -/
inductive Call where
  | getConnectionStatus (status : ConnectStatus)
  | mipiSetMode (on : Bool)
  | notifyAudioHotplug (plugin : Bool)
  | disableHdcp (connected : Bool)
  | enableHdcp (enabled : Bool)
  | setHdmiVideoOn
  | setHdmiVideoOff
  | onHdmiDisconnected
  | setHdmiTiming (request : TimingRequest)
  | modeChange (mode : BitVec 32)
  | setVideoStatus (status : Int)
  | setDisplayScaling
  deriving DecidableEq, Repr

inductive MipiReq where
  | none
  | off
  | on
  deriving DecidableEq, Repr

/-- The members of the class, the request that the thread has taken and not yet served, and
the calls made so far. -/
structure Composer where
  mDrmInit : Bool
  mMode : BitVec 32
  mHdmiPolicy : Int
  mMipiPolicy : Int
  mMipiOn : Bool
  mMipiReq : MipiReq
  mWidiVideoExt : Bool
  mConnectStatus : ConnectStatus
  mVideo : MDSVideoSourceInfo
  mVideoState : Int
  mipiOn : Option Bool
  calls : List Call
  deriving DecidableEq, Repr

structure Answers where
  connectStatus : ConnectStatus
  enableHdcp : Bool
  isDeviceChanged : Bool
  deriving DecidableEq, Repr

namespace Composer

def emit (c : Composer) (call : Call) : Composer := { c with calls := c.calls ++ [call] }

def setMode (c : Composer) (bits : BitVec 32) : Composer := { c with mMode := c.mMode ||| bits }

def clearMode (c : Composer) (bits : BitVec 32) : Composer :=
  { c with mMode := c.mMode &&& ~~~bits }

def checkMode (c : Composer) (bit : BitVec 32) : Bool := c.mMode &&& bit = bit

/-- `broadcastMessage_l` of the current mode. -/
def broadcastMode (c : Composer) : Composer := c.emit (.modeChange c.mMode)

/-! The parts of `setHdmiMode_l`, in the order of the source. -/

def updateVideoPlaying (c : Composer) : Composer :=
  if c.mVideo.isPlaying then c.setMode MDS_VIDEO_PLAYING else c.clearMode MDS_VIDEO_PLAYING

def turnOnMipi (c : Composer) : Composer :=
  let c := { c with mMipiPolicy := MDS_MIPI_OFF_NOT_ALLOWED }
  if !c.checkMode MDS_MIPI_ON then
    { (c.emit (.mipiSetMode true)).setMode MDS_MIPI_ON with mMipiOn := true }
  else c

def clearHdmi (c : Composer) : Composer :=
  let c := (c.clearMode MDS_HDMI_CONNECTED).clearMode MDS_HDMI_ON
  let c := (c.clearMode MDS_HDCP_ON).clearMode MDS_HDMI_CLONE
  (c.clearMode MDS_HDMI_VIDEO_EXT).clearMode MDS_OVERLAY_OFF

def hdmiDisconnected (c : Composer) : Composer :=
  if !c.checkMode MDS_HDMI_CONNECTED then
    { c.broadcastMode with mConnectStatus := .disconnected }
  else
    let c := (c.emit (.notifyAudioHotplug false)).emit (.disableHdcp false)
    { c.clearHdmi.broadcastMode.emit .onHdmiDisconnected with mConnectStatus := .disconnected }

def notifyPluggedOff (c : Composer) (connectStatus : ConnectStatus) (notify : Bool) : Composer :=
  if c.mConnectStatus ≠ connectStatus && notify && c.mDrmInit then
    { c.emit (.notifyAudioHotplug true) with mConnectStatus := connectStatus }
  else c

def turnOffHdmi (c : Composer) : Composer :=
  if !c.checkMode MDS_HDMI_ON then c.broadcastMode
  else
    let c := if c.checkMode MDS_HDCP_ON then c.emit (.disableHdcp true) else c
    let c := (c.clearMode MDS_HDCP_ON).clearMode MDS_HDMI_ON
    let c := (c.clearMode MDS_HDMI_CLONE).clearMode MDS_HDMI_VIDEO_EXT
    c.broadcastMode.emit .setHdmiVideoOff

def disableHdcp (c : Composer) : Composer :=
  if c.checkMode MDS_HDCP_ON then (c.emit (.disableHdcp true)).clearMode MDS_HDCP_ON else c

def setHdmiTiming (c : Composer) : Composer :=
  if c.mVideo.isPlaying then
    c.emit (.setHdmiTiming (.videoExt c.mVideo.displayW c.mVideo.displayH c.mVideo.frameRate))
  else c.emit (.setHdmiTiming .clone)

def enableHdcp (c : Composer) (answers : Answers) : Composer :=
  let c := c.emit (.enableHdcp answers.enableHdcp)
  if answers.enableHdcp then c.setMode MDS_HDCP_ON else c

def chooseMode (c : Composer) : Composer :=
  if c.mVideo.isPlaying then
    { (c.setMode MDS_HDMI_VIDEO_EXT).clearMode MDS_HDMI_CLONE with
      mMipiPolicy := MDS_MIPI_OFF_ALLOWED }
  else (c.clearMode MDS_HDMI_VIDEO_EXT).setMode MDS_HDMI_CLONE

def turnOnHdmi (c : Composer) : Composer :=
  if !c.checkMode MDS_HDMI_ON then
    ((c.emit .setHdmiVideoOn).setMode MDS_HDMI_ON).broadcastMode
  else c

def turnOnOverlay (c : Composer) : Composer :=
  if c.checkMode MDS_HDMI_VIDEO_EXT then c.clearMode MDS_OVERLAY_OFF else c

def changeHdmiMode (c : Composer) (answers : Answers) : Composer :=
  let transitionalMode := (c.mMode &&& ~~~MDS_HDMI_CLONE) &&& ~~~MDS_HDMI_VIDEO_EXT
  let c := c.emit (.modeChange (transitionalMode ||| MDS_OVERLAY_OFF))
  let c := c.disableHdcp.setHdmiTiming.enableHdcp answers
  let c := (c.setMode MDS_OVERLAY_OFF).chooseMode.broadcastMode
  c.turnOnHdmi.turnOnOverlay.broadcastMode

def hdmiAllowed (c : Composer) (answers : Answers) (notify : Bool) : Composer :=
  let c := { c with mConnectStatus := answers.connectStatus }
  if c.mVideo.isPlaying && c.checkMode MDS_HDMI_VIDEO_EXT then c.broadcastMode
  else if !c.mVideo.isPlaying && c.checkMode MDS_HDMI_CLONE then c.broadcastMode
  else
    let c := c.changeHdmiMode answers
    -- The audio driver is told last, and only of a connection that is new.
    if notify && c.mDrmInit then c.emit (.notifyAudioHotplug true) else c

def needsMipi (c : Composer) (connectStatus : ConnectStatus) : Bool :=
  connectStatus = .disconnected || c.mHdmiPolicy = MDS_HDMI_ON_NOT_ALLOWED ||
    c.mVideo.isPlaying = false

def followConnection (c : Composer) (answers : Answers) : Composer :=
  if answers.connectStatus = .disconnected then c.hdmiDisconnected
  else
    let notify := c.mMode &&& MDS_HDMI_CONNECTED = 0
    let c := c.setMode MDS_HDMI_CONNECTED
    if c.mHdmiPolicy = MDS_HDMI_ON_NOT_ALLOWED then
      (c.notifyPluggedOff answers.connectStatus notify).turnOffHdmi
    else c.hdmiAllowed answers notify

def setHdmiMode_l (dviSupported : Bool) (answers : Answers) (c : Composer) : Int × Composer :=
  let c := c.updateVideoPlaying.emit (.getConnectionStatus answers.connectStatus)
  if !dviSupported && answers.connectStatus = .dvi then
    (MDS_ERROR, { c.broadcastMode with mConnectStatus := .dvi })
  else
    let c := if c.needsMipi answers.connectStatus then c.turnOnMipi else c
    (MDS_NO_ERROR, c.followConnection answers)

/-! The operations. -/

def setModePolicy_l (dviSupported : Bool) (answers : Answers) (policy : Int) (c : Composer) :
    Int × Composer :=
  if policy = MDS_HDMI_ON_NOT_ALLOWED || policy = MDS_HDMI_ON_ALLOWED then
    setHdmiMode_l dviSupported answers { c with mHdmiPolicy := policy }
  else if policy = MDS_MIPI_OFF_NOT_ALLOWED then
    let c := { c with mMipiPolicy := policy }
    let c := if !c.checkMode MDS_MIPI_ON then c.emit (.mipiSetMode true) else c
    (MDS_NO_ERROR, { c.setMode MDS_MIPI_ON with mMipiOn := true }.broadcastMode)
  else if policy = MDS_MIPI_OFF_ALLOWED then
    let c := { c with mMipiPolicy := policy }
    let c := if c.checkMode MDS_MIPI_ON then c.emit (.mipiSetMode false) else c
    (MDS_NO_ERROR, { c.clearMode MDS_MIPI_ON with mMipiOn := false }.broadcastMode)
  else (MDS_ERROR, c)

def prepareForVideo (dviSupported : Bool) (answers : Answers) (status : Int) (c : Composer) :
    Int × Composer :=
  if c.mVideoState = status then (MDS_NO_ERROR, c)
  else
    let c := { c with mVideoState := status }.emit (.setVideoStatus status)
    if status = MDS_VIDEO_UNPREPARED then
      setHdmiMode_l dviSupported answers { c with mVideo := MDSVideoSourceInfo.zero }
    else (MDS_NO_ERROR, c)

def updateVideoInfo (dviSupported : Bool) (answers : Answers) (info : MDSVideoSourceInfo)
    (c : Composer) : Int × Composer :=
  setHdmiMode_l dviSupported answers { c with mVideo := info }

def notifyHotPlug (dviSupported : Bool) (answers : Answers) (c : Composer) : Int × Composer :=
  let (ret, c) := setHdmiMode_l dviSupported answers c
  (ret, if answers.isDeviceChanged && c.mConnectStatus = .hdmi then c.emit .setDisplayScaling
    else c)

def notifyWidi (on : Bool) (c : Composer) : Int × Composer :=
  let c := { c with mWidiVideoExt := on }
  (MDS_NO_ERROR, if c.mWidiVideoExt then c.setMode MDS_WIDI_ON else c.clearMode MDS_WIDI_ON)

def notifyMipi (on : Bool) (c : Composer) : Int × Composer :=
  (MDS_NO_ERROR, { c with mMipiReq := if on then .on else .off })

def setMipiMode_l (on : Bool) (c : Composer) : Int × Composer :=
  if c.mMipiOn = on then (MDS_NO_ERROR, c)
  else if on then
    (MDS_NO_ERROR, { (c.emit (.mipiSetMode true)).setMode MDS_MIPI_ON with mMipiOn := on })
  else if !c.mWidiVideoExt then
    if !c.checkMode MDS_HDMI_VIDEO_EXT then (MDS_ERROR, c.broadcastMode)
    else
      let c := if c.mMipiPolicy = MDS_MIPI_OFF_ALLOWED then
          (c.emit (.mipiSetMode false)).clearMode MDS_MIPI_ON
        else c
      (MDS_NO_ERROR, { c with mMipiOn := on })
  else (MDS_NO_ERROR, { (c.emit (.mipiSetMode false)).clearMode MDS_MIPI_ON with mMipiOn := on })

/-- The first half of a round of `threadLoop`. After a wakeup without a request, none is
read as off. -/
def threadTakes (c : Composer) : Composer :=
  { c with mipiOn := some (decide (c.mMipiReq = .on)), mMipiReq := .none }

def threadServes (c : Composer) : Composer :=
  match c.mipiOn with
  | none => c
  | some on => { (setMipiMode_l on c).2 with mipiOn := none }

end Composer

/-- The constructor up to `initialize_l`; `mVideoState` is not initialised by it. -/
def Composer.construct (mVideoState : Int) : Composer where
  mDrmInit := false
  mMode := 0
  mHdmiPolicy := MDS_HDMI_ON_ALLOWED
  mMipiPolicy := MDS_MIPI_OFF_NOT_ALLOWED
  mMipiOn := true
  mMipiReq := .none
  mWidiVideoExt := false
  mConnectStatus := .disconnected
  mVideo := MDSVideoSourceInfo.zero
  mVideoState := mVideoState
  mipiOn := none
  calls := []

structure Boot where
  dviSupported : Bool
  drmInit : Bool
  isSupported : Bool
  answers : Answers
  mVideoState : Int
  deriving DecidableEq, Repr

def initialize_l (boot : Boot) : Composer :=
  let c := Composer.construct boot.mVideoState
  if !boot.drmInit then c
  else
    let c := { c with mDrmInit := true }
    let c := if boot.isSupported then
        (c.setModePolicy_l boot.dviSupported boot.answers MDS_HDMI_ON_ALLOWED).2
      else c
    (c.setModePolicy_l boot.dviSupported boot.answers MDS_MIPI_OFF_NOT_ALLOWED).2

inductive Operation where
  | updateVideoInfo (info : MDSVideoSourceInfo)
  | prepareForVideo (status : Int)
  | notifyHotPlug
  | setModePolicy (policy : Int)
  | notifyWidi (on : Bool)
  | notifyMipi (on : Bool)
  | threadTakes
  | threadServes
  deriving DecidableEq, Repr

/-- One operation. Every entry point returns `MDS_ERROR` if `drm_init` failed, and the thread
only runs if it did not. -/
def Composer.step (dviSupported : Bool) (c : Composer) (event : Answers × Operation) : Composer :=
  if c.mDrmInit = false then c
  else match event.2 with
    | .updateVideoInfo info => (c.updateVideoInfo dviSupported event.1 info).2
    | .prepareForVideo status => (c.prepareForVideo dviSupported event.1 status).2
    | .notifyHotPlug => (c.notifyHotPlug dviSupported event.1).2
    | .setModePolicy policy => (c.setModePolicy_l dviSupported event.1 policy).2
    | .notifyWidi on => (c.notifyWidi on).2
    | .notifyMipi on => (c.notifyMipi on).2
    | .threadTakes => if c.mipiOn = none then c.threadTakes else c
    | .threadServes => c.threadServes

def Composer.run (boot : Boot) (events : List (Answers × Operation)) : Composer :=
  events.foldl (Composer.step boot.dviSupported) (initialize_l boot)

end A500cg.Mds.Legacy
