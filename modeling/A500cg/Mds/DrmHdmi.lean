import A500cg.Lib.Distinct
import A500cg.Mds.Composer
import A500cg.Mds.HdmiControl

/-! `drm_hdmi.cpp`: the connector that each poll reads, the timings that are parsed from it
on demand, and the timing that the user selected.

What the examination of the EDID finds is part of the connector. The preferred mode comes
later. -/

namespace A500cg.Mds

open Lib

structure ModeInfo where
  hdisplay : Nat
  vdisplay : Nat
  vrefresh : UInt32
  flags : UInt32
  pictureAspectRatio : UInt32
  deriving DecidableEq, Repr

/-- What the driver reports: the modes, unless the pointer is null, and what
`drm_hdmi_getConnectionStatus` makes of the rest. -/
structure Connector where
  modes : Option (List ModeInfo)
  status : ConnectStatus
  deriving DecidableEq, Repr

/-- Which `#ifdef VPG_DRM` branches are built, and the constants of the driver's headers. -/
structure DrmBuild where
  vpgDrm : Bool
  flagInterlace : UInt32
  flagPar16_9 : UInt32
  flagPar4_3 : UInt32
  aspect16_9 : UInt32
  aspect4_3 : UInt32

structure DrmContext where
  hdmiSupported : Bool
  connected : Bool
  selectedModeIndex : Int
  hdmiTimings : List MDSHdmiTiming
  hdmiConnector : Option Connector
  deriving DecidableEq, Repr

def drmInit (hdmiSupported : Bool) : DrmContext := ⟨hdmiSupported, false, -1, [], none⟩

def clearHdmiTimings (c : DrmContext) : DrmContext :=
  { c with selectedModeIndex := -1, hdmiTimings := [] }

def getHdmiConnector (found : Option Connector) (c : DrmContext) :
    Option (List ModeInfo × ConnectStatus) × DrmContext :=
  let c := if c.hdmiConnector = none then { c with hdmiConnector := found } else c
  (c.hdmiConnector.bind fun connector => connector.modes.map fun modes => (modes, connector.status),
    c)

def drmHdmiGetConnectionStatus (found : Option Connector) (c : DrmContext) :
    ConnectStatus × DrmContext :=
  if !c.hdmiSupported then (.disconnected, c)
  else
    let c := { c with hdmiConnector := none, connected := false }
    match getHdmiConnector found c with
    | (none, c) => (.disconnected, c)
    | (some (_, status), c) => (status, { c with connected := decide (status ≠ .disconnected) })

def drmHdmiOnHdmiDisconnected (c : DrmContext) : DrmContext :=
  { clearHdmiTimings c with connected := false, hdmiConnector := none }

/-- The two calls of `updateHdmiConnectStatusLocked`. -/
def pollConnector (found : Option Connector) (c : DrmContext) : DrmContext :=
  match drmHdmiGetConnectionStatus found c with
  | (.disconnected, c) => drmHdmiOnHdmiDisconnected c
  | (_, c) => c

def DrmBuild.timing (build : DrmBuild) (mode : ModeInfo) : MDSHdmiTiming where
  width := mode.hdisplay
  height := mode.vdisplay
  refresh := mode.vrefresh
  interlace := if mode.flags &&& build.flagInterlace ≠ 0 then 1 else 0
  ratio :=
    if build.vpgDrm then
      if mode.pictureAspectRatio = build.aspect16_9 then 2
      else if mode.pictureAspectRatio = build.aspect4_3 then 1 else 0
    else
      if mode.flags &&& build.flagPar16_9 ≠ 0 then 2
      else if mode.flags &&& build.flagPar4_3 ≠ 0 then 1 else 0
  flags := mode.flags

def DrmBuild.duplicated (build : DrmBuild) (bak : MDSHdmiTiming) (mode : ModeInfo) : Bool :=
  bak.width = mode.hdisplay && bak.height = mode.vdisplay && bak.refresh = mode.vrefresh &&
    if build.vpgDrm then bak.flags = mode.flags && bak.ratio = mode.pictureAspectRatio.toNat
    else bak.flags &&& build.flagInterlace = mode.flags &&& build.flagInterlace &&
      bak.flags &&& build.flagPar16_9 = mode.flags &&& build.flagPar16_9 &&
      bak.flags &&& build.flagPar4_3 = mode.flags &&& build.flagPar4_3

def parseHdmiTimings (build : DrmBuild) (found : Option Connector) (c : DrmContext) :
    Nat × DrmContext :=
  match getHdmiConnector found c with
  | (none, c) => (0, c)
  | (some (modes, _), c) =>
      if modes.length > HDMI_TIMING_MAX then (0, { c with hdmiConnector := none })
      else
        let timings := modes.foldl (addNew build.timing build.duplicated) c.hdmiTimings
        (timings.length - c.hdmiTimings.length, { c with hdmiTimings := timings })

def drmHdmiGetTimingNumber (build : DrmBuild) (found : Option Connector) (c : DrmContext) :
    Nat × DrmContext :=
  if !c.hdmiSupported || !c.connected then (0, c)
  else if c.hdmiTimings.length > 0 then (c.hdmiTimings.length, c)
  else parseHdmiTimings build found c

def drmHdmiGetTimings (build : DrmBuild) (found : Option Connector) (count : Int)
    (list : Option (List (Option MDSHdmiTiming))) (c : DrmContext) :
    (Bool × Option (List (Option MDSHdmiTiming))) × DrmContext :=
  if !c.hdmiSupported || !c.connected then ((false, list), c)
  else if count ≤ 0 || list = none then ((false, list), c)
  else
    let (parsed, c) := if c.hdmiTimings.length ≤ 0 then parseHdmiTimings build found c
      else (c.hdmiTimings.length, c)
    let validCnt := min parsed count.toNat
    let copied := list.map fun buffers => buffers.mapIdx fun i buffer =>
      if i < validCnt then buffer.map fun old => c.hdmiTimings.getD i old else buffer
    ((true, copied), c)

/-- The comparison of `drm_hdmi_checkTiming`; the flags are not looked at. -/
def sameTiming (timing bak : MDSHdmiTiming) : Bool :=
  timing.width = bak.width && timing.height = bak.height && timing.refresh = bak.refresh &&
    timing.interlace = bak.interlace && timing.ratio = bak.ratio

def drmHdmiCheckTiming (timing : Option MDSHdmiTiming) (c : DrmContext) :
    (Bool × Option MDSHdmiTiming) × DrmContext :=
  match timing with
  | none => ((false, none), c)
  | some wanted =>
      if !c.hdmiSupported || !c.connected then ((false, timing), c)
      else match c.hdmiTimings.findIdx? (sameTiming wanted) with
        | none => ((false, timing), c)
        | some i =>
            ((true, some { wanted with flags := (c.hdmiTimings.getD i wanted).flags }),
              { c with selectedModeIndex := i })

/-- A monitor at the end of the cable; the serial number tells two of one kind apart. -/
structure Sink where
  serial : Nat
  connector : Connector
  deriving DecidableEq, Repr

inductive TimingEvent where
  | poll (sink : Option Sink)
  | getTimingNumber (sink : Option Sink)
  | getTimings (sink : Option Sink) (count : Int) (list : Option (List (Option MDSHdmiTiming)))
  | checkTiming (timing : Option MDSHdmiTiming)
  deriving DecidableEq, Repr

/-- The context, the sink that the latest poll reported, and the indices that
`drm_hdmi_checkTiming` chose since that sink was connected. -/
structure TimingRun where
  context : DrmContext
  seen : Option Sink
  chosen : List Nat
  deriving DecidableEq, Repr

def TimingRun.start (hdmiSupported : Bool) : TimingRun := ⟨drmInit hdmiSupported, none, []⟩

def connectorOf (sink : Option Sink) : Option Connector := sink.map Sink.connector

def TimingRun.step (build : DrmBuild) (r : TimingRun) : TimingEvent → TimingRun
  | .poll sink =>
      let context := pollConnector (connectorOf sink) r.context
      let seen := if context.connected then sink else none
      ⟨context, seen, if seen = r.seen then r.chosen else []⟩
  | .getTimingNumber sink =>
      { r with context := (drmHdmiGetTimingNumber build (connectorOf sink) r.context).2 }
  | .getTimings sink count list =>
      { r with context := (drmHdmiGetTimings build (connectorOf sink) count list r.context).2 }
  | .checkTiming timing =>
      let (done, context) := drmHdmiCheckTiming timing r.context
      { r with
        context := context
        chosen := if done.1 then context.selectedModeIndex.toNat :: r.chosen else r.chosen }

end A500cg.Mds
