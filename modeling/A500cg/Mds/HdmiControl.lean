import A500cg.Lib.Parcel
import A500cg.Mds.Listeners

/-! `IMultiDisplayHdmiControl.cpp`: the proxy and the stub of the HDMI control interface,
and how far a call through them is the call on the implementation.

The binder hands a request to the stub of the service and its status and reply back. Its
`CHECK_INTERFACE` is an argument `checks`: whether a request passes, from the interface that
the macro names and the token of the request. -/

namespace A500cg.Mds

open Lib

structure MDSHdmiTiming where
  width : Int
  height : Int
  refresh : UInt32
  interlace : Int
  ratio : Int
  flags : UInt32
  deriving DecidableEq, Repr

def MDSHdmiTiming.zero : MDSHdmiTiming := ⟨0, 0, 0, 0, 0, 0⟩

def HDMI_TIMING_MAX : Nat := 128

def PERMISSION_DENIED : Int := -1

/-- An implementation of the interface on a state of its own. A buffer is what it held
before the call; for each buffer the call says what it holds then. -/
structure HdmiControl (σ : Type) where
  setHdmiTiming : MDSHdmiTiming → σ → Int × σ
  getHdmiTimingCount : σ → Int × σ
  getHdmiTimingList : Int → Option (List (Option MDSHdmiTiming)) → σ →
    (Int × (Nat → MDSHdmiTiming)) × σ
  getCurrentHdmiTiming : Option MDSHdmiTiming → σ → (Int × MDSHdmiTiming) × σ
  setHdmiTimingByIndex : Int → σ → Int × σ
  getCurrentHdmiTimingIndex : σ → Int × σ
  setHdmiScalingType : Int → σ → Int × σ
  setHdmiOverscan : Int → Int → σ → Int × σ
  checkHdmiTimingIsFixed : σ → Bool × σ

inductive HdmiCall where
  | setHdmiTiming (timing : MDSHdmiTiming)
  | getHdmiTimingCount
  | getHdmiTimingList (timingCount : Int) (list : Option (List (Option MDSHdmiTiming)))
  | getCurrentHdmiTiming (timing : Option MDSHdmiTiming)
  | setHdmiTimingByIndex (index : Int)
  | getCurrentHdmiTimingIndex
  | setHdmiScalingType (type : Int)
  | setHdmiOverscan (hValue vValue : Int)
  | checkHdmiTimingIsFixed
  deriving DecidableEq, Repr

inductive HdmiResult where
  | value (value : Int)
  | flag (flag : Bool)
  deriving DecidableEq, Repr

structure HdmiAnswer where
  result : HdmiResult
  buffers : List (Option MDSHdmiTiming)
  deriving DecidableEq, Repr

def HdmiAnswer.of (value : Int) : HdmiAnswer := ⟨.value value, []⟩

def fillBuffers (buffers : List (Option MDSHdmiTiming)) (after : Nat → MDSHdmiTiming) :
    List (Option MDSHdmiTiming) :=
  buffers.mapIdx fun i buffer => buffer.map fun _ => after i

def callDirect {σ : Type} (impl : HdmiControl σ) (call : HdmiCall) (s : σ) : HdmiAnswer :=
  match call with
  | .setHdmiTiming timing => .of (impl.setHdmiTiming timing s).1
  | .getHdmiTimingCount => .of (impl.getHdmiTimingCount s).1
  | .getHdmiTimingList timingCount list =>
      let (ret, after) := (impl.getHdmiTimingList timingCount list s).1
      ⟨.value ret, fillBuffers (list.getD []) after⟩
  | .getCurrentHdmiTiming timing =>
      let (ret, after) := (impl.getCurrentHdmiTiming timing s).1
      ⟨.value ret, [timing.map fun _ => after]⟩
  | .setHdmiTimingByIndex index => .of (impl.setHdmiTimingByIndex index s).1
  | .getCurrentHdmiTimingIndex => .of (impl.getCurrentHdmiTimingIndex s).1
  | .setHdmiScalingType type => .of (impl.setHdmiScalingType type s).1
  | .setHdmiOverscan hValue vValue => .of (impl.setHdmiOverscan hValue vValue s).1
  | .checkHdmiTimingIsFixed => ⟨.flag (impl.checkHdmiTimingIsFixed s).1, []⟩

inductive HdmiCode where
  | setHdmiTiming
  | getHdmiTimingCount
  | getHdmiTimingList
  | setHdmiTimingByIndex
  | getCurrentHdmiTiming
  | getCurrentHdmiTimingIndex
  | setHdmiScalingType
  | setHdmiOverScan
  | checkHdmiTimingFixed
  deriving DecidableEq, Repr

def hdmiControlDescriptor : String := "com.intel.MultiDisplayHdmiControl"
def infoProviderDescriptor : String := "com.intel.MultiDisplayInfoProvider"

/-- What the stub finds in its own memory: its uninitialised timing, and whether its
allocations succeed. -/
structure StubMemory where
  stale : MDSHdmiTiming
  allocated : Bool
  deriving DecidableEq, Repr

structure Transacted (σ : Type) where
  status : Int
  reply : List (ParcelValue MDSHdmiTiming)
  state : σ

def checkInterface {σ : Type} (checks : String → String → Bool) (named : String)
    (data : Parcel MDSHdmiTiming) (s : σ) (body : Transacted σ) : Transacted σ :=
  if checks named data.token then body else ⟨PERMISSION_DENIED, [], s⟩

def replyInt {σ : Type} (ret : Int × σ) : Transacted σ := ⟨NO_ERROR, [.int ret.1], ret.2⟩

def onTransact {σ : Type} (checks : String → String → Bool) (impl : HdmiControl σ)
    (memory : StubMemory) (code : HdmiCode) (data : Parcel MDSHdmiTiming) (s : σ) :
    Transacted σ :=
  match code with
  | .setHdmiTiming => checkInterface checks hdmiControlDescriptor data s <|
      let (timing, _) := readBlob memory.stale data.values
      replyInt (impl.setHdmiTiming timing s)
  | .getHdmiTimingCount => checkInterface checks hdmiControlDescriptor data s <|
      replyInt (impl.getHdmiTimingCount s)
  | .getHdmiTimingList => checkInterface checks hdmiControlDescriptor data s <|
      let (count, _) := readInt32 data.values
      if memory.allocated then
        let list := List.replicate count.toNat (some MDSHdmiTiming.zero)
        let ((ret, after), s) := impl.getHdmiTimingList count (some list) s
        ⟨NO_ERROR, (List.range count.toNat).map (fun i => .blob (after i)) ++ [.int ret], s⟩
      else ⟨NO_ERROR, [], s⟩
  | .getCurrentHdmiTiming => checkInterface checks hdmiControlDescriptor data s <|
      let ((ret, timing), s) := impl.getCurrentHdmiTiming (some memory.stale) s
      ⟨NO_ERROR, [.blob timing, .int ret], s⟩
  | .setHdmiTimingByIndex => checkInterface checks hdmiControlDescriptor data s <|
      let (index, _) := readInt32 data.values
      replyInt (impl.setHdmiTimingByIndex index s)
  | .getCurrentHdmiTimingIndex => checkInterface checks hdmiControlDescriptor data s <|
      replyInt (impl.getCurrentHdmiTimingIndex s)
  | .setHdmiScalingType => checkInterface checks hdmiControlDescriptor data s <|
      let (type, _) := readInt32 data.values
      replyInt (impl.setHdmiScalingType type s)
  | .setHdmiOverScan => checkInterface checks hdmiControlDescriptor data s <|
      let (hValue, values) := readInt32 data.values
      let (vValue, _) := readInt32 values
      replyInt (impl.setHdmiOverscan hValue vValue s)
  | .checkHdmiTimingFixed => checkInterface checks infoProviderDescriptor data s <|
      let (ret, s) := impl.checkHdmiTimingIsFixed s
      ⟨NO_ERROR, [.int (if ret then 1 else 0)], s⟩

def proxyInt {σ : Type} (transact : HdmiCode → Parcel MDSHdmiTiming → Transacted σ)
    (code : HdmiCode) (values : List (ParcelValue MDSHdmiTiming)) : HdmiAnswer :=
  let done := transact code ⟨hdmiControlDescriptor, values⟩
  if done.status ≠ NO_ERROR then .of done.status else .of (readInt32 done.reply).1

/-- `BpMultiDisplayHdmiControl`. -/
def callProxy {σ : Type} (transact : HdmiCode → Parcel MDSHdmiTiming → Transacted σ)
    (call : HdmiCall) : HdmiAnswer :=
  match call with
  | .setHdmiTiming timing => proxyInt transact .setHdmiTiming [.blob timing]
  | .getHdmiTimingCount => proxyInt transact .getHdmiTimingCount []
  | .getHdmiTimingList _ none => ⟨.value BAD_VALUE, []⟩
  | .getHdmiTimingList timingCount (some list) =>
      if timingCount ≤ 0 ∨ timingCount > HDMI_TIMING_MAX then ⟨.value BAD_VALUE, list⟩
      else
        let done := transact .getHdmiTimingList ⟨hdmiControlDescriptor, [.int timingCount]⟩
        if done.status ≠ NO_ERROR then ⟨.value done.status, list⟩
        else
          let (present, read, values) := readBlobs (list.take timingCount.toNat) done.reply
          if present then
            ⟨.value (readInt32 values).1, read ++ list.drop timingCount.toNat⟩
          else ⟨.value BAD_VALUE, read ++ list.drop timingCount.toNat⟩
  | .getCurrentHdmiTiming none => ⟨.value BAD_VALUE, [none]⟩
  | .getCurrentHdmiTiming (some timing) =>
      let done := transact .getCurrentHdmiTiming ⟨hdmiControlDescriptor, []⟩
      if done.status ≠ NO_ERROR then ⟨.value done.status, [some timing]⟩
      else
        let (timing, values) := readBlob timing done.reply
        ⟨.value (readInt32 values).1, [some timing]⟩
  | .setHdmiTimingByIndex index => proxyInt transact .setHdmiTimingByIndex [.int index]
  | .getCurrentHdmiTimingIndex => proxyInt transact .getCurrentHdmiTimingIndex []
  | .setHdmiScalingType type => proxyInt transact .setHdmiScalingType [.int type]
  | .setHdmiOverscan hValue vValue =>
      proxyInt transact .setHdmiOverScan [.int hValue, .int vValue]
  | .checkHdmiTimingIsFixed =>
      let done := transact .checkHdmiTimingFixed ⟨hdmiControlDescriptor, []⟩
      if done.status ≠ NO_ERROR then ⟨.flag false, []⟩
      else ⟨.flag (decide ((readInt32 done.reply).1 = 1)), []⟩

def callRemote {σ : Type} (checks : String → String → Bool) (impl : HdmiControl σ)
    (memory : StubMemory) (call : HdmiCall) (s : σ) : HdmiAnswer :=
  callProxy (fun code data => onTransact checks impl memory code data s) call

/-- Arguments that the proxy does not turn down: the list is an array of `timingCount`
buffers, and the pointers are there. -/
def ProxyAccepts : HdmiCall → Prop
  | .getHdmiTimingList timingCount list => 0 < timingCount ∧ timingCount ≤ HDMI_TIMING_MAX ∧
      ∃ buffers, list = some buffers ∧ (buffers.length : Int) = timingCount ∧
        ∀ buffer ∈ buffers, buffer ≠ none
  | .getCurrentHdmiTiming timing => timing ≠ none
  | _ => True

def Unnoticed {σ : Type} (checks : String → String → Bool) (impl : HdmiControl σ)
    (memory : StubMemory) (s : σ) : HdmiCall → Prop
  | .getHdmiTimingList timingCount list =>
      if memory.allocated then
        -- the stub's buffers are zeroed ones
        callDirect impl (.getHdmiTimingList timingCount
          (some (List.replicate timingCount.toNat (some MDSHdmiTiming.zero)))) s =
          callDirect impl (.getHdmiTimingList timingCount list) s
      else callDirect impl (.getHdmiTimingList timingCount list) s = ⟨.value NO_ERROR, list.getD []⟩
  | .getCurrentHdmiTiming timing =>
      -- the stub's timing is an uninitialised one
      callDirect impl (.getCurrentHdmiTiming (some memory.stale)) s =
        callDirect impl (.getCurrentHdmiTiming timing) s
  | .checkHdmiTimingIsFixed =>
      -- the stub names another interface than the proxy
      checks infoProviderDescriptor hdmiControlDescriptor = true ∨
        (impl.checkHdmiTimingIsFixed s).1 = false
  | _ => True

theorem fillBuffers_present (buffers : List (Option MDSHdmiTiming))
    (present : ∀ buffer ∈ buffers, buffer ≠ none) (after : Nat → MDSHdmiTiming) :
    fillBuffers buffers after = (List.range buffers.length).map fun i => some (after i) := by
  apply List.ext_getElem
  · simp [fillBuffers]
  · intro i inside inside'
    simp only [fillBuffers, List.length_mapIdx] at inside
    have here := present buffers[i] (List.getElem_mem inside)
    simp only [fillBuffers, List.getElem_mapIdx, List.getElem_map, List.getElem_range]
    cases buffer : buffers[i] with
    | none => exact absurd buffer here
    | some old => rfl

section Remote

variable {σ : Type} {checks : String → String → Bool}
  (own : checks hdmiControlDescriptor hdmiControlDescriptor = true)
  (impl : HdmiControl σ) (memory : StubMemory) (s : σ)

include own

theorem callRemote_getHdmiTimingList {timingCount : Int}
    {buffers : List (Option MDSHdmiTiming)} (positive : 0 < timingCount)
    (bounded : timingCount ≤ HDMI_TIMING_MAX) (length : (buffers.length : Int) = timingCount)
    (present : ∀ buffer ∈ buffers, buffer ≠ none) :
    callRemote checks impl memory (.getHdmiTimingList timingCount (some buffers)) s =
      if memory.allocated then callDirect impl (.getHdmiTimingList timingCount
        (some (List.replicate timingCount.toNat (some MDSHdmiTiming.zero)))) s
      else ⟨.value NO_ERROR, buffers⟩ := by
  have count : timingCount.toNat = buffers.length := by omega
  have inRange : ¬ (timingCount ≤ 0 ∨ timingCount > (HDMI_TIMING_MAX : Nat)) := by omega
  have whole : buffers.take timingCount.toNat = buffers := List.take_of_length_le (by omega)
  have none : buffers.drop timingCount.toNat = [] := List.drop_of_length_le (by omega)
  rw [callRemote, callProxy, if_neg inRange, whole, none]
  cases allocated : memory.allocated with
  | false =>
      simp only [onTransact, checkInterface, own, ↓reduceIte, allocated, Bool.false_eq_true,
        readBlobs_empty buffers present, List.append_nil, ne_eq, not_true]
      rfl
  | true =>
      have zeroed := fillBuffers_present
        (List.replicate timingCount.toNat (some MDSHdmiTiming.zero))
        (fun buffer member => by rw [List.eq_of_mem_replicate member]; exact Option.some_ne_none _)
      have read := readBlobs_written buffers present 0
      rw [← List.range_eq_range', ← count] at read
      rw [List.length_replicate] at zeroed
      simp only [onTransact, checkInterface, own, ↓reduceIte, readInt32_int, allocated, callDirect,
        Option.getD_some, zeroed, read, List.append_nil, ne_eq, not_true]

omit own in
theorem callRemote_checkHdmiTimingIsFixed :
    callRemote checks impl memory .checkHdmiTimingIsFixed s =
      if checks infoProviderDescriptor hdmiControlDescriptor then
        callDirect impl .checkHdmiTimingIsFixed s
      else ⟨.flag false, []⟩ := by
  have denied : PERMISSION_DENIED ≠ NO_ERROR := by decide
  simp only [callRemote, callProxy, onTransact, checkInterface]
  cases checks infoProviderDescriptor hdmiControlDescriptor with
  | false => simp [denied]
  | true => cases fixed : (impl.checkHdmiTimingIsFixed s).1 <;> simp [callDirect, fixed]

/-- A call through proxy and stub gives the result and the output of the call on the
implementation exactly if the implementation does not notice the stub. -/
theorem remote_eq_direct_iff (call : HdmiCall) (accepts : ProxyAccepts call) :
    callRemote checks impl memory call s = callDirect impl call s ↔
      Unnoticed checks impl memory s call := by
  cases call with
  | getHdmiTimingList timingCount list =>
      rcases accepts with ⟨positive, bounded, buffers, rfl, length, present⟩
      rw [callRemote_getHdmiTimingList own impl memory s positive bounded length present]
      simp only [Unnoticed]
      cases memory.allocated with
      | true => exact Iff.rfl
      | false => exact eq_comm
  | getCurrentHdmiTiming timing =>
      cases timing with
      | none => exact absurd rfl accepts
      | some timing =>
          simp [callRemote, callProxy, onTransact, checkInterface, own, Unnoticed, callDirect]
  | checkHdmiTimingIsFixed =>
      rw [callRemote_checkHdmiTimingIsFixed]
      simp only [Unnoticed]
      split
      · rename_i passes
        exact iff_of_true rfl (.inl passes)
      · rename_i refused
        rw [or_iff_right refused]
        simp only [callDirect, HdmiAnswer.mk.injEq, HdmiResult.flag.injEq, and_true]
        exact eq_comm
  | _ =>
      refine iff_of_true ?_ trivial
      simp [callRemote, callProxy, proxyInt, onTransact, checkInterface, own, replyInt, callDirect]

end Remote

def fixedTiming : HdmiControl Unit where
  setHdmiTiming := fun _ s => (NO_ERROR, s)
  getHdmiTimingCount := fun s => (0, s)
  getHdmiTimingList := fun _ _ s => ((NO_ERROR, fun _ => .zero), s)
  getCurrentHdmiTiming := fun _ s => ((NO_ERROR, .zero), s)
  setHdmiTimingByIndex := fun _ s => (NO_ERROR, s)
  getCurrentHdmiTimingIndex := fun s => (0, s)
  setHdmiScalingType := fun _ s => (NO_ERROR, s)
  setHdmiOverscan := fun _ _ s => (NO_ERROR, s)
  checkHdmiTimingIsFixed := fun s => (true, s)

def checkOwn (_named token : String) : Bool := token = hdmiControlDescriptor

def checkNamed (named token : String) : Bool := token = named

theorem remote_eq_direct_iff_own :
    ProxyAccepts (.getHdmiTimingList 1 (some [some .zero])) ∧
      callRemote checkOwn fixedTiming ⟨.zero, true⟩ (.getHdmiTimingList 1 (some [some .zero])) () =
        callDirect fixedTiming (.getHdmiTimingList 1 (some [some .zero])) () ∧
      callRemote checkOwn fixedTiming ⟨.zero, true⟩ .checkHdmiTimingIsFixed () =
        callDirect fixedTiming .checkHdmiTimingIsFixed () := by
  have own : checkOwn hdmiControlDescriptor hdmiControlDescriptor = true := by decide
  have accepts : ProxyAccepts (.getHdmiTimingList 1 (some [some .zero])) :=
    ⟨by decide, by decide, [some .zero], rfl, rfl, by decide⟩
  exact ⟨accepts, (remote_eq_direct_iff own fixedTiming ⟨.zero, true⟩ () _ accepts).mpr rfl,
    (remote_eq_direct_iff own fixedTiming ⟨.zero, true⟩ () .checkHdmiTimingIsFixed trivial).mpr
      (.inl (by decide))⟩

def noTiming : HdmiControl Unit :=
  { fixedTiming with
    getCurrentHdmiTiming := fun timing s => ((UNKNOWN_ERROR, timing.getD .zero), s) }

/-- What was in the stub's memory comes back to the caller, also where the check is of the
interface that is named. -/
theorem current_timing_left_by_stub :
    ProxyAccepts (.getCurrentHdmiTiming (some .zero)) ∧
      ∀ checks ∈ [checkOwn, checkNamed],
        callRemote checks noTiming ⟨⟨800, 600, 60, 0, 0, 0⟩, true⟩
            (.getCurrentHdmiTiming (some .zero)) () ≠
          callDirect noTiming (.getCurrentHdmiTiming (some .zero)) () :=
  ⟨Option.some_ne_none _, by decide⟩

-- With that check a fixed timing is not reported.
example : callRemote checkNamed fixedTiming ⟨.zero, true⟩ .checkHdmiTimingIsFixed () ≠
    callDirect fixedTiming .checkHdmiTimingIsFixed () := by
  decide

end A500cg.Mds
