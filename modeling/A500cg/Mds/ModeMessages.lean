import A500cg.Mds.Composer

/-! What the listeners for mode changes are told, over whole runs of the composer. -/

namespace A500cg.Mds

open Lib

/-- What a listener knows: the mode when it registered and the last message since. -/
structure Watch where
  registered : BitVec 32
  last : Option (BitVec 32)

/-- There was no message and the mode has not changed, or the last message had it. -/
def Watch.UpToDate (watch : Watch) (mode : BitVec 32) : Prop :=
  match watch.last with
  | none => mode = watch.registered
  | some told => told = mode

theorem Watch.UpToDate.unique {watch : Watch} {mode mode' : BitVec 32}
    (first : watch.UpToDate mode) (second : watch.UpToDate mode') : mode = mode' := by
  simp only [Watch.UpToDate] at first second
  cases known : watch.last with
  | none =>
      rw [known] at first second
      exact first.trans second.symm
  | some told =>
      rw [known] at first second
      exact first.symm.trans second

structure Watched where
  composer : Composer
  watches : Int → Watch

def noteMessage (watches : Int → Watch) (message : MultiDisplayListener × BitVec 32) :
    Int → Watch :=
  Function.update watches message.1.mId { watches message.1.mId with last := some message.2 }

def Watched.call (w : Watched) (event : Answers × Call) : Watched :=
  let outcome := w.composer.call event.1 event.2
  let watches :=
    match event.2 with
    | .registerListener _ _ _ =>
        if 0 ≤ outcome.result then
          Function.update w.watches outcome.result ⟨w.composer.mMode, none⟩
        else w.watches
    | _ => w.watches
  ⟨outcome.composer, outcome.messages.foldl noteMessage watches⟩

/-- A registered listener for mode changes that is not the video driver. -/
def Composer.ModeListener (c : Composer) (listener : MultiDisplayListener) : Prop :=
  listener ∈ c.listeners.mListeners.values ∧ MDS_MSG_MODE_CHANGE &&& listener.mMsg ≠ 0 ∧
    listener.mName ≠ videoDriver

def Watched.Informed (w : Watched) : Prop :=
  ∀ listener, w.composer.ModeListener listener →
    (w.watches listener.mId).UpToDate w.composer.mMode

/-- A callback is registered while the mode is right, or while nobody listens. -/
def Aligned (w : Watched) (event : Answers × Call) : Prop :=
  match event.2 with
  | .registerCallback (some _) =>
      Shows w.composer.mMode event.1.connectStatus ∨ ∀ listener, ¬ w.composer.ModeListener listener
  | _ => True

structure Tells (c : Composer) (outcome : Outcome) : Prop where
  mDrmInit : outcome.composer.mDrmInit = c.mDrmInit
  listeners : outcome.composer.listeners = c.listeners
  told : (outcome.composer.mMode = c.mMode ∧ outcome.messages = []) ∨
    ∃ ignoreVideoDriver, outcome.messages =
      (c.listeners.broadcastMessageLocked MDS_MSG_MODE_CHANGE ignoreVideoDriver).map
        fun listener => (listener, outcome.composer.mMode)

theorem Tells.unchanged (c : Composer) (result : Int) : Tells c ⟨result, c, []⟩ :=
  ⟨rfl, rfl, .inl ⟨rfl, rfl⟩⟩

theorem ScalingOnly.tells {c : Composer} {outcome : Outcome} (only : ScalingOnly c outcome) :
    Tells c outcome :=
  ⟨only.mDrmInit, only.listeners, .inl ⟨only.mMode, only.messages⟩⟩

def Call.TellsMode : Call → Prop
  | .registerCallback _ => False
  | .registerListener _ _ _ => False
  | .unregisterListener _ => False
  | .setVppState _ _ _ => False
  | _ => True

namespace Composer

theorem callbackVideoState_messages (c : Composer) (sessionId state : Int) :
    (c.callbackVideoState sessionId state).filterMap Effect.message? = [] := by
  simp only [callbackVideoState]
  cases c.mMDSCallback <;> rfl

theorem updateVideoState_tells (c : Composer) (answers : Answers) (sessionId state : Int) :
    Tells c (c.updateVideoState answers sessionId state) := by
  rcases c.updateVideoState_cases answers sessionId state with ⟨_, refused⟩ |
    ⟨i, _, _, same⟩ | ⟨i, session, _, _, stored⟩
  · rw [refused]
    exact .unchanged c _
  · rw [same]
    exact .unchanged c _
  · rw [stored]
    refine ⟨rfl, rfl, ?_⟩
    simp only [Outcome.messages, List.filterMap_append, callbackVideoState_messages,
      List.nil_append]
    split
    · rw [modeMessages_messages]
      exact .inr ⟨_, rfl⟩
    · rename_i same
      exact .inl ⟨(not_not.mp same).symm, rfl⟩

theorem resetVideoPlayback_tells (c : Composer) : Tells c c.resetVideoPlayback := by
  simp only [resetVideoPlayback]
  split
  · exact .unchanged c _
  · refine ⟨rfl, rfl, .inr ⟨false, ?_⟩⟩
    simp only [Outcome.messages, List.filterMap_append, callbackVideoState_messages,
      List.nil_append, modeMessages_messages]
    rfl

theorem updateHdmiConnectionStatus_tells (c : Composer) (answers : Answers) (connected : Bool) :
    Tells c (c.updateHdmiConnectionStatus answers connected) := by
  have polled := c.updateVideoOn.updateHdmiConnectStatusLocked_frame answers
  have hotplug := c.updateHdmiConnectionStatus_frame answers connected
  refine ⟨hotplug.mDrmInit, hotplug.listeners, ?_⟩
  rw [c.updateHdmiConnectionStatus_messages, hotplug.mMode]
  split
  · rw [modeMessages_messages, polled.listeners]
    exact .inr ⟨_, rfl⟩
  · rename_i same
    exact .inl ⟨(not_not.mp same).symm, rfl⟩

theorem call_tells (c : Composer) (answers : Answers) (call : Call) (tells : call.TellsMode) :
    Tells c (c.call answers call) := by
  cases call with
  | updateVideoState sessionId state => exact c.updateVideoState_tells answers sessionId state
  | resetVideoPlayback => exact c.resetVideoPlayback_tells
  | updateVideoSourceInfo sessionId info =>
      simp only [call, updateVideoSourceInfo]
      split
      · exact .unchanged c _
      · split
        · exact .unchanged c _
        · exact ⟨rfl, rfl, .inl ⟨rfl, rfl⟩⟩
  | setDecoderOutputResolution sessionId config =>
      simp only [call, setDecoderOutputResolution]
      split
      · exact .unchanged c _
      · exact ⟨rfl, rfl, .inl ⟨rfl, rfl⟩⟩
  | updateHdmiConnectionStatus connected =>
      exact c.updateHdmiConnectionStatus_tells answers connected
  | updateWidiConnectionStatus connected =>
      exact ⟨rfl, rfl, .inr ⟨false, modeMessages_messages _ _⟩⟩
  | unregisterCallback => exact ⟨rfl, rfl, .inl ⟨rfl, rfl⟩⟩
  | setHdmiScalingType type => exact (c.setHdmiScalingType_scalingOnly answers type).tells
  | setHdmiOverscan hVal vVal => exact (c.setHdmiOverscan_scalingOnly answers hVal vVal).tells
  | _ => exact tells.elim

end Composer

theorem noteMessages_apply (listeners : List MultiDisplayListener) (mode : BitVec 32)
    (watches : Int → Watch) (id : Int) :
    (listeners.map fun listener => (listener, mode)).foldl noteMessage watches id =
      if ∃ listener ∈ listeners, listener.mId = id then { watches id with last := some mode }
      else watches id := by
  induction listeners generalizing watches with
  | nil => simp
  | cons head rest ih =>
      simp only [List.map_cons, List.foldl_cons, ih, noteMessage]
      by_cases same : head.mId = id
      · subst same
        simp
      · simp [same, Function.update_of_ne (Ne.symm same)]

/-- What every run keeps: `init` was successful, and the table of listeners is sound. -/
structure Watched.Sound (w : Watched) : Prop where
  mDrmInit : w.composer.mDrmInit = true
  listeners : Integrity w.composer.listeners

theorem informed_of_tells {w : Watched} {event : Answers × Call} (informed : w.Informed)
    (tells : event.2.TellsMode) : (w.call event).Informed := by
  have outcome := w.composer.call_tells event.1 event.2 tells
  have watches : (w.call event).watches =
      (w.composer.call event.1 event.2).messages.foldl noteMessage w.watches := by
    rcases event with ⟨answers, call⟩
    cases call with
    | registerListener listener name msg => exact tells.elim
    | _ => rfl
  intro listener isMode
  have before : w.composer.ModeListener listener := by
    simp only [Watched.call, Composer.ModeListener, outcome.listeners] at isMode
    exact isMode
  rw [watches]
  rcases outcome.told with ⟨mode, none⟩ | ⟨ignoreVideoDriver, messages⟩
  · rw [none]
    simp only [Watched.call, mode]
    exact informed listener before
  · have reached : listener ∈ w.composer.listeners.broadcastMessageLocked MDS_MSG_MODE_CHANGE
        ignoreVideoDriver :=
      mem_broadcast.mpr ⟨before.1, before.2.1, fun skipped => before.2.2 skipped.2⟩
    rw [messages, noteMessages_apply, if_pos ⟨listener, reached, rfl⟩]
    rfl

theorem informed_of_register {w : Watched} (sound : w.Sound) (informed : w.Informed)
    (answers : Answers) (remote : Option Nat) (name : Option CString) (msg : BitVec 32) :
    (w.call (answers, .registerListener remote name msg)).Informed := by
  rcases w.composer.listeners.registerListener_cases remote name msg with failed |
    ⟨object, text, _, _, _, _, ready, done⟩
  · intro listener isMode
    simp only [Watched.call, Composer.call, Composer.registerListener, failed] at isMode ⊢
    exact informed listener isMode
  · intro listener isMode
    simp only [Watched.call, Composer.call, Composer.registerListener, done,
      if_pos sound.listeners.cursor, Outcome.messages, List.filterMap_nil,
      List.foldl_nil] at isMode ⊢
    rcases List.mem_map.mp isMode.1 with ⟨entry, member, rfl⟩
    rcases (KeyedVector.mem_add _ _ _ _).mp member with same | ⟨older, other⟩
    · subst same
      simp [Watch.UpToDate]
    · have id := (sound.listeners.ids entry older).2.2
      rw [Function.update_of_ne (id ▸ other)]
      exact informed entry.2 ⟨List.mem_map.mpr ⟨entry, older, rfl⟩, isMode.2⟩

theorem informed_of_unregister {w : Watched} (informed : w.Informed) (answers : Answers)
    (listenerId : Int) : (w.call (answers, .unregisterListener listenerId)).Informed := by
  intro listener isMode
  simp only [Watched.call, Composer.call, Composer.unregisterListener,
    ListenerTable.unregisterListener] at isMode ⊢
  refine informed listener ⟨?_, isMode.2⟩
  split at isMode
  · exact isMode.1
  · rcases List.mem_map.mp isMode.1 with ⟨entry, member, rfl⟩
    exact List.mem_map.mpr ⟨entry, ((KeyedVector.mem_removeItem _ _ _).mp member).1, rfl⟩

theorem informed_of_registerCallback_iff {w : Watched} (sound : w.Sound) (informed : w.Informed)
    (answers : Answers) (cbk : Nat) :
    Aligned w (answers, .registerCallback (some cbk)) ↔
      (w.call (answers, .registerCallback (some cbk))).Informed := by
  have frame := w.composer.registerCallback_frame answers (some cbk)
  have mode := Composer.registerCallback_mMode answers cbk sound.mDrmInit
  have after : (w.call (answers, .registerCallback (some cbk))).Informed ↔
      ∀ listener, w.composer.ModeListener listener →
        (w.watches listener.mId).UpToDate
          (polledMode w.composer.mMode answers.connectStatus) := by
    simp only [Watched.Informed, Watched.call, Composer.call, frame.messages, List.foldl_nil, mode,
      Composer.ModeListener, frame.listeners]
  rw [after]
  constructor
  · intro aligned listener isMode
    rcases aligned with shown | nobody
    · rw [(polledMode_eq_self_iff _ _).mpr shown]
      exact informed listener isMode
    · exact absurd isMode (nobody listener)
  · intro informed'
    by_cases somebody : ∃ listener, w.composer.ModeListener listener
    · rcases somebody with ⟨listener, isMode⟩
      have same := (informed' listener isMode).unique (informed listener isMode)
      exact .inl ((polledMode_eq_self_iff _ _).mp same)
    · exact .inr (not_exists.mp somebody)

def Call.IsVpp : Call → Prop
  | .setVppState _ _ _ => True
  | _ => False

theorem informed_call_iff {w : Watched} {event : Answers × Call} (sound : w.Sound)
    (informed : w.Informed) (noVpp : ¬ event.2.IsVpp) :
    Aligned w event ↔ (w.call event).Informed := by
  rcases event with ⟨answers, call⟩
  cases call with
  | registerCallback cbk =>
      cases cbk with
      | none => exact iff_of_true trivial informed
      | some cbk => exact informed_of_registerCallback_iff sound informed answers cbk
  | registerListener remote name msg =>
      exact iff_of_true trivial (informed_of_register sound informed answers remote name msg)
  | unregisterListener listenerId =>
      exact iff_of_true trivial (informed_of_unregister informed answers listenerId)
  | setVppState dpyId connected status => exact absurd trivial noVpp
  | _ => exact iff_of_true trivial (informed_of_tells informed trivial)

theorem sound_call (w : Watched) (event : Answers × Call) (sound : w.Sound) :
    (w.call event).Sound := by
  rcases event with ⟨answers, call⟩
  refine ⟨(w.composer.call_mDrmInit answers call).trans sound.mDrmInit, ?_⟩
  by_cases tells : call.TellsMode
  · have outcome := w.composer.call_tells answers call tells
    exact outcome.listeners ▸ sound.listeners
  · cases call with
    | registerCallback cbk =>
        have frame := w.composer.registerCallback_frame answers cbk
        exact frame.listeners ▸ sound.listeners
    | registerListener remote name msg =>
        exact call_integrity _ (.register remote name msg) sound.listeners
    | unregisterListener listenerId =>
        exact call_integrity _ (.unregister listenerId) sound.listeners
    | setVppState dpyId connected status =>
        simp only [Watched.call, Composer.call, Composer.setVppState]
        split
        · split <;> exact sound.listeners
        · exact sound.listeners
    | _ => exact absurd trivial tells

/-- The composer after a successful `init`, without listeners. -/
def Watched.start (memory : Fin MDS_VIDEO_SESSION_MAX_VALUE → MultiDisplayVideoSession)
    (answers : Answers) : Watched :=
  ⟨Composer.construct true memory answers, fun _ => ⟨MDS_MODE_NONE, none⟩⟩

theorem start_sound (memory) (answers : Answers) : (Watched.start memory answers).Sound := by
  have frame := Composer.construct_frame memory answers
  refine ⟨frame.1, ?_⟩
  simp only [Watched.start, frame.2]
  exact initial_integrity

theorem start_informed (memory) (answers : Answers) : (Watched.start memory answers).Informed := by
  intro listener isMode
  have member := isMode.1
  simp only [Watched.start, (Composer.construct_frame memory answers).2] at member
  exact absurd member List.not_mem_nil

/-- The listeners are up to date after every operation of a run exactly if each callback
that it registers is registered while the mode shows what the poll finds, or while nobody
listens. -/
theorem mode_messages_complete_iff
    (memory : Fin MDS_VIDEO_SESSION_MAX_VALUE → MultiDisplayVideoSession) (answers : Answers)
    (events : List (Answers × Call)) (noVpp : ∀ event ∈ events, ¬ event.2.IsVpp) :
    (∀ before, before <+: events →
      (before.foldl Watched.call (Watched.start memory answers)).Informed) ↔
    Along (fun w event => some (w.call event)) Aligned (Watched.start memory answers) events :=
  holds_throughout_iff_along (fun w event sound _ => sound_call w event sound)
    (fun _ _ sound informed noVpp => informed_call_iff sound informed noVpp)
    (start_sound memory answers) (start_informed memory answers) noVpp

def registerHwc : Call :=
  .registerListener (some 0) (some ⟨[72, 87, 67], by decide⟩) MDS_MSG_MODE_CHANGE

def alignedEvents : List (Answers × Call) :=
  [(Answers.polling .disconnected, registerHwc),
    (Answers.polling .disconnected, .registerCallback (some 1)),
    (Answers.polling .hdmi, .updateHdmiConnectionStatus true)]

theorem mode_messages_complete_after_hotplug :
    Along (fun w event => some (w.call event)) Aligned
        (Watched.start (fun _ => .blank) (Answers.polling .disconnected)) alignedEvents ∧
      ∀ before, before <+: alignedEvents →
        (before.foldl Watched.call
          (Watched.start (fun _ => .blank) (Answers.polling .disconnected))).Informed := by
  have aligned : Along (fun w event => some (w.call event)) Aligned
      (Watched.start (fun _ => .blank) (Answers.polling .disconnected)) alignedEvents := by
    refine ⟨trivial, ?_⟩
    intro registered taken
    cases taken
    refine ⟨.inl ⟨by decide, by decide⟩, ?_⟩
    intro polled taken
    cases taken
    exact ⟨trivial, fun _ _ => trivial⟩
  refine ⟨aligned, (mode_messages_complete_iff _ _ _ ?_).mpr aligned⟩
  intro event member
  simp only [alignedEvents, List.mem_cons, List.not_mem_nil, or_false] at member
  rcases member with rfl | rfl | rfl <;> exact id

/-- HDMI is plugged in between the registration of a listener and that of a callback: the
mode shows it, and the listener never hears. -/
theorem registerCallback_tells_nobody :
    ¬ ∀ before, before <+: [(Answers.polling .disconnected, registerHwc),
        (Answers.polling .hdmi, .registerCallback (some 1))] →
      (before.foldl Watched.call (Watched.start (fun _ => .blank)
        (Answers.polling .disconnected))).Informed := by
  intro informed
  have last := informed _ (List.prefix_refl _)
    ⟨MDS_MSG_MODE_CHANGE, 0, ⟨[72, 87, 67], by decide⟩, 0⟩ ⟨by decide, by decide, by decide⟩
  have stale : MDS_HDMI_CONNECTED = MDS_MODE_NONE := last
  exact absurd stale (by decide)

end A500cg.Mds
