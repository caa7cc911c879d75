import A500cg.Mds.VideoOn

/-! The bits of the external displays and what the audio driver is told about them, over
runs of `registerCallback` and `updateHdmiConnectionStatus`. -/

namespace A500cg.Mds

open Lib

inductive ExternalCall where
  | registerCallback (cbk : Option Nat)
  | updateHdmiConnectionStatus (connected : Bool)

def ExternalCall.toCall : ExternalCall → Call
  | .registerCallback cbk => .registerCallback cbk
  | .updateHdmiConnectionStatus connected => .updateHdmiConnectionStatus connected

def ExternalCall.polls : ExternalCall → Bool
  | .registerCallback none => false
  | _ => true

/-- The composer, the status that was polled last, and the values that the audio driver
was told, each with the poll it came after. -/
structure External where
  composer : Composer
  status : ConnectStatus
  audio : List (Bool × ConnectStatus)

def External.call (e : External) (event : Answers × ExternalCall) : External :=
  let outcome := e.composer.call event.1 event.2.toCall
  let status := if event.2.polls then event.1.connectStatus else e.status
  ⟨outcome.composer, status, e.audio ++ outcome.audio.map fun connected => (connected, status)⟩

/-- The bits that describe a status, of which at most one is set. -/
def Describes (mode : BitVec 32) (status : ConnectStatus) : Prop :=
  (HasFlag mode MDS_HDMI_CONNECTED ↔ status = .hdmi) ∧
    (HasFlag mode MDS_DVI_CONNECTED ↔ status = .dvi)

structure External.Exact (e : External) : Prop where
  single : ¬ (HasFlag e.composer.mMode MDS_HDMI_CONNECTED ∧
    HasFlag e.composer.mMode MDS_DVI_CONNECTED)
  bits : Describes e.composer.mMode e.status
  audio : ∀ entry ∈ e.audio, entry.1 = decide (entry.2 ≠ .disconnected)

def OtherClear (mode : BitVec 32) : ConnectStatus → Prop
  | .hdmi => ¬ HasFlag mode MDS_DVI_CONNECTED
  | .dvi => ¬ HasFlag mode MDS_HDMI_CONNECTED
  | .disconnected => True

/-- No display takes the place of one of the other kind, and a hotplug that finds something
new was announced as what it is. -/
def Announced (e : External) (event : Answers × ExternalCall) : Prop :=
  match event.2 with
  | .registerCallback none => True
  | .registerCallback (some _) => OtherClear e.composer.mMode event.1.connectStatus
  | .updateHdmiConnectionStatus connected =>
      OtherClear e.composer.mMode event.1.connectStatus ∧
        (¬ Shows e.composer.mMode event.1.connectStatus →
          connected = decide (event.1.connectStatus ≠ .disconnected))

theorem polledMode_describes_iff (mode : BitVec 32) (status : ConnectStatus) :
    Describes (polledMode mode status) status ↔ OtherClear mode status := by
  cases status with
  | hdmi =>
      have other : HasFlag (mode ||| MDS_HDMI_CONNECTED) MDS_DVI_CONNECTED ↔
          HasFlag mode MDS_DVI_CONNECTED := hasFlag_or.trans (or_iff_left (by decide))
      have own : HasFlag (mode ||| MDS_HDMI_CONNECTED) MDS_HDMI_CONNECTED :=
        hasFlag_or.mpr (.inr (by decide))
      simp [Describes, polledMode, OtherClear, own, other]
  | dvi =>
      have other : HasFlag (mode ||| MDS_DVI_CONNECTED) MDS_HDMI_CONNECTED ↔
          HasFlag mode MDS_HDMI_CONNECTED := hasFlag_or.trans (or_iff_left (by decide))
      have own : HasFlag (mode ||| MDS_DVI_CONNECTED) MDS_DVI_CONNECTED :=
        hasFlag_or.mpr (.inr (by decide))
      simp [Describes, polledMode, OtherClear, own, other]
  | disconnected =>
      refine iff_of_true ⟨iff_of_false ?_ (by decide), iff_of_false ?_ (by decide)⟩ trivial
      · exact not_hasFlag_clear (by decide)
      · exact not_hasFlag_clear (by decide)

theorem Describes.single {mode : BitVec 32} {status : ConnectStatus}
    (bits : Describes mode status) :
    ¬ (HasFlag mode MDS_HDMI_CONNECTED ∧ HasFlag mode MDS_DVI_CONNECTED) := by
  intro both
  have isHdmi := bits.1.mp both.1
  have isDvi := bits.2.mp both.2
  rw [isHdmi] at isDvi
  cases isDvi

theorem exact_iff (e : External) :
    e.Exact ↔ Describes e.composer.mMode e.status ∧
      ∀ entry ∈ e.audio, entry.1 = decide (entry.2 ≠ .disconnected) := by
  constructor
  · intro isExact
    exact ⟨isExact.bits, isExact.audio⟩
  · intro both
    exact ⟨both.1.single, both.1, both.2⟩

/-- What every run keeps: `init` was successful, and `MDS_VIDEO_ON` is right, so that a
hotplug changes the mode through its poll only. -/
structure External.Sound (e : External) : Prop where
  mDrmInit : e.composer.mDrmInit = true
  mirrors : e.composer.Mirrors

theorem Composer.Mirrors.updateVideoOn_mMode {c : Composer} (mirrors : c.Mirrors) :
    c.updateVideoOn.mMode = c.mMode := by
  simp only [Composer.updateVideoOn]
  split
  · rename_i playing
    exact (@set_eq_self_iff 32 c.mMode 3 (by decide)).mpr
      (mirrors.mpr (c.hasVideoPlaying_l_iff.mp playing))
  · rename_i silent
    exact clear_eq_self_iff.mpr fun flag =>
      silent (c.hasVideoPlaying_l_iff.mpr (mirrors.mp flag))

theorem call_registerCallback {e : External} (sound : e.Sound) (answers : Answers) (cbk : Nat) :
    (e.call (answers, .registerCallback (some cbk))).composer.mMode =
        polledMode e.composer.mMode answers.connectStatus ∧
      (e.call (answers, .registerCallback (some cbk))).audio = e.audio := by
  have quiet : (e.composer.call answers (.registerCallback (some cbk))).audio = [] :=
    (e.composer.registerCallback_frame answers (some cbk)).audio
  constructor
  · exact Composer.registerCallback_mMode answers cbk sound.mDrmInit
  · simp only [External.call, ExternalCall.toCall, quiet, List.map_nil, List.append_nil]

theorem call_updateHdmiConnectionStatus {e : External} (sound : e.Sound) (answers : Answers)
    (connected : Bool) :
    (e.call (answers, .updateHdmiConnectionStatus connected)).composer.mMode =
        polledMode e.composer.mMode answers.connectStatus ∧
      (e.call (answers, .updateHdmiConnectionStatus connected)).audio =
        e.audio ++ if polledMode e.composer.mMode answers.connectStatus = e.composer.mMode then []
          else [(connected, answers.connectStatus)] := by
  have polled : (e.composer.updateVideoOn.updateHdmiConnectStatusLocked answers).composer.mMode =
      polledMode e.composer.mMode answers.connectStatus := by
    have ready : e.composer.updateVideoOn.mDrmInit = true := sound.mDrmInit
    rw [Composer.updateHdmiConnectStatusLocked_composer answers ready,
      sound.mirrors.updateVideoOn_mMode]
  have hotplug := e.composer.updateHdmiConnectionStatus_frame answers connected
  constructor
  · exact hotplug.mMode.trans polled
  · simp only [External.call, ExternalCall.toCall, ExternalCall.polls, Composer.call, if_true,
      e.composer.updateHdmiConnectionStatus_audio, polled]
    by_cases same : polledMode e.composer.mMode answers.connectStatus = e.composer.mMode
    · rw [if_neg (not_not.mpr same.symm), if_pos same]
      rfl
    · rw [if_pos (Ne.symm same), if_neg same]
      rfl

theorem exact_call_iff {e : External} {event : Answers × ExternalCall} (sound : e.Sound)
    (before : e.Exact) : Announced e event ↔ (e.call event).Exact := by
  rcases event with ⟨answers, call⟩
  cases call with
  | registerCallback cbk =>
      cases cbk with
      | none =>
          refine iff_of_true trivial ((exact_iff _).mpr ⟨before.bits, ?_⟩)
          intro entry member
          exact before.audio entry (by simpa [External.call, Outcome.audio, ExternalCall.toCall,
            Composer.call, Composer.registerCallback] using member)
      | some cbk =>
          have after := call_registerCallback sound answers cbk
          rw [exact_iff, after.1, after.2]
          have bits := polledMode_describes_iff e.composer.mMode answers.connectStatus
          constructor
          · intro clear
            exact ⟨bits.mpr clear, before.audio⟩
          · intro both
            exact bits.mp both.1
  | updateHdmiConnectionStatus connected =>
      have after := call_updateHdmiConnectionStatus sound answers connected
      rw [exact_iff, after.1, after.2]
      apply and_congr (polledMode_describes_iff _ _).symm
      rw [← polledMode_eq_self_iff]
      constructor
      · intro announced entry member
        rcases List.mem_append.mp member with older | new
        · exact before.audio entry older
        · split at new
          · exact absurd new List.not_mem_nil
          · rename_i changed
            rw [List.mem_singleton.mp new]
            exact announced changed
      · intro told changed
        have last := told (connected, answers.connectStatus)
        rw [if_neg changed] at last
        exact last (List.mem_append.mpr (.inr List.mem_cons_self))

theorem sound_external_call (e : External) (event : Answers × ExternalCall) (sound : e.Sound) :
    (e.call event).Sound := by
  have mDrmInit := e.composer.call_mDrmInit event.1 event.2.toCall
  exact ⟨mDrmInit.trans sound.mDrmInit, Composer.call_mirrors _ event.2.toCall sound.mirrors⟩

/-- The composer after a successful `init`, with the poll that this makes. -/
def External.start (memory : Fin MDS_VIDEO_SESSION_MAX_VALUE → MultiDisplayVideoSession)
    (answers : Answers) : External :=
  ⟨Composer.construct true memory answers, answers.connectStatus, []⟩

theorem start_exact (memory) (answers : Answers) : (External.start memory answers).Exact := by
  refine (exact_iff _).mpr ⟨?_, by simp [External.start]⟩
  have mode : (External.start memory answers).composer.mMode =
      polledMode MDS_MODE_NONE answers.connectStatus :=
    congrArg Composer.mMode (Composer.updateHdmiConnectStatusLocked_composer answers rfl)
  rw [mode]
  apply (polledMode_describes_iff _ _).mpr
  cases answers.connectStatus with
  | hdmi => exact (by decide : ¬ HasFlag MDS_MODE_NONE MDS_DVI_CONNECTED)
  | dvi => exact (by decide : ¬ HasFlag MDS_MODE_NONE MDS_HDMI_CONNECTED)
  | disconnected => trivial

/-- The bits and the audio driver follow the polls through a whole run exactly if no call
meets a display in place of one of the other kind, and each hotplug that finds something
new was announced as what it is. -/
theorem external_exact_iff_announced
    (memory : Fin MDS_VIDEO_SESSION_MAX_VALUE → MultiDisplayVideoSession) (answers : Answers)
    (events : List (Answers × ExternalCall)) :
    (∀ before, before <+: events →
      (before.foldl External.call (External.start memory answers)).Exact) ↔
    Along (fun e event => some (e.call event)) Announced (External.start memory answers)
      events := by
  have frame := (Composer.construct_frame memory answers).1
  have sound : (External.start memory answers).Sound :=
    ⟨frame, Composer.construct_mirrors memory answers⟩
  have kept : ∀ (e : External) (event : Answers × ExternalCall), e.Sound → True →
      (e.call event).Sound := fun e event sound _ => sound_external_call e event sound
  have step : ∀ (e : External) (event : Answers × ExternalCall), e.Sound → e.Exact → True →
      (Announced e event ↔ (e.call event).Exact) :=
    fun _ _ sound before _ => exact_call_iff sound before
  exact holds_throughout_iff_along kept step sound
    (start_exact memory answers) fun _ _ => trivial

/-- A DVI display takes the place of an HDMI display with no poll in between, and both bits
are set. -/
theorem swapped_display_sets_both_bits :
    ¬ ∀ before, before <+: [(Answers.polling .dvi, .updateHdmiConnectionStatus true)] →
      (before.foldl External.call
        (External.start (fun _ => .blank) (Answers.polling .hdmi))).Exact := by
  intro throughout
  have last := (throughout _ (List.prefix_refl _)).single
  exact last ⟨by decide, by decide⟩

end A500cg.Mds
