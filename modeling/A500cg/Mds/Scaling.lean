import A500cg.Lib.Machine
import A500cg.Mds.Composer

/-! The HDMI scaling that the composer keeps, against what it has told the callback and
SurfaceFlinger. -/

namespace A500cg.Mds

open Lib

@[ext]
structure Scaling where
  type : BitVec 32
  hStep : BitVec 32
  vStep : BitVec 32
  deriving DecidableEq, Repr

namespace Scaling

def none : Scaling := ⟨MDS_SCALING_NONE, 0, 0⟩

def note (s : Scaling) : Effect → Scaling
  | .setHdmiScalingType type => { s with type := type }
  | .setHdmiOverscan hVal vVal => { s with hStep := hVal, vStep := vVal }
  | _ => s

/-- The word of `setDisplayScalingLocked`. -/
def word (s : Scaling) : BitVec 32 := s.type ||| s.hStep <<< 16 ||| s.vStep <<< 24

def steps (s : Scaling) : BitVec 32 × BitVec 32 := (s.hStep, s.vStep)

def ofWord (word : BitVec 32) : Scaling :=
  ⟨(word.extractLsb' 0 16).setWidth 32, (word.extractLsb' 16 8).setWidth 32,
    (word.extractLsb' 24 8).setWidth 32⟩

end Scaling

def Composer.scaling (c : Composer) : Scaling := ⟨c.mScaleType, c.mHorizontalStep, c.mVerticalStep⟩

inductive ScalingCall where
  | setHdmiScalingType (type : BitVec 32)
  | setHdmiOverscan (hVal vVal : BitVec 32)
  deriving DecidableEq, Repr

namespace ScalingCall

def toCall : ScalingCall → Call
  | .setHdmiScalingType type => .setHdmiScalingType type
  | .setHdmiOverscan hVal vVal => .setHdmiOverscan hVal vVal

def setting (s : Scaling) : ScalingCall → Scaling
  | .setHdmiScalingType type => { s with type := type }
  | .setHdmiOverscan hVal vVal =>
      { s with hStep := Composer.overscanStep hVal, vStep := Composer.overscanStep vVal }

def effect : ScalingCall → Effect
  | .setHdmiScalingType type => .setHdmiScalingType type
  | .setHdmiOverscan hVal vVal =>
      .setHdmiOverscan (Composer.overscanStep hVal) (Composer.overscanStep vVal)

end ScalingCall

inductive DisplayCall where
  | set (call : ScalingCall)
  | updateHdmiConnectionStatus (connected : Bool)
  deriving DecidableEq, Repr

def DisplayCall.toCall : DisplayCall → Call
  | .set call => call.toCall
  | .updateHdmiConnectionStatus connected => .updateHdmiConnectionStatus connected

structure Displayed where
  composer : Composer
  stored : Scaling

namespace Displayed

def start (c : Composer) (cbk : Nat) : Displayed :=
  ⟨{ c with
      mMDSCallback := some cbk
      mScaleType := MDS_SCALING_NONE, mHorizontalStep := 0, mVerticalStep := 0 }, .none⟩

def call (d : Displayed) (event : Answers × DisplayCall) : Displayed :=
  let outcome := d.composer.call event.1 event.2.toCall
  ⟨outcome.composer, outcome.effects.foldl Scaling.note d.stored⟩

def Shown (d : Displayed) : Prop := d.composer.scaling = d.stored

instance (d : Displayed) : Decidable d.Shown :=
  inferInstanceAs (Decidable (_ = _))

end Displayed

structure Answers.Accept (answers : Answers) : Prop where
  setHdmiScalingType : answers.setHdmiScalingType = NO_ERROR
  setHdmiOverscan : answers.setHdmiOverscan = NO_ERROR
  surfaceFlinger : answers.surfaceFlinger = true
  transact : answers.transact = NO_ERROR

/-- The arguments of a `setHdmiOverscan` are from 0 to 5. -/
def DisplayCall.InRange : DisplayCall → Prop
  | .set (.setHdmiOverscan hVal vVal) => hVal ≤ overscan_max ∧ vVal ≤ overscan_max
  | _ => True

/-- A hotplug that finds the type `MDS_SCALING_NONE` finds no compensation either. -/
def Told (d : Displayed) (event : Answers × DisplayCall) : Prop :=
  match event.2 with
  | .set _ => True
  | .updateHdmiConnectionStatus _ => d.composer.mScaleType = MDS_SCALING_NONE →
      d.composer.mHorizontalStep = 0 ∧ d.composer.mVerticalStep = 0

namespace Composer

theorem call_registered {c : Composer} {answers : Answers} {cbk : Nat}
    (registered : c.mMDSCallback = some cbk) (accept : answers.Accept) (call : ScalingCall) :
    (c.call answers call.toCall).composer.mMDSCallback = some cbk ∧
      (c.call answers call.toCall).composer.scaling = call.setting c.scaling ∧
      (c.call answers call.toCall).effects = [call.effect] := by
  cases call with
  | setHdmiScalingType type =>
      simp [Composer.call, ScalingCall.toCall, setHdmiScalingType, registered,
        accept.setHdmiScalingType, scaling, ScalingCall.setting, ScalingCall.effect]
  | setHdmiOverscan hVal vVal =>
      simp [Composer.call, ScalingCall.toCall, setHdmiOverscan, registered,
        accept.setHdmiOverscan, scaling, ScalingCall.setting, ScalingCall.effect]

theorem polled_scaling (c : Composer) (answers : Answers) :
    (c.updateVideoOn.updateHdmiConnectStatusLocked answers).composer.scaling = c.scaling ∧
      (c.updateVideoOn.updateHdmiConnectStatusLocked answers).composer.mMDSCallback =
        c.mMDSCallback := by
  simp only [updateHdmiConnectStatusLocked]
  split
  · exact ⟨rfl, rfl⟩
  · split <;> exact ⟨rfl, rfl⟩

theorem resetScaling_registered {c : Composer} {answers : Answers} {cbk : Nat}
    (registered : c.mMDSCallback = some cbk) (accept : answers.Accept) :
    (c.resetScaling answers).composer.mMDSCallback = some cbk ∧
      (c.resetScaling answers).composer.scaling = .none ∧
      (c.resetScaling answers).effects.foldl Scaling.note c.scaling =
        if c.mScaleType = MDS_SCALING_NONE then c.scaling else .none := by
  by_cases none : c.mScaleType = MDS_SCALING_NONE
  · have reset : c.callbackReset answers = (UNKNOWN_ERROR, []) := by
      simp only [callbackReset, registered, if_pos none]
    have failed : UNKNOWN_ERROR ≠ NO_ERROR := by decide
    rw [if_pos none]
    simp only [resetScaling, reset]
    split
    · simp [setDisplayScalingLocked, accept.surfaceFlinger, accept.transact, registered, scaling,
        Scaling.none, Scaling.note]
    · rename_i still
      simp [failed, none] at still
      simp [registered, scaling, none, still, Scaling.none]
  · have reset : (c.callbackReset answers).1 = NO_ERROR ∧
        (c.callbackReset answers).2.foldl Scaling.note c.scaling = .none := by
      simp only [callbackReset, registered, if_neg none, accept.setHdmiScalingType,
        accept.setHdmiOverscan]
      split
      · exact ⟨rfl, rfl⟩
      · rename_i still
        simp at still
        refine ⟨rfl, ?_⟩
        simp [Scaling.note, scaling, still, Scaling.none]
    rw [if_neg none]
    simp only [resetScaling, reset.1, ne_eq, not_true, false_and, if_false, if_true,
      List.append_nil]
    exact ⟨registered, rfl, reset.2⟩

theorem foldl_note_modeMessages (c : Composer) (ignoreVideoDriver : Bool) (s : Scaling) :
    (c.modeMessages ignoreVideoDriver).foldl Scaling.note s = s := by
  rw [modeMessages, List.foldl_map]
  exact List.foldl_fixed' (fun _ => rfl) _

theorem updateHdmiConnectionStatus_notes (c : Composer) (answers : Answers) (connected : Bool)
    (s : Scaling) :
    (c.updateHdmiConnectionStatus answers connected).effects.foldl Scaling.note s =
      ((c.updateVideoOn.updateHdmiConnectStatusLocked answers).composer.resetScaling
        answers).effects.foldl Scaling.note s := by
  have polled : (c.updateVideoOn.updateHdmiConnectStatusLocked answers).effects.foldl
      Scaling.note s = s := by
    simp only [updateHdmiConnectStatusLocked]
    split
    · rfl
    · split <;> rfl
  simp only [updateHdmiConnectionStatus, notifyHotplugLocked, reduceCtorEq, if_false,
    List.foldl_append, polled]
  split
  · rw [List.foldl_append, foldl_note_modeMessages]
    rfl
  · rfl

theorem updateHdmiConnectionStatus_registered {c : Composer} {answers : Answers} {cbk : Nat}
    (registered : c.mMDSCallback = some cbk) (accept : answers.Accept) (connected : Bool) :
    (c.updateHdmiConnectionStatus answers connected).composer.mMDSCallback = some cbk ∧
      (c.updateHdmiConnectionStatus answers connected).composer.scaling = .none ∧
      (c.updateHdmiConnectionStatus answers connected).effects.foldl Scaling.note c.scaling =
        if c.mScaleType = MDS_SCALING_NONE then c.scaling else .none := by
  have polled := c.polled_scaling answers
  have reset := resetScaling_registered (polled.2.trans registered) accept
  have type : (c.updateVideoOn.updateHdmiConnectStatusLocked answers).composer.mScaleType =
      c.mScaleType := congrArg Scaling.type polled.1
  rw [polled.1, type] at reset
  rw [updateHdmiConnectionStatus_notes]
  exact reset

end Composer

namespace Displayed

variable {d : Displayed} {event : Answers × DisplayCall} {cbk : Nat}

theorem call_mMDSCallback (registered : d.composer.mMDSCallback = some cbk)
    (accept : event.1.Accept) : (d.call event).composer.mMDSCallback = some cbk := by
  obtain ⟨answers, call⟩ := event
  cases call with
  | set call => exact (Composer.call_registered registered accept call).1
  | updateHdmiConnectionStatus connected =>
      exact (Composer.updateHdmiConnectionStatus_registered registered accept connected).1

theorem shown_call_iff (registered : d.composer.mMDSCallback = some cbk) (before : d.Shown)
    (accept : event.1.Accept) : Told d event ↔ (d.call event).Shown := by
  obtain ⟨answers, call⟩ := event
  simp only [Shown] at before
  cases call with
  | set call =>
      have set := Composer.call_registered registered accept call
      apply iff_of_true trivial
      simp only [Shown, Displayed.call, DisplayCall.toCall, set.2.1, set.2.2, ← before]
      cases call <;> rfl
  | updateHdmiConnectionStatus connected =>
      have hotplug := Composer.updateHdmiConnectionStatus_registered registered accept connected
      simp only [Shown, Displayed.call, DisplayCall.toCall, Composer.call, hotplug.2.1, ← before,
        hotplug.2.2, Told]
      split
      · rename_i none
        rw [forall_prop_of_true none]
        simp only [Composer.scaling, Scaling.none, none]
        constructor
        · intro steps
          rw [steps.1, steps.2]
        · intro same
          exact ⟨congrArg Scaling.hStep same.symm, congrArg Scaling.vStep same.symm⟩
      · rename_i some
        exact iff_of_true (fun none => absurd none some) rfl

end Displayed

/-- After every operation of a run the scaling that is kept is what the callback has stored,
exactly if no hotplug finds a compensation without a scaling type. -/
theorem scaling_shown_iff (c : Composer) (cbk : Nat) (events : List (Answers × DisplayCall))
    (accept : ∀ event ∈ events, event.1.Accept ∧ event.2.InRange) :
    (∀ before, before <+: events →
      (before.foldl Displayed.call (Displayed.start c cbk)).Shown) ↔
        Along (fun d event => some (d.call event)) Told (Displayed.start c cbk) events := by
  have kept : ∀ (d : Displayed) (event : Answers × DisplayCall),
      d.composer.mMDSCallback = some cbk → event.1.Accept ∧ event.2.InRange →
        (d.call event).composer.mMDSCallback = some cbk :=
    fun _ _ registered accept => Displayed.call_mMDSCallback registered accept.1
  have keeps : ∀ (d : Displayed) (event : Answers × DisplayCall),
      d.composer.mMDSCallback = some cbk → d.Shown → event.1.Accept ∧ event.2.InRange →
        (Told d event ↔ (d.call event).Shown) :=
    fun _ _ registered before accept => Displayed.shown_call_iff registered before accept.1
  have shown : (Displayed.start c cbk).Shown := rfl
  exact holds_throughout_iff_along kept keeps rfl shown accept

def boxed : Composer := .construct true (fun _ => .blank) (Answers.polling .hdmi)

def shownRun : List (Answers × DisplayCall) :=
  [.set (.setHdmiScalingType 1), .set (.setHdmiOverscan 2 3), .updateHdmiConnectionStatus true].map
    fun call => (Answers.polling .hdmi, call)

theorem shownRun_shown : (shownRun.foldl Displayed.call (.start boxed 0)).Shown := by
  refine (scaling_shown_iff boxed 0 shownRun ?_).mpr ?_ shownRun List.prefix_rfl
  · intro event member
    rcases List.mem_map.mp member with ⟨call, listed, rfl⟩
    refine ⟨⟨rfl, rfl, rfl, rfl⟩, ?_⟩
    simp only [List.mem_cons, List.not_mem_nil, or_false] at listed
    rcases listed with rfl | rfl | rfl
    · trivial
    · exact ⟨by decide, by decide⟩
    · trivial
  · refine ⟨trivial, fun next taken => ?_⟩
    cases taken
    refine ⟨trivial, fun next taken => ?_⟩
    cases taken
    exact ⟨fun none => absurd none (by decide), fun _ _ => trivial⟩

def compensated : List (Answers × DisplayCall) :=
  [.set (.setHdmiOverscan 2 3), .updateHdmiConnectionStatus true].map
    fun call => (Answers.polling .hdmi, call)

theorem compensated_not_shown : ¬ (compensated.foldl Displayed.call (.start boxed 0)).Shown := by
  decide

/-- The composer without a callback, each word for SurfaceFlinger with the scaling that it
is for, and the last word that SurfaceFlinger was given and accepted. -/
structure Wired where
  composer : Composer
  sent : List (BitVec 32 × Scaling)
  accepted : Option (BitVec 32)

def Effect.scalingSetting? : Effect → Option (BitVec 32)
  | .scalingSetting scale => some scale
  | _ => none

namespace Wired

def start (c : Composer) : Wired :=
  ⟨{ c with
      mMDSCallback := none
      mScaleType := MDS_SCALING_NONE, mHorizontalStep := 0, mVerticalStep := 0 }, [], none⟩

def call (w : Wired) (event : Answers × ScalingCall) : Wired :=
  let outcome := w.composer.call event.1 event.2.toCall
  let words := outcome.effects.filterMap Effect.scalingSetting?
  ⟨outcome.composer, w.sent ++ words.map fun word => (word, event.2.setting w.composer.scaling),
    if event.1.delivered = true ∧ event.1.reply = NO_ERROR then words.getLast?.or w.accepted
    else w.accepted⟩

/-- Every word decodes to what it is for, and the steps that are kept are those of the last
word that was accepted, or 0 before it. -/
structure Encoded (w : Wired) : Prop where
  sent : ∀ entry ∈ w.sent, Scaling.ofWord entry.1 = entry.2 ∧
    entry.2.hStep ≤ overscan_max ∧ entry.2.vStep ≤ overscan_max
  kept : w.composer.scaling.steps = (w.accepted.elim .none Scaling.ofWord).steps

end Wired

/-- SurfaceFlinger is found, now or before. -/
def Composer.Reaches (c : Composer) (answers : Answers) : Prop :=
  c.mSurfaceComposer = true ∨ answers.surfaceFlinger = true

def ScalingCall.NotNegative : ScalingCall → Prop
  | .setHdmiScalingType _ => True
  | .setHdmiOverscan hVal vVal => 0 ≤ hVal.toInt ∧ 0 ≤ vVal.toInt

/-- What goes to SurfaceFlinger is not negative, and what is not delivered asks for the steps
that are kept anyway. -/
def Sendable (w : Wired) (event : Answers × ScalingCall) : Prop :=
  w.composer.Reaches event.1 → event.2.NotNegative ∧ (event.1.delivered = false →
    (event.2.setting w.composer.scaling).steps = w.composer.scaling.steps)

def ScalingCall.InRange : ScalingCall → Prop
  | .setHdmiScalingType type => type.toNat < 2 ^ 16
  | .setHdmiOverscan _ _ => True

theorem overscanStep_le_iff (val : BitVec 32) :
    Composer.overscanStep val ≤ overscan_max ↔ 0 ≤ val.toInt := by
  have range := val.isLt
  have max : overscan_max.toInt = 5 := by decide
  have limit : overscan_max.toNat = 5 := by decide
  simp only [Composer.overscanStep, BitVec.slt_iff_toInt_lt, max]
  split
  · rename_i large
    exact iff_of_true (by decide) (by omega)
  · rename_i small
    rw [BitVec.le_def, BitVec.toNat_sub, limit]
    rw [BitVec.toInt_eq_toNat_cond] at small ⊢
    split at small <;> omega

theorem Scaling.ofWord_word {s : Scaling} (type : s.type.toNat < 2 ^ 16)
    (h : s.hStep.toNat < 2 ^ 8) (v : s.vStep.toNat < 2 ^ 8) : Scaling.ofWord s.word = s := by
  have low : (s.type ||| s.hStep <<< 16).toNat = s.type.toNat + s.hStep.toNat * 2 ^ 16 :=
    toNat_or_shiftLeft type (by omega)
  have word : s.word.toNat = s.type.toNat + s.hStep.toNat * 2 ^ 16 + s.vStep.toNat * 2 ^ 24 := by
    rw [← low]
    exact toNat_or_shiftLeft (by omega) (by omega)
  apply Scaling.ext
  · apply BitVec.eq_of_toNat_eq
    rw [ofWord, toNat_field _ _ (by decide), word]
    omega
  · apply BitVec.eq_of_toNat_eq
    rw [ofWord, toNat_field _ _ (by decide), word]
    omega
  · apply BitVec.eq_of_toNat_eq
    rw [ofWord, toNat_field _ _ (by decide), word]
    omega

namespace Composer

theorem setDisplayScalingLocked_reaches {c : Composer} {answers : Answers}
    (reaches : c.Reaches answers) (mode stepx stepy : BitVec 32) :
    c.setDisplayScalingLocked answers mode stepx stepy =
      ⟨answers.transact, { c with mSurfaceComposer := true },
        [.scalingSetting (Scaling.word ⟨mode, stepx, stepy⟩)]⟩ := by
  refine if_neg fun missing => ?_
  rcases reaches with held | found
  · exact Bool.false_ne_true (missing.1.symm.trans held)
  · exact Bool.false_ne_true (missing.2.symm.trans found)

theorem setDisplayScalingLocked_missing {c : Composer} {answers : Answers}
    (missing : ¬ c.Reaches answers) (mode stepx stepy : BitVec 32) :
    c.setDisplayScalingLocked answers mode stepx stepy = ⟨UNKNOWN_ERROR, c, []⟩ := by
  obtain ⟨held, found⟩ := not_or.mp missing
  exact if_pos ⟨Bool.eq_false_iff.mpr held, Bool.eq_false_iff.mpr found⟩

theorem call_unregistered {c : Composer} (unregistered : c.mMDSCallback = none)
    (answers : Answers) (call : ScalingCall) :
    (c.call answers call.toCall).composer.mMDSCallback = none ∧
      (¬ c.Reaches answers → (c.call answers call.toCall).effects = [] ∧
        (c.call answers call.toCall).composer.scaling = c.scaling) ∧
      (c.Reaches answers →
        (c.call answers call.toCall).effects = [.scalingSetting (call.setting c.scaling).word] ∧
        (c.call answers call.toCall).composer.scaling =
          if answers.transact = NO_ERROR then call.setting c.scaling else c.scaling) := by
  have failed : UNKNOWN_ERROR ≠ NO_ERROR := by decide
  by_cases reaches : c.Reaches answers
  · rw [forall_prop_of_true reaches, forall_prop_of_false (not_not.mpr reaches), true_and]
    cases call with
    | setHdmiScalingType type =>
        simp only [Composer.call, ScalingCall.toCall, setHdmiScalingType, unregistered, ne_eq,
          failed, not_false_eq_true, if_true, setDisplayScalingLocked_reaches reaches]
        split
        · exact ⟨rfl, rfl, rfl⟩
        · exact ⟨rfl, rfl, rfl⟩
    | setHdmiOverscan hVal vVal =>
        simp only [Composer.call, ScalingCall.toCall, setHdmiOverscan, unregistered, ne_eq,
          failed, not_false_eq_true, if_true, setDisplayScalingLocked_reaches reaches]
        split
        · exact ⟨rfl, rfl, rfl⟩
        · exact ⟨rfl, rfl, rfl⟩
  · rw [forall_prop_of_true reaches, forall_prop_of_false reaches, and_true]
    cases call with
    | setHdmiScalingType type =>
        simp only [Composer.call, ScalingCall.toCall, setHdmiScalingType, unregistered, ne_eq,
          failed, not_false_eq_true, if_true, if_false, setDisplayScalingLocked_missing reaches,
          List.append_nil, and_self]
    | setHdmiOverscan hVal vVal =>
        simp only [Composer.call, ScalingCall.toCall, setHdmiOverscan, unregistered, ne_eq,
          failed, not_false_eq_true, if_true, if_false, setDisplayScalingLocked_missing reaches,
          List.append_nil, and_self]

end Composer

namespace Wired

structure Sound (w : Wired) : Prop where
  mMDSCallback : w.composer.mMDSCallback = none
  scaling : w.composer.scaling = .none ∨ ∃ entry ∈ w.sent, w.composer.scaling = entry.2

theorem call_missing {w : Wired} {event : Answers × ScalingCall}
    (unregistered : w.composer.mMDSCallback = none) (missing : ¬ w.composer.Reaches event.1) :
    (w.call event).sent = w.sent ∧ (w.call event).accepted = w.accepted ∧
      (w.call event).composer.scaling = w.composer.scaling := by
  have called := (Composer.call_unregistered unregistered event.1 event.2).2.1 missing
  simp only [call, called.1]
  refine ⟨by simp, ?_, called.2⟩
  split <;> rfl

theorem call_reaches {w : Wired} {event : Answers × ScalingCall}
    (unregistered : w.composer.mMDSCallback = none) (reaches : w.composer.Reaches event.1) :
    let setting := event.2.setting w.composer.scaling
    (w.call event).sent = w.sent ++ [(setting.word, setting)] ∧
      (w.call event).accepted = (if event.1.delivered = true ∧ event.1.reply = NO_ERROR
        then some setting.word else w.accepted) ∧
      (w.call event).composer.scaling =
        if event.1.transact = NO_ERROR then setting else w.composer.scaling := by
  have called := (Composer.call_unregistered unregistered event.1 event.2).2.2 reaches
  simp only [call, called.1]
  exact ⟨rfl, rfl, called.2⟩

theorem Sound.call {w : Wired} {event : Answers × ScalingCall} (sound : w.Sound) :
    (w.call event).Sound := by
  refine ⟨(Composer.call_unregistered sound.mMDSCallback event.1 event.2).1, ?_⟩
  by_cases reaches : w.composer.Reaches event.1
  · have called := call_reaches sound.mMDSCallback reaches
    simp only at called
    rw [called.1, called.2.2]
    split
    · exact .inr ⟨_, List.mem_append_right _ List.mem_cons_self, rfl⟩
    · rcases sound.scaling with fresh | ⟨entry, member, older⟩
      · exact .inl fresh
      · exact .inr ⟨entry, List.mem_append_left _ member, older⟩
  · have called := call_missing sound.mMDSCallback reaches
    rw [called.1, called.2.2]
    exact sound.scaling

theorem Sound.start (c : Composer) : (Wired.start c).Sound := ⟨rfl, .inl rfl⟩

theorem Encoded.fits {w : Wired} (encoded : w.Encoded) (sound : w.Sound) :
    w.composer.scaling.type.toNat < 2 ^ 16 ∧ w.composer.scaling.hStep ≤ overscan_max ∧
      w.composer.scaling.vStep ≤ overscan_max := by
  rcases sound.scaling with fresh | ⟨entry, member, older⟩
  · rw [fresh]
    decide
  · have sent := encoded.sent entry member
    rw [older]
    refine ⟨?_, sent.2⟩
    rw [← sent.1, Scaling.ofWord, toNat_field _ _ (by decide)]
    exact Nat.mod_lt _ (by decide)

theorem setting_encoded_iff {s : Scaling} {call : ScalingCall}
    (fits : s.type.toNat < 2 ^ 16 ∧ s.hStep ≤ overscan_max ∧ s.vStep ≤ overscan_max)
    (inRange : call.InRange) :
    (Scaling.ofWord (call.setting s).word = call.setting s ∧
        (call.setting s).hStep ≤ overscan_max ∧ (call.setting s).vStep ≤ overscan_max) ↔
      call.NotNegative := by
  have type : (call.setting s).type.toNat < 2 ^ 16 := by
    cases call with
    | setHdmiScalingType type => exact inRange
    | setHdmiOverscan hVal vVal => exact fits.1
  have decodes : (call.setting s).hStep ≤ overscan_max → (call.setting s).vStep ≤ overscan_max →
      Scaling.ofWord (call.setting s).word = call.setting s := by
    intro h v
    have limit : overscan_max.toNat < 2 ^ 8 := by decide
    exact Scaling.ofWord_word type (lt_of_le_of_lt h limit) (lt_of_le_of_lt v limit)
  rw [and_iff_right_of_imp fun steps => decodes steps.1 steps.2]
  cases call with
  | setHdmiScalingType type => exact iff_of_true fits.2 trivial
  | setHdmiOverscan hVal vVal =>
      exact and_congr (overscanStep_le_iff hVal) (overscanStep_le_iff vVal)

theorem kept_call_iff {w : Wired} {event : Answers × ScalingCall}
    (unregistered : w.composer.mMDSCallback = none) (reaches : w.composer.Reaches event.1)
    (before : w.composer.scaling.steps = (w.accepted.elim .none Scaling.ofWord).steps)
    (decodes : Scaling.ofWord (event.2.setting w.composer.scaling).word =
      event.2.setting w.composer.scaling) :
    (event.1.delivered = false →
        (event.2.setting w.composer.scaling).steps = w.composer.scaling.steps) ↔
      (w.call event).composer.scaling.steps =
        ((w.call event).accepted.elim .none Scaling.ofWord).steps := by
  obtain ⟨-, accepted, scaling⟩ := call_reaches unregistered reaches
  rw [accepted, scaling, Answers.transact]
  cases delivered : event.1.delivered with
  | false =>
      -- The empty reply reads `NO_ERROR`.
      simp only [Bool.false_eq_true, false_and, if_false, NO_ERROR, if_true, forall_true_left]
      rw [before]
  | true =>
      simp only [reduceCtorEq, forall_false, true_and, if_true, true_iff]
      split
      · rw [Option.elim_some, decodes]
      · exact before

theorem encoded_call_iff {w : Wired} {event : Answers × ScalingCall} (sound : w.Sound)
    (before : w.Encoded) (inRange : event.2.InRange) :
    Sendable w event ↔ (w.call event).Encoded := by
  by_cases reaches : w.composer.Reaches event.1
  · have sent := (call_reaches sound.mMDSCallback reaches).1
    have encodes := setting_encoded_iff (before.fits sound) inRange
    constructor
    · intro sendable
      obtain ⟨notNegative, undelivered⟩ := sendable reaches
      have setting := encodes.mpr notNegative
      refine ⟨?_, (kept_call_iff sound.mMDSCallback reaches before.kept setting.1).mp undelivered⟩
      rw [sent, List.forall_mem_append, List.forall_mem_singleton]
      exact ⟨before.sent, setting⟩
    · intro encoded _
      have setting := encoded.sent _ (sent ▸ List.mem_append_right _ List.mem_cons_self)
      exact ⟨encodes.mp setting,
        (kept_call_iff sound.mMDSCallback reaches before.kept setting.1).mpr encoded.kept⟩
  · have called := call_missing sound.mMDSCallback reaches
    refine iff_of_true (fun found => absurd found reaches) ⟨?_, ?_⟩
    · rw [called.1]
      exact before.sent
    · rw [called.2.1, called.2.2]
      exact before.kept

end Wired

/-- After every operation of a run without a callback the words say the scaling that they are
for, and the steps that are kept are those of the last accepted word, exactly if no negative
overscan goes to SurfaceFlinger and none that changes the steps is lost on the way. -/
theorem scaling_words_encoded_iff (c : Composer) (events : List (Answers × ScalingCall))
    (inRange : ∀ event ∈ events, event.2.InRange) :
    (∀ before, before <+: events → (before.foldl Wired.call (Wired.start c)).Encoded) ↔
      Along (fun w event => some (w.call event)) Sendable (Wired.start c) events := by
  have kept : ∀ (w : Wired) (event : Answers × ScalingCall), w.Sound → event.2.InRange →
      (w.call event).Sound := fun _ _ sound _ => sound.call
  have keeps : ∀ (w : Wired) (event : Answers × ScalingCall), w.Sound → w.Encoded →
      event.2.InRange → (Sendable w event ↔ (w.call event).Encoded) :=
    fun _ _ sound before inRange => Wired.encoded_call_iff sound before inRange
  have fresh : (Wired.start c).Encoded := ⟨by simp [Wired.start], rfl⟩
  exact holds_throughout_iff_along kept keeps (.start c) fresh inRange

def wiredRun : List (Answers × ScalingCall) :=
  [(Answers.polling .hdmi, .setHdmiScalingType 2), (Answers.polling .hdmi, .setHdmiOverscan 1 9),
    (Answers.polling .hdmi, .setHdmiScalingType 3),
    ({ Answers.polling .hdmi with delivered := false }, .setHdmiScalingType 1)]

theorem wiredRun_encoded : (wiredRun.foldl Wired.call (.start boxed)).Encoded ∧
    (wiredRun.foldl Wired.call (.start boxed)).accepted = some 0x00040003 := by
  refine ⟨(scaling_words_encoded_iff boxed wiredRun ?_).mpr ?_ wiredRun List.prefix_rfl, by decide⟩
  · intro event member
    simp only [wiredRun, List.mem_cons, List.not_mem_nil, or_false] at member
    rcases member with rfl | rfl | rfl | rfl
    · exact (by decide : (2 : BitVec 32).toNat < 2 ^ 16)
    · trivial
    · exact (by decide : (3 : BitVec 32).toNat < 2 ^ 16)
    · exact (by decide : (1 : BitVec 32).toNat < 2 ^ 16)
  · refine ⟨fun _ => ⟨trivial, fun lost => absurd lost (by decide)⟩, fun next taken => ?_⟩
    cases taken
    refine ⟨fun _ => ⟨⟨by decide, by decide⟩, fun lost => absurd lost (by decide)⟩,
      fun next taken => ?_⟩
    cases taken
    refine ⟨fun _ => ⟨trivial, fun lost => absurd lost (by decide)⟩, fun next taken => ?_⟩
    cases taken
    exact ⟨fun _ => ⟨trivial, fun _ => rfl⟩, fun _ _ => trivial⟩

/-- The horizontal step 256 of an overscan of -251 is a vertical step in the word. -/
theorem negative_overscan_spills :
    ¬ (Wired.call (.start boxed) (Answers.polling .hdmi, .setHdmiOverscan (-251) 5)).Encoded ∧
      (Wired.call (.start boxed) (Answers.polling .hdmi, .setHdmiOverscan (-251) 5)).accepted =
        some 0x01000000 := by
  refine ⟨fun encoded => ?_, by decide⟩
  have sent := encoded.sent (Scaling.word ⟨0, 256, 0⟩, ⟨0, 256, 0⟩) (by decide)
  exact absurd sent.1 (by decide)

-- The steps of a word that was never delivered are kept.
example : ¬ (Wired.call (.start boxed)
    ({ Answers.polling .hdmi with delivered := false }, .setHdmiOverscan 2 3)).Encoded :=
  fun encoded => absurd encoded.kept (by decide)

end A500cg.Mds
