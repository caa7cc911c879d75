import A500cg.Lib.Machine
import A500cg.Mds.DrmHdmi

/-! Whether the parsed timings are those of the sink that is connected. -/

namespace A500cg.Mds

open Lib

theorem pollConnector_cases (found : Option Connector) (c : DrmContext) :
    ((pollConnector found c).connected = false ∧ (pollConnector found c).hdmiTimings = [] ∧
      (pollConnector found c).selectedModeIndex = -1) ∨
    ∃ connector modes, found = some connector ∧ connector.modes = some modes ∧
      connector.status ≠ .disconnected ∧ c.hdmiSupported = true ∧
      pollConnector found c = { c with hdmiConnector := some connector, connected := true } := by
  simp only [pollConnector, drmHdmiGetConnectionStatus]
  cases supported : c.hdmiSupported with
  | false => exact Or.inl ⟨rfl, rfl, rfl⟩
  | true =>
      cases found with
      | none => exact Or.inl ⟨rfl, rfl, rfl⟩
      | some connector =>
          rcases connector with ⟨modes, status⟩
          cases modes with
          | none => exact Or.inl ⟨rfl, rfl, rfl⟩
          | some modes =>
              cases status with
              | disconnected => exact Or.inl ⟨rfl, rfl, rfl⟩
              | hdmi =>
                  exact Or.inr ⟨_, modes, rfl, rfl, (fun same => by cases same), rfl,
                    by simp [getHdmiConnector]⟩
              | dvi =>
                  exact Or.inr ⟨_, modes, rfl, rfl, (fun same => by cases same), rfl,
                    by simp [getHdmiConnector]⟩

theorem parseHdmiTimings_linked (build : DrmBuild) (found : Option Connector) {c : DrmContext}
    {connector : Connector} {modes : List ModeInfo} (linked : c.hdmiConnector = some connector)
    (listed : connector.modes = some modes) (few : modes.length ≤ HDMI_TIMING_MAX) :
    (parseHdmiTimings build found c).2 =
      { c with hdmiTimings := modes.foldl (addNew build.timing build.duplicated) c.hdmiTimings } := by
  have small : ¬ modes.length > HDMI_TIMING_MAX := by omega
  simp [parseHdmiTimings, getHdmiConnector, linked, listed, small]

theorem drmHdmiGetTimingNumber_cases (build : DrmBuild) (found : Option Connector)
    (c : DrmContext) :
    (drmHdmiGetTimingNumber build found c).2 = c ∨
      (c.connected = true ∧ c.hdmiTimings = [] ∧
        (drmHdmiGetTimingNumber build found c).2 = (parseHdmiTimings build found c).2) := by
  simp only [drmHdmiGetTimingNumber]
  split
  · exact Or.inl rfl
  · rename_i ready
    simp only [Bool.or_eq_true, Bool.not_eq_true', not_or, Bool.not_eq_false] at ready
    split
    · exact Or.inl rfl
    · rename_i empty
      exact Or.inr ⟨ready.2, List.eq_nil_of_length_eq_zero (by omega), rfl⟩

theorem drmHdmiGetTimings_cases (build : DrmBuild) (found : Option Connector) (count : Int)
    (list : Option (List (Option MDSHdmiTiming))) (c : DrmContext) :
    (drmHdmiGetTimings build found count list c).2 = c ∨
      (c.connected = true ∧ c.hdmiTimings = [] ∧
        (drmHdmiGetTimings build found count list c).2 = (parseHdmiTimings build found c).2) := by
  simp only [drmHdmiGetTimings]
  split
  · exact Or.inl rfl
  · rename_i ready
    simp only [Bool.or_eq_true, Bool.not_eq_true', not_or, Bool.not_eq_false] at ready
    split
    · exact Or.inl rfl
    · by_cases empty : c.hdmiTimings.length ≤ 0
      · rw [if_pos empty]
        exact Or.inr ⟨ready.2, List.eq_nil_of_length_eq_zero (by omega), rfl⟩
      · rw [if_neg empty]
        exact Or.inl rfl

theorem drmHdmiCheckTiming_cases (timing : Option MDSHdmiTiming) (c : DrmContext) :
    ((drmHdmiCheckTiming timing c).1.1 = false ∧ (drmHdmiCheckTiming timing c).2 = c) ∨
    ∃ i : Nat, i < c.hdmiTimings.length ∧ (drmHdmiCheckTiming timing c).1.1 = true ∧
      (drmHdmiCheckTiming timing c).2 = { c with selectedModeIndex := i } := by
  cases timing with
  | none => exact Or.inl ⟨rfl, rfl⟩
  | some wanted =>
      simp only [drmHdmiCheckTiming]
      split
      · exact Or.inl ⟨rfl, rfl⟩
      · cases found : c.hdmiTimings.findIdx? (sameTiming wanted) with
        | none => exact Or.inl ⟨rfl, rfl⟩
        | some i =>
            have inside : i < c.hdmiTimings.length :=
              (List.findIdx?_eq_some_iff_getElem.mp found).1
            exact Or.inr ⟨i, inside, rfl, rfl⟩

/-- Two modes that are saved alike are recognised as duplicates. A `VPG_DRM` build misses
them where it has no ratio for their aspect. -/
def DrmBuild.Recognises (build : DrmBuild) (modes : List ModeInfo) : Prop :=
  build.vpgDrm = true → modes.Pairwise fun x y =>
    build.timing x = build.timing y → build.duplicated (build.timing x) y = true

theorem DrmBuild.duplicated_of_timing_eq {build : DrmBuild} (psb : build.vpgDrm = false)
    {x y : ModeInfo} (same : build.timing x = build.timing y) :
    build.duplicated (build.timing x) y = true := by
  rw [same]
  simp [duplicated, timing, psb]

theorem DrmBuild.Recognises.pairwise {build : DrmBuild} {modes : List ModeInfo}
    (recognised : build.Recognises modes) : modes.Pairwise fun x y =>
      build.timing x = build.timing y → build.duplicated (build.timing x) y = true := by
  cases vpg : build.vpgDrm with
  | true => exact recognised vpg
  | false => exact List.pairwise_of_forall fun _ _ => duplicated_of_timing_eq vpg

structure TimingRun.Sound (build : DrmBuild) (r : TimingRun) : Prop where
  linked : r.context.connected = true → ∃ sink modes, r.seen = some sink ∧
    r.context.hdmiConnector = some sink.connector ∧ sink.connector.modes = some modes ∧
      modes.length ≤ HDMI_TIMING_MAX ∧ build.Recognises modes
  cleared : r.context.connected = false → r.context.hdmiTimings = []
  listed : r.context.hdmiTimings ≠ [] → ∀ sink modes, r.seen = some sink →
    sink.connector.modes = some modes →
      DuplicateFree build.timing build.duplicated modes r.context.hdmiTimings ∧
        r.context.hdmiTimings.Nodup
  selected : r.context.selectedModeIndex = -1 ∨ ∃ i ∈ r.chosen,
    i < r.context.hdmiTimings.length ∧ r.context.selectedModeIndex = i

/-- The timings, if there are any, are those of the sink that the latest poll saw, and a
selection was made since it was connected. -/
def TimingRun.Follows (build : DrmBuild) (r : TimingRun) : Prop :=
  r.context.connected = true → r.context.hdmiTimings ≠ [] →
    (∃ sink modes, r.seen = some sink ∧ sink.connector.modes = some modes ∧
      DuplicateFree build.timing build.duplicated modes r.context.hdmiTimings ∧
        r.context.hdmiTimings.Nodup) ∧
    (r.context.selectedModeIndex = -1 ∨ ∃ i ∈ r.chosen,
      i < r.context.hdmiTimings.length ∧ r.context.selectedModeIndex = i)

theorem TimingRun.Sound.follows {build : DrmBuild} {r : TimingRun} (sound : r.Sound build) :
    r.Follows build := by
  intro connected nonempty
  rcases sound.linked connected with ⟨sink, modes, seen, _, listed, _, _⟩
  exact ⟨⟨sink, modes, seen, listed, sound.listed nonempty sink modes seen listed⟩, sound.selected⟩

/-- The poll finds a sink that it reports as connected. -/
def SinkPresent (c : DrmContext) (sink : Option Sink) : Prop :=
  c.hdmiSupported = true ∧ ∃ found modes, sink = some found ∧
    found.connector.modes = some modes ∧ found.connector.status ≠ .disconnected

/-- No sink takes the place of another one while timings are cached, and the build tells
the modes of the sink apart. -/
def NoStaleSwap (build : DrmBuild) (r : TimingRun) : TimingEvent → Prop
  | .poll sink => SinkPresent r.context sink →
      (r.seen = sink ∨ r.context.hdmiTimings = []) ∧
        ∀ found modes, sink = some found → found.connector.modes = some modes →
          build.Recognises modes
  | _ => True

def FewModes (sink : Option Sink) : Prop :=
  ∀ found modes, sink = some found → found.connector.modes = some modes →
    modes.length ≤ HDMI_TIMING_MAX

def TimingEvent.Bounded : TimingEvent → Prop
  | .poll sink => FewModes sink
  | .getTimingNumber sink => FewModes sink
  | .getTimings sink _ _ => FewModes sink
  | .checkTiming _ => True

theorem TimingRun.Sound.start (build : DrmBuild) (hdmiSupported : Bool) :
    (TimingRun.start hdmiSupported).Sound build where
  linked := fun connected => by cases connected
  cleared := fun _ => rfl
  listed := fun nonempty => absurd rfl nonempty
  selected := Or.inl rfl

theorem TimingRun.Sound.poll {build : DrmBuild} {r : TimingRun} (sound : r.Sound build)
    {sink : Option Sink} (fresh : NoStaleSwap build r (.poll sink)) (few : FewModes sink) :
    (r.step build (.poll sink)).Sound build := by
  simp only [TimingRun.step]
  rcases pollConnector_cases (connectorOf sink) r.context with
    ⟨off, empty, none⟩ | ⟨connector, modes, found, listed, status, supported, polled⟩
  · refine ⟨?_, fun _ => empty, fun nonempty => absurd empty nonempty, Or.inl none⟩
    intro connected
    rw [off] at connected
    cases connected
  · cases sink with
    | none => cases found
    | some sink =>
        have same : sink.connector = connector := Option.some.inj found
        subst same
        have present : SinkPresent r.context (some sink) :=
          ⟨supported, sink, modes, rfl, listed, status⟩
        rcases fresh present with ⟨kept, recognised⟩
        rw [polled]
        refine ⟨fun _ => ⟨sink, modes, rfl, rfl, listed, few sink modes rfl listed,
          recognised sink modes rfl listed⟩, (fun off => by cases off), ?_, ?_⟩
        · intro nonempty other modes' seen listed'
          rcases kept with known | empty
          · exact sound.listed nonempty other modes' (known.trans seen) listed'
          · exact absurd empty nonempty
        · rcases kept with known | empty
          · simp only [↓reduceIte, known]
            exact sound.selected
          · rcases sound.selected with none | ⟨i, _, inside, _⟩
            · exact Or.inl none
            · rw [empty] at inside
              cases inside

theorem TimingRun.Sound.query {build : DrmBuild} {r : TimingRun} (sound : r.Sound build)
    {found : Option Connector} {context : DrmContext}
    (queried : context = r.context ∨ (r.context.connected = true ∧ r.context.hdmiTimings = [] ∧
      context = (parseHdmiTimings build found r.context).2)) :
    TimingRun.Sound build { r with context := context } := by
  rcases queried with rfl | ⟨connected, empty, parsed⟩
  · exact sound
  · rcases sound.linked connected with ⟨sink, modes, seen, linked, listed, few, recognised⟩
    rw [parseHdmiTimings_linked build found linked listed few, empty] at parsed
    rw [parsed]
    refine ⟨fun _ => ⟨sink, modes, seen, linked, listed, few, recognised⟩, ?_, ?_, ?_⟩
    · intro off
      have on : r.context.connected = false := off
      rw [connected] at on
      cases on
    · intro _ other modes' seen' listed'
      rw [seen] at seen'
      cases seen'
      rw [listed] at listed'
      cases listed'
      have collected := duplicateFree_foldl build.timing build.duplicated modes
      exact ⟨collected, collected.nodup recognised.pairwise⟩
    · rcases sound.selected with none | ⟨i, _, inside, _⟩
      · exact Or.inl none
      · rw [empty] at inside
        cases inside

theorem TimingRun.Sound.step {build : DrmBuild} {r : TimingRun} {event : TimingEvent}
    (sound : r.Sound build) (fresh : NoStaleSwap build r event) (bounded : event.Bounded) :
    (r.step build event).Sound build := by
  cases event with
  | poll sink => exact sound.poll fresh bounded
  | getTimingNumber sink => exact sound.query (drmHdmiGetTimingNumber_cases _ _ _)
  | getTimings sink count list => exact sound.query (drmHdmiGetTimings_cases _ _ _ _ _)
  | checkTiming timing =>
      simp only [TimingRun.step]
      rcases drmHdmiCheckTiming_cases timing r.context with
        ⟨failed, same⟩ | ⟨i, inside, done, selected⟩
      · rw [failed, same]
        exact sound
      · rw [done, selected]
        exact ⟨sound.linked, sound.cleared, sound.listed,
          Or.inr ⟨i, List.mem_cons_self, inside, rfl⟩⟩

/-- Along every run in which no sink replaces another one behind cached timings, the
timings are those of the sink that is connected. -/
theorem timing_cache_follows_sink (build : DrmBuild) (hdmiSupported : Bool)
    (events : List TimingEvent) (bounded : ∀ event ∈ events, event.Bounded)
    (fresh : Along (fun r event => some (TimingRun.step build r event)) (NoStaleSwap build)
      (TimingRun.start hdmiSupported) events)
    (before : List TimingEvent) (isPrefix : before <+: events) :
    (before.foldl (TimingRun.step build) (TimingRun.start hdmiSupported)).Follows build := by
  have sound : (before.foldl (TimingRun.step build)
      (TimingRun.start hdmiSupported)).Sound build :=
    invariant_throughout (fun r event sound condition => sound.step condition.1 condition.2)
      (TimingRun.Sound.start build hdmiSupported) (along_and_allowed fresh bounded) before isPrefix
  exact sound.follows

/-- A build without `VPG_DRM`, and two sinks; the television lists its mode twice. -/
def psbBuild : DrmBuild := ⟨false, 0x10, 0x8000, 0x4000, 2, 1⟩

def television : Sink := ⟨1, some [⟨1920, 1080, 60, 0x8000, 0⟩, ⟨1920, 1080, 60, 0x8000, 0⟩], .hdmi⟩

def beamer : Sink := ⟨2, some [⟨1280, 720, 60, 0x8000, 0⟩], .hdmi⟩

theorem timing_cache_follows_television :
    ((List.foldl (TimingRun.step psbBuild) (TimingRun.start true)
      [.poll (some television), .getTimingNumber (some television),
        .checkTiming (some ⟨1920, 1080, 60, 0, 2, 0⟩)]).Follows psbBuild) ∧
    (List.foldl (TimingRun.step psbBuild) (TimingRun.start true)
      [.poll (some television), .getTimingNumber (some television),
        .checkTiming (some ⟨1920, 1080, 60, 0, 2, 0⟩)]).context.selectedModeIndex = 0 := by
  refine ⟨timing_cache_follows_sink psbBuild true _ ?_ ?_ _ (List.prefix_refl _), by decide⟩
  · intro event member
    simp only [List.mem_cons, List.not_mem_nil, or_false] at member
    rcases member with rfl | rfl | rfl
    · rintro _ _ ⟨⟩ ⟨⟩
      decide
    · rintro _ _ ⟨⟩ ⟨⟩
      decide
    · trivial
  · refine ⟨fun _ => ⟨Or.inr rfl, ?_⟩, ?_⟩
    · intro _ _ _ _ vpg
      cases vpg
    · rintro _ ⟨⟩
      refine ⟨trivial, ?_⟩
      rintro _ ⟨⟩
      exact ⟨trivial, fun _ _ => trivial⟩

/-- The beamer takes the television's place between two polls: the timings of the
television stay. -/
theorem beamer_gets_timings_of_television :
    ¬ (List.foldl (TimingRun.step psbBuild) (TimingRun.start true)
      [.poll (some television), .getTimingNumber (some television),
        .poll (some beamer)]).Follows psbBuild := by
  intro follows
  rcases (follows (by decide) (by decide)).1 with ⟨sink, modes, seen, listed, collected, _⟩
  have latest : sink = beamer := by
    have known : some beamer = some sink := seen
    exact (Option.some.inj known).symm
  subst latest
  cases listed
  rcases collected with ⟨taken, sub, kept, _, _⟩
  have first : (⟨1920, 1080, 60, 0, 2, 0x8000⟩ : MDSHdmiTiming) ∈ taken.map psbBuild.timing := by
    rw [← kept]
    decide
  rcases List.mem_map.mp first with ⟨mode, inside, same⟩
  have only := List.mem_singleton.mp (sub.subset inside)
  subst only
  revert same
  decide

end A500cg.Mds
