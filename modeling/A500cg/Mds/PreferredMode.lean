import A500cg.Lib.Candidate
import A500cg.Mds.TimingCache

/-! `drm_select_preferredmode`: which mode of a connector is preferred. -/

namespace A500cg.Mds

open Lib

def PREFERRED_VREFRESH : UInt32 := 60

structure TypedMode extends ModeInfo where
  type : UInt32
  deriving DecidableEq, Repr

/-- The bit of a type that marks a preferred mode is in the driver's headers too. -/
structure PreferredBuild extends DrmBuild where
  typePreferred : UInt32

def drmIsPreferredFlags (build : DrmBuild) (flags : UInt32) : Bool :=
  if build.vpgDrm then true
  else flags &&& build.flagPar16_9 ≠ 0 && flags &&& build.flagInterlace = 0

namespace TypedMode

def Preferred (build : PreferredBuild) (mode : TypedMode) : Bool :=
  mode.type &&& build.typePreferred ≠ 0

def is60Hz (mode : TypedMode) : Bool := mode.vrefresh = PREFERRED_VREFRESH

def is (width height : Nat) (mode : TypedMode) : Bool :=
  mode.hdisplay = width && mode.vdisplay = height && mode.is60Hz

def hasPreferredFlags (build : PreferredBuild) (mode : TypedMode) : Bool :=
  drmIsPreferredFlags build.toDrmBuild mode.flags

end TypedMode

structure Candidates where
  hdisplay : Nat
  vdisplay : Nat
  index_720P : Option Nat
  index_1080P : Option Nat
  index_max : Option Nat
  deriving DecidableEq, Repr

namespace Candidates

def initial : Candidates := ⟨0, 0, none, none, none⟩

def lookMax (build : PreferredBuild) (i : Nat) (mode : TypedMode) (c : Candidates) : Candidates :=
  if mode.hdisplay > c.hdisplay && mode.vdisplay > c.vdisplay && mode.is60Hz then
    { c with hdisplay := mode.hdisplay, vdisplay := mode.vdisplay, index_max := some i }
  else if mode.hdisplay = c.hdisplay && mode.vdisplay = c.vdisplay && mode.is60Hz then
    if mode.hasPreferredFlags build then { c with index_max := some i } else c
  else c

def look (build : PreferredBuild) (i : Nat) (mode : TypedMode) (c : Candidates) : Candidates :=
  { c with
    index_720P :=
      candidate (TypedMode.is 1280 720) (TypedMode.hasPreferredFlags build) i mode c.index_720P
    index_1080P :=
      candidate (TypedMode.is 1920 1080) (TypedMode.hasPreferredFlags build) i mode
        c.index_1080P }.lookMax build i mode

end Candidates

/-- The loop: the first mode of the type `PREFERRED`, and the candidates before it. -/
def selectLoop (build : PreferredBuild) :
    (i : Nat) → List TypedMode → Candidates → Option (Nat × TypedMode) × Candidates
  | _, [], c => (none, c)
  | i, mode :: rest, c =>
      if mode.Preferred build then (some (i, mode), c)
      else selectLoop build (i + 1) rest (c.look build i mode)

/-- The index that it stores as `preferredModeIndex`. -/
def drmSelectPreferredmode (build : PreferredBuild) (modes : List TypedMode) : Nat :=
  let (preferred, c) := selectLoop build 0 modes .initial
  match preferred.filter fun preferred => preferred.2.is60Hz with
  | some (index, _) => index
  | none => ((c.index_1080P <|> c.index_720P) <|> c.index_max).getD 0

variable (build : PreferredBuild) (modes : List TypedMode)

/-- The modes before the first one of the type `PREFERRED`. -/
def beforePreferred : List TypedMode := modes.takeWhile fun mode => !mode.Preferred build

/-- The first mode of the type `PREFERRED` is at 60 Hz. -/
def PreferredAt60Hz : Prop :=
  ∃ mode, modes.find? (TypedMode.Preferred build) = some mode ∧ mode.is60Hz = true

def HasMode (width height : Nat) : Prop := ∃ mode ∈ modes, mode.is width height = true

/-- The mode has the size, and the preferred flags if any mode of the size has them. -/
def BestOf (width height : Nat) (mode : TypedMode) : Prop :=
  mode.is width height = true ∧
    ((∃ other ∈ modes, other.is width height = true ∧ other.hasPreferredFlags build = true) →
      mode.hasPreferredFlags build = true)

def Has60Hz : Prop := ∃ mode ∈ modes, mode.is60Hz = true

/-- What is expected without a mode of the type `PREFERRED` at 60 Hz. -/
structure Fallback (index : Nat) (mode : TypedMode) : Prop where
  is1080P : HasMode modes 1920 1080 → BestOf build modes 1920 1080 mode
  is720P : ¬ HasMode modes 1920 1080 → HasMode modes 1280 720 → BestOf build modes 1280 720 mode
  is60Hz : ¬ HasMode modes 1920 1080 → ¬ HasMode modes 1280 720 → Has60Hz modes →
    mode.is60Hz = true
  first : ¬ Has60Hz modes → index = 0

/-- The index is valid, and it is the one that is expected. -/
def Selects (index : Nat) : Prop :=
  ∃ mode, modes[index]? = some mode ∧
    (PreferredAt60Hz build modes → index = (beforePreferred build modes).length) ∧
    (¬ PreferredAt60Hz build modes → Fallback build modes index mode)

/-- The pass takes a mode at 60 Hz as its largest so far: not one without pixels, unless it
has neither columns nor rows. -/
def TypedMode.Counts (mode : TypedMode) : Prop :=
  mode.is60Hz = true ∧ ((0 < mode.hdisplay ∧ 0 < mode.vdisplay) ∨
    (mode.hdisplay = 0 ∧ mode.vdisplay = 0 ∧ mode.hasPreferredFlags build = true))

/-- The pass gets to the mode that is expected before it ends at a mode of the type
`PREFERRED`. -/
structure Reaches : Prop where
  is1080P : HasMode modes 1920 1080 →
    ∃ mode ∈ beforePreferred build modes, BestOf build modes 1920 1080 mode
  is720P : ¬ HasMode modes 1920 1080 → HasMode modes 1280 720 →
    ∃ mode ∈ beforePreferred build modes, BestOf build modes 1280 720 mode
  is60Hz : ¬ HasMode modes 1920 1080 → ¬ HasMode modes 1280 720 → Has60Hz modes →
    (∃ mode, modes.head? = some mode ∧ mode.is60Hz = true) ∨
      ∃ mode ∈ beforePreferred build modes, mode.Counts build

variable {build modes}

structure Candidates.TracksMax (build : PreferredBuild) (seen : List TypedMode) (c : Candidates) :
    Prop where
  none : c.index_max = none → c.hdisplay = 0 ∧ c.vdisplay = 0 ∧
    ∀ mode ∈ seen, ¬ mode.Counts build
  some : ∀ i, c.index_max = some i →
    (∃ mode, seen[i]? = some mode ∧ mode.is60Hz = true) ∧ ∃ mode ∈ seen, mode.Counts build

structure Candidates.Tracks (build : PreferredBuild) (seen : List TypedMode) (c : Candidates) :
    Prop extends c.TracksMax build seen where
  is720P : IsCandidate (TypedMode.is 1280 720) (TypedMode.hasPreferredFlags build) seen
    c.index_720P
  is1080P : IsCandidate (TypedMode.is 1920 1080) (TypedMode.hasPreferredFlags build) seen
    c.index_1080P

namespace Candidates

theorem Tracks.initial : Tracks build [] .initial where
  none := fun _ => ⟨rfl, rfl, fun _ member => absurd member List.not_mem_nil⟩
  some := fun _ found => by cases found
  is720P := isCandidate_nil
  is1080P := isCandidate_nil

theorem lookMax_cases (i : Nat) (mode : TypedMode) {c : Candidates}
    (fresh : c.index_max = Option.none → c.hdisplay = 0 ∧ c.vdisplay = 0) :
    ((c.lookMax build i mode).index_max = Option.some i ∧ mode.is60Hz = true ∧
      (c.index_max = Option.none → mode.Counts build)) ∨
    (c.lookMax build i mode = c ∧ (c.index_max = Option.none → ¬ mode.Counts build)) := by
  rw [lookMax]
  split
  · rename_i larger
    simp only [Bool.and_eq_true, decide_eq_true_eq] at larger
    refine .inl ⟨rfl, larger.2, fun none => ⟨larger.2, .inl ⟨?_, ?_⟩⟩⟩
    · exact lt_of_le_of_lt (Nat.zero_le _) larger.1.1
    · exact lt_of_le_of_lt (Nat.zero_le _) larger.1.2
  · rename_i larger
    simp only [Bool.and_eq_true, decide_eq_true_eq] at larger
    split
    · rename_i equal
      simp only [Bool.and_eq_true, decide_eq_true_eq] at equal
      split
      · rename_i flags
        refine .inl ⟨rfl, equal.2, fun none => ⟨equal.2, .inr ⟨?_, ?_, flags⟩⟩⟩
        · exact equal.1.1.trans (fresh none).1
        · exact equal.1.2.trans (fresh none).2
      · rename_i flags
        refine .inr ⟨rfl, fun none counts => ?_⟩
        obtain ⟨h, v⟩ := fresh none
        rcases counts with ⟨hz, pixels | bare⟩
        · exact larger ⟨⟨h ▸ pixels.1, v ▸ pixels.2⟩, hz⟩
        · exact flags bare.2.2
    · rename_i different
      simp only [Bool.and_eq_true, decide_eq_true_eq] at different
      refine .inr ⟨rfl, fun none counts => ?_⟩
      obtain ⟨h, v⟩ := fresh none
      rcases counts with ⟨hz, pixels | bare⟩
      · exact larger ⟨⟨h ▸ pixels.1, v ▸ pixels.2⟩, hz⟩
      · exact different ⟨⟨bare.1.trans h.symm, bare.2.1.trans v.symm⟩, hz⟩

theorem lookMax_other (build : PreferredBuild) (i : Nat) (mode : TypedMode) (c : Candidates) :
    (c.lookMax build i mode).index_720P = c.index_720P ∧
      (c.lookMax build i mode).index_1080P = c.index_1080P := by
  rw [lookMax]
  split
  · exact ⟨rfl, rfl⟩
  · split
    · split <;> exact ⟨rfl, rfl⟩
    · exact ⟨rfl, rfl⟩

theorem TracksMax.lookMax {seen : List TypedMode} {c : Candidates}
    (tracks : c.TracksMax build seen) (mode : TypedMode) :
    (c.lookMax build seen.length mode).TracksMax build (seen ++ [mode]) := by
  have last : (seen ++ [mode])[seen.length]? = Option.some mode := List.getElem?_concat_length
  have fresh : c.index_max = Option.none → c.hdisplay = 0 ∧ c.vdisplay = 0 :=
    fun none => ⟨(tracks.none none).1, (tracks.none none).2.1⟩
  rcases lookMax_cases seen.length mode fresh with ⟨taken, hz, counted⟩ | ⟨kept, uncounted⟩
  · refine ⟨fun none => absurd (none.symm.trans taken) (by simp), fun i some => ?_⟩
    cases taken.symm.trans some
    refine ⟨⟨mode, last, hz⟩, ?_⟩
    cases before : c.index_max with
    | none => exact ⟨mode, List.mem_append_right _ List.mem_cons_self, counted before⟩
    | some j =>
        obtain ⟨earlier, member, counts⟩ := (tracks.some j before).2
        exact ⟨earlier, List.mem_append_left _ member, counts⟩
  · rw [kept]
    refine ⟨fun none => ⟨(fresh none).1, (fresh none).2, ?_⟩, fun i some => ?_⟩
    · rw [List.forall_mem_append, List.forall_mem_singleton]
      exact ⟨(tracks.none none).2.2, uncounted none⟩
    · obtain ⟨⟨earlier, found, hz⟩, ⟨counted, member, counts⟩⟩ := tracks.some i some
      exact ⟨⟨earlier, getElem?_concat_of_eq_some found, hz⟩,
        ⟨counted, List.mem_append_left _ member, counts⟩⟩

theorem Tracks.look {seen : List TypedMode} {c : Candidates} (tracks : c.Tracks build seen)
    (mode : TypedMode) : (c.look build seen.length mode).Tracks build (seen ++ [mode]) := by
  refine ⟨?_, ?_, ?_⟩
  · rw [Candidates.look]
    refine TracksMax.lookMax ?_ mode
    exact ⟨tracks.none, tracks.some⟩
  · rw [Candidates.look, (lookMax_other build seen.length mode _).1]
    exact tracks.is720P.concat mode
  · rw [Candidates.look, (lookMax_other build seen.length mode _).2]
    exact tracks.is1080P.concat mode

end Candidates

theorem selectLoop_eq (rest : List TypedMode) {seen : List TypedMode} {c : Candidates}
    (tracks : c.Tracks build seen) :
    (selectLoop build seen.length rest c).2.Tracks build (seen ++ beforePreferred build rest) ∧
      (selectLoop build seen.length rest c).1 =
        (rest.find? (TypedMode.Preferred build)).map
          fun mode => (seen.length + (beforePreferred build rest).length, mode) := by
  induction rest generalizing seen c with
  | nil => exact ⟨by simpa [beforePreferred, selectLoop] using tracks, rfl⟩
  | cons mode rest ih =>
      rw [selectLoop, beforePreferred, List.takeWhile_cons, List.find?_cons]
      cases preferred : mode.Preferred build with
      | true => exact ⟨by simpa using tracks, by simp⟩
      | false =>
          have step := ih (tracks.look mode)
          rw [List.length_append, List.length_singleton, List.append_assoc] at step
          refine ⟨by simpa [beforePreferred] using step.1, ?_⟩
          simpa [beforePreferred, Nat.add_assoc, Nat.add_comm 1] using step.2

theorem getElem?_beforePreferred {i : Nat} {mode : TypedMode}
    (found : (beforePreferred build modes)[i]? = some mode) : modes[i]? = some mode := by
  obtain ⟨rest, cut⟩ := List.takeWhile_prefix (l := modes) fun mode => !mode.Preferred build
  rw [beforePreferred] at found
  rw [← cut, List.getElem?_append_left (List.getElem?_eq_some_iff.mp found).1]
  exact found

theorem mem_of_mem_beforePreferred {mode : TypedMode}
    (member : mode ∈ beforePreferred build modes) : mode ∈ modes :=
  (List.takeWhile_prefix _).subset member

theorem getElem?_length_beforePreferred {mode : TypedMode}
    (found : modes.find? (TypedMode.Preferred build) = some mode) :
    modes[(beforePreferred build modes).length]? = some mode := by
  induction modes with
  | nil => cases found
  | cons head rest ih =>
      rw [List.find?_cons] at found
      cases preferred : head.Preferred build with
      | true =>
          rw [preferred] at found
          simpa [beforePreferred, preferred] using found
      | false =>
          rw [preferred] at found
          simpa [beforePreferred, preferred] using ih found

theorem drmSelectPreferredmode_eq (build : PreferredBuild) (modes : List TypedMode) :
    ∃ c : Candidates, c.Tracks build (beforePreferred build modes) ∧
      drmSelectPreferredmode build modes =
        match (modes.find? (TypedMode.Preferred build)).filter TypedMode.is60Hz with
        | some _ => (beforePreferred build modes).length
        | none => ((c.index_1080P <|> c.index_720P) <|> c.index_max).getD 0 := by
  have loop := @selectLoop_eq build modes [] .initial .initial
  simp only [List.length_nil, Nat.zero_add, List.nil_append] at loop
  refine ⟨_, loop.1, ?_⟩
  simp only [drmSelectPreferredmode, loop.2]
  cases modes.find? (TypedMode.Preferred build) with
  | none => rfl
  | some mode =>
      cases hz : mode.is60Hz with
      | true => simp [Option.filter, hz]
      | false => simp [Option.filter, hz]

theorem drmSelectPreferredmode_preferred (at60 : PreferredAt60Hz build modes) :
    drmSelectPreferredmode build modes = (beforePreferred build modes).length ∧
      ∃ mode, modes[(beforePreferred build modes).length]? = some mode := by
  obtain ⟨mode, found, hz⟩ := at60
  obtain ⟨c, _, selected⟩ := drmSelectPreferredmode_eq build modes
  refine ⟨?_, mode, getElem?_length_beforePreferred found⟩
  rw [selected, found]
  simp [Option.filter, hz]

theorem drmSelectPreferredmode_fallback (other : ¬ PreferredAt60Hz build modes) :
    ∃ c : Candidates, c.Tracks build (beforePreferred build modes) ∧
      ((∃ i, c.index_1080P = some i ∧ drmSelectPreferredmode build modes = i) ∨
        (c.index_1080P = none ∧ ∃ i, c.index_720P = some i ∧
          drmSelectPreferredmode build modes = i) ∨
        (c.index_1080P = none ∧ c.index_720P = none ∧ ∃ i, c.index_max = some i ∧
          drmSelectPreferredmode build modes = i) ∨
        (c.index_1080P = none ∧ c.index_720P = none ∧ c.index_max = none ∧
          drmSelectPreferredmode build modes = 0)) := by
  obtain ⟨c, tracks, selected⟩ := drmSelectPreferredmode_eq build modes
  have none : (modes.find? (TypedMode.Preferred build)).filter TypedMode.is60Hz = none := by
    rw [Option.filter_eq_none_iff]
    exact fun mode found hz => other ⟨mode, found, hz⟩
  rw [none] at selected
  refine ⟨c, tracks, ?_⟩
  cases large : c.index_1080P with
  | some i => exact .inl ⟨i, rfl, by rw [selected, large]; rfl⟩
  | none =>
      cases small : c.index_720P with
      | some i => exact .inr (.inl ⟨rfl, i, rfl, by rw [selected, large, small]; rfl⟩)
      | none =>
          cases max : c.index_max with
          | some i =>
              exact .inr (.inr (.inl ⟨rfl, rfl, i, rfl, by rw [selected, large, small, max]; rfl⟩))
          | none =>
              exact .inr (.inr (.inr ⟨rfl, rfl, rfl, by rw [selected, large, small, max]; rfl⟩))

theorem TypedMode.is60Hz_of_is {mode : TypedMode} {width height : Nat}
    (is : mode.is width height = true) : mode.is60Hz = true := by
  simp only [TypedMode.is, Bool.and_eq_true] at is
  exact is.2

theorem mem_beforePreferred_of_candidate {fits liked : TypedMode → Bool} {i : Nat}
    {mode : TypedMode} (kept : IsCandidate fits liked (beforePreferred build modes) (some i))
    (selected : modes[i]? = some mode) : mode ∈ beforePreferred build modes := by
  obtain ⟨x, found, _⟩ := kept
  cases (getElem?_beforePreferred found).symm.trans selected
  exact List.mem_of_getElem? found

theorem selected_mem_beforePreferred (other : ¬ PreferredAt60Hz build modes) {mode : TypedMode}
    (selected : modes[drmSelectPreferredmode build modes]? = some mode)
    (hz : mode.is60Hz = true) : mode ∈ beforePreferred build modes := by
  rcases drmSelectPreferredmode_fallback other with ⟨c, tracks, ⟨i, large, index⟩ |
    ⟨_, i, small, index⟩ | ⟨_, _, i, max, index⟩ | ⟨_, _, _, index⟩⟩
  · rw [index] at selected
    exact mem_beforePreferred_of_candidate (large ▸ tracks.is1080P) selected
  · rw [index] at selected
    exact mem_beforePreferred_of_candidate (small ▸ tracks.is720P) selected
  · obtain ⟨x, found, _⟩ := (tracks.some i max).1
    rw [index] at selected
    cases (getElem?_beforePreferred found).symm.trans selected
    exact List.mem_of_getElem? found
  · rw [index] at selected
    cases modes with
    | nil => cases selected
    | cons head rest =>
        cases selected
        cases preferred : mode.Preferred build with
        | true => exact absurd ⟨mode, by simp [preferred], hz⟩ other
        | false => simp [beforePreferred, preferred]

theorem candidate_bestOf {width height i : Nat}
    (kept : IsCandidate (TypedMode.is width height) (TypedMode.hasPreferredFlags build)
      (beforePreferred build modes) (some i))
    (reached : HasMode modes width height →
      ∃ mode ∈ beforePreferred build modes, BestOf build modes width height mode) :
    ∃ mode, modes[i]? = some mode ∧ BestOf build modes width height mode := by
  obtain ⟨mode, found, is, best⟩ := kept
  have member := mem_of_mem_beforePreferred (List.mem_of_getElem? found)
  obtain ⟨seen, before, bestSeen⟩ := reached ⟨mode, member, is⟩
  refine ⟨mode, getElem?_beforePreferred found, is, fun flagged => best ⟨seen, before, ?_⟩⟩
  exact ⟨bestSeen.1, bestSeen.2 flagged⟩

theorem not_hasMode {width height : Nat}
    (kept : IsCandidate (TypedMode.is width height) (TypedMode.hasPreferredFlags build)
      (beforePreferred build modes) none)
    (reached : HasMode modes width height →
      ∃ mode ∈ beforePreferred build modes, BestOf build modes width height mode) :
    ¬ HasMode modes width height := by
  intro has
  obtain ⟨mode, member, best⟩ := reached has
  exact kept mode member best.1

theorem fallback_of_reaches (nonempty : modes ≠ []) (other : ¬ PreferredAt60Hz build modes)
    (reaches : Reaches build modes) : ∃ mode,
      modes[drmSelectPreferredmode build modes]? = some mode ∧
        Fallback build modes (drmSelectPreferredmode build modes) mode := by
  have has {width height : Nat} {mode : TypedMode} {i : Nat} (found : modes[i]? = some mode)
      (is : mode.is width height = true) : HasMode modes width height ∧ Has60Hz modes :=
    have member := List.mem_of_getElem? found
    ⟨⟨mode, member, is⟩, ⟨mode, member, TypedMode.is60Hz_of_is is⟩⟩
  rcases drmSelectPreferredmode_fallback other with ⟨c, tracks, ⟨i, large, index⟩ |
    ⟨noLarge, i, small, index⟩ | ⟨noLarge, noSmall, i, max, index⟩ |
    ⟨noLarge, noSmall, noMax, index⟩⟩
  · obtain ⟨mode, found, best⟩ := candidate_bestOf (large ▸ tracks.is1080P) reaches.is1080P
    have there := has found best.1
    rw [index]
    exact ⟨mode, found, fun _ => best, fun none => absurd there.1 none,
      fun none => absurd there.1 none, fun none => absurd there.2 none⟩
  · have notLarge := not_hasMode (noLarge ▸ tracks.is1080P) reaches.is1080P
    rcases candidate_bestOf (small ▸ tracks.is720P) (reaches.is720P notLarge) with
      ⟨mode, found, best⟩
    have there := has found best.1
    rw [index]
    exact ⟨mode, found, fun large => absurd large notLarge, fun _ _ => best,
      fun _ none => absurd there.1 none, fun none => absurd there.2 none⟩
  · have notLarge := not_hasMode (noLarge ▸ tracks.is1080P) reaches.is1080P
    have notSmall := not_hasMode (noSmall ▸ tracks.is720P) (reaches.is720P notLarge)
    obtain ⟨mode, seen, hz⟩ := (tracks.some i max).1
    have found := getElem?_beforePreferred seen
    rw [index]
    exact ⟨mode, found, fun large => absurd large notLarge, fun _ small => absurd small notSmall,
      fun _ _ _ => hz, fun none => absurd ⟨mode, List.mem_of_getElem? found, hz⟩ none⟩
  · have notLarge := not_hasMode (noLarge ▸ tracks.is1080P) reaches.is1080P
    have notSmall := not_hasMode (noSmall ▸ tracks.is720P) (reaches.is720P notLarge)
    rcases List.exists_cons_of_ne_nil nonempty with ⟨head, rest, rfl⟩
    rw [index]
    refine ⟨head, rfl, fun large => absurd large notLarge, fun _ small => absurd small notSmall,
      fun _ _ some => ?_, fun _ => rfl⟩
    rcases reaches.is60Hz notLarge notSmall some with ⟨first, same, hz⟩ | ⟨mode, seen, counts⟩
    · cases same
      exact hz
    · exact absurd counts ((tracks.none noMax).2.2 mode seen)

theorem reaches_of_fallback (other : ¬ PreferredAt60Hz build modes) {mode : TypedMode}
    (selected : modes[drmSelectPreferredmode build modes]? = some mode)
    (fallback : Fallback build modes (drmSelectPreferredmode build modes) mode) :
    Reaches build modes := by
  have seen := selected_mem_beforePreferred other selected
  refine ⟨fun large => ?_, fun notLarge small => ?_, fun notLarge notSmall hz => ?_⟩
  · have best := fallback.is1080P large
    exact ⟨mode, seen (TypedMode.is60Hz_of_is best.1), best⟩
  · have best := fallback.is720P notLarge small
    exact ⟨mode, seen (TypedMode.is60Hz_of_is best.1), best⟩
  · have selected60 := fallback.is60Hz notLarge notSmall hz
    by_cases counted : ∃ mode ∈ beforePreferred build modes, mode.Counts build
    · exact .inr counted
    · have absent {width height : Nat} (none : ¬ HasMode modes width height) {i : Nat}
          (kept : IsCandidate (TypedMode.is width height) (TypedMode.hasPreferredFlags build)
            (beforePreferred build modes) (some i)) : False := by
        obtain ⟨x, found, is, _⟩ := kept
        exact none ⟨x, mem_of_mem_beforePreferred (List.mem_of_getElem? found), is⟩
      rcases drmSelectPreferredmode_fallback other with ⟨c, tracks, ⟨i, large, _⟩ |
        ⟨_, i, small, _⟩ | ⟨_, _, i, max, _⟩ | ⟨_, _, _, index⟩⟩
      · exact (absent notLarge (large ▸ tracks.is1080P)).elim
      · exact (absent notSmall (small ▸ tracks.is720P)).elim
      · exact absurd (tracks.some i max).2 counted
      · rw [index, ← List.head?_eq_getElem?] at selected
        exact .inl ⟨mode, selected, selected60⟩

/-- The mode that is expected is selected exactly if the first one of the type `PREFERRED` is
at 60 Hz, or if the pass gets to the mode that is expected before it ends. -/
theorem preferredmode_selected_iff (nonempty : modes ≠ []) :
    Selects build modes (drmSelectPreferredmode build modes) ↔
      PreferredAt60Hz build modes ∨ Reaches build modes := by
  by_cases at60 : PreferredAt60Hz build modes
  · refine iff_of_true ?_ (.inl at60)
    obtain ⟨index, mode, found⟩ := drmSelectPreferredmode_preferred at60
    rw [index]
    exact ⟨mode, found, fun _ => rfl, fun other => absurd at60 other⟩
  · rw [or_iff_right at60]
    constructor
    · rintro ⟨mode, selected, _, fallback⟩
      exact reaches_of_fallback at60 selected (fallback at60)
    · intro reaches
      obtain ⟨mode, selected, fallback⟩ := fallback_of_reaches nonempty at60 reaches
      exact ⟨mode, selected, fun preferred => absurd preferred at60, fun _ => fallback⟩

def psbPreferred : PreferredBuild := ⟨psbBuild, 8⟩

def wideMode (width height : Nat) (refresh type : UInt32) : TypedMode :=
  ⟨⟨width, height, refresh, 0x8000, 0⟩, type⟩

def frenchModes : List TypedMode :=
  [wideMode 1280 720 60 0, wideMode 1920 1080 60 0, wideMode 1920 1080 50 8]

theorem frenchModes_selected :
    drmSelectPreferredmode psbPreferred frenchModes = 1 ∧
      Selects psbPreferred frenchModes (drmSelectPreferredmode psbPreferred frenchModes) := by
  have best : BestOf psbPreferred frenchModes 1920 1080 (wideMode 1920 1080 60 0) :=
    ⟨by decide, fun _ => by decide⟩
  have large : HasMode frenchModes 1920 1080 := ⟨wideMode 1920 1080 60 0, by decide, by decide⟩
  refine ⟨by decide, (preferredmode_selected_iff (by decide)).mpr (.inr ⟨fun _ => ?_, ?_, ?_⟩)⟩
  · exact ⟨wideMode 1920 1080 60 0, by decide, best⟩
  · exact fun none => absurd large none
  · exact fun none => absurd large none

/-- The pass ends at a preferred mode at 50 Hz before it gets to the mode at 60 Hz. -/
theorem preferred_at_50Hz_selected :
    ¬ Selects psbPreferred [wideMode 1920 1080 50 8, wideMode 1920 1080 60 0]
      (drmSelectPreferredmode psbPreferred [wideMode 1920 1080 50 8, wideMode 1920 1080 60 0]) := by
  rintro ⟨mode, found, _, fallback⟩
  have first : mode = wideMode 1920 1080 50 8 := Option.some.inj found.symm
  have other : ¬ PreferredAt60Hz psbPreferred
      [wideMode 1920 1080 50 8, wideMode 1920 1080 60 0] := by
    rintro ⟨preferred, earliest, hz⟩
    cases earliest
    exact absurd hz (by decide)
  have best := (fallback other).is1080P ⟨wideMode 1920 1080 60 0, by decide, by decide⟩
  rw [first] at best
  exact absurd best.1 (by decide)

end A500cg.Mds
