import A500cg.Mds.VideoOn

/-! Any number of `MultiDisplayVideoClient`s on one composer. Each binder call inside
`setVideoState` is a step of its own, and so are the code before the first and the code
after the last of them; the steps of different clients come in any order. -/

namespace A500cg.Mds

open Lib

structure SourceFields where
  frameRate : Option Int
  width : Option Int
  height : Option Int
  deriving DecidableEq, Repr

inductive SourceArgument where
  | metaData (fields : Option SourceFields)
  | message (fields : Option SourceFields)
  deriving DecidableEq, Repr

structure Request where
  state : Int
  isProtected : Bool
  source : SourceArgument
  deriving DecidableEq, Repr

def sourceInfo (isProtected : Bool) (fields : SourceFields) : MDSVideoSourceInfo :=
  { MDSVideoSourceInfo.zero with
    frameRate := fields.frameRate.getD 0
    displayW := fields.width.getD 0
    displayH := fields.height.getD 0
    isProtected := isProtected }

/-- The info that the composer is given, if any: one of the overloads skips it for a null
argument. -/
def Request.info (request : Request) : Option MDSVideoSourceInfo :=
  if request.state = MDS_VIDEO_PREPARED then
    match request.source with
    | .metaData fields => some (sourceInfo request.isProtected (fields.getD ⟨none, none, none⟩))
    | .message fields => fields.map (sourceInfo request.isProtected)
  else none

/-- Where a client is in `setVideoState`; the last phase has the composer's result, which
is not looked at. -/
inductive ClientPhase where
  | idle
  | allocating (request : Request)
  | informing (request : Request) (info : MDSVideoSourceInfo)
  | updating (request : Request)
  | finishing (request : Request) (result : Int)
  deriving DecidableEq, Repr

structure MultiDisplayVideoClient where
  mSessionId : Int
  mVideo : Bool
  mState : Int
  phase : ClientPhase
  deriving DecidableEq, Repr

/-- What follows `prepare`. -/
def Request.prepared (request : Request) : ClientPhase :=
  match request.info with
  | some info => .informing request info
  | none => .updating request

namespace MultiDisplayVideoClient

def initial : MultiDisplayVideoClient := ⟨-1, false, MDS_VIDEO_UNPREPARED, .idle⟩

def close (client : MultiDisplayVideoClient) : MultiDisplayVideoClient :=
  { client with mSessionId := -1, mState := MDS_VIDEO_UNPREPARED, mVideo := false }

/-- `prepare` up to the allocation. Where it fails, `setVideoState` returns `UNKNOWN_ERROR`
and the client is idle again. -/
def prepare (client : MultiDisplayVideoClient) (request : Request) (service : Bool) :
    MultiDisplayVideoClient :=
  if MDS_VIDEO_UNPREPARING ≤ request.state ∧ client.mSessionId < 0 then client
  else if request.state = client.mState then client
  else if request.isProtected = false ∧ (request.state = MDS_VIDEO_PREPARING ∨
      request.state = MDS_VIDEO_UNPREPARING) then client
  else if client.mVideo = false ∧ service = false then client
  else
    { client with
      mVideo := true
      phase := if client.mSessionId < 0 then .allocating request else request.prepared }

/-- The end of `setVideoState`. -/
def finish (client : MultiDisplayVideoClient) (state : Int) : MultiDisplayVideoClient :=
  { if state = MDS_VIDEO_UNPREPARED then client.close else client with
    mState := state, phase := .idle }

end MultiDisplayVideoClient

/-- A return of `NO_ERROR`: what the composer had been given and what it had returned. -/
structure Report where
  client : Nat
  sessionId : Int
  state : Int
  result : Int
  deriving DecidableEq, Repr

structure Players where
  composer : Composer
  clients : Nat → MultiDisplayVideoClient
  reports : List Report

inductive PlayerEvent where
  | call (client : Nat) (request : Request) (service : Bool)
  | allocate (client : Nat)
  | inform (client : Nat)
  | update (client : Nat) (answers : Answers)
  | finish (client : Nat)
  /-- `reset` of any client reaches the composer. -/
  | reset

namespace Players

def start (composer : Composer) : Players := ⟨composer, fun _ => .initial, []⟩

def setClient (s : Players) (k : Nat) (client : MultiDisplayVideoClient) : Players :=
  { s with clients := Function.update s.clients k client }

def step (s : Players) : PlayerEvent → Option Players
  | .call k request service =>
      match (s.clients k).phase with
      | .idle => some (s.setClient k ((s.clients k).prepare request service))
      | _ => none
  | .allocate k =>
      match (s.clients k).phase with
      | .allocating request =>
          some (s.setClient k { s.clients k with
            mSessionId := s.composer.allocateVideoSessionId, phase := request.prepared })
      | _ => none
  | .inform k =>
      match (s.clients k).phase with
      | .informing request info =>
          some { s.setClient k { s.clients k with phase := .updating request } with
            composer :=
              (s.composer.updateVideoSourceInfo (s.clients k).mSessionId info).composer }
      | _ => none
  | .update k answers =>
      match (s.clients k).phase with
      | .updating request =>
          let outcome :=
            s.composer.updateVideoState answers (s.clients k).mSessionId request.state
          some { s.setClient k { s.clients k with phase := .finishing request outcome.result } with
            composer := outcome.composer }
      | _ => none
  | .finish k =>
      match (s.clients k).phase with
      | .finishing request result =>
          some { s.setClient k ((s.clients k).finish request.state) with
            reports := s.reports ++ [⟨k, (s.clients k).mSessionId, request.state, result⟩] }
      | _ => none
  | .reset => some { s with composer := s.composer.resetVideoPlayback.composer }

/-- Clients that play hold different sessions, and no success was reported that the
composer had not granted for a valid session. -/
structure Exclusive (s : Players) : Prop where
  sessions : ∀ j k, j ≠ k → (s.clients j).mState ≠ MDS_VIDEO_UNPREPARED →
    (s.clients k).mState ≠ MDS_VIDEO_UNPREPARED →
    (s.clients j).mSessionId ≠ (s.clients k).mSessionId
  reports : ∀ report ∈ s.reports, 0 ≤ report.sessionId ∧
    report.sessionId < MDS_VIDEO_SESSION_MAX_VALUE ∧ report.result = NO_ERROR

end Players

/-- The client holds no session that the composer takes for free: it is not between its
allocation and its first state, nor between its last state and `close`. -/
def MultiDisplayVideoClient.Settled (client : MultiDisplayVideoClient) : Prop :=
  match client.phase with
  | .idle => True
  | .allocating _ => True
  | .informing _ _ => client.mState ≠ MDS_VIDEO_UNPREPARED
  | .updating _ => client.mState ≠ MDS_VIDEO_UNPREPARED
  | .finishing request _ => request.state ≠ MDS_VIDEO_UNPREPARED

def Composer.Free (c : Composer) (i : Fin MDS_VIDEO_SESSION_MAX_VALUE) : Prop :=
  (c.mVideos i).mState = MDS_VIDEO_UNPREPARED

/-- The steps of a run in which players do not get in each other's way. A session is
allocated while one is free, and every other client is settled or holds a higher session
than one that is free; the composer is given one of the four states, and the callback
accepts it; at a reset all sessions that clients hold are free. -/
def Orderly (s : Players) : PlayerEvent → Prop
  | .allocate k => (∃ i, s.composer.Free i) ∧
      ∀ j, j ≠ k → (s.clients j).Settled ∨
        ∃ i, s.composer.Free i ∧ ((i : Nat) : Int) < (s.clients j).mSessionId
  | .update k answers => (∀ request, (s.clients k).phase = .updating request →
        MDS_VIDEO_PREPARING ≤ request.state ∧ request.state ≤ MDS_VIDEO_UNPREPARED) ∧
      (s.composer.mMDSCallback ≠ none → answers.updateVideoState = NO_ERROR)
  | .reset => ∀ k i, (s.clients k).mSessionId = (i : Fin MDS_VIDEO_SESSION_MAX_VALUE).val →
      s.composer.Free i
  | _ => True

theorem sessionIndex_eq_some_iff {sessionId : Int} {i : Fin MDS_VIDEO_SESSION_MAX_VALUE} :
    sessionIndex sessionId = some i ↔ sessionId = (i : Nat) := by
  have below := i.isLt
  simp only [sessionIndex]
  split
  · simp only [Option.some.injEq, Fin.ext_iff]
    omega
  · simp only [reduceCtorEq, false_iff]
    omega

/-- The client's session is not free. -/
def Live (c : Composer) (client : MultiDisplayVideoClient) : Prop :=
  ∃ i : Fin MDS_VIDEO_SESSION_MAX_VALUE, client.mSessionId = (i : Nat) ∧ ¬ c.Free i

def ValidId (sessionId : Int) : Prop := 0 ≤ sessionId ∧ sessionId < MDS_VIDEO_SESSION_MAX_VALUE

theorem Live.validId {c : Composer} {client : MultiDisplayVideoClient} (live : Live c client) :
    ValidId client.mSessionId := by
  rcases live with ⟨i, id, _⟩
  have below := i.isLt
  exact ⟨by omega, by omega⟩

/-- A client that has allocated a session and not used it, or that plays. -/
def Holding (c : Composer) (client : MultiDisplayVideoClient) (request : Request) : Prop :=
  ValidId client.mSessionId ∧
    ((client.mState = MDS_VIDEO_UNPREPARED ∧ request.state < MDS_VIDEO_UNPREPARING) ∨
      (client.mState ≠ MDS_VIDEO_UNPREPARED ∧ Live c client))

/-- A client and its session, by phases. -/
def Consistent (c : Composer) (client : MultiDisplayVideoClient) : Prop :=
  match client.phase with
  | .idle => (client.mSessionId = -1 ∧ client.mState = MDS_VIDEO_UNPREPARED) ∨
      (client.mState ≠ MDS_VIDEO_UNPREPARED ∧ Live c client)
  | .allocating request => client.mSessionId = -1 ∧ client.mState = MDS_VIDEO_UNPREPARED ∧
      request.state < MDS_VIDEO_UNPREPARING
  | .informing request _ => Holding c client request
  | .updating request => Holding c client request
  | .finishing request result => ValidId client.mSessionId ∧ result = NO_ERROR ∧
      (request.state ≠ MDS_VIDEO_UNPREPARED → Live c client)

theorem Consistent.mono {c next : Composer} {client : MultiDisplayVideoClient}
    (consistent : Consistent c client) (live : Live c client → Live next client) :
    Consistent next client := by
  simp only [Consistent, Holding] at consistent ⊢
  split at consistent
  · exact consistent.imp id (And.imp id live)
  · exact consistent
  · exact consistent.imp id (Or.imp id (And.imp id live))
  · exact consistent.imp id (Or.imp id (And.imp id live))
  · exact consistent.imp id (And.imp id (fun held notClosed => live (held notClosed)))

theorem Consistent.validId {c : Composer} {client : MultiDisplayVideoClient}
    (consistent : Consistent c client) (plays : client.mState ≠ MDS_VIDEO_UNPREPARED) :
    ValidId client.mSessionId := by
  simp only [Consistent, Holding] at consistent
  split at consistent
  · rcases consistent with ⟨_, closed⟩ | ⟨_, live⟩
    · exact absurd closed plays
    · exact live.validId
  · exact absurd consistent.2.1 plays
  · exact consistent.1
  · exact consistent.1
  · exact consistent.1

theorem Consistent.live {c : Composer} {client : MultiDisplayVideoClient}
    (consistent : Consistent c client) (settled : client.Settled)
    (held : 0 ≤ client.mSessionId) : Live c client := by
  simp only [Consistent, Holding] at consistent
  simp only [MultiDisplayVideoClient.Settled] at settled
  split at consistent
  · rcases consistent with ⟨none, _⟩ | ⟨_, live⟩
    · omega
    · exact live
  · omega
  · rename_i phase
    rw [phase] at settled
    exact (consistent.2.resolve_left fun fresh => settled fresh.1).2
  · rename_i phase
    rw [phase] at settled
    exact (consistent.2.resolve_left fun fresh => settled fresh.1).2
  · rename_i phase
    rw [phase] at settled
    exact consistent.2.2 settled

theorem Holding.consistent {c : Composer} {client : MultiDisplayVideoClient} {request : Request}
    (holding : Holding c client request) :
    Consistent c { client with phase := request.prepared } := by
  simp only [Consistent, Request.prepared]
  cases request.info with
  | none => exact holding
  | some info => exact holding

theorem prepare_cases (client : MultiDisplayVideoClient) (request : Request) (service : Bool) :
    client.prepare request service = client ∨
    (client.mSessionId < 0 ∧ request.state < MDS_VIDEO_UNPREPARING ∧
      client.prepare request service =
        { client with mVideo := true, phase := .allocating request }) ∨
    (0 ≤ client.mSessionId ∧ client.prepare request service =
      { client with mVideo := true, phase := request.prepared }) := by
  simp only [MultiDisplayVideoClient.prepare]
  split
  · exact .inl rfl
  · rename_i possible
    split
    · exact .inl rfl
    · split
      · exact .inl rfl
      · split
        · exact .inl rfl
        · by_cases none : client.mSessionId < 0
          · exact .inr (.inl ⟨none, by omega, by rw [if_pos none]⟩)
          · exact .inr (.inr ⟨by omega, by rw [if_neg none]⟩)

theorem allocateVideoSessionId_free {c : Composer} (free : ∃ i, c.Free i) :
    ∃ i : Fin MDS_VIDEO_SESSION_MAX_VALUE, c.allocateVideoSessionId = (i : Nat) ∧ c.Free i ∧
      ∀ j, c.Free j → i ≤ j := by
  rcases free with ⟨j, isFree⟩
  simp only [Composer.allocateVideoSessionId]
  cases found : (List.finRange MDS_VIDEO_SESSION_MAX_VALUE).find? fun i =>
      (c.mVideos i).mState = MDS_VIDEO_UNPREPARED with
  | none =>
      have none := List.find?_eq_none.mp found j (List.mem_finRange j)
      exact absurd isFree (by simpa [Composer.Free] using none)
  | some i =>
      rcases List.find?_eq_some_iff_append.mp found with ⟨here, before, after, split, used⟩
      refine ⟨i, rfl, by simpa [Composer.Free] using here, ?_⟩
      intro j isFree
      have sorted := List.pairwise_lt_finRange MDS_VIDEO_SESSION_MAX_VALUE
      have member := List.mem_finRange j
      rw [split] at sorted member
      rcases List.mem_append.mp member with earlier | later
      · have taken := used j earlier
        exact absurd isFree (by simpa [Composer.Free] using taken)
      · rcases List.mem_cons.mp later with same | later
        · exact same.ge
        · exact (List.rel_of_pairwise_cons (List.pairwise_append.mp sorted).2.1 later).le

theorem updateVideoState_accepted {c : Composer} (answers : Answers)
    {i : Fin MDS_VIDEO_SESSION_MAX_VALUE} {state : Int}
    (valid : MDS_VIDEO_PREPARING ≤ state ∧ state ≤ MDS_VIDEO_UNPREPARED)
    (callback : c.mMDSCallback ≠ none → answers.updateVideoState = NO_ERROR) :
    (c.updateVideoState answers (i : Nat) state).result = NO_ERROR ∧
      ∀ j, ((c.updateVideoState answers (i : Nat) state).composer.mVideos j).mState =
        if j = i then state else (c.mVideos j).mState := by
  have index : sessionIndex ((i : Nat) : Int) = some i := sessionIndex_eq_some_iff.mpr rfl
  rcases c.updateVideoState_cases answers (i : Nat) state with ⟨refused, _⟩ |
    ⟨i', found, same, done⟩ | ⟨i', session, found, isState, done⟩
  · rcases refused with none | low | high
    · rw [none] at index
      cases index
    · omega
    · omega
  · cases Option.some.inj (index.symm.trans found)
    rw [done]
    refine ⟨rfl, fun j => ?_⟩
    split
    · rename_i isI
      rw [isI, same]
    · rfl
  · cases Option.some.inj (index.symm.trans found)
    rw [done]
    constructor
    · cases present : c.mMDSCallback with
      | none => rfl
      | some cbk => exact callback (by simp [present])
    · intro j
      by_cases isI : j = i
      · subst isI
        simp [Composer.updateVideoOn, Composer.setSession, isState]
      · simp [Composer.updateVideoOn, Composer.setSession, isI]

namespace Players

structure Held (s : Players) : Prop where
  distinct : ∀ j k, j ≠ k → 0 ≤ (s.clients j).mSessionId →
    (s.clients j).mSessionId ≠ (s.clients k).mSessionId
  clients : ∀ k, Consistent s.composer (s.clients k)
  reports : ∀ report ∈ s.reports, ValidId report.sessionId ∧ report.result = NO_ERROR

theorem Held.apart {s : Players} (held : s.Held) {k : Nat} (nonneg : 0 ≤ (s.clients k).mSessionId)
    (j : Nat) (other : j ≠ k) : (s.clients j).mSessionId ≠ (s.clients k).mSessionId :=
  (held.distinct k j (Ne.symm other) nonneg).symm

theorem Held.exclusive {s : Players} (held : s.Held) : s.Exclusive := by
  constructor
  · intro j k different playsJ _
    exact held.distinct j k different ((held.clients j).validId playsJ).1
  · intro report member
    have granted := held.reports report member
    exact ⟨granted.1.1, granted.1.2, granted.2⟩

theorem Held.setClient {s : Players} (held : s.Held) (k : Nat) (client : MultiDisplayVideoClient)
    (next : Composer) (reports : List Report)
    (kept : ∀ j, j ≠ k → Live s.composer (s.clients j) → Live next (s.clients j))
    (consistent : Consistent next client)
    (different : 0 ≤ client.mSessionId → ∀ j, j ≠ k → (s.clients j).mSessionId ≠ client.mSessionId)
    (granted : ∀ report ∈ reports, ValidId report.sessionId ∧ report.result = NO_ERROR) :
    Held ⟨next, Function.update s.clients k client, reports⟩ := by
  refine ⟨?_, ?_, granted⟩
  · intro i j other id
    dsimp only at id ⊢
    by_cases isI : i = k
    · subst isI
      rw [Function.update_self] at id ⊢
      rw [Function.update_of_ne (Ne.symm other)]
      exact (different id j (Ne.symm other)).symm
    · rw [Function.update_of_ne isI] at id ⊢
      by_cases isJ : j = k
      · subst isJ
        rw [Function.update_self]
        intro same
        exact different (same ▸ id) i isI same
      · rw [Function.update_of_ne isJ]
        exact held.distinct i j other id
  · intro j
    dsimp only
    by_cases isK : j = k
    · subst isK
      rw [Function.update_self]
      exact consistent
    · rw [Function.update_of_ne isK]
      exact (held.clients j).mono (kept j isK)

theorem held_prepare {s : Players} (held : s.Held) {k : Nat} (request : Request)
    (service : Bool) (idle : (s.clients k).phase = .idle) :
    (s.setClient k ((s.clients k).prepare request service)).Held := by
  have consistent := held.clients k
  simp only [Consistent, idle] at consistent
  have same : ∀ client, client.mSessionId = (s.clients k).mSessionId →
      Consistent s.composer client → (s.setClient k client).Held := by
    intro client id isConsistent
    refine held.setClient k _ _ _ (fun _ _ live => live) isConsistent ?_ held.reports
    rw [id]
    exact held.apart
  rcases prepare_cases (s.clients k) request service with failed | ⟨none, first, done⟩ |
    ⟨some, done⟩
  · rw [failed]
    exact same _ rfl (held.clients k)
  · rw [done]
    refine same _ rfl ?_
    rcases consistent with ⟨none, closed⟩ | ⟨_, live⟩
    · exact ⟨none, closed, first⟩
    · have valid := live.validId.1
      omega
  · rw [done]
    refine same _ rfl ?_
    rcases consistent with ⟨none, _⟩ | ⟨plays, live⟩
    · omega
    · exact Holding.consistent ⟨live.validId, .inr ⟨plays, live⟩⟩

theorem held_allocate {s : Players} (held : s.Held) {k : Nat} {request : Request}
    (allocating : (s.clients k).phase = .allocating request) (orderly : Orderly s (.allocate k)) :
    (s.setClient k { s.clients k with
      mSessionId := s.composer.allocateVideoSessionId, phase := request.prepared }).Held := by
  have consistent := held.clients k
  simp only [Consistent, allocating] at consistent
  rcases allocateVideoSessionId_free orderly.1 with ⟨i, id, free, lowest⟩
  have below := i.isLt
  have valid : ValidId ((i : Nat) : Int) := ⟨by omega, by omega⟩
  rw [id]
  refine held.setClient k _ _ _ (fun _ _ live => live) ?_ ?_ held.reports
  · exact @Holding.consistent _ { s.clients k with mSessionId := (i : Nat) } _
      ⟨valid, .inl consistent.2⟩
  · intro nonneg j other same
    dsimp only at same
    rcases orderly.2 j other with settled | ⟨i', free', above⟩
    · -- A settled client's session is in use, and the allocated one is not.
      rcases (held.clients j).live settled (same ▸ nonneg) with ⟨i', id', used⟩
      have isI : i' = i := Fin.ext (by omega)
      rw [isI] at used
      exact used free
    · have below' := Fin.le_def.mp (lowest i' free')
      omega

theorem held_inform {s : Players} (held : s.Held) {k : Nat} {request : Request}
    {info : MDSVideoSourceInfo} (informing : (s.clients k).phase = .informing request info) :
    Held { s.setClient k { s.clients k with phase := .updating request } with
      composer := (s.composer.updateVideoSourceInfo (s.clients k).mSessionId info).composer } := by
  have kept : ∀ client, Live s.composer client →
      Live (s.composer.updateVideoSourceInfo (s.clients k).mSessionId info).composer client := by
    intro client live
    rcases live with ⟨i, id, used⟩
    refine ⟨i, id, ?_⟩
    rw [Composer.Free, s.composer.updateVideoSourceInfo_states]
    exact used
  have consistent := held.clients k
  simp only [Consistent, informing] at consistent
  refine held.setClient k _ _ _ (fun j _ => kept _) ?_ ?_ held.reports
  · exact ⟨consistent.1, consistent.2.imp id (And.imp id (kept _))⟩
  · exact held.apart

theorem held_update {s : Players} (held : s.Held) {k : Nat} {request : Request}
    (answers : Answers) (updating : (s.clients k).phase = .updating request)
    (orderly : Orderly s (.update k answers)) :
    Held { s.setClient k { s.clients k with
        phase := .finishing request (s.composer.updateVideoState answers (s.clients k).mSessionId
          request.state).result } with
      composer := (s.composer.updateVideoState answers (s.clients k).mSessionId
        request.state).composer } := by
  have consistent := held.clients k
  simp only [Consistent, updating] at consistent
  have valid := consistent.1
  have isId : (s.clients k).mSessionId = ((s.clients k).mSessionId.toNat : Int) :=
    (Int.toNat_of_nonneg valid.1).symm
  obtain ⟨i, id⟩ : ∃ i : Fin MDS_VIDEO_SESSION_MAX_VALUE, (s.clients k).mSessionId = (i : Nat) :=
    ⟨⟨(s.clients k).mSessionId.toNat, by have below := valid.2; omega⟩, isId⟩
  have accepted := @updateVideoState_accepted s.composer answers i _
    (orderly.1 request updating) orderly.2
  rw [← id] at accepted
  refine held.setClient k _ _ _ ?_ ?_ ?_ held.reports
  · intro j other live
    rcases live with ⟨i', id', used⟩
    have different := held.distinct k j (Ne.symm other) valid.1
    have isOther : i' ≠ i := by
      intro same
      exact different (by rw [id, id', same])
    refine ⟨i', id', ?_⟩
    rw [Composer.Free, accepted.2, if_neg isOther]
    exact used
  · refine ⟨valid, accepted.1, ?_⟩
    intro notClosed
    refine ⟨i, id, ?_⟩
    rw [Composer.Free, accepted.2, if_pos rfl]
    exact notClosed
  · exact held.apart

theorem held_finish {s : Players} (held : s.Held) {k : Nat} {request : Request} {result : Int}
    (finishing : (s.clients k).phase = .finishing request result) :
    Held { s.setClient k ((s.clients k).finish request.state) with
      reports := s.reports ++ [⟨k, (s.clients k).mSessionId, request.state, result⟩] } := by
  have consistent := held.clients k
  simp only [Consistent, finishing] at consistent
  rcases consistent with ⟨valid, granted, live⟩
  refine held.setClient k _ _ _ (fun _ _ live => live) ?_ ?_ ?_
  · simp only [MultiDisplayVideoClient.finish]
    split
    · rename_i closed
      exact .inl ⟨rfl, closed⟩
    · rename_i plays
      exact .inr ⟨plays, live plays⟩
  · simp only [MultiDisplayVideoClient.finish]
    split
    · intro nonneg
      have none : (0 : Int) ≤ -1 := nonneg
      omega
    · exact held.apart
  · intro report member
    rcases List.mem_append.mp member with older | new
    · exact held.reports report older
    · rw [List.mem_singleton.mp new]
      exact ⟨valid, granted⟩

theorem held_reset {s : Players} (held : s.Held) (orderly : Orderly s .reset) :
    Held { s with composer := s.composer.resetVideoPlayback.composer } := by
  refine ⟨held.distinct, ?_, held.reports⟩
  intro k
  apply (held.clients k).mono
  intro live
  rcases live with ⟨i, id, used⟩
  exact absurd (orderly k i id) used

theorem held_step (s : Players) (event : PlayerEvent) (next : Players) (held : s.Held)
    (orderly : Orderly s event) (taken : s.step event = some next) : next.Held := by
  cases event with
  | call k request service =>
      simp only [step] at taken
      split at taken
      · rename_i idle
        cases taken
        exact held_prepare held request service idle
      · cases taken
  | allocate k =>
      simp only [step] at taken
      split at taken
      · rename_i request allocating
        cases taken
        exact held_allocate held allocating orderly
      · cases taken
  | inform k =>
      simp only [step] at taken
      split at taken
      · rename_i request info informing
        cases taken
        exact held_inform held informing
      · cases taken
  | update k answers =>
      simp only [step] at taken
      split at taken
      · rename_i request updating
        cases taken
        exact held_update held answers updating orderly
      · cases taken
  | finish k =>
      simp only [step] at taken
      split at taken
      · rename_i request result finishing
        cases taken
        exact held_finish held finishing
      · cases taken
  | reset =>
      cases taken
      exact held_reset held orderly

theorem start_held (composer : Composer) : (start composer).Held := by
  refine ⟨?_, fun _ => .inl ⟨rfl, rfl⟩, by simp [start]⟩
  intro j k _ nonneg
  have none : (0 : Int) ≤ -1 := nonneg
  omega

end Players

/-- In every run whose steps are orderly, the clients that play hold sessions of their own,
and every success that was reported was granted. -/
theorem exclusive_along_orderly_run {composer : Composer} {events : List PlayerEvent}
    {s : Players} (ran : runEvents Players.step (Players.start composer) events = some s)
    (orderly : Along Players.step Orderly (Players.start composer) events) : s.Exclusive :=
  (invariant_along_run Players.held_step (Players.start_held composer) ran orderly).exclusive

def idleComposer : Composer := Composer.construct true (fun _ => .blank) (.polling .disconnected)

def playClear : Request := ⟨MDS_VIDEO_PREPARED, false, .message none⟩

def twoStarts : List PlayerEvent :=
  [.call 0 playClear true, .allocate 0, .update 0 (.polling .disconnected), .finish 0,
    .call 1 playClear true, .allocate 1, .update 1 (.polling .disconnected), .finish 1]

theorem exclusive_after_two_starts :
    ∃ s, runEvents Players.step (Players.start idleComposer) twoStarts = some s ∧
      (s.clients 0).mSessionId = 0 ∧ (s.clients 1).mSessionId = 1 ∧ s.Exclusive := by
  have ran : ∃ s, runEvents Players.step (Players.start idleComposer) twoStarts = some s ∧
      (s.clients 0).mSessionId = 0 ∧ (s.clients 1).mSessionId = 1 := ⟨_, rfl, rfl, rfl⟩
  rcases ran with ⟨s, ran, first, second⟩
  refine ⟨s, ran, first, second, exclusive_along_orderly_run ran ?_⟩
  refine ⟨trivial, ?_⟩
  intro called taken
  cases taken
  refine ⟨⟨⟨⟨0, by decide⟩, rfl⟩, ?_⟩, ?_⟩
  · intro j other
    simp only [Players.setClient, Function.update_of_ne other]
    exact .inl trivial
  intro allocated taken
  cases taken
  refine ⟨⟨?_, fun _ => rfl⟩, ?_⟩
  · intro request updating
    cases updating
    decide
  intro updated taken
  cases taken
  refine ⟨trivial, ?_⟩
  intro playing taken
  cases taken
  refine ⟨trivial, ?_⟩
  intro called taken
  cases taken
  refine ⟨⟨⟨⟨1, by decide⟩, rfl⟩, ?_⟩, ?_⟩
  · intro j other
    by_cases zero : j = 0
    · subst zero
      exact .inl trivial
    · simp only [Players.setClient, Function.update_of_ne other, Function.update_of_ne zero]
      exact .inl trivial
  intro allocated taken
  cases taken
  refine ⟨⟨?_, fun _ => rfl⟩, fun _ _ => ⟨trivial, fun _ _ => trivial⟩⟩
  intro request updating
  cases updating
  decide

/-- Two players start together: both are given session 0, and both play. -/
theorem parallel_starts_share_session :
    ∃ s, runEvents Players.step (Players.start idleComposer)
        [.call 0 playClear true, .call 1 playClear true, .allocate 0, .allocate 1,
          .update 0 (.polling .disconnected), .update 1 (.polling .disconnected), .finish 0,
          .finish 1] = some s ∧
      ¬ s.Exclusive := by
  refine ⟨_, rfl, ?_⟩
  intro exclusive
  exact exclusive.sessions 0 1 (by decide) (by decide) (by decide) rfl

end A500cg.Mds
