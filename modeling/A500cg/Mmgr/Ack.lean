import A500cg.Lib.Machine

/-! The acknowledgement protocol of `MedfieldMmgrClient`.

One client thread sends requests and waits for their answers under `ackLock`; a
reader thread runs `signalAck` or `signalNack` for each answer of the modem
manager, which answers every request once and in order. Each event below is one
stretch of a thread's work that the lock makes atomic. -/

namespace A500cg.Mmgr

open Lib

inductive Request where
  | registerName
  | registerEvents
  | modemLock
  | modemRelease
  | modemRestart
  | modemRecovery
  | modemShutdown
  deriving DecidableEq, Repr

/-- The two requests of `start`, which stops the client when one fails. -/
def Request.ofStart : Request → Bool
  | .registerName => true
  | .registerEvents => true
  | _ => false

/-- Where the client thread is: between requests, before the test of `ackSignaled`,
in `await`, signaled but not yet holding the lock again, or stopped. -/
inductive Phase where
  | idle
  | sent
  | waiting
  | woken
  | stopped
  deriving DecidableEq, Repr

/-- What a request reported: success, or failure after a time-out or without one,
and how many answers the reader had handled by then. -/
structure Report where
  index : Nat
  request : Request
  success : Bool
  timedOut : Bool
  received : Nat
  deriving DecidableEq, Repr

structure State where
  phase : Phase
  request : Request
  sent : Nat
  handled : Nat
  ackSignaled : Bool
  nackSignaled : Bool
  reports : List Report
  deriving DecidableEq, Repr

def State.initial : State := ⟨.idle, .registerName, 0, 0, false, false, []⟩

def State.sendRequest (s : State) (request : Request) : State :=
  { s with phase := .sent, request := request, sent := s.sent + 1 }

/-- `waitForAck` returns, and a failing request of `start` stops the client. -/
def State.finish (s : State) (success timedOut : Bool) : State :=
  { s with
    phase := if s.request.ofStart && !success then .stopped else .idle
    reports := s.reports ++ [⟨s.sent - 1, s.request, success, timedOut, s.handled⟩] }

def State.clearSignals (s : State) : State :=
  { s with ackSignaled := false, nackSignaled := false }

/-- `waitForAck` from taking the lock to its return or to `await`. -/
def State.waitForAck (s : State) : State :=
  if s.ackSignaled then s.clearSignals.finish (!s.nackSignaled) false
  else { s with phase := .waiting }

/-- `waitForAck` after a signal, with the lock taken again; the flags stay as they are. -/
def State.awaitSignaled (s : State) : State := s.finish (!s.nackSignaled) false

def State.awaitTimeout (s : State) : State := s.finish false true

/-- `ackSignal.signal()`. -/
def Phase.signal : Phase → Phase
  | .waiting => .woken
  | phase => phase

def State.signalAck (s : State) : State :=
  { s with nackSignaled := false, phase := s.phase.signal, ackSignaled := true }

def State.signalNack (s : State) : State :=
  { s with nackSignaled := true, phase := s.phase.signal }

/-- The reader takes the next answer; `true` is an ACK. -/
def State.handleAnswer (s : State) (ack : Bool) : State :=
  if ack then { s with handled := s.handled + 1 }.signalAck
  else { s with handled := s.handled + 1 }.signalNack

inductive Event where
  | send (request : Request)
  | test
  | wake
  | timeOut
  | answer
  deriving DecidableEq, Repr

/-- One step of either thread; `answers k` is the manager's answer to request `k`. -/
def step (answers : Nat → Bool) (s : State) : Event → Option State
  | .send request => if s.phase = .idle then some (s.sendRequest request) else none
  | .test => if s.phase = .sent then some s.waitForAck else none
  | .wake => if s.phase = .woken then some s.awaitSignaled else none
  | .timeOut => if s.phase = .waiting then some s.awaitTimeout else none
  | .answer =>
      if s.handled < s.sent ∧ s.phase ≠ .stopped then some (s.handleAnswer (answers s.handled))
      else none

/-- The report is about the request's own answer: success means an ACK that had been
received, and an ACK fails only by a time-out that came before it. -/
def Agrees (answers : Nat → Bool) (report : Report) : Prop :=
  (report.success = true → answers report.index = true ∧ report.index < report.received) ∧
  (report.success = false → answers report.index = true →
    report.timedOut = true ∧ report.received ≤ report.index)

instance (answers : Nat → Bool) (report : Report) : Decidable (Agrees answers report) := by
  simp only [Agrees]
  infer_instance

/-- The test finds `ackSignaled` set only when the request's own answer is in, and no
answer to an earlier request arrives during `await`. -/
def Prompt (s : State) : Event → Prop
  | .test => s.ackSignaled = true → s.handled = s.sent
  | .answer => s.phase = .waiting → s.handled + 1 = s.sent
  | _ => True

structure Coherent (answers : Nat → Bool) (s : State) : Prop where
  order : s.handled ≤ s.sent
  busy : s.phase = .sent ∨ s.phase = .waiting ∨ s.phase = .woken → 0 < s.sent
  seen : s.phase = .sent ∨ s.phase = .waiting ∨ s.phase = .woken → s.handled = s.sent →
    s.nackSignaled = !answers (s.sent - 1)
  noted : s.phase = .sent → s.handled = s.sent → answers (s.sent - 1) = true →
    s.ackSignaled = true
  missed : s.phase = .waiting → s.handled = s.sent → answers (s.sent - 1) = false
  woken : s.phase = .woken → s.handled = s.sent
  reports : ∀ report ∈ s.reports, Agrees answers report

theorem initial_coherent (answers : Nat → Bool) : Coherent answers State.initial :=
  ⟨Nat.le_refl _, by simp [State.initial], by simp [State.initial], by simp [State.initial],
    by simp [State.initial], by simp [State.initial], by simp [State.initial]⟩

theorem finish_phase (s : State) (success timedOut : Bool) :
    (s.finish success timedOut).phase = .idle ∨ (s.finish success timedOut).phase = .stopped := by
  unfold State.finish
  simp only
  split
  · exact .inr rfl
  · exact .inl rfl

theorem finish_coherent {answers : Nat → Bool} {s : State} (success timedOut : Bool)
    (order : s.handled ≤ s.sent) (old : ∀ report ∈ s.reports, Agrees answers report)
    (agrees : Agrees answers ⟨s.sent - 1, s.request, success, timedOut, s.handled⟩) :
    Coherent answers (s.finish success timedOut) := by
  have ended := finish_phase s success timedOut
  refine ⟨order, ?_, ?_, ?_, ?_, ?_, ?_⟩
  · rintro (here | here | here) <;> simp [here] at ended
  · rintro (here | here | here) <;> simp [here] at ended
  · intro here
    simp [here] at ended
  · intro here
    simp [here] at ended
  · intro here
    simp [here] at ended
  · intro report member
    rcases List.mem_append.mp member with earlier | last
    · exact old report earlier
    · rw [List.mem_singleton.mp last]
      exact agrees

theorem send_coherent {answers : Nat → Bool} {s : State} (request : Request)
    (coherent : Coherent answers s) : Coherent answers (s.sendRequest request) := by
  have order := coherent.order
  have later : (s.sendRequest request).handled ≠ (s.sendRequest request).sent := by
    change s.handled ≠ s.sent + 1
    omega
  exact ⟨Nat.le_succ_of_le order, fun _ => Nat.succ_pos _, fun _ all => absurd all later,
    fun _ all => absurd all later, fun _ all => absurd all later, by simp [State.sendRequest],
    coherent.reports⟩

theorem test_coherent {answers : Nat → Bool} {s : State} (coherent : Coherent answers s)
    (phase : s.phase = .sent) (prompt : Prompt s .test) : Coherent answers s.waitForAck := by
  have positive := coherent.busy (.inl phase)
  simp only [State.waitForAck]
  split
  · rename_i signaled
    have all := prompt signaled
    have flag := coherent.seen (.inl phase) all
    refine finish_coherent _ _ coherent.order coherent.reports ?_
    change Agrees answers ⟨s.sent - 1, s.request, !s.nackSignaled, false, s.handled⟩
    rw [flag, Bool.not_not]
    constructor
    · intro ack
      exact ⟨ack, by simp only; omega⟩
    · intro nack ack
      simp only at nack ack
      rw [nack] at ack
      cases ack
  · rename_i unsignaled
    refine ⟨coherent.order, fun _ => positive, ?_, by simp, ?_, by simp, coherent.reports⟩
    · intro _ all
      exact coherent.seen (.inl phase) all
    · intro _ all
      by_contra ack
      rw [Bool.not_eq_false] at ack
      exact unsignaled (coherent.noted phase all ack)

theorem wake_coherent {answers : Nat → Bool} {s : State} (coherent : Coherent answers s)
    (phase : s.phase = .woken) : Coherent answers s.awaitSignaled := by
  have positive := coherent.busy (.inr (.inr phase))
  have all := coherent.woken phase
  have flag := coherent.seen (.inr (.inr phase)) all
  apply finish_coherent _ _ coherent.order coherent.reports
  rw [flag, Bool.not_not]
  constructor
  · intro ack
    exact ⟨ack, by simp only; omega⟩
  · intro nack ack
    simp only at nack ack
    rw [nack] at ack
    cases ack

theorem timeOut_coherent {answers : Nat → Bool} {s : State} (coherent : Coherent answers s)
    (phase : s.phase = .waiting) : Coherent answers s.awaitTimeout := by
  have positive := coherent.busy (.inr (.inl phase))
  have order := coherent.order
  refine finish_coherent _ _ order coherent.reports ⟨by simp, ?_⟩
  intro _ ack
  refine ⟨rfl, ?_⟩
  -- An ACK that is in before the wait was noted by the test, so none is in now.
  have early : s.handled ≠ s.sent := by
    intro all
    rw [coherent.missed phase all] at ack
    cases ack
  simp only
  omega

theorem handleAnswer_eq (s : State) (ack : Bool) :
    s.handleAnswer ack =
      { s with
        handled := s.handled + 1
        nackSignaled := !ack
        phase := s.phase.signal
        ackSignaled := ack || s.ackSignaled } := by
  cases ack <;> rfl

theorem answer_coherent {answers : Nat → Bool} {s : State} (coherent : Coherent answers s)
    (enabled : s.handled < s.sent) (prompt : Prompt s .answer) :
    Coherent answers (s.handleAnswer (answers s.handled)) := by
  rw [handleAnswer_eq]
  have own : s.handled + 1 = s.sent → answers (s.sent - 1) = answers s.handled := by
    intro all
    rw [← all, Nat.add_sub_cancel]
  refine ⟨enabled, fun _ => ?_, ?_, ?_, ?_, ?_, coherent.reports⟩
  · simp only
    omega
  · intro _ all
    simp only at all ⊢
    rw [own all]
  · intro _ all ack
    simp only at all ack ⊢
    rw [own all] at ack
    rw [ack, Bool.true_or]
  · intro waits
    cases phase : s.phase <;> simp [phase, Phase.signal] at waits
  · intro wakes
    simp only at wakes ⊢
    cases phase : s.phase with
    | waiting => exact prompt phase
    | woken =>
        have all := coherent.woken phase
        omega
    | _ => simp [phase, Phase.signal] at wakes

theorem step_coherent (answers : Nat → Bool) (s : State) (event : Event) (next : State)
    (coherent : Coherent answers s) (prompt : Prompt s event)
    (taken : step answers s event = some next) : Coherent answers next := by
  cases event with
  | send request =>
      rcases Option.ite_none_right_eq_some.mp taken with ⟨_, ⟨⟩⟩
      exact send_coherent request coherent
  | test =>
      rcases Option.ite_none_right_eq_some.mp taken with ⟨phase, ⟨⟩⟩
      exact test_coherent coherent phase prompt
  | wake =>
      rcases Option.ite_none_right_eq_some.mp taken with ⟨phase, ⟨⟩⟩
      exact wake_coherent coherent phase
  | timeOut =>
      rcases Option.ite_none_right_eq_some.mp taken with ⟨phase, ⟨⟩⟩
      exact timeOut_coherent coherent phase
  | answer =>
      rcases Option.ite_none_right_eq_some.mp taken with ⟨enabled, ⟨⟩⟩
      exact answer_coherent coherent enabled.1 prompt

/-- In every run whose steps are all prompt, every report agrees with the answer to
its request. -/
theorem reports_agree_along_prompt_run {answers : Nat → Bool} {events : List Event} {s : State}
    (ran : runEvents (step answers) State.initial events = some s)
    (prompt : Along (step answers) Prompt State.initial events) :
    ∀ report ∈ s.reports, Agrees answers report :=
  (invariant_along_run (step_coherent answers) (initial_coherent answers) ran prompt).reports

def firstAcked : Nat → Bool := fun k => k == 0

def firstRequest : List Event := [.send .registerName, .test, .answer, .wake]

def twoRequests : List Event := firstRequest ++ [.send .registerEvents, .answer, .test]

theorem reports_agree_after_two_requests :
    ∃ s, runEvents (step firstAcked) State.initial twoRequests = some s ∧
      s.reports.map Report.success = [true, false] ∧
        ∀ report ∈ s.reports, Agrees firstAcked report := by
  have ran : ∃ s, runEvents (step firstAcked) State.initial twoRequests = some s ∧
      s.reports.map Report.success = [true, false] := ⟨_, rfl, by decide⟩
  rcases ran with ⟨s, ran, reported⟩
  refine ⟨s, ran, reported, reports_agree_along_prompt_run ran ?_⟩
  refine ⟨trivial, ?_⟩
  intro _ taken
  cases taken
  refine ⟨by simp [Prompt, State.sendRequest, State.initial], ?_⟩
  intro _ taken
  cases taken
  refine ⟨fun _ => rfl, ?_⟩
  intro _ taken
  cases taken
  refine ⟨trivial, ?_⟩
  intro _ taken
  cases taken
  refine ⟨trivial, ?_⟩
  intro _ taken
  cases taken
  refine ⟨nofun, ?_⟩
  intro _ taken
  cases taken
  exact ⟨fun _ => rfl, fun _ _ => trivial⟩

/-- `start`: the flag that the first answer left makes the second request succeed at
once, although its answer is a NACK and still out. -/
theorem stale_ack_reported :
    ∃ s, runEvents (step firstAcked) State.initial
        (firstRequest ++ [.send .registerEvents, .test]) = some s ∧
      ∃ report ∈ s.reports, report.success = true ∧ firstAcked report.index = false ∧
        report.received ≤ report.index := by
  refine ⟨⟨.idle, .registerEvents, 2, 1, false, false,
    [⟨0, .registerName, true, false, 1⟩, ⟨1, .registerEvents, true, false, 1⟩]⟩, by decide,
    ⟨1, .registerEvents, true, false, 1⟩, by decide⟩

end A500cg.Mmgr
