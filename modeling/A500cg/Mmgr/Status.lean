import A500cg.Lib.Machine
import A500cg.Mmgr.Delivery

/-! Status tracking in `MedfieldMmgrClient`: `handleResponse` stores the status of each
batch and signals a waiting caller, `waitForStatus` tests the stored status or awaits the
signal.

The reader writes `currentStatus` and reads `waitedStatus` without `statusLock`, so these
are steps of their own; a caller holds the lock from its entry to its return or to
`await`. Fields are read and written in the order of the steps. -/

namespace A500cg.Mmgr.StatusWait

open Lib

/-- A call of `waitForStatus`, and whether the status it waits for has been the current
one at some moment since the call. -/
structure Caller where
  wanted : ModemStatus
  held : Bool
  deriving DecidableEq, Repr

/-- Where the reader is: between batches, with the status stored, or about to signal. -/
inductive ReaderPhase where
  | idle
  | stored (status : ModemStatus)
  | signalling (status : ModemStatus)
  deriving DecidableEq, Repr

/-- The end of a batch: its status, the callers in `await` at that moment, and the one
that was woken. -/
structure Handling where
  status : ModemStatus
  waiting : List Caller
  woken : Option Caller
  deriving DecidableEq, Repr

structure State where
  currentStatus : ModemStatus
  waitedStatus : ModemStatus
  /-- The caller that holds `statusLock` before its test. -/
  entered : Option Caller
  /-- The callers in `await`, the longest waiting first. -/
  waiting : List Caller
  /-- The callers that were signaled and do not hold the lock again yet. -/
  woken : List Caller
  reader : ReaderPhase
  returned : List (Caller × Bool)
  handled : List Handling
  /-- The value of the last status frame so far, `none` before the first. -/
  lastStatus : ModemStatus
  deriving DecidableEq, Repr

def State.initial : State := ⟨.none, .none, none, [], [], .idle, [], [], .none⟩

def Caller.note (status : ModemStatus) (caller : Caller) : Caller :=
  { caller with held := caller.held || decide (caller.wanted = status) }

def State.enter (s : State) (wanted : ModemStatus) : State :=
  { s with
    entered := some ⟨wanted, decide (wanted = s.currentStatus)⟩
    waitedStatus := wanted }

/-- The test of `waitForStatus`, up to its return or to `await`. -/
def State.check (s : State) (caller : Caller) : State :=
  if caller.wanted ≠ s.currentStatus then
    { s with entered := none, waiting := s.waiting ++ [caller] }
  else { s with entered := none, returned := s.returned ++ [(caller, true)] }

/-- `await` returns without a signal: by its time-out or an interrupt. -/
def State.giveUp (s : State) (index : Nat) (caller : Caller) : State :=
  { s with
    waiting := s.waiting.eraseIdx index
    returned := s.returned ++ [(caller, false)] }

/-- `await` returns after a signal. -/
def State.wake (s : State) (index : Nat) (caller : Caller) : State :=
  { s with
    woken := s.woken.eraseIdx index
    returned := s.returned ++ [(caller, true)] }

/-- `handleResponse` up to `this.currentStatus = status`. -/
def State.store (s : State) (responses : List MmgrResponse) : State :=
  let status := (batchOf responses).status
  { s with
    currentStatus := status
    entered := s.entered.map (Caller.note status)
    waiting := s.waiting.map (Caller.note status)
    woken := s.woken.map (Caller.note status)
    reader := .stored status
    lastStatus := (responses.filterMap statusOf).getLast?.getD s.lastStatus }

def State.test (s : State) (status : ModemStatus) : State :=
  if status = s.waitedStatus then { s with reader := .signalling status }
  else { s with reader := .idle, handled := s.handled ++ [⟨status, s.waiting, none⟩] }

def State.signalStatus (s : State) (status : ModemStatus) : State :=
  { s with
    waiting := s.waiting.tail
    woken := s.woken ++ s.waiting.head?.toList
    reader := .idle
    handled := s.handled ++ [⟨status, s.waiting, s.waiting.head?⟩] }

inductive Event where
  | enter (wanted : ModemStatus)
  | check
  | giveUp (index : Nat)
  | wake (index : Nat)
  | batch (responses : List MmgrResponse)
  | test
  | signal
  deriving DecidableEq, Repr

def step (s : State) : Event → Option State
  | .enter wanted => if s.entered = none then some (s.enter wanted) else none
  | .check => s.entered.map s.check
  | .giveUp index =>
      if s.entered = none then s.waiting[index]?.map (s.giveUp index) else none
  | .wake index => if s.entered = none then s.woken[index]?.map (s.wake index) else none
  | .batch responses => if s.reader = .idle then some (s.store responses) else none
  | .test =>
      match s.reader with
      | .stored status => some (s.test status)
      | _ => none
  | .signal =>
      match s.reader with
      | .signalling status => if s.entered = none then some (s.signalStatus status) else none
      | _ => none

/-- If a caller waits for the status of the batch, one that waits for it is woken. -/
def Handling.Served (handling : Handling) : Prop :=
  (∃ caller ∈ handling.waiting, caller.wanted = handling.status) →
    ∃ caller, handling.woken = some caller ∧ caller.wanted = handling.status

/-- A batch without a status comes only before the first status; and a call starts only
when all callers in `await` wait for the same status, and no signal for another one is
still to be sent. -/
def Orderly (s : State) : Event → Prop
  | .batch responses => (∃ r ∈ responses, (statusOf r).isSome) ∨ s.lastStatus = .none
  | .enter wanted =>
      (∀ caller ∈ s.waiting, caller.wanted = wanted) ∧
        ∀ status, s.reader = .signalling status → status = wanted
  | _ => True

structure Tracking (s : State) : Prop where
  status : s.currentStatus = s.lastStatus
  stored : ∀ status, s.reader = .stored status → status = s.currentStatus
  signalling : ∀ status, s.reader = .signalling status →
    status = s.currentStatus ∧ status = s.waitedStatus
  waiting : ∀ caller ∈ s.waiting, caller.wanted = s.waitedStatus
  entered : ∀ caller ∈ s.entered, caller.wanted = s.waitedStatus
  noted : ∀ caller ∈ s.waiting, caller.wanted = s.currentStatus → caller.held = true
  noticed : ∀ caller ∈ s.entered, caller.wanted = s.currentStatus → caller.held = true
  woken : ∀ caller ∈ s.woken, caller.held = true
  returned : ∀ result ∈ s.returned, result.2 = true → result.1.held = true
  handled : ∀ handling ∈ s.handled, handling.Served

theorem initial_tracking : Tracking State.initial := by
  constructor <;> simp [State.initial]

@[simp] theorem note_wanted (status : ModemStatus) (caller : Caller) :
    (caller.note status).wanted = caller.wanted := rfl

theorem note_held {status : ModemStatus} {caller : Caller} (seen : caller.wanted = status) :
    (caller.note status).held = true := by
  simp [Caller.note, seen]

theorem note_keeps {status : ModemStatus} {caller : Caller} (held : caller.held = true) :
    (caller.note status).held = true := by
  simp [Caller.note, held]

private theorem returned_append {results : List (Caller × Bool)} {caller : Caller}
    {success : Bool} (old : ∀ result ∈ results, result.2 = true → result.1.held = true)
    (new : success = true → caller.held = true) :
    ∀ result ∈ results ++ [(caller, success)], result.2 = true → result.1.held = true := by
  intro result member
  rcases List.mem_append.mp member with earlier | last
  · exact old result earlier
  · rw [List.mem_singleton.mp last]
    exact new

private theorem handled_append {handlings : List Handling} {handling : Handling}
    (old : ∀ earlier ∈ handlings, earlier.Served) (new : handling.Served) :
    ∀ one ∈ handlings ++ [handling], one.Served := by
  intro one member
  rcases List.mem_append.mp member with earlier | last
  · exact old one earlier
  · rw [List.mem_singleton.mp last]
    exact new

theorem enter_tracking {s : State} {wanted : ModemStatus} (tracking : Tracking s)
    (orderly : Orderly s (.enter wanted)) : Tracking (s.enter wanted) where
  status := tracking.status
  stored := tracking.stored
  signalling status here := ⟨(tracking.signalling status here).1, orderly.2 status here⟩
  waiting := orderly.1
  entered := by simp [State.enter]
  noted := tracking.noted
  noticed := by simp [State.enter]
  woken := tracking.woken
  returned := tracking.returned
  handled := tracking.handled

theorem check_tracking {s : State} {caller : Caller} (tracking : Tracking s)
    (entered : s.entered = some caller) : Tracking (s.check caller) := by
  have wanted := tracking.entered caller entered
  have noticed := tracking.noticed caller entered
  simp only [State.check]
  split
  · rename_i differs
    refine { tracking with waiting := ?_, entered := by simp, noted := ?_, noticed := by simp }
    · simpa [or_imp, forall_and] using ⟨tracking.waiting, wanted⟩
    · simpa [or_imp, forall_and] using ⟨tracking.noted, noticed⟩
  · rename_i same
    refine { tracking with entered := by simp, noticed := by simp, returned := ?_ }
    exact returned_append tracking.returned fun _ => noticed (not_not.mp same)

theorem giveUp_tracking {s : State} {index : Nat} {caller : Caller} (tracking : Tracking s) :
    Tracking (s.giveUp index caller) :=
  { tracking with
    waiting := fun one member => tracking.waiting one (List.mem_of_mem_eraseIdx member)
    noted := fun one member => tracking.noted one (List.mem_of_mem_eraseIdx member)
    returned := returned_append tracking.returned (by simp) }

theorem wake_tracking {s : State} {index : Nat} {caller : Caller} (tracking : Tracking s)
    (signaled : s.woken[index]? = some caller) : Tracking (s.wake index caller) :=
  { tracking with
    woken := fun one member => tracking.woken one (List.mem_of_mem_eraseIdx member)
    returned := returned_append tracking.returned fun _ =>
      tracking.woken caller (List.mem_of_getElem? signaled) }

theorem store_tracking {s : State} {responses : List MmgrResponse} (tracking : Tracking s)
    (orderly : Orderly s (.batch responses)) : Tracking (s.store responses) where
  status := by
    change (batchOf responses).status = (responses.filterMap statusOf).getLast?.getD s.lastStatus
    rw [batchOf, foldl_handle_status]
    cases last : (responses.filterMap statusOf).getLast? with
    | some status => rfl
    | none =>
        rcases orderly with ⟨r, member, known⟩ | first
        · have empty := List.getLast?_eq_none_iff.mp last
          rw [List.filterMap_eq_nil_iff] at empty
          simp [empty r member] at known
        · exact first.symm
  stored := by simp [State.store]
  signalling := by simp [State.store]
  waiting := by simpa [State.store] using tracking.waiting
  entered := by simpa [State.store] using tracking.entered
  noted := by simpa [State.store] using fun caller _ => note_held
  noticed := by simpa [State.store] using fun caller _ => note_held
  woken := by
      simpa [State.store] using fun caller member => note_keeps (tracking.woken caller member)
  returned := tracking.returned
  handled := tracking.handled

theorem test_tracking {s : State} {status : ModemStatus} (tracking : Tracking s)
    (stored : s.reader = .stored status) : Tracking (s.test status) := by
  have current := tracking.stored status stored
  simp only [State.test]
  split
  · rename_i aimed
    refine { tracking with stored := by simp, signalling := ?_ }
    simpa using ⟨current, aimed⟩
  · rename_i other
    refine { tracking with stored := by simp, signalling := by simp, handled := ?_ }
    apply handled_append tracking.handled
    intro parts
    rcases parts with ⟨caller, member, wants⟩
    exact absurd (wants.symm.trans (tracking.waiting caller member)) other

theorem signal_tracking {s : State} {status : ModemStatus} (tracking : Tracking s)
    (signalling : s.reader = .signalling status) : Tracking (s.signalStatus status) := by
  rcases tracking.signalling status signalling with ⟨current, aimed⟩
  have first : ∀ caller ∈ s.waiting.head?, caller.wanted = status ∧ caller.held = true := by
    intro caller member
    have wants := tracking.waiting caller (List.mem_of_mem_head? member)
    exact ⟨wants.trans aimed.symm, tracking.noted caller (List.mem_of_mem_head? member)
      (wants.trans (aimed.symm.trans current))⟩
  refine { tracking with
    stored := by simp [State.signalStatus]
    signalling := by simp [State.signalStatus]
    waiting := fun caller member => tracking.waiting caller (List.mem_of_mem_tail member)
    noted := fun caller member => tracking.noted caller (List.mem_of_mem_tail member)
    woken := ?_
    handled := handled_append tracking.handled ?_ }
  · intro caller member
    rcases List.mem_append.mp member with earlier | new
    · exact tracking.woken caller earlier
    · exact (first caller (by simpa using new)).2
  · intro parts
    rcases parts with ⟨caller, member, _⟩
    obtain ⟨head, isHead⟩ := Option.isSome_iff_exists.mp
      (List.isSome_head?.mpr (List.ne_nil_of_mem member))
    exact ⟨head, isHead, (first head isHead).1⟩

theorem step_tracking (s : State) (event : Event) (next : State) (tracking : Tracking s)
    (orderly : Orderly s event) (taken : step s event = some next) : Tracking next := by
  cases event with
  | enter wanted =>
      rcases Option.ite_none_right_eq_some.mp taken with ⟨_, ⟨⟩⟩
      exact enter_tracking tracking orderly
  | check =>
      rcases Option.map_eq_some_iff.mp taken with ⟨caller, entered, rfl⟩
      exact check_tracking tracking entered
  | giveUp index =>
      rcases Option.ite_none_right_eq_some.mp taken with ⟨_, found⟩
      rcases Option.map_eq_some_iff.mp found with ⟨caller, _, rfl⟩
      exact giveUp_tracking tracking
  | wake index =>
      rcases Option.ite_none_right_eq_some.mp taken with ⟨_, found⟩
      rcases Option.map_eq_some_iff.mp found with ⟨caller, signaled, rfl⟩
      exact wake_tracking tracking signaled
  | batch responses =>
      rcases Option.ite_none_right_eq_some.mp taken with ⟨_, ⟨⟩⟩
      exact store_tracking tracking orderly
  | test =>
      simp only [step] at taken
      split at taken
      · rename_i status stored
        cases taken
        exact test_tracking tracking stored
      · cases taken
  | signal =>
      simp only [step] at taken
      split at taken
      · rename_i status signalling
        rcases Option.ite_none_right_eq_some.mp taken with ⟨_, ⟨⟩⟩
        exact signal_tracking tracking signalling
      · cases taken

/-- In every orderly run the stored status is that of the last status frame, a call that
returned true has seen its status, and no caller is passed over for one that waits for
another status. -/
theorem status_tracking_along_orderly_run {events : List Event} {s : State}
    (ran : runEvents step State.initial events = some s)
    (orderly : Along step Orderly State.initial events) :
    s.currentStatus = s.lastStatus ∧
    (∀ caller, (caller, true) ∈ s.returned → caller.held = true) ∧
    ∀ handling ∈ s.handled, handling.Served := by
  have tracking := invariant_along_run step_tracking initial_tracking ran orderly
  exact ⟨tracking.status, fun caller member => tracking.returned _ member rfl, tracking.handled⟩

def waitUntilUp : List Event :=
  [.enter .up, .check, .batch [⟨STATUS_MODEM_UP, 0, [], .base⟩], .test, .signal, .wake 0]

theorem status_tracking_until_up :
    ∃ s, runEvents step State.initial waitUntilUp = some s ∧ (⟨.up, true⟩, true) ∈ s.returned ∧
      s.currentStatus = s.lastStatus ∧
      (∀ caller, (caller, true) ∈ s.returned → caller.held = true) ∧
      ∀ handling ∈ s.handled, handling.Served := by
  have ran : runEvents step State.initial waitUntilUp = some
      ⟨.up, .up, none, [], [], .idle, [(⟨.up, true⟩, true)],
        [⟨.up, [⟨.up, true⟩], some ⟨.up, true⟩⟩], .up⟩ := by decide
  refine ⟨_, ran, by decide, status_tracking_along_orderly_run ran ?_⟩
  refine ⟨by simp [Orderly, State.initial], ?_⟩
  intro _ taken
  cases taken
  refine ⟨trivial, ?_⟩
  intro _ taken
  cases taken
  refine ⟨.inl ⟨_, List.mem_cons_self, rfl⟩, ?_⟩
  intro _ taken
  cases taken
  refine ⟨trivial, ?_⟩
  intro _ taken
  cases taken
  refine ⟨trivial, ?_⟩
  intro _ taken
  cases taken
  exact ⟨trivial, fun _ _ => trivial⟩

/-- An answer after the modem came up makes the client forget that it is up; and of two
callers, the one that waits for `up` is told when the modem goes down, and the one that
waits for `down` is not. -/
theorem answer_clears_status :
    (∃ s, runEvents step State.initial
        [.batch [⟨STATUS_MODEM_UP, 0, [], .base⟩], .test, .batch [⟨NOTIFY_ACK, 1, [], .ack true⟩]] =
          some s ∧ s.currentStatus = .none ∧ s.lastStatus = .up) ∧
    ∃ s, runEvents step State.initial
        [.enter .up, .check, .enter .down, .check, .batch [⟨STATUS_MODEM_DOWN, 0, [], .base⟩],
          .test, .signal, .wake 0] = some s ∧
      (⟨.up, false⟩, true) ∈ s.returned ∧ ⟨.down, true⟩ ∈ s.waiting ∧
      ∃ handling ∈ s.handled, ¬ handling.Served := by
  refine ⟨⟨_, rfl, by decide, by decide⟩, _, rfl, by decide, by decide, ?_⟩
  refine ⟨⟨.down, [⟨.up, false⟩, ⟨.down, true⟩], some ⟨.up, false⟩⟩, by decide, ?_⟩
  intro served
  rcases served ⟨_, List.mem_cons_of_mem _ List.mem_cons_self, rfl⟩ with ⟨caller, woken, wants⟩
  cases woken
  cases wants

end A500cg.Mmgr.StatusWait
