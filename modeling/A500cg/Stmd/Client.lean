import A500cg.Mmgr.Reader

/-! `MedfieldStmdClient`: the thread that reads words from the socket of the modem status
daemon and sends messages to a handler. -/

namespace A500cg.Stmd

open Lib Mmgr

def MODEM_DOWN : UInt8 := 0
def MODEM_UP : UInt8 := 1
def PLATFORM_SHUTDOWN : UInt8 := 2
def MODEM_COLD_RESET : UInt8 := 4

/-- The variables of `handleResponse`, which live through all words of a read. -/
structure Locals where
  notification : ModemNotification
  status : ModemStatus
  deriving DecidableEq, Repr

namespace Locals

def initial : Locals := ⟨.none, .none⟩

def switch (l : Locals) (code : UInt8) : Locals :=
  if code = MODEM_DOWN then { l with status := .down }
  else if code = MODEM_UP then { l with status := .up }
  else if code = MODEM_COLD_RESET then { l with notification := .coldReset }
  else if code = PLATFORM_SHUTDOWN then { l with notification := .platformReboot }
  else l

def messages (l : Locals) : List Message :=
  (if l.status ≠ .none then [.status l.status] else []) ++
  (if l.notification ≠ .none then [.notification l.notification] else [])

end Locals

/-- The loop of `handleResponse` over the first bytes of the words. -/
def handleWords : Locals → List UInt8 → List Message
  | _, [] => []
  | l, code :: rest => (l.switch code).messages ++ handleWords (l.switch code) rest

/-- `handleResponse`: the messages that it sends. A negative length is not looked at. -/
def handleResponse (buffer : List UInt8) (length : Int) : List Message :=
  handleWords .initial
    ((List.range ((length + 3) / 4).toNat).map fun i => buffer.getD (4 * i) 0)

structure Word where
  code : UInt8
  second : UInt8
  third : UInt8
  fourth : UInt8
  deriving DecidableEq, Repr

def Word.bytes (w : Word) : List UInt8 := [w.code, w.second, w.third, w.fourth]

inductive ReadResult where
  | words (list : List Word)
  | endOfStream
  | failed
  deriving DecidableEq, Repr

/-- One turn of the loop: whether a stop is requested by then, and else what its read gives. -/
structure Turn where
  stopRequested : Bool
  read : ReadResult
  deriving DecidableEq, Repr

structure Client where
  recvBuffer : List UInt8
  running : Bool
  reads : Nat
  messages : List Message
  errors : Nat
  deriving DecidableEq, Repr

namespace Client

def start : Client := ⟨List.replicate RECV_BUFFER_SIZE 0, true, 0, [], 0⟩

def turn (c : Client) (turn : Turn) : Client :=
  if c.running = false then c
  else if turn.stopRequested then { c with running := false }
  else match turn.read with
    | .words words =>
        let bytes := words.flatMap Word.bytes
        let recvBuffer := bytes ++ c.recvBuffer.drop bytes.length
        { c with
          recvBuffer := recvBuffer
          reads := c.reads + 1
          messages := c.messages ++ handleResponse recvBuffer bytes.length }
    | .endOfStream =>
        { c with
          reads := c.reads + 1
          messages := c.messages ++ handleResponse c.recvBuffer (-1) }
    | .failed => { c with reads := c.reads + 1, errors := c.errors + 1, running := false }

def after (turns : Nat → Turn) : Nat → Client
  | 0 => start
  | n + 1 => (after turns n).turn (turns n)

end Client

def Word.message (w : Word) : Option Message :=
  if w.code = MODEM_DOWN then some (.status .down)
  else if w.code = MODEM_UP then some (.status .up)
  else if w.code = MODEM_COLD_RESET then some (.notification .coldReset)
  else if w.code = PLATFORM_SHUTDOWN then some (.notification .platformReboot)
  else none

/-- The turn reads: no stop was requested, and no read before it has failed. -/
def Reads (turns : Nat → Turn) (i : Nat) : Prop :=
  (∀ j ≤ i, (turns j).stopRequested = false) ∧ ∀ j < i, (turns j).read ≠ .failed

def ReadResult.wordsOf : ReadResult → List Word
  | .words list => list
  | _ => []

instance (turns : Nat → Turn) (i : Nat) : Decidable (Reads turns i) :=
  inferInstanceAs (Decidable (_ ∧ _))

/-- The words of the first `n` turns. -/
def delivered (turns : Nat → Turn) (n : Nat) : List Word :=
  (List.range n).flatMap fun i => if Reads turns i then (turns i).read.wordsOf else []

/-- One message for each word that stands for one, in their order, and no read after the
end of the stream. -/
structure Dispatches (turns : Nat → Turn) : Prop where
  messages : ∀ n, (Client.after turns n).messages = (delivered turns n).filterMap Word.message
  ends : ∀ i, Reads turns i → (turns i).read = .endOfStream →
    ∀ n, i < n → (Client.after turns n).reads = (Client.after turns (i + 1)).reads

def Word.IsStatus (w : Word) : Prop := w.code = MODEM_DOWN ∨ w.code = MODEM_UP

def Word.IsNotification (w : Word) : Prop :=
  w.code = MODEM_COLD_RESET ∨ w.code = PLATFORM_SHUTDOWN

/-- From the first known word on, all words are statuses or all are notifications. -/
def Uniform (words : List Word) : Prop :=
  ∃ unknown known, words = unknown ++ known ∧ (∀ w ∈ unknown, w.message = none) ∧
    ((∀ w ∈ known, w.IsStatus) ∨ ∀ w ∈ known, w.IsNotification)

/-- A turn whose read is handled well: its words are uniform, and a stop is requested
right after the end of the stream. -/
def Harmless (turns : Nat → Turn) (i : Nat) : Prop :=
  match (turns i).read with
  | .words words => Uniform words
  | .endOfStream => (turns (i + 1)).stopRequested = true
  | .failed => True

theorem word_cases (w : Word) :
    (∃ status, status ≠ .none ∧ w.IsStatus ∧ ¬ w.IsNotification ∧
      w.message = some (.status status) ∧ ∀ l : Locals, l.switch w.code = { l with status := status }) ∨
    (∃ notification, notification ≠ .none ∧ ¬ w.IsStatus ∧ w.IsNotification ∧
      w.message = some (.notification notification) ∧
        ∀ l : Locals, l.switch w.code = { l with notification := notification }) ∨
    (¬ w.IsStatus ∧ ¬ w.IsNotification ∧ w.message = none ∧ ∀ l : Locals, l.switch w.code = l) := by
  simp only [Word.IsStatus, Word.IsNotification, Word.message, Locals.switch]
  by_cases down : w.code = MODEM_DOWN
  · rw [down]
    exact .inl ⟨.down, by decide, by decide, by decide, rfl, fun _ => rfl⟩
  by_cases up : w.code = MODEM_UP
  · rw [up]
    exact .inl ⟨.up, by decide, by decide, by decide, rfl, fun _ => rfl⟩
  by_cases reset : w.code = MODEM_COLD_RESET
  · rw [reset]
    exact .inr (.inl ⟨.coldReset, by decide, by decide, by decide, rfl, fun _ => rfl⟩)
  by_cases shutdown : w.code = PLATFORM_SHUTDOWN
  · rw [shutdown]
    exact .inr (.inl ⟨.platformReboot, by decide, by decide, by decide, rfl, fun _ => rfl⟩)
  · simp [down, up, reset, shutdown]

theorem message_le_messages (l : Locals) (w : Word) :
    w.message.toList.length ≤ (l.switch w.code).messages.length := by
  rcases word_cases w with ⟨status, set, _, _, stands, switched⟩ |
    ⟨notification, set, _, _, stands, switched⟩ | ⟨_, _, stands, switched⟩
  · simp [stands, switched, Locals.messages, set]
  · simp [stands, switched, Locals.messages, set]
  · simp [stands]

theorem filterMap_cons_eq (w : Word) (rest : List Word) :
    (w :: rest).filterMap Word.message = w.message.toList ++ rest.filterMap Word.message := by
  cases stands : w.message with
  | none => exact List.filterMap_cons_none stands
  | some message => exact List.filterMap_cons_some stands

theorem filterMap_le_handleWords (l : Locals) (words : List Word) :
    (words.filterMap Word.message).length ≤ (handleWords l (words.map Word.code)).length := by
  induction words generalizing l with
  | nil => exact Nat.le_refl 0
  | cons w rest ih =>
      rw [filterMap_cons_eq, List.map_cons, handleWords, List.length_append, List.length_append]
      exact Nat.add_le_add (message_le_messages l w) (ih _)

def Steady : Locals → List Word → Prop
  | _, [] => True
  | l, w :: rest => (l.switch w.code).messages = w.message.toList ∧ Steady (l.switch w.code) rest

theorem handleWords_eq_iff (l : Locals) (words : List Word) :
    handleWords l (words.map Word.code) = words.filterMap Word.message ↔ Steady l words := by
  induction words generalizing l with
  | nil => exact iff_of_true rfl trivial
  | cons w rest ih =>
      have first := message_le_messages l w
      have later := filterMap_le_handleWords (l.switch w.code) rest
      rw [filterMap_cons_eq, List.map_cons, handleWords, Steady, ← ih]
      constructor
      · intro same
        -- The first part is not shorter, and neither is the rest, so the lists are cut alike.
        have lengths := congrArg List.length same
        rw [List.length_append, List.length_append] at lengths
        exact List.append_inj same (by omega)
      · rintro ⟨head, tail⟩
        rw [head, tail]

theorem steady_status_iff {status : ModemStatus} (set : status ≠ .none) (words : List Word) :
    Steady ⟨.none, status⟩ words ↔ ∀ w ∈ words, w.IsStatus := by
  induction words generalizing status with
  | nil => exact iff_of_true trivial (by simp)
  | cons w rest ih =>
      rw [Steady, List.forall_mem_cons]
      rcases word_cases w with ⟨next, real, isStatus, _, stands, switched⟩ |
        ⟨notification, real, other, _, stands, switched⟩ | ⟨other, _, stands, switched⟩
      · rw [switched, stands, ih real]
        simp [Locals.messages, real, isStatus]
      · rw [switched, stands]
        simp [Locals.messages, real, set, other]
      · rw [switched, stands]
        simp [Locals.messages, set, other]

theorem steady_notification_iff {notification : ModemNotification} (set : notification ≠ .none)
    (words : List Word) :
    Steady ⟨notification, .none⟩ words ↔ ∀ w ∈ words, w.IsNotification := by
  induction words generalizing notification with
  | nil => exact iff_of_true trivial (by simp)
  | cons w rest ih =>
      rw [Steady, List.forall_mem_cons]
      rcases word_cases w with ⟨status, real, _, other, stands, switched⟩ |
        ⟨next, real, _, isNotification, stands, switched⟩ | ⟨_, other, stands, switched⟩
      · rw [switched, stands]
        simp [Locals.messages, real, set, other]
      · rw [switched, stands, ih real]
        simp [Locals.messages, real, isNotification]
      · rw [switched, stands]
        simp [Locals.messages, set, other]

theorem uniform_cons_iff (w : Word) (rest : List Word) :
    Uniform (w :: rest) ↔ (w.message = none ∧ Uniform rest) ∨
      (∀ v ∈ w :: rest, v.IsStatus) ∨ ∀ v ∈ w :: rest, v.IsNotification := by
  constructor
  · rintro ⟨unknown, known, cut, quiet, loud⟩
    cases unknown with
    | nil =>
        rw [List.nil_append] at cut
        rw [cut]
        exact .inr loud
    | cons v unknown =>
        cases cut
        obtain ⟨first, others⟩ := List.forall_mem_cons.mp quiet
        exact .inl ⟨first, unknown, known, rfl, others, loud⟩
  · rintro (⟨first, unknown, known, rfl, quiet, loud⟩ | loud)
    · exact ⟨w :: unknown, known, rfl, List.forall_mem_cons.mpr ⟨first, quiet⟩, loud⟩
    · exact ⟨[], w :: rest, rfl, by simp, loud⟩

theorem steady_initial_iff (words : List Word) : Steady .initial words ↔ Uniform words := by
  induction words with
  | nil => exact iff_of_true trivial ⟨[], [], rfl, by simp, .inl (by simp)⟩
  | cons w rest ih =>
      rw [Steady, uniform_cons_iff, List.forall_mem_cons, List.forall_mem_cons]
      rcases word_cases w with ⟨status, real, isStatus, other, stands, switched⟩ |
        ⟨notification, real, other, isNotification, stands, switched⟩ |
        ⟨notStatus, notNotification, stands, switched⟩
      · rw [switched, stands]
        simp [Locals.initial, Locals.messages, real, isStatus, other, steady_status_iff real]
      · rw [switched, stands]
        simp [Locals.initial, Locals.messages, real, isNotification, other,
          steady_notification_iff real]
      · rw [switched, stands, ih]
        simp [Locals.initial, Locals.messages, notStatus, notNotification]

theorem codes_of_bytes (words : List Word) (rest : List UInt8) :
    (List.range words.length).map (fun i => (words.flatMap Word.bytes ++ rest).getD (4 * i) 0) =
      words.map Word.code := by
  induction words with
  | nil => rfl
  | cons w words ih =>
      rw [List.length_cons, List.range_succ_eq_map, List.map_cons, List.map_map, List.map_cons, ← ih]
      rfl

theorem handleResponse_words (words : List Word) (rest : List UInt8) :
    handleResponse (words.flatMap Word.bytes ++ rest) (words.flatMap Word.bytes).length =
      handleWords .initial (words.map Word.code) := by
  have length : (words.flatMap Word.bytes).length = 4 * words.length := by
    simp [List.length_flatMap, Word.bytes, Nat.mul_comm]
  have count : (((words.flatMap Word.bytes).length : Int) + 3) / 4 = words.length := by
    rw [length]
    omega
  rw [handleResponse, count, Int.toNat_natCast, codes_of_bytes]

def ReadResult.handled (read : ReadResult) : List Message :=
  handleWords .initial (read.wordsOf.map Word.code)

theorem handled_eq_iff (read : ReadResult) :
    read.handled = read.wordsOf.filterMap Word.message ↔ Uniform read.wordsOf := by
  rw [ReadResult.handled, handleWords_eq_iff, steady_initial_iff]

theorem turn_reading {c : Client} {turn : Turn} (running : c.running = true)
    (going : turn.stopRequested = false) :
    (c.turn turn).running = decide (turn.read ≠ .failed) ∧
      (c.turn turn).reads = c.reads + 1 ∧
        (c.turn turn).messages = c.messages ++ turn.read.handled := by
  simp only [Client.turn, running, going]
  cases turn.read with
  | words words =>
      refine ⟨rfl, rfl, ?_⟩
      simp only [Bool.true_eq_false, Bool.false_eq_true, if_false, handleResponse_words]
      rfl
  | endOfStream => exact ⟨rfl, rfl, rfl⟩
  | failed => exact ⟨rfl, rfl, (List.append_nil _).symm⟩

theorem turn_idle {c : Client} {turn : Turn}
    (idle : c.running = false ∨ turn.stopRequested = true) :
    (c.turn turn).running = false ∧ (c.turn turn).reads = c.reads ∧
      (c.turn turn).messages = c.messages := by
  by_cases running : c.running = false
  · rw [Client.turn, if_pos running]
    exact ⟨running, rfl, rfl⟩
  · rw [Client.turn, if_neg running, if_pos (idle.resolve_left running)]
    exact ⟨rfl, rfl, rfl⟩

theorem running_iff (turns : Nat → Turn) (n : Nat) : (Client.after turns n).running = true ↔
    (∀ j < n, (turns j).stopRequested = false) ∧ ∀ j < n, (turns j).read ≠ .failed := by
  induction n with
  | zero => exact iff_of_true rfl ⟨by omega, by omega⟩
  | succ n ih =>
      rw [Nat.forall_lt_succ_right, Nat.forall_lt_succ_right, Client.after]
      by_cases running : (Client.after turns n).running = true
      · by_cases going : (turns n).stopRequested = false
        · rw [(turn_reading running going).1, decide_eq_true_iff]
          obtain ⟨earlier, whole⟩ := ih.mp running
          exact ⟨fun now => ⟨⟨earlier, going⟩, whole, now⟩, fun both => both.2.2⟩
        · rw [(turn_idle (.inr (by simpa using going))).1]
          simp [going]
      · rw [(turn_idle (.inl (by simpa using running))).1]
        rw [ih] at running
        refine iff_of_false (by decide) fun both => running ⟨both.1.1, both.2.1⟩

theorem reads_iff (turns : Nat → Turn) (i : Nat) : Reads turns i ↔
    (Client.after turns i).running = true ∧ (turns i).stopRequested = false := by
  rw [running_iff, Reads]
  constructor
  · rintro ⟨going, whole⟩
    exact ⟨⟨fun j before => going j before.le, whole⟩, going i (Nat.le_refl i)⟩
  · rintro ⟨⟨going, whole⟩, now⟩
    refine ⟨fun j before => ?_, whole⟩
    rcases Nat.lt_or_eq_of_le before with earlier | rfl
    · exact going j earlier
    · exact now

theorem after_reading {turns : Nat → Turn} {i : Nat} (reading : Reads turns i) :
    (Client.after turns (i + 1)).reads = (Client.after turns i).reads + 1 ∧
      (Client.after turns (i + 1)).messages =
        (Client.after turns i).messages ++ (turns i).read.handled := by
  obtain ⟨running, going⟩ := (reads_iff turns i).mp reading
  exact (turn_reading running going).2

theorem after_idle {turns : Nat → Turn} {i : Nat} (idle : ¬ Reads turns i) :
    (Client.after turns (i + 1)).reads = (Client.after turns i).reads ∧
      (Client.after turns (i + 1)).messages = (Client.after turns i).messages := by
  rw [reads_iff, not_and_or, Bool.not_eq_true, Bool.not_eq_false] at idle
  exact (turn_idle idle).2

theorem delivered_succ (turns : Nat → Turn) (n : Nat) : delivered turns (n + 1) =
    delivered turns n ++ if Reads turns n then (turns n).read.wordsOf else [] := by
  rw [delivered, List.range_succ, List.flatMap_append, List.flatMap_singleton]
  rfl

theorem messages_iff (turns : Nat → Turn) :
    (∀ n, (Client.after turns n).messages = (delivered turns n).filterMap Word.message) ↔
      ∀ i, Reads turns i → Uniform (turns i).read.wordsOf := by
  constructor
  · intro right i reading
    have next := right (i + 1)
    rw [(after_reading reading).2, right i, delivered_succ, if_pos reading,
      List.filterMap_append] at next
    exact (handled_eq_iff _).mp (List.append_cancel_left next)
  · intro uniform n
    induction n with
    | zero => rfl
    | succ n ih =>
        rw [delivered_succ, List.filterMap_append, ← ih]
        by_cases reading : Reads turns n
        · rw [(after_reading reading).2, if_pos reading, (handled_eq_iff _).mpr (uniform n reading)]
        · rw [(after_idle reading).2, if_neg reading]
          exact (List.append_nil _).symm

theorem reads_after_stop {turns : Nat → Turn} {i n : Nat} (stop : (turns i).stopRequested = true)
    (later : i ≤ n) : (Client.after turns n).reads = (Client.after turns i).reads := by
  induction n, later using Nat.le_induction with
  | base => rfl
  | succ n later ih =>
      have idle : ¬ Reads turns n := by
        intro reading
        have going := reading.1 i later
        rw [stop] at going
        cases going
      rw [(after_idle idle).1, ih]

/-- The thread sends exactly the messages of the words, and stops reading at the end of the
stream, exactly if every read that it makes is harmless. -/
theorem stmd_dispatch_iff (turns : Nat → Turn) :
    Dispatches turns ↔ ∀ i, Reads turns i → Harmless turns i := by
  constructor
  · intro dispatches i reading
    have uniform := (messages_iff turns).mp dispatches.messages i reading
    rw [Harmless]
    split
    · rename_i words read
      rw [read] at uniform
      exact uniform
    · rename_i read
      have still := dispatches.ends i reading read (i + 2) (by omega)
      by_contra going
      have next : Reads turns (i + 1) := by
        refine (reads_iff turns (i + 1)).mpr ⟨?_, by simpa using going⟩
        obtain ⟨running, now⟩ := (reads_iff turns i).mp reading
        rw [Client.after, (turn_reading running now).1, read]
        rfl
      rw [(after_reading next).1] at still
      omega
    · trivial
  · intro harmless
    refine ⟨(messages_iff turns).mpr fun i reading => ?_, fun i reading read n later => ?_⟩
    · have fine := harmless i reading
      rw [Harmless] at fine
      have silent : Uniform [] := ⟨[], [], rfl, by simp, .inl (by simp)⟩
      cases read : (turns i).read with
      | words words =>
          rw [read] at fine
          exact fine
      | endOfStream => exact silent
      | failed => exact silent
    · have stop := harmless i reading
      rw [Harmless, read] at stop
      exact reads_after_stop stop later

def upAndShutdown (n : Nat) : Turn :=
  ⟨false, if n = 0 then .words [⟨1, 0, 0, 0⟩, ⟨2, 0, 0, 0⟩] else .endOfStream⟩

/-- The status is sent a second time for the second word, and the end of the stream is read
again and again. -/
theorem up_and_shutdown_misdispatched : ¬ Dispatches upAndShutdown ∧
    (Client.after upAndShutdown 1).messages =
      [.status .up, .status .up, .notification .platformReboot] ∧
    (Client.after upAndShutdown 4).reads = 4 := by
  refine ⟨?_, by decide, by decide⟩
  intro dispatches
  have sent := dispatches.messages 1
  revert sent
  decide

end A500cg.Stmd
