import A500cg.Mmgr.Reader

/-! Which messages reach the handler, for all ways the socket can cut a stream of
responses into reads. -/

namespace A500cg.Mmgr

open Lib

def statusOf (r : MmgrResponse) : Option ModemStatus :=
  match caseOf r.responseId with
  | .status status => some status
  | _ => none

def notificationOf (r : MmgrResponse) : Option ModemNotification :=
  match caseOf r.responseId with
  | .notification notification => some notification
  | _ => none

def Message.status? : Message → Option ModemStatus
  | .status value => some value
  | .notification _ => none

def Message.notification? : Message → Option ModemNotification
  | .status _ => none
  | .notification value => some value

structure Splits (rs : List MmgrResponse) (reads : List (List UInt8)) : Prop where
  bytes : reads.flatten = rawFrames rs
  sizes : ∀ read ∈ reads, read ≠ [] ∧ read.length ≤ RECV_BUFFER_SIZE

/-- The handler gets one message for each status and for each notification, in order. -/
@[mk_iff]
structure Delivers (rs : List MmgrResponse) (reads : List (List UInt8)) : Prop where
  statuses : (Reader.start.run reads).messages.filterMap Message.status? = rs.filterMap statusOf
  notifications : (Reader.start.run reads).messages.filterMap Message.notification? =
    rs.filterMap notificationOf

private theorem ite_mem_cases {condition : Prop} [Decidable condition] {a b : ResponseCase}
    {cases : List ResponseCase} (here : a ∈ cases) (there : b ∈ cases) :
    (if condition then a else b) ∈ cases := by
  split
  · exact here
  · exact there

def responseCases : List ResponseCase :=
  [.status .down, .status .up, .status .dead, .notification .coldReset, .notification .coreDump,
    .notification .shutdown, .notification .platformReboot, .answer true, .answer false, .unknown]

theorem caseOf_mem (responseId : Int32) : caseOf responseId ∈ responseCases := by
  rw [caseOf]
  iterate 9 refine ite_mem_cases (by decide) ?_
  decide

theorem statusOf_ne_none {r : MmgrResponse} {status : ModemStatus}
    (known : statusOf r = some status) : status ≠ .none := by
  have real : ∀ case ∈ responseCases, case ≠ .status .none := by decide
  have other := real _ (caseOf_mem r.responseId)
  simp only [statusOf] at known
  split at known
  · rename_i same
    cases known
    rintro rfl
    exact other same
  · cases known

theorem notificationOf_ne_none {r : MmgrResponse} {notification : ModemNotification}
    (known : notificationOf r = some notification) : notification ≠ .none := by
  have real : ∀ case ∈ responseCases, case ≠ .notification .none := by decide
  have other := real _ (caseOf_mem r.responseId)
  simp only [notificationOf] at known
  split at known
  · rename_i same
    cases known
    rintro rfl
    exact other same
  · cases known

theorem handle_status (batch : Batch) (r : MmgrResponse) :
    (batch.handle r).status = (statusOf r).getD batch.status := by
  simp only [Batch.handle, statusOf]
  cases caseOf r.responseId <;> rfl

theorem handle_notification (batch : Batch) (r : MmgrResponse) :
    (batch.handle r).notification = (notificationOf r).getD batch.notification := by
  simp only [Batch.handle, notificationOf]
  cases caseOf r.responseId <;> rfl

private theorem getD_getLast {α β : Type} (f : α → Option β) (a : α) (rest : List α) (start : β) :
    ((a :: rest).filterMap f).getLast?.getD start =
      (rest.filterMap f).getLast?.getD ((f a).getD start) := by
  cases value : f a <;> simp [value, List.getLast?_cons]

theorem foldl_handle_status (rs : List MmgrResponse) (batch : Batch) :
    (rs.foldl Batch.handle batch).status = (rs.filterMap statusOf).getLast?.getD batch.status := by
  induction rs generalizing batch with
  | nil => rfl
  | cons r rs ih => rw [List.foldl_cons, ih, handle_status, getD_getLast]

theorem foldl_handle_notification (rs : List MmgrResponse) (batch : Batch) :
    (rs.foldl Batch.handle batch).notification =
      (rs.filterMap notificationOf).getLast?.getD batch.notification := by
  induction rs generalizing batch with
  | nil => rfl
  | cons r rs ih => rw [List.foldl_cons, ih, handle_notification, getD_getLast]

def batchOf (rs : List MmgrResponse) : Batch := rs.foldl Batch.handle Batch.empty

theorem messages_statuses (batch : Batch) :
    batch.messages.filterMap Message.status? =
      if batch.status ≠ .none then [batch.status] else [] := by
  simp only [Batch.messages]
  split_ifs <;> rfl

theorem messages_notifications (batch : Batch) :
    batch.messages.filterMap Message.notification? =
      if batch.notification ≠ .none then [batch.notification] else [] := by
  simp only [Batch.messages]
  split_ifs <;> rfl

theorem batchOf_statuses (rs : List MmgrResponse) :
    (batchOf rs).messages.filterMap Message.status? = (rs.filterMap statusOf).getLast?.toList := by
  rw [messages_statuses, batchOf, foldl_handle_status]
  cases last : (rs.filterMap statusOf).getLast? with
  | none => rfl
  | some value =>
      rcases List.mem_filterMap.mp (List.mem_of_getLast? last) with ⟨r, _, known⟩
      exact if_pos (statusOf_ne_none known)

theorem batchOf_notifications (rs : List MmgrResponse) :
    (batchOf rs).messages.filterMap Message.notification? =
      (rs.filterMap notificationOf).getLast?.toList := by
  rw [messages_notifications, batchOf, foldl_handle_notification]
  cases last : (rs.filterMap notificationOf).getLast? with
  | none => rfl
  | some value =>
      rcases List.mem_filterMap.mp (List.mem_of_getLast? last) with ⟨r, _, known⟩
      exact if_pos (notificationOf_ne_none known)

theorem handleResponse_responses (rs : List MmgrResponse) (tail : List UInt8)
    (wellFormed : ∀ r ∈ rs, r.WellFormed) (bare : ∀ r ∈ rs, r.Bare) :
    handleResponse (rawFrames rs ++ tail) 0 (rawFrames rs).length = .ok (batchOf rs) := by
  have held : unread (rawFrames rs ++ tail) (rawFrames rs).length 0 = rawFrames rs ++ [] := by
    simp [unread]
  obtain ⟨frames, ran, responses⟩ := parseFrames_responses (by simp) rs 0 [] wellFormed bare held
    (by decide)
  rw [Nat.sub_zero] at ran
  rw [handleResponse, parseResponses, ran]
  simp only [Except.map, responses, List.foldl_map]
  rfl

theorem handleResponse_short {buffer : List UInt8} {n : Nat} (short : n < HEADER_SIZE) :
    handleResponse buffer 0 n = .ok Batch.empty := by
  rw [handleResponse, parseResponses, parseFrames_end short]
  rfl

theorem run_cons {reader : Reader} {read : List UInt8} {batch : Batch}
    (later : List (List UInt8))
    (handled : handleResponse (read ++ reader.recvBuffer.drop read.length) 0 read.length =
      .ok batch) :
    reader.run (read :: later) = Reader.run ⟨read ++ reader.recvBuffer.drop read.length,
      reader.messages ++ batch.messages⟩ later := by
  rw [Reader.run, handled]

theorem run_short (reader : Reader) (reads later : List (List UInt8))
    (short : ∀ read ∈ reads, read.length < HEADER_SIZE) :
    ∃ buffer, reader.run (reads ++ later) = Reader.run ⟨buffer, reader.messages⟩ later := by
  induction reads generalizing reader with
  | nil => exact ⟨reader.recvBuffer, rfl⟩
  | cons read reads ih =>
      have handled := @handleResponse_short (read ++ reader.recvBuffer.drop read.length) _
        (short read List.mem_cons_self)
      obtain ⟨buffer, ran⟩ := ih ⟨_, reader.messages ++ Batch.empty.messages⟩
        (fun other member => short other (List.mem_cons_of_mem _ member))
      refine ⟨buffer, ?_⟩
      rw [List.cons_append, run_cons _ handled, ran]
      simp [Batch.messages, Batch.empty]

theorem run_groups (reader : Reader) (groups : List (List MmgrResponse))
    (wellFormed : ∀ group ∈ groups, ∀ r ∈ group, r.WellFormed)
    (bare : ∀ group ∈ groups, ∀ r ∈ group, r.Bare) :
    (reader.run (groups.map rawFrames)).messages =
      reader.messages ++ groups.flatMap fun group => (batchOf group).messages := by
  induction groups generalizing reader with
  | nil => simp [Reader.run]
  | cons group groups ih =>
      have handled := handleResponse_responses group
        (reader.recvBuffer.drop (rawFrames group).length)
        (wellFormed group List.mem_cons_self) (bare group List.mem_cons_self)
      rw [List.map_cons, run_cons _ handled,
        ih _ (fun other member => wellFormed other (List.mem_cons_of_mem _ member))
          (fun other member => bare other (List.mem_cons_of_mem _ member))]
      simp

private theorem lasts_eq_flatten {α : Type} (lists : List (List α)) :
    (lists.flatMap fun list => list.getLast?.toList) = lists.flatten ↔
      ∀ list ∈ lists, list.length ≤ 1 := by
  have shorter : ∀ list : List α, list.getLast?.toList.length = min list.length 1 := by
    intro list
    cases last : list.getLast? with
    | none => simp [List.getLast?_eq_none_iff.mp last]
    | some value =>
        have := List.length_pos_of_mem (List.mem_of_getLast? last)
        simp
        omega
  induction lists with
  | nil => simp
  | cons list lists ih =>
      have bound : (lists.flatMap fun list => list.getLast?.toList).length ≤
          lists.flatten.length := by
        rw [List.length_flatMap, List.length_flatten]
        exact List.sum_le_sum fun other _ => by rw [shorter]; omega
      rw [List.flatMap_cons, List.flatten_cons, List.forall_mem_cons]
      constructor
      · intro same
        have lengths := congrArg List.length same
        have here := shorter list
        simp only [List.length_append] at lengths
        exact ⟨by omega, ih.mp (List.append_inj same (by omega)).2⟩
      · intro parts
        rcases parts with ⟨single, rest⟩
        rw [ih.mpr rest]
        match list, single with
        | [], _ => rfl
        | [_], _ => rfl

theorem delivers_groups_iff (groups : List (List MmgrResponse))
    (wellFormed : ∀ r ∈ groups.flatten, r.WellFormed) (bare : ∀ r ∈ groups.flatten, r.Bare) :
    Delivers groups.flatten (groups.map rawFrames) ↔
      ∀ group ∈ groups, (group.filterMap statusOf).length ≤ 1 ∧
        (group.filterMap notificationOf).length ≤ 1 := by
  have ran := run_groups Reader.start groups
    (fun group member r inside => wellFormed r (List.mem_flatten.mpr ⟨group, member, inside⟩))
    (fun group member r inside => bare r (List.mem_flatten.mpr ⟨group, member, inside⟩))
  have statuses := lasts_eq_flatten (groups.map fun group => group.filterMap statusOf)
  have notifications := lasts_eq_flatten (groups.map fun group => group.filterMap notificationOf)
  simp only [List.flatMap_map, List.forall_mem_map] at statuses notifications
  rw [delivers_iff, ran]
  simp only [Reader.start, List.nil_append, List.filterMap_flatMap, batchOf_statuses,
    batchOf_notifications, List.filterMap_flatten, statuses, notifications, ← forall_and]

def MmgrResponse.IsMessage (r : MmgrResponse) : Prop :=
  (statusOf r).isSome ∨ (notificationOf r).isSome

theorem message_bare {r : MmgrResponse} (message : r.IsMessage) : r.Bare := by
  have ack : caseOf NOTIFY_ACK = .answer true := by decide
  have nack : caseOf NOTIFY_NACK = .answer false := by decide
  intro either
  rcases either with answer | answer
  · simp [MmgrResponse.IsMessage, statusOf, notificationOf, answer, ack] at message
  · simp [MmgrResponse.IsMessage, statusOf, notificationOf, answer, nack] at message

/-- A piece of the bytes, of a length that one read can have, is a status or a
notification. -/
def HoldsMessage (bytes : List UInt8) : Prop :=
  ∃ r : MmgrResponse, r.WellFormed ∧ r.IsMessage ∧ r.getRawFrame.length ≤ RECV_BUFFER_SIZE ∧
    r.getRawFrame <:+: bytes

theorem parseFrames_infix {data : List UInt8} {size offset : Nat} {frames : List ParsedFrame}
    (inside : size ≤ data.length)
    (ran : parseFrames data size offset (size - offset) = .ok frames) (frame : ParsedFrame)
    (member : frame ∈ frames) :
    ∃ sent : MmgrResponse, sent.WellFormed ∧ frame.response = sent.received ∧
      sent.getRawFrame <:+: unread data size offset := by
  induction frames generalizing offset with
  | nil => cases member
  | cons first later ih =>
      rcases (parseFrames_ok_iff inside).mp ran with ⟨_, none⟩ |
        ⟨sent, wellFormed, ⟨rest, held⟩, tail, ranTail, same⟩
      · cases none
      cases same
      rcases List.mem_cons.mp member with rfl | further
      · exact ⟨sent, wellFormed, rfl, [], rest, held.symm⟩
      · rcases ih ranTail further with ⟨other, wellFormed, response, piece⟩
        refine ⟨other, wellFormed, response, piece.trans ?_⟩
        have behind : unread data size (offset + sent.received.getRawFrameLength) =
            (unread data size offset).drop sent.received.getRawFrameLength := by
          rw [unread, unread, ← List.drop_drop, ← Nat.sub_sub, ← List.drop_take]
        rw [behind]
        exact (List.drop_suffix _ _).isInfix

theorem received_cases (r : MmgrResponse) :
    statusOf r.received = statusOf r ∧ notificationOf r.received = notificationOf r := by
  simp [statusOf, notificationOf]

theorem handleResponse_quiet {read tail : List UInt8} {batch : Batch}
    (quiet : ¬ HoldsMessage read) (size : read.length ≤ RECV_BUFFER_SIZE)
    (handled : handleResponse (read ++ tail) 0 read.length = .ok batch) :
    batch.messages = [] := by
  have held : unread (read ++ tail) read.length 0 = read := by simp [unread]
  have inside : read.length ≤ (read ++ tail).length := by simp
  rw [handleResponse, parseResponses] at handled
  cases ran : parseFrames (read ++ tail) read.length 0 read.length with
  | error exception =>
      rw [ran] at handled
      cases handled
  | ok frames =>
      rw [ran] at handled
      cases handled
      have silent : ∀ r ∈ frames.map ParsedFrame.response, ¬ r.IsMessage := by
        intro r member message
        rcases List.mem_map.mp member with ⟨frame, parsed, rfl⟩
        obtain ⟨sent, wellFormed, same, piece⟩ :=
          parseFrames_infix inside (by rw [Nat.sub_zero]; exact ran) frame parsed
        rw [held] at piece
        rw [same, MmgrResponse.IsMessage, (received_cases sent).1, (received_cases sent).2]
          at message
        exact quiet ⟨sent, wellFormed, message, piece.length_le.trans size, piece⟩
      have statuses : (frames.map ParsedFrame.response).filterMap statusOf = [] := by
        rw [List.filterMap_eq_nil_iff]
        intro r member
        by_contra known
        exact silent r member (.inl (Option.isSome_iff_ne_none.mpr known))
      have notifications : (frames.map ParsedFrame.response).filterMap notificationOf = [] := by
        rw [List.filterMap_eq_nil_iff]
        intro r member
        by_contra known
        exact silent r member (.inr (Option.isSome_iff_ne_none.mpr known))
      simp [Batch.messages, foldl_handle_status, foldl_handle_notification, statuses,
        notifications, Batch.empty]

theorem run_quiet (reader : Reader) (reads : List (List UInt8))
    (quiet : ∀ read ∈ reads, ¬ HoldsMessage read)
    (sizes : ∀ read ∈ reads, read.length ≤ RECV_BUFFER_SIZE) :
    (reader.run reads).messages = reader.messages := by
  induction reads generalizing reader with
  | nil => rfl
  | cons read reads ih =>
      rw [Reader.run]
      split
      · rfl
      · rename_i batch handled
        have none := handleResponse_quiet (quiet read List.mem_cons_self)
          (sizes read List.mem_cons_self) handled
        rw [ih _ (fun other member => quiet other (List.mem_cons_of_mem _ member))
          (fun other member => sizes other (List.mem_cons_of_mem _ member)), none]
        simp

/-- No response of the list is a status or a notification, and no piece of their bytes
looks like one. -/
def Silent (rs : List MmgrResponse) : Prop :=
  (∀ r ∈ rs, ¬ r.IsMessage) ∧ ¬ HoldsMessage (rawFrames rs)

theorem silent_delivers {rs : List MmgrResponse} {reads : List (List UInt8)} (silent : Silent rs)
    (splits : Splits rs reads) : Delivers rs reads := by
  have nothing : (Reader.start.run reads).messages = [] := by
    refine run_quiet Reader.start reads ?_ fun read member => (splits.sizes read member).2
    intro read member parts
    rcases parts with ⟨r, wellFormed, message, size, piece⟩
    refine silent.2 ⟨r, wellFormed, message, size, piece.trans ?_⟩
    rw [← splits.bytes]
    exact List.infix_of_mem_flatten member
  have quiet : ∀ r ∈ rs, statusOf r = none ∧ notificationOf r = none := by
    intro r member
    have no := silent.1 r member
    rw [MmgrResponse.IsMessage, not_or, Option.not_isSome_iff_eq_none,
      Option.not_isSome_iff_eq_none] at no
    exact no
  constructor
  · rw [nothing, List.filterMap_nil, eq_comm, List.filterMap_eq_nil_iff]
    exact fun r member => (quiet r member).1
  · rw [nothing, List.filterMap_nil, eq_comm, List.filterMap_eq_nil_iff]
    exact fun r member => (quiet r member).2

def singles (bytes : List UInt8) : List (List UInt8) := bytes.map fun byte => [byte]

theorem singles_short (bytes : List UInt8) :
    ∀ read ∈ singles bytes, read.length < HEADER_SIZE := by
  simp [singles, HEADER_SIZE]

@[simp] theorem singles_flatten (bytes : List UInt8) : (singles bytes).flatten = bytes := by
  induction bytes with
  | nil => rfl
  | cons byte bytes ih => simpa [singles] using ih

theorem run_singles (bytes : List UInt8) : (Reader.start.run (singles bytes)).messages = [] := by
  rcases run_short Reader.start (singles bytes) [] (singles_short bytes) with ⟨buffer, ran⟩
  rw [List.append_nil] at ran
  rw [ran]
  rfl

theorem run_piece (front back : List UInt8) (r : MmgrResponse) (wellFormed : r.WellFormed)
    (bare : r.Bare) :
    (Reader.start.run (singles front ++ (r.getRawFrame :: singles back))).messages =
      (batchOf [r]).messages := by
  obtain ⟨buffer, ran⟩ := run_short Reader.start (singles front) (r.getRawFrame :: singles back)
    (singles_short front)
  have handled := handleResponse_responses [r] (buffer.drop (rawFrames [r]).length)
    (by simpa using wellFormed) (by simpa using bare)
  simp only [rawFrames_cons, rawFrames_nil, List.append_nil] at handled
  rw [ran, run_cons _ handled]
  obtain ⟨last, ended⟩ := run_short ⟨r.getRawFrame ++ buffer.drop r.getRawFrame.length,
    Reader.start.messages ++ (batchOf [r]).messages⟩ (singles back) [] (singles_short back)
  rw [List.append_nil] at ended
  rw [ended]
  rfl

theorem delivers_all_silent {rs : List MmgrResponse}
    (delivers : ∀ reads, Splits rs reads → Delivers rs reads) : Silent rs := by
  have byBytes := delivers (singles (rawFrames rs))
    ⟨singles_flatten _, by simp [singles, RECV_BUFFER_SIZE]⟩
  have statuses := byBytes.statuses
  have notifications := byBytes.notifications
  rw [run_singles, List.filterMap_nil, eq_comm, List.filterMap_eq_nil_iff]
    at statuses notifications
  constructor
  · intro r member either
    rcases either with status | notification
    · simp [statuses r member] at status
    · simp [notifications r member] at notification
  · intro parts
    rcases parts with ⟨r, wellFormed, message, size, front, back, pieces⟩
    have splits : Splits rs (singles front ++ (r.getRawFrame :: singles back)) := by
      refine ⟨by simp [← pieces], ?_⟩
      intro read member
      simp only [singles, List.mem_append, List.mem_map, List.mem_cons] at member
      rcases member with ⟨_, _, rfl⟩ | rfl | ⟨_, _, rfl⟩
      · simp [RECV_BUFFER_SIZE]
      · refine ⟨?_, size⟩
        rw [← List.length_pos_iff, getRawFrame_length]
        exact Nat.lt_of_lt_of_le (by decide) (Nat.le_add_right _ _)
      · simp [RECV_BUFFER_SIZE]
    rcases delivers _ splits with ⟨ownStatus, ownNotification⟩
    rw [run_piece front back r wellFormed (message_bare message)] at ownStatus ownNotification
    rw [batchOf_statuses, List.filterMap_eq_nil_iff.mpr statuses] at ownStatus
    rw [batchOf_notifications, List.filterMap_eq_nil_iff.mpr notifications] at ownNotification
    rcases message with status | notification
    · rcases Option.isSome_iff_exists.mp status with ⟨value, known⟩
      simp [known] at ownStatus
    · rcases Option.isSome_iff_exists.mp notification with ⟨value, known⟩
      simp [known] at ownNotification

/-- The handler gets everything under every way to cut the stream only when there is
nothing to get. When the reads end where responses end, it does exactly when no read
holds two statuses or two notifications. -/
theorem delivery_exact (rs : List MmgrResponse) (wellFormed : ∀ r ∈ rs, r.WellFormed) :
    ((∀ reads, Splits rs reads → Delivers rs reads) ↔ Silent rs) ∧
    ∀ groups : List (List MmgrResponse), groups.flatten = rs →
      Splits rs (groups.map rawFrames) → (∀ r ∈ rs, r.Bare) →
      (Delivers rs (groups.map rawFrames) ↔
        ∀ group ∈ groups, (group.filterMap statusOf).length ≤ 1 ∧
          (group.filterMap notificationOf).length ≤ 1) := by
  refine ⟨⟨delivers_all_silent, fun silent reads splits => silent_delivers silent splits⟩, ?_⟩
  intro groups same _ bare
  rcases same with rfl
  exact delivers_groups_iff groups wellFormed bare

theorem delivery_of_one_read :
    Delivers [⟨1, 0, [], .base⟩, ⟨3, 0, [5], .base⟩]
      [rawFrames [⟨1, 0, [], .base⟩, ⟨3, 0, [5], .base⟩]] := by
  have wellFormed : ∀ r ∈ [(⟨1, 0, [], .base⟩ : MmgrResponse), ⟨3, 0, [5], .base⟩],
      r.WellFormed := by
    simp only [List.forall_mem_cons]
    exact ⟨⟨by decide, by decide, by decide⟩, ⟨by decide, by decide, by decide⟩, by simp⟩
  exact ((delivery_exact _ wellFormed).2 [[⟨1, 0, [], .base⟩, ⟨3, 0, [5], .base⟩]] rfl
    ⟨by simp, by decide⟩ (by decide)).mpr (by decide)

/-- The modem is up and goes down again: of two statuses in one read the first is lost,
while in a read each both arrive. -/
theorem second_status_hides_first :
    Splits [⟨1, 0, [], .base⟩, ⟨0, 1, [], .base⟩]
        [rawFrames [⟨1, 0, [], .base⟩, ⟨0, 1, [], .base⟩]] ∧
      ¬ Delivers [⟨1, 0, [], .base⟩, ⟨0, 1, [], .base⟩]
        [rawFrames [⟨1, 0, [], .base⟩, ⟨0, 1, [], .base⟩]] ∧
      Delivers [⟨1, 0, [], .base⟩, ⟨0, 1, [], .base⟩]
        [rawFrames [⟨1, 0, [], .base⟩], rawFrames [⟨0, 1, [], .base⟩]] := by
  have wellFormed : ∀ r ∈ [(⟨1, 0, [], .base⟩ : MmgrResponse), ⟨0, 1, [], .base⟩],
      r.WellFormed := by
    simp only [List.forall_mem_cons]
    exact ⟨⟨by decide, by decide, by decide⟩, ⟨by decide, by decide, by decide⟩, by simp⟩
  refine ⟨⟨by simp, by decide⟩, ?_, ?_⟩
  · intro delivers
    have each := (delivers_groups_iff [[⟨1, 0, [], .base⟩, ⟨0, 1, [], .base⟩]] wellFormed
      (by decide)).mp delivers
    revert each
    decide
  · exact (delivers_groups_iff [[⟨1, 0, [], .base⟩], [⟨0, 1, [], .base⟩]] wellFormed
      (by decide)).mpr (by decide)

end A500cg.Mmgr
