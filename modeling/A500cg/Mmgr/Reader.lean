import A500cg.Mmgr.Parser

/-! The reader thread of `MedfieldMmgrClient`: `run` reads from the socket into one
buffer, and `handleResponse` parses every read on its own and tells the handler. -/

namespace A500cg.Mmgr

open Lib

inductive ModemStatus where
  | none
  | down
  | up
  | dead
  | all
  deriving DecidableEq, Repr

inductive ModemNotification where
  | none
  | coldReset
  | shutdown
  | platformReboot
  | coreDump
  | ack
  | nack
  | all
  deriving DecidableEq, Repr

def STATUS_MODEM_DOWN : Int32 := 0
def STATUS_MODEM_UP : Int32 := 1
def STATUS_MODEM_OUT_OF_SERVICE : Int32 := 2
def NOTIFY_MODEM_COLD_RESET : Int32 := 3
def NOTIFY_MODEM_SHUTDOWN : Int32 := 4
def NOTIFY_PLATFORM_REBOOT : Int32 := 5
def NOTIFY_MODEM_CORE_DUMP : Int32 := 6

inductive ResponseCase where
  | status (status : ModemStatus)
  | notification (notification : ModemNotification)
  | answer (ack : Bool)
  | unknown
  deriving DecidableEq, Repr

def caseOf (responseId : Int32) : ResponseCase :=
  if responseId = STATUS_MODEM_DOWN then .status .down
  else if responseId = STATUS_MODEM_UP then .status .up
  else if responseId = STATUS_MODEM_OUT_OF_SERVICE then .status .dead
  else if responseId = NOTIFY_MODEM_COLD_RESET then .notification .coldReset
  else if responseId = NOTIFY_MODEM_CORE_DUMP then .notification .coreDump
  else if responseId = NOTIFY_MODEM_SHUTDOWN then .notification .shutdown
  else if responseId = NOTIFY_PLATFORM_REBOOT then .notification .platformReboot
  else if responseId = NOTIFY_ACK then .answer true
  else if responseId = NOTIFY_NACK then .answer false
  else .unknown

/-- The local variables of `handleResponse`, and the calls of `signalAck` (`true`) and
`signalNack` that it has made. -/
structure Batch where
  notification : ModemNotification
  status : ModemStatus
  signals : List Bool
  deriving DecidableEq, Repr

def Batch.empty : Batch := ⟨.none, .none, []⟩

def Batch.handle (batch : Batch) (response : MmgrResponse) : Batch :=
  match caseOf response.responseId with
  | .status status => { batch with status := status }
  | .notification notification => { batch with notification := notification }
  | .answer ack => { batch with signals := batch.signals ++ [ack] }
  | .unknown => batch

/-- A message for the handler: `MSG_STATUS` or `MSG_NOTIFICATION`. -/
inductive Message where
  | status (status : ModemStatus)
  | notification (notification : ModemNotification)
  deriving DecidableEq, Repr

def Batch.messages (batch : Batch) : List Message :=
  (if batch.status ≠ .none then [.status batch.status] else []) ++
  (if batch.notification ≠ .none then [.notification batch.notification] else [])

/-- `handleResponse` up to its effects: the batch says what it stores, signals and sends. -/
def handleResponse (buffer : List UInt8) (offset length : Nat) : Except JavaException Batch :=
  (parseResponses buffer offset length).map (·.foldl Batch.handle Batch.empty)

structure Reader where
  recvBuffer : List UInt8
  messages : List Message
  deriving DecidableEq, Repr

def RECV_BUFFER_SIZE : Nat := 1024

def Reader.start : Reader := ⟨List.replicate RECV_BUFFER_SIZE 0, []⟩

/-- The loop of `run` over what the reads return. Only `IOException` is caught: the
thread ends at any exception of the parser, and the reads after it are not handled. -/
def Reader.run (reader : Reader) : List (List UInt8) → Reader
  | [] => reader
  | read :: later =>
      let recvBuffer := read ++ reader.recvBuffer.drop read.length
      match handleResponse recvBuffer 0 read.length with
      | .error _ => { reader with recvBuffer := recvBuffer }
      | .ok batch => Reader.run ⟨recvBuffer, reader.messages ++ batch.messages⟩ later

def declaredSize (data : List UInt8) (offset : Nat) : Int :=
  match getInt (data.drop (offset + 8)) with
  | some (payloadSize, _) => payloadSize.toInt
  | none => 0

def Contiguous (data : List UInt8) : Int → List ParsedFrame → Prop
  | _, [] => True
  | start, frame :: later =>
      frame.offset = start ∧
        Contiguous data (start + HEADER_SIZE + declaredSize data frame.offset) later

/-- The first `n` bytes of the buffer are parsed without an exception, frame after frame,
and the reader thread goes on. -/
structure Survives (buffer : List UInt8) (n : Nat) : Prop where
  parses : ∃ frames, parseFrames buffer n 0 n = .ok frames ∧ Contiguous buffer 0 frames
  goesOn : ∃ batch, handleResponse buffer 0 n = .ok batch

/-- Responses one after the other, then fewer bytes than a header has. An answer with a
payload may only stand at the end, where no header fits behind its own. -/
inductive WellFramed : List UInt8 → Prop
  | cut {bytes : List UInt8} : bytes.length < HEADER_SIZE → WellFramed bytes
  | frame {r : MmgrResponse} {rest : List UInt8} : r.WellFormed →
      r.Bare ∨ r.payload.length + rest.length < HEADER_SIZE → WellFramed rest →
      WellFramed (r.getRawFrame ++ rest)

theorem declaredSize_eq {data rest : List UInt8} {size offset : Nat} {r : MmgrResponse}
    (wellFormed : r.WellFormed) (held : unread data size offset = r.getRawFrame ++ rest) :
    declaredSize data offset = r.payload.length := by
  have front : data.drop (offset + 8) = putInt (Int32.ofNat r.payload.length) ++
      (r.payload ++ (rest ++ (data.drop offset).drop (size - offset))) := by
    rw [← List.drop_drop, ← List.take_append_drop (size - offset) (data.drop offset)]
    change ((unread data size offset ++ _).drop 8) = _
    rw [held]
    simp [MmgrResponse.getRawFrame, putInt]
  rw [declaredSize, front, getInt_putInt]
  exact Int32.toInt_ofNat_of_lt wellFormed.short

theorem received_length_bare {r : MmgrResponse} (bare : r.Bare) :
    r.received.getRawFrameLength = HEADER_SIZE + r.payload.length := by
  rw [received_bare bare, getRawFrameLength_eq]

theorem received_length_answer {r : MmgrResponse} (loaded : ¬ r.Bare) :
    r.received.getRawFrameLength = HEADER_SIZE := by
  have answer : r.responseId = NOTIFY_ACK ∨ r.responseId = NOTIFY_NACK := by
    by_contra other
    exact loaded fun answer => absurd answer other
  rw [getRawFrameLength_eq]
  simp only [MmgrResponse.received, MmgrResponse.specialise]
  rcases answer with ack | nack
  · simp [ack]
  · simp [nack, NOTIFY_ACK, NOTIFY_NACK]

theorem wellFramed_parses {data bytes : List UInt8} {size offset : Nat}
    (inside : size ≤ data.length) (framed : WellFramed bytes)
    (held : unread data size offset = bytes) :
    ∃ frames, parseFrames data size offset (size - offset) = .ok frames ∧
      Contiguous data offset frames := by
  induction framed generalizing offset with
  | cut short =>
      refine ⟨[], (parseFrames_ok_iff inside).mpr (.inl ⟨?_, rfl⟩), trivial⟩
      rwa [← unread_length inside, held]
  | @frame r rest wellFormed room _ ih =>
      have declared := declaredSize_eq wellFormed held
      by_cases bare : r.Bare
      · have advance := received_length_bare bare
        have next := unread_advance held
        rw [getRawFrame_length, ← advance] at next
        rcases ih next with ⟨later, ran, contiguous⟩
        refine ⟨_, (parseFrames_ok_iff inside).mpr
          (.inr ⟨r, wellFormed, ⟨rest, held⟩, later, ran, rfl⟩), rfl, ?_⟩
        rw [declared]
        rw [advance] at contiguous
        push_cast at contiguous
        rwa [← Int.add_assoc] at contiguous
      · -- Nothing is parsed behind the answer, so its dropped payload does no harm.
        have short := room.resolve_left bare
        have total := congrArg List.length held
        rw [unread_length inside, List.length_append, getRawFrame_length] at total
        refine ⟨_, (parseFrames_ok_iff inside).mpr
          (.inr ⟨r, wellFormed, ⟨rest, held⟩, [], parseFrames_end ?_, rfl⟩), rfl, trivial⟩
        rw [received_length_answer bare]
        omega

theorem parseFrames_head {data : List UInt8} {size offset : Nat} {frame : ParsedFrame}
    {later : List ParsedFrame} (inside : size ≤ data.length)
    (ran : parseFrames data size offset (size - offset) = .ok (frame :: later)) :
    frame.offset = offset := by
  rcases (parseFrames_ok_iff inside).mp ran with ⟨_, none⟩ | ⟨_, _, _, _, _, same⟩
  · cases none
  · cases same
    rfl

theorem parses_wellFramed {data : List UInt8} {size offset : Nat} {frames : List ParsedFrame}
    (inside : size ≤ data.length)
    (ran : parseFrames data size offset (size - offset) = .ok frames)
    (contiguous : Contiguous data offset frames) : WellFramed (unread data size offset) := by
  induction frames generalizing offset with
  | nil =>
      rcases (parseFrames_ok_iff inside).mp ran with ⟨short, _⟩ | ⟨_, _, _, _, _, same⟩
      · exact .cut (by rwa [unread_length inside])
      · cases same
  | cons frame later ih =>
      rcases (parseFrames_ok_iff inside).mp ran with ⟨_, none⟩ |
        ⟨sent, wellFormed, ⟨rest, held⟩, tail, ranTail, same⟩
      · cases none
      cases same
      have declared := declaredSize_eq wellFormed held
      have follows := contiguous.2
      simp only [declared] at follows
      rw [held]
      by_cases bare : sent.Bare
      · have advance := received_length_bare bare
        have next := unread_advance held
        rw [getRawFrame_length, ← advance] at next
        refine .frame wellFormed (.inl bare) (next ▸ ih ranTail ?_)
        rw [advance]
        push_cast
        rwa [← Int.add_assoc]
      · -- A further frame would start behind the header and not behind the payload.
        have advance := received_length_answer bare
        have loaded : 0 < sent.payload.length := by
          rw [List.length_pos_iff]
          intro empty
          exact bare fun _ => empty
        have last : later = [] := by
          cases later with
          | nil => rfl
          | cons second others =>
              have place := parseFrames_head inside ranTail
              have claimed := follows.1
              rw [advance] at place
              omega
        rw [last] at ranTail
        have total := congrArg List.length held
        rw [unread_length inside, List.length_append, getRawFrame_length] at total
        have short : size - (offset + HEADER_SIZE) < HEADER_SIZE := by
          rcases (parseFrames_ok_iff inside).mp ranTail with ⟨short, _⟩ | ⟨_, _, _, _, _, same⟩
          · rwa [advance] at short
          · cases same
        exact .frame wellFormed (.inr (by omega)) (.cut (by omega))

/-- The parser survives a read exactly when what was read is well framed. -/
theorem survives_iff_wellFramed (buffer : List UInt8) (n : Nat)
    (full : buffer.length = RECV_BUFFER_SIZE) (fits : n ≤ RECV_BUFFER_SIZE) :
    Survives buffer n ↔ WellFramed (buffer.take n) := by
  have inside : n ≤ buffer.length := by omega
  have whole : unread buffer n 0 = buffer.take n := by rw [unread, List.drop_zero, Nat.sub_zero]
  constructor
  · intro parts
    rcases parts with ⟨⟨frames, ran, contiguous⟩, _⟩
    rw [← whole]
    exact parses_wellFramed inside ran contiguous
  · intro framed
    rcases wellFramed_parses inside framed whole with ⟨frames, ran, contiguous⟩
    rw [Nat.sub_zero] at ran
    refine ⟨⟨frames, ran, contiguous⟩, ?_⟩
    rw [handleResponse, parseResponses, ran]
    exact ⟨_, rfl⟩

def smallMessage : MmgrResponse := ⟨12, 77, [5, 6, 7], .base⟩

def messageBuffer : List UInt8 := smallMessage.getRawFrame ++ [0, 0] ++ List.replicate 1007 0

theorem survives_message :
    Survives messageBuffer 17 ∧ WellFramed (messageBuffer.take 17) := by
  have length : messageBuffer.length = RECV_BUFFER_SIZE := by
    rw [messageBuffer, List.length_append, List.length_replicate]
    rfl
  have equivalent := survives_iff_wellFramed messageBuffer 17 length (by decide)
  have read : messageBuffer.take 17 = smallMessage.getRawFrame ++ [0, 0] := List.take_left' rfl
  have framed : WellFramed (messageBuffer.take 17) := by
    rw [read]
    exact .frame ⟨by decide, by decide, by decide⟩ (.inl (by decide)) (.cut (by decide))
  exact ⟨equivalent.mpr framed, framed⟩

def cutFrame : List UInt8 := putInt STATUS_MODEM_UP ++ putInt 0 ++ putInt 100

/-- The cut frame ends the reader thread. -/
theorem cut_frame_ends_reader :
    (cutFrame ++ List.replicate 1012 0).length = RECV_BUFFER_SIZE ∧
      handleResponse (cutFrame ++ List.replicate 1012 0) 0 12 = .error .indexOutOfBounds ∧
      ¬ Survives (cutFrame ++ List.replicate 1012 0) 12 := by
  have length : (cutFrame ++ List.replicate 1012 (0 : UInt8)).length = RECV_BUFFER_SIZE := by
    rw [List.length_append, List.length_replicate]
    rfl
  have parsed : parseResponse (cutFrame ++ List.replicate 1012 0) 0 12 =
      .error .indexOutOfBounds := by
    rw [parseResponse, if_neg (by decide), parseRawFrame, length, if_neg (by decide)]
    rfl
  have ended : handleResponse (cutFrame ++ List.replicate 1012 0) 0 12 =
      .error .indexOutOfBounds := by
    rw [handleResponse, parseResponses, parseFrames, parsed]
    rfl
  refine ⟨length, ended, ?_⟩
  intro parts
  rcases parts with ⟨_, batch, goesOn⟩
  rw [ended] at goesOn
  cases goesOn

end A500cg.Mmgr
