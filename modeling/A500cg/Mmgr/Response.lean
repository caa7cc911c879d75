import A500cg.Lib.ByteBuffer

/-! The responses of the modem manager as `MmgrBaseResponse` reads and writes them: a
header of three big-endian words (id, timestamp, payload size) and the payload. -/

namespace A500cg.Mmgr

open Lib

/-- The exceptions that parsing can end with; all of them are unchecked. -/
inductive JavaException where
  | illegalArgument (name : String)
  | bufferUnderflow
  | negativeArraySize
  | indexOutOfBounds
  deriving DecidableEq, Repr

/-- The class of a response object: the anonymous subclass of `MmgrBaseResponse`, or
`MmgrAckResponse` with its flag. -/
inductive ResponseClass where
  | base
  | ack (ack : Bool)
  deriving DecidableEq, Repr

structure MmgrResponse where
  responseId : Int32
  timestamp : Int32
  payload : List UInt8
  kind : ResponseClass
  deriving DecidableEq, Repr

def HEADER_SIZE : Nat := 4 + 4 + 4

def NOTIFY_ACK : Int32 := 7
def NOTIFY_NACK : Int32 := 8

/-- `buffer.getInt()`, with what is left of the buffer. -/
def nextInt (buffer : List UInt8) : Except JavaException (Int32 × List UInt8) :=
  match getInt buffer with
  | some read => .ok read
  | none => .error .bufferUnderflow

/-- The setters `setResponseId` and `setTimestamp`. -/
def checkNonNegative (name : String) (value : Int32) : Except JavaException Unit :=
  if value < 0 then .error (.illegalArgument name) else .ok ()

/-- `new byte[Math.min(payloadSize, buffer.remaining())]` and
`buffer.get(payload, 0, payloadSize)`. -/
def takePayload (payloadSize : Int32) (buffer : List UInt8) :
    Except JavaException (List UInt8) :=
  if min payloadSize.toInt buffer.length < 0 then .error .negativeArraySize
  else if min payloadSize.toInt buffer.length < payloadSize.toInt then .error .indexOutOfBounds
  else .ok (buffer.take payloadSize.toInt.toNat)

def parseRawFrame (fullFrame : List UInt8) (offset size : Nat) :
    Except JavaException MmgrResponse :=
  if fullFrame.length < offset + size ∨ size < HEADER_SIZE then
    .error (.illegalArgument "fullFrame")
  else do
    let (responseId, buffer) ← nextInt ((fullFrame.drop offset).take size)
    checkNonNegative "responseId" responseId
    let (timestamp, buffer) ← nextInt buffer
    checkNonNegative "timestamp" timestamp
    let (payloadSize, buffer) ← nextInt buffer
    let payload ← takePayload payloadSize buffer
    return ⟨responseId, timestamp, payload, .base⟩

/-- The bytes of a response. For a payload too long to state its size in a word there
is no such array in Java; no buffer is long enough to hold it. -/
def MmgrResponse.getRawFrame (r : MmgrResponse) : List UInt8 :=
  putInt r.responseId ++ putInt r.timestamp ++ putInt (Int32.ofNat r.payload.length) ++ r.payload

def MmgrResponse.getRawFrameLength (r : MmgrResponse) : Nat := r.getRawFrame.length

/-- The object that stands for a parsed header: an answer becomes a new
`MmgrAckResponse`, which starts with an empty payload. -/
def MmgrResponse.specialise (header : MmgrResponse) : MmgrResponse :=
  if header.responseId = NOTIFY_ACK then ⟨header.responseId, header.timestamp, [], .ack true⟩
  else if header.responseId = NOTIFY_NACK then
    ⟨header.responseId, header.timestamp, [], .ack false⟩
  else header

def parseResponse (data : List UInt8) (offset size : Nat) :
    Except JavaException (Option MmgrResponse) :=
  if size < HEADER_SIZE then .ok none
  else do
    let header ← parseRawFrame data offset size
    return some header.specialise

structure ParsedFrame where
  offset : Nat
  response : MmgrResponse
  deriving DecidableEq, Repr

theorem getRawFrameLength_eq (r : MmgrResponse) :
    r.getRawFrameLength = HEADER_SIZE + r.payload.length := by
  simp [MmgrResponse.getRawFrameLength, MmgrResponse.getRawFrame, HEADER_SIZE]
  omega

/-- The loop of `parseResponses`, from an offset on. -/
def parseFrames (data : List UInt8) (size currentOffset currentLength : Nat) :
    Except JavaException (List ParsedFrame) :=
  match parseResponse data currentOffset currentLength with
  | .error exception => .error exception
  | .ok none => .ok []
  | .ok (some parsed) =>
      if currentOffset + parsed.getRawFrameLength < size then
        (parseFrames data size (currentOffset + parsed.getRawFrameLength)
          (currentLength - parsed.getRawFrameLength)).map (⟨currentOffset, parsed⟩ :: ·)
      else .ok [⟨currentOffset, parsed⟩]
termination_by size - currentOffset
decreasing_by
  have length := getRawFrameLength_eq parsed
  simp only [HEADER_SIZE] at length
  omega

def parseResponses (data : List UInt8) (offset size : Nat) :
    Except JavaException (List MmgrResponse) :=
  (parseFrames data size offset size).map (·.map ParsedFrame.response)

/-- A response that can be sent: the words are not negative, and the payload is no
longer than its size word can say. -/
structure MmgrResponse.WellFormed (r : MmgrResponse) : Prop where
  id : 0 ≤ r.responseId
  timestamp : 0 ≤ r.timestamp
  short : r.payload.length < 2 ^ 31

/-- What `parseResponse` makes of the bytes of a response. -/
def MmgrResponse.received (r : MmgrResponse) : MmgrResponse :=
  MmgrResponse.specialise { r with kind := .base }

end A500cg.Mmgr
