import A500cg.Lib.JavaString

/-! The requests of `MedfieldMmgrClient`: the payload that each class builds, and the frame
that `MmgrBaseRequest` puts around it. -/

namespace A500cg.Mmgr

open Lib

def SET_NAME : Int32 := 0
def SET_EVENTS : Int32 := 1
def RESOURCE_ACQUIRE : Int32 := 2
def RESOURCE_RELEASE : Int32 := 3
def REQUEST_MODEM_RECOVERY : Int32 := 4
def REQUEST_MODEM_RESTART : Int32 := 5
def REQUEST_FORCE_MODEM_SHUTDOWN : Int32 := 6
def ACK_MODEM_COLD_RESET : Int32 := 7
def ACK_MODEM_SHUTDOWN : Int32 := 8

inductive RequestException where
  | illegalArgument
  | bufferOverflow
  | nullPointer
  deriving DecidableEq, Repr

structure WriteBuffer where
  capacity : Nat
  written : List UInt8
  inside : written.length ≤ capacity

namespace WriteBuffer

def allocate (capacity : Int32) : Except RequestException WriteBuffer :=
  if capacity.toInt < 0 then .error .illegalArgument
  else .ok ⟨capacity.toInt.toNat, [], Nat.zero_le _⟩

def put (bytes : List UInt8) (b : WriteBuffer) : Except RequestException WriteBuffer :=
  if room : b.written.length + bytes.length ≤ b.capacity then
    .ok ⟨b.capacity, b.written ++ bytes, by rwa [List.length_append]⟩
  else .error .bufferOverflow

def putInt (word : Int32) (b : WriteBuffer) : Except RequestException WriteBuffer :=
  b.put (Lib.putInt word)

def array (b : WriteBuffer) : List UInt8 :=
  b.written ++ List.replicate (b.capacity - b.written.length) 0

end WriteBuffer

/-- The subclasses of `MmgrBaseRequest`; an array or a string of it may be null. -/
inductive MmgrRequest where
  | registerName (clientName : JavaString)
  | registerEvents (subscribedEvents : Int32)
  | modemLock
  | modemRelease
  | modemRecovery (causes : Option (List (Option JavaString)))
  | modemRestart
  | modemShutdown
  | modemColdResetAck
  | modemShutdownAck
  deriving DecidableEq, Repr

def MmgrRequest.requestId : MmgrRequest → Int32
  | .registerName _ => SET_NAME
  | .registerEvents _ => SET_EVENTS
  | .modemLock => RESOURCE_ACQUIRE
  | .modemRelease => RESOURCE_RELEASE
  | .modemRecovery _ => REQUEST_MODEM_RECOVERY
  | .modemRestart => REQUEST_MODEM_RESTART
  | .modemShutdown => REQUEST_FORCE_MODEM_SHUTDOWN
  | .modemColdResetAck => ACK_MODEM_COLD_RESET
  | .modemShutdownAck => ACK_MODEM_SHUTDOWN

def causesSize : List (Option JavaString) → Int32 → Except RequestException Int32
  | [], size => .ok size
  | none :: _, _ => .error .nullPointer
  | some cause :: rest, size => causesSize rest (size + 4 + Int32.ofNat cause.length)

def putCauses : List (Option JavaString) → WriteBuffer → Except RequestException WriteBuffer
  | [], b => .ok b
  | none :: _, _ => .error .nullPointer
  | some cause :: rest, b => do
      let b ← b.putInt (Int32.ofNat cause.length)
      let b ← b.put (getBytes cause)
      putCauses rest b

/-- `getPayload` of `MmgrModemRecoveryRequest`. -/
def recoveryPayload : Option (List (Option JavaString)) → Except RequestException (List UInt8)
  | none => .ok []
  | some causes => do
      let size ← causesSize causes 4
      let b ← WriteBuffer.allocate size
      let b ← b.putInt (Int32.ofNat causes.length)
      let b ← putCauses causes b
      return b.array

/-- `getPayload` of `MmgrRegisterNameRequest`, with the cut of `setClientName`. -/
def registerNamePayload (clientName : JavaString) : Except RequestException (List UInt8) := do
  let clientName := clientName.take (min 63 clientName.length)
  let b ← WriteBuffer.allocate 64
  let b ← b.put (getAsciiBytes clientName)
  return b.array

def registerEventsPayload (subscribedEvents : Int32) : Except RequestException (List UInt8) := do
  let b ← WriteBuffer.allocate 4
  let b ← b.putInt subscribedEvents
  return b.array

def MmgrRequest.getPayload : MmgrRequest → Except RequestException (List UInt8)
  | .registerName clientName => registerNamePayload clientName
  | .registerEvents subscribedEvents => registerEventsPayload subscribedEvents
  | .modemRecovery causes => recoveryPayload causes
  | _ => .ok []

/-- `getTimestamp` of `ModemRequestArgs`. -/
def getTimestamp (currentMs : Int) : Int32 := Int32.ofInt (currentMs.tdiv 1000)

def MmgrRequest.getFrame (request : MmgrRequest) (currentMs : Int) :
    Except RequestException (List UInt8) := do
  let payload ← request.getPayload
  let payloadSize := Int32.ofNat payload.length
  let b ← WriteBuffer.allocate (4 + 4 + 4 + payloadSize)
  let b ← b.putInt request.requestId
  let b ← b.putInt (getTimestamp currentMs)
  let b ← b.putInt payloadSize
  let b ← b.put payload
  return b.array

def decodeStrings : Nat → List UInt8 → Option (List (List UInt8) × List UInt8)
  | 0, bytes => some ([], bytes)
  | count + 1, bytes => do
      let (length, rest) ← getInt bytes
      if length.toInt < 0 ∨ (rest.length : Int) < length.toInt then none
      else
        let (strings, behind) ← decodeStrings count (rest.drop length.toInt.toNat)
        return (rest.take length.toInt.toNat :: strings, behind)

def decodeCauses (payload : List UInt8) : Option (List (List UInt8) × List UInt8) :=
  if payload = [] then some ([], [])
  else do
    let (count, rest) ← getInt payload
    if count.toInt < 0 then none else decodeStrings count.toInt.toNat rest

/-- The payload says what the request is about. -/
def MmgrRequest.Carries (request : MmgrRequest) (payload : List UInt8) : Prop :=
  match request with
  | .modemRecovery causes => ∃ strings : List JavaString,
      causes.getD [] = strings.map some ∧ decodeCauses payload = some (strings.map getBytes, [])
  | .registerName clientName => payload.length = 64 ∧ ∃ zeros, 1 ≤ zeros ∧
      payload = getAsciiBytes (clientName.take 63) ++ List.replicate zeros 0
  | _ => True

/-- The request is encoded: there is a payload that says what it is about, and the frame
has the id, the timestamp, the length of the payload and the payload. -/
def MmgrRequest.Encoded (request : MmgrRequest) (currentMs : Int) : Prop :=
  ∃ payload, request.getPayload = .ok payload ∧ request.Carries payload ∧
    ∃ length : Int32, length.toInt = payload.length ∧
      request.getFrame currentMs = .ok (putInt request.requestId ++
        putInt (getTimestamp currentMs) ++ putInt length ++ payload)

/-- The characters of a recovery payload: what `getPayload` allocates, if it fits. -/
def causesLength : Option (List (Option JavaString)) → Nat
  | none => 0
  | some causes => 4 + (causes.map fun cause => 4 + (cause.getD []).length).sum

/-- No cause is null, all of their characters are encoded to one byte, and the frame is
not too long for an array. -/
def MmgrRequest.Plain : MmgrRequest → Prop
  | .modemRecovery causes => (∀ cause ∈ causes.getD [], ∃ string, cause = some string ∧
      ByteUnits string) ∧ 12 + causesLength causes < 2 ^ 31
  | _ => True

def charsOf (strings : List JavaString) : Nat :=
  (strings.map fun string => 4 + string.length).sum

def encodedCauses (strings : List JavaString) : List UInt8 :=
  strings.flatMap fun string => Lib.putInt (Int32.ofNat string.length) ++ getBytes string

private theorem ok_bind {α β : Type} (value : α) (next : α → Except RequestException β) :
    (Except.ok value >>= next) = next value := rfl

namespace WriteBuffer

theorem put_of_room {b : WriteBuffer} {bytes : List UInt8}
    (room : b.written.length + bytes.length ≤ b.capacity) :
    b.put bytes = .ok ⟨b.capacity, b.written ++ bytes, by rwa [List.length_append]⟩ :=
  dif_pos room

theorem put_of_full {b : WriteBuffer} {bytes : List UInt8}
    (full : b.capacity < b.written.length + bytes.length) :
    b.put bytes = .error .bufferOverflow := dif_neg (not_le.mpr full)

theorem put_nil (b : WriteBuffer) : b.put [] = .ok b := by
  have room : b.written.length + ([] : List UInt8).length ≤ b.capacity := b.inside
  rw [put_of_room room]
  simp only [List.append_nil]

theorem put_put (first second : List UInt8) (b : WriteBuffer) :
    (b.put first >>= put second) = b.put (first ++ second) := by
  by_cases room : b.written.length + first.length ≤ b.capacity
  · rw [put_of_room room, ok_bind]
    by_cases more : b.written.length + (first ++ second).length ≤ b.capacity
    · rw [put_of_room more, put_of_room]
      · simp only [List.append_assoc]
      · simpa only [List.length_append, Nat.add_assoc] using more
    · rw [put_of_full (not_le.mp more), put_of_full]
      simpa only [List.length_append, Nat.add_assoc] using not_le.mp more
  · have longer : b.capacity < b.written.length + (first ++ second).length := by
      rw [List.length_append]
      omega
    rw [put_of_full (not_le.mp room), put_of_full longer]
    rfl

def filled (capacity : Int32) (bytes : List UInt8) : Except RequestException (List UInt8) := do
  let b ← allocate capacity
  let b ← b.put bytes
  return b.array

theorem filled_ok_iff {capacity : Int32} {bytes result : List UInt8} :
    filled capacity bytes = .ok result ↔ (bytes.length : Int) ≤ capacity.toInt ∧
      result = bytes ++ List.replicate (capacity.toInt.toNat - bytes.length) 0 := by
  rw [filled]
  by_cases negative : capacity.toInt < 0
  · have failed : allocate capacity = .error .illegalArgument := if_pos negative
    rw [failed]
    refine iff_of_false (fun same => by cases same) fun both => ?_
    omega
  · have done : allocate capacity = .ok ⟨capacity.toInt.toNat, [], Nat.zero_le _⟩ :=
      if_neg negative
    rw [done, ok_bind]
    by_cases fits : (bytes.length : Int) ≤ capacity.toInt
    · rw [put_of_room (by simp only [List.length_nil]; omega), and_iff_right fits]
      exact ⟨fun same => (Except.ok.inj same).symm, fun same => congrArg Except.ok same.symm⟩
    · rw [put_of_full (by simp only [List.length_nil]; omega)]
      exact iff_of_false (fun same => by cases same) fun both => fits both.1

theorem filled_exact_iff {size : Nat} {bytes result : List UInt8} (least : size ≤ bytes.length) :
    filled (Int32.ofNat size) bytes = .ok result ↔
      bytes.length = size ∧ size < 2 ^ 31 ∧ result = bytes := by
  have upper := (Int32.ofNat size).toInt_lt
  rw [filled_ok_iff]
  by_cases short : size < 2 ^ 31
  · have value : (Int32.ofNat size).toInt = size := Int32.toInt_ofNat_of_lt short
    rw [value, Int.toNat_natCast, Nat.sub_eq_zero_of_le least, List.replicate_zero,
      List.append_nil, and_iff_right short]
    exact and_congr_left fun _ => by omega
  · refine iff_of_false (fun both => ?_) fun all => short all.2.1
    have fits := both.1
    omega

end WriteBuffer

theorem putCauses_eq (strings : List JavaString) (b : WriteBuffer) :
    putCauses (strings.map some) b = b.put (encodedCauses strings) := by
  induction strings generalizing b with
  | nil => exact b.put_nil.symm
  | cons string rest ih =>
      have encoded : encodedCauses (string :: rest) =
          Lib.putInt (Int32.ofNat string.length) ++ (getBytes string ++ encodedCauses rest) := by
        simp only [encodedCauses, List.flatMap_cons, List.append_assoc]
      rw [List.map_cons, putCauses, encoded, ← WriteBuffer.put_put]
      simp only [ih, WriteBuffer.put_put, WriteBuffer.putInt]

theorem causesSize_eq (strings : List JavaString) (size : Int32) :
    causesSize (strings.map some) size = .ok (size + Int32.ofNat (charsOf strings)) := by
  induction strings generalizing size with
  | nil => simp [causesSize, charsOf]
  | cons string rest ih =>
      have chars : charsOf (string :: rest) = 4 + string.length + charsOf rest := rfl
      have four : (4 : Int32) = Int32.ofNat 4 := rfl
      rw [List.map_cons, causesSize, ih, chars, Int32.ofNat_add, Int32.ofNat_add, four]
      simp only [Int32.add_assoc]

theorem strings_of_causesSize {causes : List (Option JavaString)} {size total : Int32}
    (counted : causesSize causes size = .ok total) :
    ∃ strings : List JavaString, causes = strings.map some := by
  induction causes generalizing size with
  | nil => exact ⟨[], rfl⟩
  | cons cause rest ih =>
      cases cause with
      | none => cases counted
      | some string =>
          rcases ih counted with ⟨strings, rfl⟩
          exact ⟨string :: strings, rfl⟩

theorem encodedCauses_length_iff (strings : List JavaString) :
    charsOf strings ≤ (encodedCauses strings).length ∧
      ((encodedCauses strings).length = charsOf strings ↔ ∀ string ∈ strings, ByteUnits string) := by
  induction strings with
  | nil => simp [charsOf, encodedCauses]
  | cons string rest ih =>
      have more := length_le_getBytes string
      have parts : (encodedCauses (string :: rest)).length =
          4 + (getBytes string).length + (encodedCauses rest).length := by
        simp only [encodedCauses, List.flatMap_cons, List.length_append, putInt_length]
      have chars : charsOf (string :: rest) = 4 + string.length + charsOf rest := rfl
      rw [parts, chars, List.forall_mem_cons, ← getBytes_length_eq_iff, ← ih.2]
      have least := ih.1
      omega

theorem recoveryPayload_eq (strings : List JavaString) :
    recoveryPayload (some (strings.map some)) =
      WriteBuffer.filled (Int32.ofNat (4 + charsOf strings))
        (Lib.putInt (Int32.ofNat strings.length) ++ encodedCauses strings) := by
  have four : (4 : Int32) = Int32.ofNat 4 := rfl
  rw [recoveryPayload, causesSize_eq, ok_bind, WriteBuffer.filled, Int32.ofNat_add, ← four]
  simp only [putCauses_eq, List.length_map, WriteBuffer.putInt, ← WriteBuffer.put_put, bind_assoc]

theorem recoveryPayload_ok_iff {causes : List (Option JavaString)} {payload : List UInt8} :
    recoveryPayload (some causes) = .ok payload ↔
      ∃ strings : List JavaString, causes = strings.map some ∧
        (∀ string ∈ strings, ByteUnits string) ∧ 4 + charsOf strings < 2 ^ 31 ∧
          payload = Lib.putInt (Int32.ofNat strings.length) ++ encodedCauses strings := by
  have exactly : ∀ strings : List JavaString,
      recoveryPayload (some (strings.map some)) = .ok payload ↔
        (∀ string ∈ strings, ByteUnits string) ∧ 4 + charsOf strings < 2 ^ 31 ∧
          payload = Lib.putInt (Int32.ofNat strings.length) ++ encodedCauses strings := by
    intro strings
    obtain ⟨least, each⟩ := encodedCauses_length_iff strings
    have whole : (Lib.putInt (Int32.ofNat strings.length) ++ encodedCauses strings).length =
        4 + (encodedCauses strings).length := by
      rw [List.length_append, putInt_length]
    rw [recoveryPayload_eq, WriteBuffer.filled_exact_iff (by omega), whole, Nat.add_left_cancel_iff,
      each]
  constructor
  · intro built
    have counted : ∃ size, causesSize causes 4 = .ok size := by
      cases counted : causesSize causes 4 with
      | ok size => exact ⟨size, rfl⟩
      | error exception =>
          rw [recoveryPayload, counted] at built
          cases built
    obtain ⟨size, counted⟩ := counted
    rcases strings_of_causesSize counted with ⟨strings, rfl⟩
    exact ⟨strings, rfl, (exactly strings).mp built⟩
  · rintro ⟨strings, rfl, plain⟩
    exact (exactly strings).mpr plain

theorem getFrame_ok_iff {request : MmgrRequest} {currentMs : Int} {payload frame : List UInt8}
    (built : request.getPayload = .ok payload) :
    request.getFrame currentMs = .ok frame ↔ 12 + payload.length < 2 ^ 31 ∧
      frame = Lib.putInt request.requestId ++ (Lib.putInt (getTimestamp currentMs) ++
        (Lib.putInt (Int32.ofNat payload.length) ++ payload)) := by
  have twelve : (4 + 4 + 4 : Int32) = Int32.ofNat 12 := rfl
  have filled : request.getFrame currentMs =
      WriteBuffer.filled (Int32.ofNat (12 + payload.length))
        (Lib.putInt request.requestId ++ (Lib.putInt (getTimestamp currentMs) ++
          (Lib.putInt (Int32.ofNat payload.length) ++ payload))) := by
    rw [MmgrRequest.getFrame, built, ok_bind, WriteBuffer.filled, Int32.ofNat_add, ← twelve]
    simp only [WriteBuffer.putInt, ← WriteBuffer.put_put, bind_assoc]
  have size : (Lib.putInt request.requestId ++ (Lib.putInt (getTimestamp currentMs) ++
      (Lib.putInt (Int32.ofNat payload.length) ++ payload))).length = 12 + payload.length := by
    simp only [List.length_append, putInt_length]
    omega
  rw [filled, WriteBuffer.filled_exact_iff size.ge, and_iff_right size]

theorem decodeStrings_encoded (strings : List JavaString)
    (plain : ∀ string ∈ strings, ByteUnits string) (short : charsOf strings < 2 ^ 31)
    (rest : List UInt8) :
    decodeStrings strings.length (encodedCauses strings ++ rest) =
      some (strings.map getBytes, rest) := by
  induction strings with
  | nil => rfl
  | cons string strings ih =>
      have chars : charsOf (string :: strings) = 4 + string.length + charsOf strings := rfl
      obtain ⟨first, others⟩ := List.forall_mem_cons.mp plain
      have bytes := (getBytes_length_eq_iff string).mpr first
      have length : (Int32.ofNat string.length).toInt = string.length :=
        Int32.toInt_ofNat_of_lt (by omega)
      have encoded : encodedCauses (string :: strings) ++ rest =
          Lib.putInt (Int32.ofNat string.length) ++
            (getBytes string ++ (encodedCauses strings ++ rest)) := by
        simp only [encodedCauses, List.flatMap_cons, List.append_assoc]
      have enough : ¬ ((string.length : Int) < 0 ∨ ((getBytes string ++
          (encodedCauses strings ++ rest)).length : Int) < string.length) := by
        rw [List.length_append]
        omega
      have cut : (getBytes string ++ (encodedCauses strings ++ rest)).drop string.length =
          encodedCauses strings ++ rest := List.drop_left' bytes
      have taken : (getBytes string ++ (encodedCauses strings ++ rest)).take string.length =
          getBytes string := List.take_left' bytes
      rw [List.length_cons, decodeStrings, encoded, getInt_putInt]
      simp only [Option.bind_eq_bind, Option.bind_some, length, if_neg enough, Int.toNat_natCast,
        cut, taken, ih others (by omega)]
      rfl

theorem decodeCauses_encoded {strings : List JavaString}
    (plain : ∀ string ∈ strings, ByteUnits string) (short : 4 + charsOf strings < 2 ^ 31) :
    decodeCauses (Lib.putInt (Int32.ofNat strings.length) ++ encodedCauses strings) =
      some (strings.map getBytes, []) := by
  have few : strings.length ≤ charsOf strings := by
    have each : ∀ n ∈ strings.map fun string => 4 + string.length, 1 ≤ n := by
      intro n member
      rcases List.mem_map.mp member with ⟨string, _, rfl⟩
      omega
    simpa [charsOf] using List.length_le_sum_of_one_le _ each
  have count : (Int32.ofNat strings.length).toInt = strings.length :=
    Int32.toInt_ofNat_of_lt (by omega)
  have decoded := decodeStrings_encoded strings plain (by omega) []
  rw [List.append_nil] at decoded
  rw [decodeCauses, if_neg (by simp [Lib.putInt]), getInt_putInt]
  simp only [Option.bind_eq_bind, Option.bind_some, count, Int.natCast_nonneg, not_lt_of_ge,
    if_false, Int.toNat_natCast, decoded]

theorem encoded_iff_of_payload {request : MmgrRequest} {currentMs : Int} {payload : List UInt8}
    (built : request.getPayload = .ok payload) (carried : request.Carries payload) :
    request.Encoded currentMs ↔ 12 + payload.length < 2 ^ 31 := by
  constructor
  · rintro ⟨payload', built', _, _, _, framed⟩
    cases built.symm.trans built'
    exact ((getFrame_ok_iff built).mp framed).1
  · intro short
    have framed := (@getFrame_ok_iff request currentMs payload _ built).mpr ⟨short, rfl⟩
    refine ⟨payload, built, carried, Int32.ofNat payload.length, ?_, ?_⟩
    · exact Int32.toInt_ofNat_of_lt (by omega)
    · rw [framed]
      simp only [List.append_assoc]

theorem registerNamePayload_eq (clientName : JavaString) :
    registerNamePayload clientName = .ok (getAsciiBytes (clientName.take 63) ++
      List.replicate (64 - (clientName.take 63).length) 0) := by
  have cut : clientName.take (min 63 clientName.length) = clientName.take 63 := by
    rw [← List.take_take, List.take_length]
  have ascii := getAsciiBytes_length (clientName.take 63)
  have short : (clientName.take 63).length ≤ 63 := List.length_take_le 63 clientName
  have capacity : (64 : Int32).toInt = 64 := rfl
  have filled : registerNamePayload clientName =
      WriteBuffer.filled 64 (getAsciiBytes (clientName.take 63)) := by
    rw [registerNamePayload, cut, WriteBuffer.filled]
  rw [filled, WriteBuffer.filled_ok_iff, capacity, ascii]
  exact ⟨by omega, rfl⟩

theorem causesLength_eq (strings : List JavaString) :
    causesLength (some (strings.map some)) = 4 + charsOf strings := by
  rw [causesLength, charsOf, List.map_map]
  rfl

theorem strings_of_plain {causes : List (Option JavaString)} {property : JavaString → Prop}
    (plain : ∀ cause ∈ causes, ∃ string, cause = some string ∧ property string) :
    ∃ strings : List JavaString, causes = strings.map some ∧ ∀ string ∈ strings, property string := by
  induction causes with
  | nil => exact ⟨[], rfl, by simp⟩
  | cons cause rest ih =>
      rcases List.forall_mem_cons.mp plain with ⟨⟨string, rfl, first⟩, others⟩
      rcases ih others with ⟨strings, rfl, each⟩
      exact ⟨string :: strings, rfl, List.forall_mem_cons.mpr ⟨first, each⟩⟩

theorem recovery_encoded_iff (causes : List (Option JavaString)) (currentMs : Int) :
    (MmgrRequest.modemRecovery (some causes)).Encoded currentMs ↔
      (MmgrRequest.modemRecovery (some causes)).Plain := by
  have size : ∀ strings : List JavaString, (∀ string ∈ strings, ByteUnits string) →
      (Lib.putInt (Int32.ofNat strings.length) ++ encodedCauses strings).length =
        4 + charsOf strings := by
    intro strings plain
    rw [List.length_append, putInt_length, (encodedCauses_length_iff strings).2.mpr plain]
  constructor
  · rintro ⟨payload, built, carried, length, value, framed⟩
    rcases recoveryPayload_ok_iff.mp built with ⟨strings, rfl, plain, short, rfl⟩
    have whole := ((getFrame_ok_iff built).mp framed).1
    rw [size strings plain, ← causesLength_eq] at whole
    refine ⟨fun cause member => ?_, whole⟩
    rcases List.mem_map.mp member with ⟨string, listed, rfl⟩
    exact ⟨string, rfl, plain string listed⟩
  · rintro ⟨each, whole⟩
    rcases strings_of_plain each with ⟨strings, rfl, plain⟩
    rw [causesLength_eq] at whole
    have built : (MmgrRequest.modemRecovery (some (strings.map some))).getPayload = _ :=
      recoveryPayload_ok_iff.mpr ⟨strings, rfl, plain, by omega, rfl⟩
    have carried : (MmgrRequest.modemRecovery (some (strings.map some))).Carries
        (Lib.putInt (Int32.ofNat strings.length) ++ encodedCauses strings) :=
      ⟨strings, rfl, decodeCauses_encoded plain (by omega)⟩
    apply (encoded_iff_of_payload built carried).mpr
    rw [size strings plain]
    exact whole

/-- A request is encoded exactly if it is not a recovery request, or its causes are plain. -/
theorem mmgr_request_encoded_iff (request : MmgrRequest) (currentMs : Int) :
    request.Encoded currentMs ↔ request.Plain := by
  have bare : ∀ {request : MmgrRequest}, request.getPayload = .ok [] → request.Carries [] →
      request.Encoded currentMs := fun built carried =>
    (encoded_iff_of_payload built carried).mpr (by decide)
  cases request with
  | registerName clientName =>
      have short : (clientName.take 63).length ≤ 63 := List.length_take_le 63 clientName
      have size : (getAsciiBytes (clientName.take 63) ++
          List.replicate (64 - (clientName.take 63).length) 0).length = 64 := by
        rw [List.length_append, getAsciiBytes_length, List.length_replicate]
        omega
      have built : (MmgrRequest.registerName clientName).getPayload = _ :=
        registerNamePayload_eq clientName
      have carried : (MmgrRequest.registerName clientName).Carries
          (getAsciiBytes (clientName.take 63) ++
            List.replicate (64 - (clientName.take 63).length) 0) :=
        ⟨size, _, by omega, rfl⟩
      refine iff_of_true ((encoded_iff_of_payload built carried).mpr ?_) trivial
      rw [size]
      decide
  | registerEvents subscribedEvents =>
      have built : (MmgrRequest.registerEvents subscribedEvents).getPayload =
          .ok (Lib.putInt subscribedEvents) := rfl
      refine iff_of_true ((encoded_iff_of_payload built trivial).mpr ?_) trivial
      rw [putInt_length]
      decide
  | modemRecovery causes =>
      cases causes with
      | none => exact iff_of_true (bare rfl ⟨[], rfl, rfl⟩) ⟨by simp, by decide⟩
      | some causes => exact recovery_encoded_iff causes currentMs
  | modemLock => exact iff_of_true (bare rfl trivial) trivial
  | modemRelease => exact iff_of_true (bare rfl trivial) trivial
  | modemRestart => exact iff_of_true (bare rfl trivial) trivial
  | modemShutdown => exact iff_of_true (bare rfl trivial) trivial
  | modemColdResetAck => exact iff_of_true (bare rfl trivial) trivial
  | modemShutdownAck => exact iff_of_true (bare rfl trivial) trivial

/-- The recovery of a modem for the cause "é", which is encoded to two bytes. -/
theorem accented_cause_overflows :
    (MmgrRequest.modemRecovery (some [some [0xE9]])).getPayload = .error .bufferOverflow ∧
      ¬ (MmgrRequest.modemRecovery (some [some [0xE9]])).Encoded 0 := by
  have failed : (MmgrRequest.modemRecovery (some [some [0xE9]])).getPayload =
      .error .bufferOverflow := rfl
  refine ⟨failed, ?_⟩
  rintro ⟨payload, built, _⟩
  cases failed.symm.trans built

end A500cg.Mmgr
