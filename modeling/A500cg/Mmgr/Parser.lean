import A500cg.Mmgr.Response

/-! What the parser makes of a buffer. `parseResponse` accepts exactly the windows that
begin with the bytes of a response, so that whole buffers can be read as lists of
responses. -/

namespace A500cg.Mmgr

open Lib

private theorem except_bind_ok {α β : Type} (first : Except JavaException α)
    (next : α → Except JavaException β) (result : β) :
    (first >>= next) = .ok result ↔ ∃ value, first = .ok value ∧ next value = .ok result := by
  cases first <;> simp [bind, Except.bind]

private theorem except_map_ok {α β : Type} {first : Except JavaException α} {f : α → β}
    {result : β} : first.map f = .ok result ↔ ∃ value, first = .ok value ∧ f value = result := by
  cases first <;> simp [Except.map]

theorem nextInt_ok_iff {buffer rest : List UInt8} {word : Int32} :
    nextInt buffer = .ok (word, rest) ↔ buffer = putInt word ++ rest := by
  simp only [nextInt]
  constructor
  · intro read
    split at read
    · cases read
      exact getInt_eq_some ‹_›
    · cases read
  · intro same
    rcases same with rfl
    rw [getInt_putInt]

theorem checkNonNegative_ok_iff {name : String} {value : Int32} {done : Unit} :
    checkNonNegative name value = .ok done ↔ 0 ≤ value := by
  simp only [checkNonNegative]
  rw [Int32.le_iff_toInt_le]
  split <;> rename_i sign <;> rw [Int32.lt_iff_toInt_lt] at sign <;> simp <;> simpa using sign

theorem takePayload_ok_iff {payloadSize : Int32} {buffer payload : List UInt8} :
    takePayload payloadSize buffer = .ok payload ↔
      payload.length < 2 ^ 31 ∧ payloadSize = Int32.ofNat payload.length ∧
        ∃ rest, buffer = payload ++ rest := by
  simp only [takePayload]
  constructor
  · intro taken
    split at taken
    · cases taken
    split at taken
    · cases taken
    rename_i positive fits
    have bound := payloadSize.toInt_lt
    have size : (buffer.take payloadSize.toInt.toNat).length = payloadSize.toInt.toNat := by
      rw [List.length_take]
      omega
    cases taken
    refine ⟨by omega, ?_, _, (List.take_append_drop _ _).symm⟩
    rw [size]
    apply Int32.toInt_inj.mp
    rw [Int32.toInt_ofNat_of_lt (by omega)]
    omega
  · intro parts
    rcases parts with ⟨short, rfl, rest, rfl⟩
    rw [Int32.toInt_ofNat_of_lt short]
    simp only [List.length_append]
    rw [if_neg (by omega), if_neg (by omega)]
    simp

@[simp] theorem getRawFrame_length (r : MmgrResponse) :
    r.getRawFrame.length = HEADER_SIZE + r.payload.length := getRawFrameLength_eq r

/-- The parser of one frame accepts a window of the data exactly when the window begins
with the bytes of a well-formed response, and returns that response. -/
theorem parseRawFrame_ok_iff {data : List UInt8} {offset size : Nat} {r : MmgrResponse} :
    parseRawFrame data offset size = .ok r ↔
      offset + size ≤ data.length ∧ r.WellFormed ∧ r.kind = .base ∧
        ∃ rest, (data.drop offset).take size = r.getRawFrame ++ rest := by
  simp only [parseRawFrame]
  constructor
  · intro parsed
    split at parsed
    · cases parsed
    rename_i inside
    simp only [except_bind_ok, Prod.exists, nextInt_ok_iff, checkNonNegative_ok_iff,
      takePayload_ok_iff] at parsed
    obtain ⟨id, _, window, _, idSign, timestamp, _, rfl, _, timestampSign, size, _, rfl, payload,
      ⟨short, rfl, rest, rfl⟩, made⟩ := parsed
    cases made
    refine ⟨by omega, ⟨idSign, timestampSign, short⟩, rfl, rest, ?_⟩
    simp [window, MmgrResponse.getRawFrame]
  · intro parts
    rcases parts with ⟨inside, wellFormed, kind, rest, window⟩
    have long : HEADER_SIZE ≤ size := by
      have length := congrArg List.length window
      rw [List.length_take, List.length_append, getRawFrame_length] at length
      omega
    rw [if_neg (by omega), window]
    simp only [except_bind_ok, Prod.exists, nextInt_ok_iff, checkNonNegative_ok_iff,
      takePayload_ok_iff]
    refine ⟨r.responseId, _, by simp only [MmgrResponse.getRawFrame, List.append_assoc], (),
      wellFormed.id, r.timestamp, _, rfl, (), wellFormed.timestamp, _, _, rfl, r.payload,
      ⟨wellFormed.short, rfl, rest, rfl⟩, ?_⟩
    rw [← kind]
    rfl

theorem parseResponse_short {data : List UInt8} {offset size : Nat} (short : size < HEADER_SIZE) :
    parseResponse data offset size = .ok none := if_pos short

theorem parseResponse_some_iff {data : List UInt8} {offset size : Nat} {parsed : MmgrResponse} :
    parseResponse data offset size = .ok (some parsed) ↔
      offset + size ≤ data.length ∧ ∃ sent : MmgrResponse, sent.WellFormed ∧
        sent.received = parsed ∧
          ∃ rest, (data.drop offset).take size = sent.getRawFrame ++ rest := by
  simp only [parseResponse]
  constructor
  · intro ran
    split at ran
    · cases ran
    simp only [except_bind_ok, parseRawFrame_ok_iff] at ran
    rcases ran with ⟨header, ⟨inside, wellFormed, kind, window⟩, made⟩
    refine ⟨inside, header, wellFormed, ?_, window⟩
    cases made
    simp [MmgrResponse.received, ← kind]
  · intro parts
    rcases parts with ⟨inside, sent, wellFormed, rfl, rest, window⟩
    have length := congrArg List.length window
    rw [List.length_take, List.length_append, getRawFrame_length] at length
    rw [if_neg (by omega)]
    simp only [except_bind_ok, parseRawFrame_ok_iff]
    exact ⟨{ sent with kind := .base }, ⟨inside,
      ⟨wellFormed.id, wellFormed.timestamp, wellFormed.short⟩, rfl, rest, window⟩, rfl⟩

theorem parseResponse_none_iff {data : List UInt8} {offset size : Nat} :
    parseResponse data offset size = .ok none ↔ size < HEADER_SIZE := by
  simp only [parseResponse]
  split
  · simpa
  · rename_i long
    simp only [except_bind_ok]
    constructor
    · intro parts
      rcases parts with ⟨_, _, made⟩
      cases made
    · intro short
      exact absurd short long

/-- The class that `parseResponse` gives to the responses of an id. -/
def kindOf (responseId : Int32) : ResponseClass :=
  if responseId = NOTIFY_ACK then .ack true
  else if responseId = NOTIFY_NACK then .ack false
  else .base

/-- Answers carry no payload, as `MmgrAckResponse` builds them. -/
def MmgrResponse.Bare (r : MmgrResponse) : Prop :=
  r.responseId = NOTIFY_ACK ∨ r.responseId = NOTIFY_NACK → r.payload = []

instance (r : MmgrResponse) : Decidable r.Bare := inferInstanceAs (Decidable (_ → _))

@[simp] theorem received_responseId (r : MmgrResponse) : r.received.responseId = r.responseId := by
  simp only [MmgrResponse.received, MmgrResponse.specialise]
  split
  · rfl
  · split <;> rfl

theorem received_bare {r : MmgrResponse} (bare : r.Bare) :
    r.received = { r with kind := kindOf r.responseId } := by
  simp only [MmgrResponse.received, MmgrResponse.specialise, kindOf]
  split
  · rename_i ack
    simp [bare (.inl ack)]
  · split
    · rename_i nack
      simp [bare (.inr nack)]
    · rfl

def rawFrames (rs : List MmgrResponse) : List UInt8 := rs.flatMap MmgrResponse.getRawFrame

@[simp] theorem rawFrames_nil : rawFrames [] = [] := rfl

@[simp] theorem rawFrames_cons (r : MmgrResponse) (rs : List MmgrResponse) :
    rawFrames (r :: rs) = r.getRawFrame ++ rawFrames rs := rfl

def unread (data : List UInt8) (size offset : Nat) : List UInt8 :=
  (data.drop offset).take (size - offset)

theorem unread_length {data : List UInt8} {size offset : Nat} (inside : size ≤ data.length) :
    (unread data size offset).length = size - offset := by
  simp [unread]
  omega

theorem unread_advance {data front rest : List UInt8} {size offset : Nat}
    (held : unread data size offset = front ++ rest) :
    unread data size (offset + front.length) = rest := by
  simp only [unread] at held ⊢
  rw [← List.drop_drop, ← Nat.sub_sub, ← List.drop_take, held, List.drop_left]

theorem parseFrames_end {data : List UInt8} {size offset length : Nat}
    (short : length < HEADER_SIZE) : parseFrames data size offset length = .ok [] := by
  rw [parseFrames, parseResponse_short short]

theorem parseFrames_ok_iff {data : List UInt8} {size offset : Nat} {frames : List ParsedFrame}
    (inside : size ≤ data.length) :
    parseFrames data size offset (size - offset) = .ok frames ↔
      (size - offset < HEADER_SIZE ∧ frames = []) ∨
      ∃ sent : MmgrResponse, sent.WellFormed ∧
        (∃ rest, unread data size offset = sent.getRawFrame ++ rest) ∧
        ∃ later, parseFrames data size (offset + sent.received.getRawFrameLength)
            (size - (offset + sent.received.getRawFrameLength)) = .ok later ∧
          frames = ⟨offset, sent.received⟩ :: later := by
  constructor
  · intro ran
    rw [parseFrames] at ran
    cases parsed : parseResponse data offset (size - offset) with
    | error exception => simp [parsed] at ran
    | ok response =>
        cases response with
        | none =>
            simp only [parsed, Except.ok.injEq] at ran
            exact .inl ⟨parseResponse_none_iff.mp parsed, ran.symm⟩
        | some response =>
            rcases parseResponse_some_iff.mp parsed with ⟨_, sent, wellFormed, rfl, window⟩
            refine .inr ⟨sent, wellFormed, window, ?_⟩
            simp only [parsed] at ran
            split at ran
            · rcases except_map_ok.mp ran with ⟨later, ran, rfl⟩
              exact ⟨later, by rwa [← Nat.sub_sub], rfl⟩
            · cases ran
              exact ⟨[], parseFrames_end (by simp only [HEADER_SIZE]; omega), rfl⟩
  · intro either
    rcases either with ⟨short, rfl⟩ | ⟨sent, wellFormed, ⟨rest, window⟩, later, ran, rfl⟩
    · exact parseFrames_end short
    · have long : HEADER_SIZE ≤ size - offset := by
        have length := congrArg List.length window
        rw [unread_length inside, List.length_append, getRawFrame_length] at length
        omega
      have parsed : parseResponse data offset (size - offset) = .ok (some sent.received) :=
        parseResponse_some_iff.mpr
          ⟨by simp only [HEADER_SIZE] at long; omega, sent, wellFormed, rfl, rest, window⟩
      rw [parseFrames, parsed]
      simp only
      split
      · rw [Nat.sub_sub, ran]
        rfl
      · rw [parseFrames_end (by simp only [HEADER_SIZE]; omega)] at ran
        cases ran
        rfl

theorem parseFrames_responses {data : List UInt8} {size : Nat} (inside : size ≤ data.length)
    (rs : List MmgrResponse) (offset : Nat) (rest : List UInt8)
    (wellFormed : ∀ r ∈ rs, r.WellFormed) (bare : ∀ r ∈ rs, r.Bare)
    (held : unread data size offset = rawFrames rs ++ rest) (cut : rest.length < HEADER_SIZE) :
    ∃ frames, parseFrames data size offset (size - offset) = .ok frames ∧
      frames.map ParsedFrame.response = rs.map fun r => { r with kind := kindOf r.responseId } := by
  induction rs generalizing offset with
  | nil =>
      refine ⟨[], (parseFrames_ok_iff inside).mpr (.inl ⟨?_, rfl⟩), rfl⟩
      rw [← unread_length inside, held]
      exact cut
  | cons r rs ih =>
      have received := received_bare (bare r List.mem_cons_self)
      have advance : r.received.getRawFrameLength = r.getRawFrame.length := by
        rw [received]
        rfl
      rw [rawFrames_cons, List.append_assoc] at held
      obtain ⟨later, ran, responses⟩ := ih (offset + r.getRawFrame.length)
        (fun q member => wellFormed q (List.mem_cons_of_mem _ member))
        (fun q member => bare q (List.mem_cons_of_mem _ member)) (unread_advance held)
      refine ⟨⟨offset, r.received⟩ :: later, (parseFrames_ok_iff inside).mpr (.inr
        ⟨r, wellFormed r List.mem_cons_self, ⟨_, held⟩, later, ?_, rfl⟩), ?_⟩
      · rw [advance]
        exact ran
      · simp [received, responses]

theorem payload_length_le {rs : List MmgrResponse} {r : MmgrResponse} (member : r ∈ rs) :
    r.payload.length ≤ (rawFrames rs).length := by
  induction rs with
  | nil => cases member
  | cons q rs ih =>
      rw [rawFrames_cons, List.length_append, getRawFrame_length]
      rcases List.mem_cons.mp member with rfl | later
      · omega
      · have := ih later
        omega

structure JavaBytes where
  bytes : List UInt8
  bound : bytes.length < 2 ^ 31

/-- Responses written one after the other are read back as they were, whatever follows
them in the buffer, also with up to 11 bytes of a further header. -/
theorem parseResponses_round_trip (rs : List MmgrResponse) (buffer : JavaBytes)
    (rest : List UInt8) (extra : Nat) (ids : ∀ r ∈ rs, 0 ≤ r.responseId)
    (timestamps : ∀ r ∈ rs, 0 ≤ r.timestamp) (bare : ∀ r ∈ rs, r.Bare)
    (held : buffer.bytes = rawFrames rs ++ rest) (cut : extra ≤ 11)
    (inside : extra ≤ rest.length) :
    parseResponses buffer.bytes 0 ((rawFrames rs).length + extra) =
      .ok (rs.map fun r => { r with kind := kindOf r.responseId }) := by
  have bound := buffer.bound
  have total := congrArg List.length held
  rw [List.length_append] at total
  have wellFormed : ∀ r ∈ rs, r.WellFormed := by
    intro r member
    have short := payload_length_le member
    exact ⟨ids r member, timestamps r member, by omega⟩
  have window : unread buffer.bytes ((rawFrames rs).length + extra) 0 =
      rawFrames rs ++ rest.take extra := by
    rw [unread, held, List.drop_zero, Nat.sub_zero, List.take_length_add_append]
  have cut' : (rest.take extra).length < HEADER_SIZE := by
    rw [List.length_take]
    simp only [HEADER_SIZE]
    omega
  obtain ⟨frames, ran, responses⟩ :=
    parseFrames_responses (by omega) rs 0 _ wellFormed bare window cut'
  rw [Nat.sub_zero] at ran
  rw [parseResponses, ran, ← responses]
  rfl

theorem parseResponses_three_frames :
    parseResponses (rawFrames [⟨1, 5, [9], .base⟩, ⟨7, 6, [], .base⟩, ⟨8, 7, [], .base⟩] ++ [0, 1])
        0 38 =
      .ok [⟨1, 5, [9], .base⟩, ⟨7, 6, [], .ack true⟩, ⟨8, 7, [], .ack false⟩] :=
  parseResponses_round_trip [⟨1, 5, [9], .base⟩, ⟨7, 6, [], .base⟩, ⟨8, 7, [], .base⟩]
    ⟨_, by decide⟩ [0, 1] 1 (by decide) (by decide) (by decide) rfl (by decide) (by decide)

end A500cg.Mmgr
