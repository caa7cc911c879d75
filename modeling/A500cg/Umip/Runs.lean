import A500cg.Umip.Partitions

/-! Runs of calls on the boot partitions: the checksums hold after each one, and
what a failing call leaves. -/

namespace A500cg.Umip

open Lib

/-- The token area, which an IFWI update keeps. -/
def TokenByte (a : Nat) : Prop := 0x4000 ≤ a ∧ a < 0x6C00

theorem placeData_outside (addrOffset size : UInt32) (data : Option Buffer) (ptr : Buffer) (a : Nat)
    (outside : a < addrOffset.toNat ∨ addrOffset.toNat + size.toNat ≤ a) :
    placeData addrOffset data size ptr a = ptr a := by
  simp only [placeData]
  split
  · by_cases token : TOKEN_UMIP_AREA_OFFSET.toNat ≤ a ∧
        a < TOKEN_UMIP_AREA_OFFSET.toNat + TOKEN_UMIP_AREA_SIZE.toNat
    · rw [overlay, if_pos token, Nat.add_sub_cancel' token.1]
    · rw [overlay, if_neg token, overlay_outside _ _ _ _ _ outside]
  · rw [overlay_outside _ _ _ _ _ outside]

theorem placeData_token (size : UInt32) (data : Option Buffer) (ptr : Buffer) (a : Nat)
    (token : TokenByte a) : placeData IFWI_OFFSET data size ptr a = ptr a := by
  have inside : TOKEN_UMIP_AREA_OFFSET.toNat ≤ a ∧
      a < TOKEN_UMIP_AREA_OFFSET.toNat + TOKEN_UMIP_AREA_SIZE.toNat := token
  rw [placeData, if_pos rfl, overlay, if_pos inside, Nat.add_sub_cancel' inside.1]

theorem placeData_congr (addrOffset size : UInt32) (data data' ptr : Buffer)
    (agree : ∀ i < size.toNat, data i = data' i) :
    placeData addrOffset (some data) size ptr = placeData addrOffset (some data') size ptr := by
  have same : overlay ptr addrOffset.toNat size.toNat data =
      overlay ptr addrOffset.toNat size.toNat data' := by
    funext a
    by_cases inside : addrOffset.toNat ≤ a ∧ a < addrOffset.toNat + size.toNat
    · rw [overlay, if_pos inside, overlay, if_pos inside, agree _ (by omega)]
    · rw [overlay, if_neg inside, overlay, if_neg inside]
  simp only [placeData]
  simp only [Option.getD_some, same]

theorem ChecksumByte.not_token {a : Nat} (cell : ChecksumByte a) : ¬ TokenByte a := by
  intro parts
  rcases parts with ⟨lower, upper⟩
  rcases cell with ⟨i, _, small, _, stop⟩ | byte | ⟨start, _⟩
  · omega
  · omega
  · omega

namespace UmipCall

theorem completed_balanced (call : UmipCall) (ptr : Buffer) : Balanced (call.completed ptr) :=
  xorUpdate_balanced _

theorem completed_outside (call : UmipCall) (ptr : Buffer) (a : Nat) (unwritten : ¬ call.Writes a)
    (plain : ¬ ChecksumByte a) : call.completed ptr a = ptr a := by
  simp only [Writes] at unwritten
  rw [completed, xorUpdate_outside _ _ plain, placeData_outside _ _ _ _ _ (by omega)]

theorem completed_token (call : UmipCall) (ptr : Buffer) (ifwi : call.kind = .updateIfwi) (a : Nat)
    (token : TokenByte a) : call.completed ptr a = ptr a := by
  have offset : call.offset = IFWI_OFFSET := by rw [UmipCall.offset, ifwi]
  have plain : ¬ ChecksumByte a := fun cell => cell.not_token token
  rw [completed, xorUpdate_outside _ _ plain, offset, placeData_token _ _ _ _ token]

/-- What a call may change, and that an IFWI keeps the token area. -/
structure Changes (call : UmipCall) (before after : Partitions) : Prop where
  range : ∀ boot a, after boot a ≠ before boot a → call.Writes a ∨ ChecksumByte a
  token : call.kind = .updateIfwi → ∀ boot a, TokenByte a → after boot a = before boot a

end UmipCall

/-- A successful call. -/
def Step (before after : Partitions) : Prop :=
  ∃ (call : UmipCall) (faults : Faults), call.run faults before = (0, after)

theorem step_balanced {call : UmipCall} {faults : Faults} {before after : Partitions}
    (ran : call.run faults before = (0, after)) :
    (∀ boot, Balanced (after boot)) ∧ call.Changes before after := by
  rcases run_cases ran with ⟨failed, _⟩ | ⟨failed, _⟩ | ⟨_, done⟩
  · cases failed
  · cases failed
  · refine ⟨?_, ?_, ?_⟩
    · intro boot
      rw [done boot]
      exact call.completed_balanced _
    · intro boot a changed
      rw [done boot] at changed
      by_contra neither
      rw [not_or] at neither
      exact changed (call.completed_outside _ a neither.1 neither.2)
    · intro ifwi boot a token
      rw [done boot]
      exact call.completed_token _ ifwi a token

theorem run_balanced {first last : Partitions} (run : Relation.TransGen Step first last) :
    ∀ boot, Balanced (last boot) := by
  cases run with
  | single step =>
      rcases step with ⟨call, faults, ran⟩
      exact (step_balanced ran).1
  | tail _ step =>
      rcases step with ⟨call, faults, ran⟩
      exact (step_balanced ran).1

/-- Wherever a run of successful calls has got to, its partitions are balanced once a
call was made, and the next successful call balances both and changes only its
range and the checksum cells. -/
theorem checksums_along_run {first before : Partitions}
    (run : Relation.ReflTransGen Step first before) :
    (before = first ∨ ∀ boot, Balanced (before boot)) ∧
    ∀ (call : UmipCall) (faults : Faults) (after : Partitions),
      call.run faults before = (0, after) →
      (∀ boot, Balanced (after boot)) ∧ call.Changes before after := by
  constructor
  · rcases Relation.reflTransGen_iff_eq_or_transGen.mp run with same | calls
    · exact .inl same
    · exact .inr (run_balanced calls)
  · intro call faults after ran
    exact step_balanced ran

def noFaults : Faults := ⟨false, fun _ => false, fun _ => false, fun _ => false⟩

def timeoutCall : UmipCall := ⟨.flashDnxTimeout, some fun _ => 1, 1⟩

def blankPartitions : Partitions := fun _ _ => 0

private theorem timeoutCall_run :
    timeoutCall.run noFaults blankPartitions =
      (0, fun boot => timeoutCall.completed (blankPartitions boot)) := by
  have ended : (timeoutCall.run noFaults blankPartitions).1 = 0 := rfl
  rcases outcome : timeoutCall.run noFaults blankPartitions with ⟨status, after⟩
  rw [outcome] at ended
  rcases run_cases outcome with ⟨rfl, _⟩ | ⟨rfl, _⟩ | ⟨rfl, done⟩
  · cases ended
  · cases ended
  · exact congrArg (Prod.mk 0) (funext done)

theorem checksums_after_timeout :
    ∃ after, timeoutCall.run noFaults blankPartitions = (0, after) ∧
      ∀ boot, Balanced (after boot) :=
  ⟨_, timeoutCall_run,
    ((checksums_along_run (Relation.ReflTransGen.refl)).2 _ _ _ timeoutCall_run).1⟩

/-- What the two partitions hold after a call, for every pattern of failures. -/
structure CallResult (call : UmipCall) (faults : Faults) (before : Partitions) (status : Int)
    (after : Partitions) : Prop where
  returns : status = 0 ∨ status = -1
  boot1_kept : status = -1 → after 1 = before 1
  boot0_whole : status = -1 → after 0 = before 0 ∨
    (faults.hits 0 = false ∧ faults.hits 1 = true ∧ after 0 = call.completed (before 0))
  done : status = 0 → ∀ boot, after boot = call.completed (before boot)
  equal : status = 0 → before 0 = before 1 → after 0 = after 1

theorem run_result {call : UmipCall} {faults : Faults} {before after : Partitions} {status : Int}
    (ran : call.run faults before = (status, after)) :
    CallResult call faults before status after := by
  rcases run_cases ran with ⟨rfl, rfl⟩ | ⟨rfl, first, second, rfl⟩ | ⟨rfl, done⟩
  · exact ⟨.inr rfl, fun _ => rfl, fun _ => .inl rfl, by simp, by simp⟩
  · refine ⟨.inr rfl, fun _ => ?_, fun _ => .inr ⟨first, second, ?_⟩, by simp, by simp⟩
    · exact Function.update_of_ne (by decide) _ _
    · exact Function.update_self ..
  · refine ⟨.inl rfl, by simp, by simp, fun _ => done, ?_⟩
    intro _ same
    rw [done 0, done 1, same]

theorem run_congr (kind : UmipKind) (data data' : Buffer) (size : UInt32) (faults : Faults)
    (parts : Partitions)
    (agree : ∀ i < (UmipCall.mk kind (some data) size).length.toNat, data i = data' i) :
    (UmipCall.mk kind (some data') size).run faults parts =
      (UmipCall.mk kind (some data) size).run faults parts := by
  have completes (ptr : Buffer) : (UmipCall.mk kind (some data') size).completed ptr =
      (UmipCall.mk kind (some data) size).completed ptr := by
    cases kind with
    | eraseToken => rfl
    | _ => exact congrArg xorUpdate (placeData_congr _ _ _ _ _ agree).symm
  rw [UmipCall.run_eq, UmipCall.run_eq, writeLoop_cons, writeLoop_cons, writeLoop_cons,
    writeLoop_cons, completes, completes]
  rfl

/-- A failing call leaves boot1 alone and boot0 either alone or complete, and a caller
that states enough bytes has none read past them. -/
theorem partitions_after_call {call : UmipCall} {faults : Faults} {before after : Partitions}
    {status : Int} (ran : call.run faults before = (status, after)) :
    CallResult call faults before status after ∧
    ∀ data data', call.data = some data → call.length.toNat ≤ call.size.toNat →
      (∀ i < call.size.toNat, data i = data' i) →
      (UmipCall.mk call.kind (some data') call.size).run faults before = (status, after) := by
  refine ⟨run_result ran, ?_⟩
  intro data data' given enough agree
  rcases call with ⟨kind, source, size⟩
  cases given
  rw [run_congr kind data data' size faults before (fun i bound => agree i (by omega)), ran]

def secondMapFails : Faults := ⟨false, fun _ => false, fun _ => false, fun boot => boot == 1⟩

private theorem timeoutCall_half :
    timeoutCall.run secondMapFails blankPartitions =
      (-1, Function.update blankPartitions 0 (timeoutCall.completed (blankPartitions 0))) := by
  rw [UmipCall.run_eq, writeLoop_cons, writeLoop_cons]
  rfl

theorem partitions_after_half_call :
    CallResult timeoutCall secondMapFails blankPartitions (-1)
      (Function.update blankPartitions 0 (timeoutCall.completed (blankPartitions 0))) :=
  (partitions_after_call timeoutCall_half).1

private theorem timeout_stored (value : UInt8) (size : UInt32) (ptr : Buffer) :
    (UmipCall.mk .flashDnxTimeout (some fun _ => value) size).completed ptr 0x400 = value := by
  have plain : ¬ ChecksumByte 0x400 := by
    intro either
    rcases either with ⟨i, _, small, _, stop⟩ | byte | ⟨start, _⟩
    · omega
    · omega
    · omega
  rw [UmipCall.completed, xorUpdate_outside _ _ plain]
  rfl

/-- Equal partitions, a failing call, and only boot0 updated; and a byte stored from a
buffer whose caller stated no bytes at all. -/
theorem partitions_diverge :
    (blankPartitions 0 = blankPartitions 1 ∧
      ∃ after, timeoutCall.run secondMapFails blankPartitions = (-1, after) ∧
        after 0 ≠ blankPartitions 0 ∧ after 0 ≠ after 1) ∧
    ((UmipCall.mk .flashDnxTimeout (some fun _ => 1) 0).run noFaults blankPartitions).2 0 ≠
      ((UmipCall.mk .flashDnxTimeout (some fun _ => 2) 0).run noFaults blankPartitions).2 0 := by
  refine ⟨⟨rfl, _, timeoutCall_half, ?_⟩, ?_⟩
  · have changed : timeoutCall.completed (blankPartitions 0) ≠ blankPartitions 0 := by
      intro same
      have stored : timeoutCall.completed (blankPartitions 0) 0x400 = 1 := timeout_stored 1 1 _
      rw [same] at stored
      exact absurd stored (by decide)
    exact ⟨changed, changed⟩
  · intro same
    have first := timeout_stored 1 0 (blankPartitions 0)
    have second := timeout_stored 2 0 (blankPartitions 0)
    rw [UmipCall.run_eq, UmipCall.run_eq, writeLoop_cons, writeLoop_cons, writeLoop_cons,
      writeLoop_cons] at same
    change (UmipCall.mk .flashDnxTimeout (some fun _ => 1) 0).completed (blankPartitions 0) =
      (UmipCall.mk .flashDnxTimeout (some fun _ => 2) 0).completed (blankPartitions 0) at same
    rw [same, second] at first
    exact absurd first (by decide)

end A500cg.Umip
