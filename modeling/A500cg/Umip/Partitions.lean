import A500cg.Umip.Checksum

/-! `write_umip_emmc` on the two boot partitions, and its callers.

The loop finishes boot0 before it attempts anything on boot1. -/

namespace A500cg.Umip

open Lib

def IFWI_OFFSET : UInt32 := 0
def BOOT_DNX_TIMEOUT_OFFSET : UInt32 := 0x400
def BOOT_UMIP_3GPP_OFFSET : UInt32 := 0x76F
def TOKEN_UMIP_AREA_OFFSET : UInt32 := 0x4000
def TOKEN_UMIP_AREA_SIZE : UInt32 := 0x2C00

/-- `/dev/block/mmcblk0boot0` and `/dev/block/mmcblk0boot1`. -/
abbrev Partitions := Fin 2 → Buffer

/-- Literals name the two partitions. -/
scoped instance neZero_partitions : NeZero 2 := ⟨by decide⟩

structure Faults where
  malloc : Bool
  forceRw : Fin 2 → Bool
  openRw : Fin 2 → Bool
  mmap : Fin 2 → Bool

def Faults.hits (faults : Faults) (boot : Fin 2) : Bool :=
  faults.forceRw boot || faults.openRw boot || faults.mmap boot

/-- The mapped partition when the data is in place: `memset` for a null pointer,
and an IFWI keeps the token area. -/
def placeData (addrOffset : UInt32) (data : Option Buffer) (size : UInt32) (ptr : Buffer) :
    Buffer :=
  let tokenData : Buffer := fun i => ptr (TOKEN_UMIP_AREA_OFFSET.toNat + i)
  let ptr := overlay ptr addrOffset.toNat size.toNat (data.getD fun _ => 0)
  if addrOffset = IFWI_OFFSET then
    overlay ptr TOKEN_UMIP_AREA_OFFSET.toNat TOKEN_UMIP_AREA_SIZE.toNat tokenData
  else ptr

/-- The loop of `write_umip_emmc`: the status and the partitions. -/
def writeLoop (faults : Faults) (addrOffset : UInt32) (data : Option Buffer) (size : UInt32) :
    List (Fin 2) → Partitions → Int × Partitions
  | [], parts => (0, parts)
  | boot :: rest, parts =>
      if faults.forceRw boot then (-1, parts)
      else if faults.openRw boot then (-1, parts)
      else if faults.mmap boot then (-1, parts)
      else if (addrOffset + size).toNat ≤ BOOT_IFWI_SIZE then
        writeLoop faults addrOffset data size rest
          (Function.update parts boot (xorUpdate (placeData addrOffset data size (parts boot))))
      else (-1, parts)

def truncated (addrOffset size : UInt32) : UInt32 :=
  if addrOffset = IFWI_OFFSET ∧ size.toNat > BOOT_IFWI_SIZE then UInt32.ofNat BOOT_IFWI_SIZE
  else size

def writeUmipEmmc (faults : Faults) (addrOffset : UInt32) (data : Option Buffer) (size : UInt32)
    (parts : Partitions) : Int × Partitions :=
  if addrOffset = IFWI_OFFSET ∧ faults.malloc then (-1, parts)
  else writeLoop faults addrOffset data (truncated addrOffset size) [0, 1] parts

def updateIfwiFileScuEmmc (faults : Faults) (data : Option Buffer) (size : UInt32) :
    Partitions → Int × Partitions :=
  writeUmipEmmc faults IFWI_OFFSET data size

def flashTokenUmipScuEmmc (faults : Faults) (data : Option Buffer) (_size : UInt32) :
    Partitions → Int × Partitions :=
  writeUmipEmmc faults TOKEN_UMIP_AREA_OFFSET data TOKEN_UMIP_AREA_SIZE

def flashCustomBootScuEmmc (faults : Faults) (data : Option Buffer) (_size : UInt32) :
    Partitions → Int × Partitions :=
  writeUmipEmmc faults BOOT_UMIP_3GPP_OFFSET data 1

def eraseTokenUmipScuEmmc (faults : Faults) (_data : Option Buffer) (_size : UInt32) :
    Partitions → Int × Partitions :=
  writeUmipEmmc faults TOKEN_UMIP_AREA_OFFSET none TOKEN_UMIP_AREA_SIZE

def flashDnxTimeoutScuEmmc (faults : Faults) (data : Option Buffer) (_size : UInt32) :
    Partitions → Int × Partitions :=
  writeUmipEmmc faults BOOT_DNX_TIMEOUT_OFFSET data 1

inductive UmipKind where
  | updateIfwi
  | flashToken
  | flashCustomBoot
  | eraseToken
  | flashDnxTimeout
  deriving DecidableEq, Repr

structure UmipCall where
  kind : UmipKind
  data : Option Buffer
  size : UInt32

namespace UmipCall

def run (call : UmipCall) (faults : Faults) (parts : Partitions) : Int × Partitions :=
  match call.kind with
  | .updateIfwi => updateIfwiFileScuEmmc faults call.data call.size parts
  | .flashToken => flashTokenUmipScuEmmc faults call.data call.size parts
  | .flashCustomBoot => flashCustomBootScuEmmc faults call.data call.size parts
  | .eraseToken => eraseTokenUmipScuEmmc faults call.data call.size parts
  | .flashDnxTimeout => flashDnxTimeoutScuEmmc faults call.data call.size parts

def offset (call : UmipCall) : UInt32 :=
  match call.kind with
  | .updateIfwi => IFWI_OFFSET
  | .flashToken => TOKEN_UMIP_AREA_OFFSET
  | .flashCustomBoot => BOOT_UMIP_3GPP_OFFSET
  | .eraseToken => TOKEN_UMIP_AREA_OFFSET
  | .flashDnxTimeout => BOOT_DNX_TIMEOUT_OFFSET

def length (call : UmipCall) : UInt32 :=
  match call.kind with
  | .updateIfwi => truncated IFWI_OFFSET call.size
  | .flashToken => TOKEN_UMIP_AREA_SIZE
  | .flashCustomBoot => 1
  | .eraseToken => TOKEN_UMIP_AREA_SIZE
  | .flashDnxTimeout => 1

def source (call : UmipCall) : Option Buffer :=
  match call.kind with
  | .eraseToken => none
  | _ => call.data

/-- The written range. -/
def Writes (call : UmipCall) (a : Nat) : Prop :=
  call.offset.toNat ≤ a ∧ a < call.offset.toNat + call.length.toNat

def completed (call : UmipCall) (ptr : Buffer) : Buffer :=
  xorUpdate (placeData call.offset call.source call.length ptr)

theorem truncated_le (size : UInt32) : (truncated IFWI_OFFSET size).toNat ≤ BOOT_IFWI_SIZE := by
  unfold truncated
  split
  · decide
  · rename_i fits
    rw [not_and] at fits
    exact Nat.le_of_not_gt (fits rfl)

theorem fits (call : UmipCall) : (call.offset + call.length).toNat ≤ BOOT_IFWI_SIZE := by
  simp only [offset, length]
  cases call.kind with
  | updateIfwi =>
      have small := truncated_le call.size
      have zero : IFWI_OFFSET + truncated IFWI_OFFSET call.size = truncated IFWI_OFFSET call.size :=
        UInt32.zero_add _
      simp only
      rw [zero]
      exact small
  | _ =>
      simp only
      decide

theorem run_eq (call : UmipCall) (faults : Faults) (parts : Partitions) :
    call.run faults parts =
      if call.offset = IFWI_OFFSET ∧ faults.malloc then (-1, parts)
      else writeLoop faults call.offset call.source call.length [0, 1] parts := by
  unfold run offset source length
  cases call.kind <;> rfl

end UmipCall

theorem writeLoop_cons (faults : Faults) (call : UmipCall) (boot : Fin 2)
    (rest : List (Fin 2)) (parts : Partitions) :
    writeLoop faults call.offset call.source call.length (boot :: rest) parts =
      if faults.hits boot then (-1, parts)
      else writeLoop faults call.offset call.source call.length rest
        (Function.update parts boot (call.completed (parts boot))) := by
  rw [writeLoop, if_pos call.fits, Faults.hits]
  cases faults.forceRw boot <;> cases faults.openRw boot <;> cases faults.mmap boot <;> rfl

theorem run_cases {call : UmipCall} {faults : Faults} {parts after : Partitions} {status : Int}
    (ran : call.run faults parts = (status, after)) :
    (status = -1 ∧ after = parts) ∨
    (status = -1 ∧ faults.hits 0 = false ∧ faults.hits 1 = true ∧
      after = Function.update parts 0 (call.completed (parts 0))) ∨
    (status = 0 ∧ ∀ boot, after boot = call.completed (parts boot)) := by
  rw [call.run_eq] at ran
  split at ran
  · cases ran
    exact .inl ⟨rfl, rfl⟩
  · rw [writeLoop_cons] at ran
    cases first : faults.hits 0 with
    | true =>
        rw [if_pos first] at ran
        cases ran
        exact .inl ⟨rfl, rfl⟩
    | false =>
        rw [first, if_neg Bool.false_ne_true, writeLoop_cons] at ran
        cases second : faults.hits 1 with
        | true =>
            rw [if_pos second] at ran
            cases ran
            exact .inr (.inl ⟨rfl, rfl, rfl, rfl⟩)
        | false =>
            rw [second, if_neg Bool.false_ne_true] at ran
            cases ran
            refine .inr (.inr ⟨rfl, ?_⟩)
            intro boot
            fin_cases boot
            · rfl
            · rfl

end A500cg.Umip
