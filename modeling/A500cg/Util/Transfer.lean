import A500cg.Lib.Machine
import A500cg.Osip.Header

/-! The loops around `read` and `write`: `safe_read` and `file_write` of `util.c`, `write_OSIP`
and the blob loop of `write_stitch_image_ex`. All of them add what the call returned to the
pointer and take it from the counter, also where it is -1 with `EINTR`.

`size_t` is 32 bits wide. The calls' results are the schedule of the run; a call that succeeds
leaves `errno` as it is. -/

namespace A500cg.Util

open Lib

def EINTR : Int := 4

def MAX_RW_COUNT : Nat := 0x7ffff000

/-- How a call ends: with a count, which is 0 at the end of the file, or with -1 and `errno`. -/
inductive CallResult where
  | count (n : Nat)
  | failed (errno : Int)
  deriving DecidableEq, Repr

/-- The loop between two calls: where the pointer stands in the buffer, the counter, `errno`,
the places in the buffer of the bytes moved so far, in order, and the value returned. -/
structure Transfer where
  place : Int
  left : Nat
  errno : Int
  moved : List Int
  status : Option Int
  deriving DecidableEq, Repr

namespace Transfer

/-- The test of the `while`. -/
def test (t : Transfer) : Transfer := if t.left = 0 then { t with status := some 0 } else t

def start (size : UInt32) (errno : Int) : Transfer := test ⟨0, size.toNat, errno, [], none⟩

/-- The call, which moves at most `left` bytes from the pointer on. -/
def call (t : Transfer) : CallResult → Int × Transfer
  | .count n =>
      let n := min n (min t.left MAX_RW_COUNT)
      (n, { t with moved := t.moved ++ (List.range n).map fun i : Nat => t.place + i })
  | .failed errno => (-1, { t with errno := errno })

def step (t : Transfer) (result : CallResult) : Transfer :=
  if t.status ≠ none then t
  else
    let (ret, t) := t.call result
    if ret ≤ 0 ∧ t.errno ≠ EINTR then { t with status := some (-1) }
    else { t with place := t.place + ret, left := ((t.left - ret) % 2 ^ 32).toNat }.test

end Transfer

def safeRead (size : UInt32) (errno : Int) (schedule : List CallResult) : Transfer :=
  schedule.foldl Transfer.step (Transfer.start size errno)

/-- `file_write`; what `fsync` and `close` return is not looked at. -/
def fileWrite (opened : Bool) (sz : UInt32) (errno : Int) (schedule : List CallResult) :
    Transfer :=
  if !opened then { Transfer.start sz errno with status := some (-1) }
  else schedule.foldl Transfer.step (Transfer.start sz errno)

def writeOSIP (opened : Bool) (errno : Int) (schedule : List CallResult) : Transfer :=
  fileWrite opened (UInt32.ofNat Osip.headerBytes) errno schedule

/-- Lines 608 to 619 of `write_stitch_image_ex`. -/
def writeBlob (size : UInt32) (errno : Int) (schedule : List CallResult) : Transfer :=
  schedule.foldl Transfer.step (Transfer.start (size - 512) errno)

/-- The memory around the buffer after a loop around `read`. -/
def Transfer.stored (t : Transfer) (stream : Nat → UInt8) (memory : Int → UInt8) : Int → UInt8 :=
  t.moved.zipIdx.foldl (fun memory entry => Function.update memory entry.1 (stream entry.2)) memory

/-- The bytes that a loop around `write` wrote. -/
def Transfer.written (t : Transfer) (memory : Int → UInt8) : List UInt8 := t.moved.map memory

end A500cg.Util
