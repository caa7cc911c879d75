import A500cg.Lib.Files

/-! A file opened for reading through `stdio`: its position, which a seek may put behind the
end, and the end-of-file indicator. Offsets are 32-bit values. -/

namespace A500cg.Lib

/-- A value stored to a 32-bit `int` or `long`. -/
def asInt (value : Int) : Int := (value + 2 ^ 31) % 2 ^ 32 - 2 ^ 31

theorem asInt_of_lt {value : Int} (lower : 0 ≤ value) (upper : value < 2 ^ 31) :
    asInt value = value := by
  rw [asInt]
  omega

theorem asInt_of_wrap {value : Int} (lower : 2 ^ 31 ≤ value) (upper : value < 2 ^ 32) :
    asInt value < 0 := by
  rw [asInt]
  omega

structure Stream where
  bytes : List UInt8
  pos : Nat
  eof : Bool
  deriving DecidableEq, Repr

namespace Stream

/-- `fopen` for reading: there is a file, and its size is an `off_t`. -/
def fopen (file : Option (List UInt8)) : Option Stream :=
  match file with
  | some bytes => if bytes.length < 2 ^ 31 then some ⟨bytes, 0, false⟩ else none
  | none => none

/-- What `fread` of `count` bytes gets; the end of the file before them raises the indicator. -/
def fread (fd : Stream) (count : Nat) : List UInt8 × Stream :=
  let got := (fd.bytes.drop fd.pos).take count
  (got, { fd with pos := fd.pos + got.length, eof := fd.eof || decide (got.length < count) })

def ftell (fd : Stream) : Int := fd.pos

def fseek (fd : Stream) (offset : Int) : Stream :=
  if offset < 0 then fd else { fd with pos := offset.toNat, eof := false }

theorem fread_inside {bytes : List UInt8} {pos count : Nat} (inside : pos + count ≤ bytes.length) :
    fread ⟨bytes, pos, false⟩ count =
      ((bytes.drop pos).take count, ⟨bytes, pos + count, false⟩) := by
  have length : ((bytes.drop pos).take count).length = count := by
    rw [List.length_take, List.length_drop]
    omega
  simp only [fread, length, lt_irrefl, decide_false, Bool.or_false]

theorem fread_short {bytes : List UInt8} {pos count : Nat} (short : bytes.length < pos + count)
    (asked : 0 < count) : (fread ⟨bytes, pos, false⟩ count).2.eof = true := by
  have length : ((bytes.drop pos).take count).length < count := by
    rw [List.length_take, List.length_drop]
    omega
  simp only [fread, length, decide_true, Bool.or_true]

theorem fseek_nat (fd : Stream) (offset : Nat) :
    fd.fseek offset = ⟨fd.bytes, offset, false⟩ := by
  rw [fseek, if_neg (by omega), Int.toNat_natCast]

end Stream

end A500cg.Lib
