import A500cg.Lib.Files
import Mathlib.Data.PNat.Basic

/-! `nuke_volume` of `oem_partition.c`: a volume is overwritten with `0xFF` up to its end, and then
read back and compared.

A transfer moves as much as fits before the end of the device; a write at the end fails with -1,
and a read there returns 0. The `int` counters wrap. -/

namespace A500cg.Partition

open Lib

structure Volume where
  mountPoint : String
  fsType : String
  deriving DecidableEq, Repr

/-- An open device: what lies before the file position and behind it. -/
structure BlockFile where
  before : List UInt8
  behind : List UInt8
  deriving DecidableEq, Repr

namespace BlockFile

def contents (fd : BlockFile) : List UInt8 := fd.before ++ fd.behind

/-- `lseek` to the start. -/
def rewind (fd : BlockFile) : BlockFile := ⟨[], fd.contents⟩

def write (fd : BlockFile) (data : List UInt8) : Int × BlockFile :=
  if fd.behind = [] then (-1, fd)
  else
    (((min data.length fd.behind.length : Nat) : Int),
      ⟨fd.before ++ data.take fd.behind.length, fd.behind.drop data.length⟩)

def read (fd : BlockFile) (count : Nat) : List UInt8 × BlockFile :=
  (fd.behind.take count, ⟨fd.before ++ fd.behind.take count, fd.behind.drop count⟩)

theorem write_shorter {fd : BlockFile} {data : List UInt8} {count : Nat} (positive : 0 < count)
    (full : (fd.write data).1 = count) : (fd.write data).2.behind.length < fd.behind.length := by
  revert full
  rw [write]
  split
  · intro full
    omega
  next more =>
    intro full
    have left := List.length_pos_of_ne_nil more
    simp only [List.length_drop] at full ⊢
    omega

theorem read_shorter {fd : BlockFile} {count : Nat} (positive : 0 < count)
    (full : (fd.read count).1.length = count) :
    (fd.read count).2.behind.length < fd.behind.length := by
  simp only [read, List.length_take, List.length_drop] at full ⊢
  omega

end BlockFile

/-- The loop that blasts the device: the last result of `write`, the counter, and the device. -/
def eraseLoop (bufferSize : ℕ+) (pbuf : List UInt8) (fd : BlockFile) (count : UInt32) :
    Int × UInt32 × BlockFile :=
  if (fd.write pbuf).1 = -1 then ((fd.write pbuf).1, count, (fd.write pbuf).2)
  else if full : (fd.write pbuf).1 = (bufferSize : Nat) then
    eraseLoop bufferSize pbuf (fd.write pbuf).2 (count + 1)
  else ((fd.write pbuf).1, count + 1, (fd.write pbuf).2)
termination_by fd.behind.length
decreasing_by exact BlockFile.write_shorter bufferSize.pos full

inductive CheckEnd where
  | done (ret : Int) (count : UInt32)
  | failed (ret : Int)
  deriving DecidableEq, Repr

/-- The read back check; a read overwrites the front of `pbufRead`, and whole buffers are
compared. -/
def checkLoop (bufferSize : ℕ+) (pbuf pbufRead : List UInt8) (fd : BlockFile) (count : UInt32) :
    CheckEnd × BlockFile :=
  let data := (fd.read bufferSize).1
  let pbufRead' := data ++ pbufRead.drop data.length
  if data.length = 0 then (.failed 0, (fd.read bufferSize).2)
  else if pbuf ≠ pbufRead' then (.failed (-1), (fd.read bufferSize).2)
  else if full : (fd.read bufferSize).1.length = bufferSize then
    checkLoop bufferSize pbuf pbufRead' (fd.read bufferSize).2 (count + 1)
  else (.done data.length (count + 1), (fd.read bufferSize).2)
termination_by fd.behind.length
decreasing_by exact BlockFile.read_shorter bufferSize.pos full

structure NukeEnv where
  volumeForPath : String → Option Volume
  unmounted : Bool
  opened : Bool
  mallocPbuf : Bool
  mallocPbufRead : Bool
  seekEnd : Bool
  seekStart : Bool
  seekCheck : Bool

structure NukeResult where
  ret : Int
  device : List UInt8
  readBack : Nat
  deriving DecidableEq, Repr

/-- `nuke_volume`; `fresh` and `freshRead` are what the allocated memory holds. -/
def nukeVolume (env : NukeEnv) (volume : String) (bufferSize : ℕ+) (fresh freshRead : Buffer)
    (device : List UInt8) : NukeResult :=
  match env.volumeForPath volume with
  | none => ⟨-1, device, 0⟩
  | some v =>
      if v.fsType = "ramdisk" then ⟨-1, device, 0⟩
      else if v.mountPoint ≠ volume then ⟨-1, device, 0⟩
      else if !env.unmounted then ⟨-1, device, 0⟩
      else if !env.opened then ⟨-1, device, 0⟩
      else if !env.mallocPbuf then ⟨-1, device, 0⟩
      else if !env.mallocPbufRead then ⟨-1, device, 0⟩
      else
        -- `memset`
        let pbuf := (firstBytes fresh bufferSize).map fun _ => 0xFF
        let pbufRead := firstBytes freshRead bufferSize
        if !env.seekEnd then ⟨-1, device, 0⟩
        else if !env.seekStart then ⟨-1, device, 0⟩
        else
          let (ret, countW, fd) := eraseLoop bufferSize pbuf ⟨[], device⟩ 0
          if ret = -1 then ⟨ret, fd.contents, 0⟩
          else if !env.seekCheck then ⟨ret, fd.contents, 0⟩
          else
            match checkLoop bufferSize pbuf pbufRead fd.rewind 0 with
            | (.failed ret, fd) => ⟨ret, fd.contents, fd.before.length⟩
            | (.done _ count, fd) =>
                if count ≠ countW then ⟨-1, fd.contents, fd.before.length⟩
                else ⟨0, fd.contents, fd.before.length⟩

/-- 0 is returned when the device is erased and all of it was read back, and what the allocated
memory held before does not matter. -/
structure Verified (env : NukeEnv) (volume : String) (bufferSize : ℕ+) (device : List UInt8) :
    Prop where
  verdict : ∀ fresh freshRead, (nukeVolume env volume bufferSize fresh freshRead device).ret = 0 ↔
    (∀ byte ∈ (nukeVolume env volume bufferSize fresh freshRead device).device, byte = 0xFF) ∧
      (nukeVolume env volume bufferSize fresh freshRead device).readBack = device.length
  independent : ∀ fresh freshRead fresh' freshRead',
    (nukeVolume env volume bufferSize fresh freshRead device).ret =
      (nukeVolume env volume bufferSize fresh' freshRead' device).ret

structure Started (env : NukeEnv) (volume : String) : Prop where
  found : ∃ v, env.volumeForPath volume = some v ∧ v.fsType ≠ "ramdisk" ∧ v.mountPoint = volume
  unmounted : env.unmounted = true
  opened : env.opened = true
  mallocPbuf : env.mallocPbuf = true
  mallocPbufRead : env.mallocPbufRead = true
  seekEnd : env.seekEnd = true
  seekStart : env.seekStart = true

def ones (n : Nat) : List UInt8 := List.replicate n 0xFF

theorem ones_length (n : Nat) : (ones n).length = n := List.length_replicate

theorem ones_append (m n : Nat) : ones m ++ ones n = ones (m + n) :=
  List.replicate_append_replicate

theorem memset_eq (fresh : Buffer) (n : Nat) :
    ((firstBytes fresh n).map fun _ => (0xFF : UInt8)) = ones n := by
  rw [List.map_const', firstBytes_length, ones]

theorem write_ones {fd : BlockFile} (more : fd.behind ≠ []) (n : Nat) :
    fd.write (ones n) = (((min n fd.behind.length : Nat) : Int),
      ⟨fd.before ++ ones (min n fd.behind.length), fd.behind.drop n⟩) := by
  rw [BlockFile.write, if_neg more, ones_length, ones, List.take_replicate, Nat.min_comm]
  rfl

theorem counted (count : UInt32) (n : Nat) :
    count + 1 + UInt32.ofNat n = count + UInt32.ofNat (n + 1) := by
  rw [UInt32.ofNat_add, UInt32.add_assoc, UInt32.add_comm 1]
  rfl

section Erase

variable (bufferSize : ℕ+) (before behind : List UInt8) (count : UInt32)

theorem eraseLoop_end :
    eraseLoop bufferSize (ones bufferSize) ⟨before, []⟩ count = (-1, count, ⟨before, []⟩) := by
  rw [eraseLoop]
  rfl

theorem eraseLoop_last (more : behind ≠ []) (short : behind.length < bufferSize) :
    eraseLoop bufferSize (ones bufferSize) ⟨before, behind⟩ count =
      ((behind.length : Int), count + 1, ⟨before ++ ones behind.length, []⟩) := by
  rw [eraseLoop, write_ones more, Nat.min_eq_right short.le, if_neg (by dsimp only; omega),
    dif_neg (by dsimp only; omega), List.drop_eq_nil_of_le short.le]

theorem eraseLoop_full (long : bufferSize ≤ behind.length) :
    eraseLoop bufferSize (ones bufferSize) ⟨before, behind⟩ count =
      eraseLoop bufferSize (ones bufferSize)
        ⟨before ++ ones bufferSize, behind.drop bufferSize⟩ (count + 1) := by
  have positive := bufferSize.pos
  have more : behind ≠ [] := List.ne_nil_of_length_pos (by omega)
  rw [eraseLoop, write_ones more, Nat.min_eq_left long, if_neg (by dsimp only; omega),
    dif_pos rfl]

end Erase

theorem eraseLoop_eq (bufferSize : ℕ+) (q r : Nat) (less : r < bufferSize)
    (before behind : List UInt8) (count : UInt32) (length : behind.length = q * bufferSize + r) :
    eraseLoop bufferSize (ones bufferSize) ⟨before, behind⟩ count =
      (if r = 0 then -1 else (r : Int),
        if r = 0 then count + UInt32.ofNat q else count + UInt32.ofNat (q + 1),
        ⟨before ++ ones behind.length, []⟩) := by
  induction q generalizing before behind count with
  | zero =>
      rw [Nat.zero_mul, Nat.zero_add] at length
      subst length
      cases behind with
      | nil =>
          rw [eraseLoop_end]
          simp [ones]
      | cons byte behind =>
          rw [eraseLoop_last _ _ _ _ (by simp) less]
          simp
  | succ q ih =>
      have rest : (behind.drop bufferSize).length = q * bufferSize + r := by
        rw [List.length_drop, length, Nat.succ_mul]
        omega
      have long : bufferSize ≤ behind.length := by
        rw [length, Nat.succ_mul]
        omega
      rw [eraseLoop_full _ _ _ _ long, ih _ _ _ rest, counted, counted, List.append_assoc,
        ones_append, List.length_drop, Nat.add_sub_cancel' long]

theorem read_ones (before : List UInt8) (k n : Nat) :
    BlockFile.read ⟨before, ones k⟩ n =
      (ones (min n k), ⟨before ++ ones (min n k), ones (k - n)⟩) := by
  simp [BlockFile.read, ones]

section Check

variable (bufferSize : ℕ+) (before : List UInt8) (count : UInt32)

theorem checkLoop_last {k : Nat} (more : 0 < k) (short : k < bufferSize) :
    checkLoop bufferSize (ones bufferSize) (ones bufferSize) ⟨before, ones k⟩ count =
      (.done k (count + 1), ⟨before ++ ones k, []⟩) := by
  have same : ones k ++ (ones bufferSize).drop k = ones bufferSize := by
    rw [ones, ones, List.drop_replicate, List.replicate_append_replicate,
      Nat.add_sub_cancel' short.le]
  rw [checkLoop, read_ones, Nat.min_eq_right short.le, ones_length, same, if_neg (by omega),
    if_neg (by simp), dif_neg (by omega), Nat.sub_eq_zero_of_le short.le]
  rfl

theorem checkLoop_full {pbufRead : List UInt8} (size : pbufRead.length = bufferSize) {k : Nat}
    (long : bufferSize ≤ k) :
    checkLoop bufferSize (ones bufferSize) pbufRead ⟨before, ones k⟩ count =
      checkLoop bufferSize (ones bufferSize) (ones bufferSize)
        ⟨before ++ ones bufferSize, ones (k - bufferSize)⟩ (count + 1) := by
  have positive := bufferSize.pos
  have same : ones bufferSize ++ pbufRead.drop bufferSize = ones bufferSize := by
    rw [List.drop_eq_nil_of_le (by omega), List.append_nil]
  rw [checkLoop, read_ones, Nat.min_eq_left long, ones_length, same, if_neg (by omega),
    if_neg (by simp), dif_pos rfl]

theorem checkLoop_garbage {k : Nat} (more : 0 < k) (short : k < bufferSize) :
    checkLoop bufferSize (ones bufferSize) (List.replicate bufferSize 0) ⟨before, ones k⟩ count =
      (.failed (-1), ⟨before ++ ones k, []⟩) := by
  have other : ones bufferSize ≠ ones k ++ (List.replicate bufferSize (0 : UInt8)).drop k := by
    intro same
    have zero : (0 : UInt8) ∈ ones bufferSize := by
      rw [same, List.drop_replicate]
      exact List.mem_append_right _ (List.mem_replicate.mpr ⟨by omega, rfl⟩)
    exact absurd (List.eq_of_mem_replicate zero) (by decide)
  rw [checkLoop, read_ones, Nat.min_eq_right short.le, ones_length, if_neg (by omega),
    if_pos other, Nat.sub_eq_zero_of_le short.le]
  rfl

end Check

theorem checkLoop_eq (bufferSize : ℕ+) (q r : Nat) (more : 0 < r) (short : r < bufferSize)
    {pbufRead : List UInt8} (size : pbufRead.length = bufferSize)
    (filled : pbufRead = ones bufferSize ∨ 0 < q) (before : List UInt8) (count : UInt32) :
    checkLoop bufferSize (ones bufferSize) pbufRead ⟨before, ones (q * bufferSize + r)⟩ count =
      (.done r (count + UInt32.ofNat (q + 1)), ⟨before ++ ones (q * bufferSize + r), []⟩) := by
  induction q generalizing pbufRead before count with
  | zero =>
      rw [filled.resolve_right (by omega), Nat.zero_mul, Nat.zero_add,
        checkLoop_last _ _ _ more short]
      rfl
  | succ q ih =>
      have long : bufferSize ≤ (q + 1) * (bufferSize : Nat) + r := by
        rw [Nat.succ_mul]
        omega
      have rest : (q + 1) * (bufferSize : Nat) + r - bufferSize = q * bufferSize + r := by
        rw [Nat.succ_mul]
        omega
      rw [checkLoop_full _ _ _ size long, rest, ih (ones_length _) (.inl rfl), counted,
        List.append_assoc, ones_append, ← rest, Nat.add_sub_cancel' long]

section Nuke

variable {env : NukeEnv} {volume : String} {bufferSize : ℕ+} {device : List UInt8}

theorem nukeVolume_started (started : Started env volume) (fresh freshRead : Buffer) :
    nukeVolume env volume bufferSize fresh freshRead device =
      if device.length % bufferSize = 0 then ⟨-1, ones device.length, 0⟩
      else if !env.seekCheck then ⟨(device.length % bufferSize : Nat), ones device.length, 0⟩
      else
        match checkLoop bufferSize (ones bufferSize) (firstBytes freshRead bufferSize)
            ⟨[], ones device.length⟩ 0 with
        | (.failed ret, fd) => ⟨ret, fd.contents, fd.before.length⟩
        | (.done _ count, fd) =>
            if count ≠ 0 + UInt32.ofNat (device.length / bufferSize + 1) then
              ⟨-1, fd.contents, fd.before.length⟩
            else ⟨0, fd.contents, fd.before.length⟩ := by
  rcases started with ⟨⟨v, found, disk, mount⟩, unmounted, opened, pbuf, pbufRead, seekEnd,
    seekStart⟩
  have erased := eraseLoop_eq bufferSize (device.length / bufferSize) (device.length % bufferSize)
    (Nat.mod_lt _ bufferSize.pos) [] device 0 (Nat.div_add_mod' _ _).symm
  rw [nukeVolume, found]
  by_cases whole : device.length % bufferSize = 0
  · rw [if_pos whole, if_pos whole] at erased
    simp only [disk, mount, unmounted, opened, pbuf, pbufRead, seekEnd, seekStart, memset_eq,
      erased, whole, Bool.not_true, Bool.false_eq_true, ne_eq, not_true_eq_false, if_false, if_true,
      BlockFile.contents, List.append_nil, List.nil_append]
  · have positive : ((device.length % bufferSize : Nat) : Int) ≠ -1 := by omega
    rw [if_neg whole, if_neg whole] at erased
    simp only [disk, mount, unmounted, opened, pbuf, pbufRead, seekEnd, seekStart, memset_eq,
      erased, whole, positive, Bool.not_true, Bool.false_eq_true, ne_eq, not_true_eq_false,
      if_false, BlockFile.rewind, BlockFile.contents, List.append_nil, List.nil_append]

theorem nukeVolume_unstarted (unstarted : ¬ Started env volume) (fresh freshRead : Buffer) :
    nukeVolume env volume bufferSize fresh freshRead device = ⟨-1, device, 0⟩ := by
  cases found : env.volumeForPath volume with
  | none => simp [nukeVolume, found]
  | some v =>
      by_cases disk : v.fsType = "ramdisk"
      · simp [nukeVolume, found, disk]
      by_cases mount : v.mountPoint = volume
      swap
      · simp [nukeVolume, found, mount]
      cases unmounted : env.unmounted
      · simp [nukeVolume, found, unmounted]
      cases opened : env.opened
      · simp [nukeVolume, found, opened]
      cases pbuf : env.mallocPbuf
      · simp [nukeVolume, found, pbuf]
      cases pbufRead : env.mallocPbufRead
      · simp [nukeVolume, found, pbufRead]
      cases seekEnd : env.seekEnd
      · simp [nukeVolume, found, seekEnd]
      cases seekStart : env.seekStart
      · simp [nukeVolume, found, seekStart]
      exact absurd ⟨⟨v, found, disk, mount⟩, unmounted, opened, pbuf, pbufRead, seekEnd, seekStart⟩
        unstarted

theorem verified_of_failed {ret : Int} (failed : ret ≠ 0) (nonempty : 0 < device.length)
    (run : ∀ fresh freshRead, ∃ contents,
      nukeVolume env volume bufferSize fresh freshRead device = ⟨ret, contents, 0⟩) :
    Verified env volume bufferSize device := by
  constructor
  · intro fresh freshRead
    rcases run fresh freshRead with ⟨contents, same⟩
    rw [same]
    constructor
    · exact fun zero => absurd zero failed
    · intro covered
      have none : 0 = device.length := covered.2
      omega
  · intro fresh freshRead fresh' freshRead'
    rcases run fresh freshRead with ⟨contents, same⟩
    rcases run fresh' freshRead' with ⟨contents', same'⟩
    rw [same, same']

theorem nukeVolume_success (started : Started env volume) (seekCheck : env.seekCheck = true)
    (short : device.length % bufferSize ≠ 0) (filled : bufferSize ≤ device.length)
    (fresh freshRead : Buffer) :
    nukeVolume env volume bufferSize fresh freshRead device =
      ⟨0, ones device.length, device.length⟩ := by
  have passed := checkLoop_eq bufferSize (device.length / bufferSize) (device.length % bufferSize)
    (Nat.pos_of_ne_zero short) (Nat.mod_lt _ bufferSize.pos)
    (firstBytes_length freshRead bufferSize) (.inr (Nat.div_pos filled bufferSize.pos)) [] 0
  rw [Nat.div_add_mod'] at passed
  rw [nukeVolume_started started, if_neg short, seekCheck, passed]
  simp [BlockFile.contents, ones]

theorem nukeVolume_garbage (started : Started env volume) (seekCheck : env.seekCheck = true)
    (nonempty : 0 < device.length) (less : device.length < bufferSize) :
    nukeVolume env volume bufferSize (fun _ => 0) (fun _ => 0) device =
      ⟨-1, ones device.length, device.length⟩ := by
  have zeros : firstBytes (fun _ => 0) bufferSize = List.replicate bufferSize (0 : UInt8) := by
    rw [firstBytes, List.map_const', List.length_range]
  rw [nukeVolume_started started, Nat.mod_eq_of_lt less, if_neg (by omega), seekCheck, zeros,
    checkLoop_garbage _ _ _ nonempty less]
  simp [BlockFile.contents, ones]

theorem nukeVolume_nil (fresh freshRead : Buffer) :
    nukeVolume env volume bufferSize fresh freshRead [] = ⟨-1, [], 0⟩ := by
  by_cases started : Started env volume
  · rw [nukeVolume_started started]
    simp [ones]
  · exact nukeVolume_unstarted started fresh freshRead

theorem verified_of_success
    (run : ∀ fresh freshRead, nukeVolume env volume bufferSize fresh freshRead device =
      ⟨0, ones device.length, device.length⟩) : Verified env volume bufferSize device := by
  constructor
  · intro fresh freshRead
    rw [run]
    exact ⟨fun _ => ⟨fun _ => List.eq_of_mem_replicate, rfl⟩, fun _ => rfl⟩
  · intro fresh freshRead fresh' freshRead'
    rw [run, run]

theorem not_verified_of_misjudged {fresh freshRead : Buffer}
    (run : nukeVolume env volume bufferSize fresh freshRead device =
      ⟨-1, ones device.length, device.length⟩) : ¬ Verified env volume bufferSize device := by
  intro verified
  have verdict := verified.verdict fresh freshRead
  rw [run] at verdict
  have zero : (-1 : Int) = 0 := verdict.mpr ⟨fun _ => List.eq_of_mem_replicate, rfl⟩
  exact absurd zero (by decide)

/-- The volume is verified as promised exactly when the device is not empty, and holds at least one
buffer if the read back check is reached. -/
theorem nuke_volume_verified_iff (env : NukeEnv) (volume : String) (bufferSize : ℕ+)
    (device : List UInt8) :
    Verified env volume bufferSize device ↔
      0 < device.length ∧
        (Started env volume → env.seekCheck = true → (bufferSize : Nat) ≤ device.length) := by
  constructor
  · intro verified
    have nonempty : 0 < device.length := by
      by_contra none
      have empty : device = [] := List.eq_nil_of_length_eq_zero (by omega)
      subst empty
      exact not_verified_of_misjudged (nukeVolume_nil (fun _ => 0) fun _ => 0) verified
    refine ⟨nonempty, fun started seekCheck => ?_⟩
    by_contra less
    exact not_verified_of_misjudged
      (nukeVolume_garbage started seekCheck nonempty (by omega)) verified
  · rintro ⟨nonempty, filled⟩
    by_cases started : Started env volume
    swap
    · exact verified_of_failed (by decide : (-1 : Int) ≠ 0) nonempty
        fun fresh freshRead => ⟨device, nukeVolume_unstarted started fresh freshRead⟩
    by_cases whole : device.length % bufferSize = 0
    · refine verified_of_failed (by decide : (-1 : Int) ≠ 0) nonempty
        fun fresh freshRead => ⟨ones device.length, ?_⟩
      rw [nukeVolume_started started, if_pos whole]
    cases seekCheck : env.seekCheck
    · have failed : ((device.length % bufferSize : Nat) : Int) ≠ 0 := by omega
      refine verified_of_failed failed nonempty fun fresh freshRead => ⟨ones device.length, ?_⟩
      rw [nukeVolume_started started, if_neg whole, seekCheck]
      rfl
    · exact verified_of_success
        (nukeVolume_success started seekCheck whole (filled started seekCheck))

/-- Every call outside the loops succeeds for the volume `/data`. -/
def dataVolume : NukeEnv where
  volumeForPath := fun _ => some ⟨"/data", "ext4"⟩
  unmounted := true
  opened := true
  mallocPbuf := true
  mallocPbufRead := true
  seekEnd := true
  seekStart := true
  seekCheck := true

/-- A device of one byte is erased and read back with a buffer of two, and -1 is returned when the
other byte of the buffer was 0. -/
theorem small_device_misjudged : ¬ Verified dataVolume "/data" 2 [0] := by
  intro verified
  have started : Started dataVolume "/data" :=
    ⟨⟨_, rfl, by decide, rfl⟩, rfl, rfl, rfl, rfl, rfl, rfl⟩
  exact not_verified_of_misjudged (nukeVolume_garbage started rfl (by decide) (by decide)) verified

end Nuke

end A500cg.Partition
