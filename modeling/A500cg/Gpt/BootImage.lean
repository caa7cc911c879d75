import A500cg.Lib.Stream
import Mathlib.Algebra.Order.Floor.Div
import Mathlib.Tactic

/-! `bootimage_size` and `read_image_gpt` of `flash_gpt/bootimage.c`: the size of a boot image is
computed from its header, and that much is read.

The arithmetic is that of the machine: `int` and `unsigned` are 32 bits wide and wrap, and a
division by zero ends the program. `safe_read` gets all it is asked for or fails. -/

namespace A500cg.Gpt

open Lib

def BOOT_MAGIC : List UInt8 := [0x41, 0x4e, 0x44, 0x52, 0x4f, 0x49, 0x44, 0x21]

structure BootImgHdr where
  magic : List UInt8
  kernelSize : UInt32
  ramdiskSize : UInt32
  secondSize : UInt32
  pageSize : UInt32
  deriving DecidableEq, Repr

inductive Abi where
  | ilp32
  | lp64
  deriving DecidableEq, Repr

/-- An `unsigned` stored to a `ssize_t`. -/
def Abi.ssize : Abi → UInt32 → Int
  | ilp32, n => asInt n.toNat
  | lp64, n => n.toNat

/-- The first size that an `unsigned` holds and a `ssize_t` cannot return as such. -/
def Abi.limit : Abi → Nat
  | ilp32 => 2 ^ 31
  | lp64 => 2 ^ 32

/-- A boot partition: whether it can be opened, sought and read without error, and what is read. -/
structure BootDevice where
  opened : Bool
  header : Option BootImgHdr
  lseek : Bool
  malloc : Bool
  readable : Bool
  bytes : List UInt8

def BootDevice.safeRead (dev : BootDevice) (size : Nat) : Option (List UInt8) :=
  if dev.readable ∧ size ≤ dev.bytes.length then some (dev.bytes.take size) else none

def pages (hdr : BootImgHdr) (blobSize : UInt32) : Option UInt32 :=
  if hdr.pageSize = 0 then none else some ((blobSize + hdr.pageSize - 1) / hdr.pageSize)

inductive Computed (α : Type) where
  | crashed
  | value (result : α)
  deriving DecidableEq, Repr

def bootimageSize (abi : Abi) (dev : BootDevice) : Computed Int :=
  match dev.header with
  | none => .value (-1)
  | some hdr =>
      if hdr.magic ≠ BOOT_MAGIC then .value (-1)
      else
        match pages hdr hdr.kernelSize, pages hdr hdr.ramdiskSize, pages hdr hdr.secondSize with
        | some kernel, some ramdisk, some second =>
            .value (abi.ssize ((1 + kernel + ramdisk + second) * hdr.pageSize))
        | _, _, _ => .crashed

def readImageGpt (abi : Abi) (dev : BootDevice) : Computed (Int × Option (List UInt8)) :=
  if !dev.opened then .value (-1, none)
  else
    match bootimageSize abi dev with
    | .crashed => .crashed
    | .value size =>
        if size ≤ 0 then .value (-1, none)
        else if !dev.lseek then .value (-1, none)
        else if !dev.malloc then .value (-1, none)
        else
          match dev.safeRead size.toNat with
          | none => .value (-1, none)
          | some data => .value (asInt size, some data)

def imageSize (hdr : BootImgHdr) : Nat :=
  hdr.pageSize.toNat * (1 + hdr.kernelSize.toNat ⌈/⌉ hdr.pageSize.toNat +
    hdr.ramdiskSize.toNat ⌈/⌉ hdr.pageSize.toNat + hdr.secondSize.toNat ⌈/⌉ hdr.pageSize.toNat)

/-- The header is measured or rejected, and what is read is the image. -/
structure Measured (abi : Abi) (dev : BootDevice) (hdr : BootImgHdr) : Prop where
  size : ∃ n, bootimageSize abi dev = .value n ∧ (n = imageSize hdr ∨ n ≤ 0)
  image : ∃ ret data, readImageGpt abi dev = .value (ret, data) ∧
    ∀ got ∈ data, got = dev.bytes.take (imageSize hdr) ∧ got.length = imageSize hdr

/-- On every partition with this header. -/
def SizedRight (abi : Abi) (hdr : BootImgHdr) : Prop :=
  ∀ dev : BootDevice, dev.header = some hdr → Measured abi dev hdr

def keptPages (pageSize blobSize : Nat) : Nat :=
  if blobSize + pageSize ≤ 2 ^ 32 then blobSize ⌈/⌉ pageSize else 0

def wrappedSize (hdr : BootImgHdr) : Nat :=
  hdr.pageSize.toNat * (1 + keptPages hdr.pageSize.toNat hdr.kernelSize.toNat +
    keptPages hdr.pageSize.toNat hdr.ramdiskSize.toNat +
    keptPages hdr.pageSize.toNat hdr.secondSize.toNat) % 2 ^ 32

theorem pageSize_pos {hdr : BootImgHdr} (nonzero : hdr.pageSize ≠ 0) : 0 < hdr.pageSize.toNat := by
  rw [Nat.pos_iff_ne_zero]
  exact fun zero => nonzero (UInt32.toNat_inj.mp zero)

theorem pages_toNat {hdr : BootImgHdr} (nonzero : hdr.pageSize ≠ 0) (blobSize : UInt32) :
    ∃ n, pages hdr blobSize = some n ∧
      n.toNat = keptPages hdr.pageSize.toNat blobSize.toNat := by
  refine ⟨_, if_neg nonzero, ?_⟩
  have positive := pageSize_pos nonzero
  have small := hdr.pageSize.toNat_lt
  have narrow := blobSize.toNat_lt
  rw [UInt32.toNat_div, keptPages, Nat.ceilDiv_eq_add_pred_div]
  have sum : (blobSize + hdr.pageSize - 1).toNat =
      (blobSize.toNat + hdr.pageSize.toNat - 1) % 2 ^ 32 := by
    rw [UInt32.toNat_sub, UInt32.toNat_add]
    have one : (1 : UInt32).toNat = 1 := rfl
    omega
  rw [sum]
  split
  next fits => rw [Nat.mod_eq_of_lt (by omega)]
  next lost =>
    apply Nat.div_eq_of_lt
    omega

theorem product_toNat (pageSize kernel ramdisk second : UInt32) :
    ((1 + kernel + ramdisk + second) * pageSize).toNat =
      pageSize.toNat * (1 + kernel.toNat + ramdisk.toNat + second.toNat) % 2 ^ 32 := by
  have one : (1 : UInt32).toNat = 1 := rfl
  have sum : (1 + kernel + ramdisk + second).toNat =
      (1 + kernel.toNat + ramdisk.toNat + second.toNat) % 2 ^ 32 := by
    simp only [UInt32.toNat_add, one]
    omega
  rw [UInt32.toNat_mul, sum, Nat.mul_mod, Nat.mod_mod, ← Nat.mul_mod, Nat.mul_comm]

theorem bootimageSize_eq {abi : Abi} {dev : BootDevice} {hdr : BootImgHdr}
    (header : dev.header = some hdr) (magic : hdr.magic = BOOT_MAGIC)
    (nonzero : hdr.pageSize ≠ 0) :
    ∃ n : UInt32, n.toNat = wrappedSize hdr ∧ bootimageSize abi dev = .value (abi.ssize n) := by
  rcases pages_toNat nonzero hdr.kernelSize with ⟨kernel, kernelPages, kernelKept⟩
  rcases pages_toNat nonzero hdr.ramdiskSize with ⟨ramdisk, ramdiskPages, ramdiskKept⟩
  rcases pages_toNat nonzero hdr.secondSize with ⟨second, secondPages, secondKept⟩
  refine ⟨(1 + kernel + ramdisk + second) * hdr.pageSize, ?_, ?_⟩
  · rw [product_toNat, wrappedSize, kernelKept, ramdiskKept, secondKept]
  · simp [bootimageSize, header, magic, kernelPages, ramdiskPages, secondPages]

theorem bootimageSize_crash {abi : Abi} {dev : BootDevice} {hdr : BootImgHdr}
    (header : dev.header = some hdr) (magic : hdr.magic = BOOT_MAGIC)
    (zero : hdr.pageSize = 0) : bootimageSize abi dev = .crashed := by
  simp [bootimageSize, header, magic, pages, zero]

theorem wrappedSize_of_small {hdr : BootImgHdr} (nonzero : hdr.pageSize ≠ 0)
    (small : imageSize hdr < 2 ^ 32) : wrappedSize hdr = imageSize hdr := by
  have positive := pageSize_pos nonzero
  have covers : ∀ blobSize : Nat,
      blobSize ≤ hdr.pageSize.toNat * (blobSize ⌈/⌉ hdr.pageSize.toNat) :=
    fun blobSize => le_smul_ceilDiv positive
  have sum : imageSize hdr = hdr.pageSize.toNat +
      hdr.pageSize.toNat * (hdr.kernelSize.toNat ⌈/⌉ hdr.pageSize.toNat) +
      hdr.pageSize.toNat * (hdr.ramdiskSize.toNat ⌈/⌉ hdr.pageSize.toNat) +
      hdr.pageSize.toNat * (hdr.secondSize.toNat ⌈/⌉ hdr.pageSize.toNat) := by
    rw [imageSize]
    ring
  have kernel := covers hdr.kernelSize.toNat
  have ramdisk := covers hdr.ramdiskSize.toNat
  have second := covers hdr.secondSize.toNat
  have kept : ∀ blobSize : Nat, blobSize + hdr.pageSize.toNat ≤ 2 ^ 32 →
      keptPages hdr.pageSize.toNat blobSize = blobSize ⌈/⌉ hdr.pageSize.toNat :=
    fun blobSize fits => if_pos fits
  rw [wrappedSize, kept _ (by omega), kept _ (by omega), kept _ (by omega), ← imageSize,
    Nat.mod_eq_of_lt small]

theorem Abi.limit_le (abi : Abi) : abi.limit ≤ 2 ^ 32 := by
  cases abi <;> decide

theorem ssize_nonpos_iff (abi : Abi) (n : UInt32) :
    abi.ssize n ≤ 0 ↔ n.toNat = 0 ∨ abi.limit ≤ n.toNat := by
  have narrow := n.toNat_lt
  cases abi with
  | ilp32 =>
      simp only [Abi.ssize, Abi.limit, asInt]
      omega
  | lp64 =>
      simp only [Abi.ssize, Abi.limit]
      omega

theorem ssize_eq_iff (abi : Abi) (n : UInt32) (size : Nat) (positive : 0 < size) :
    abi.ssize n = size ↔ n.toNat = size ∧ size < abi.limit := by
  have narrow := n.toNat_lt
  cases abi with
  | ilp32 =>
      simp only [Abi.ssize, Abi.limit, asInt]
      omega
  | lp64 =>
      simp only [Abi.ssize, Abi.limit]
      omega

theorem imageSize_pos {hdr : BootImgHdr} (nonzero : hdr.pageSize ≠ 0) : 0 < imageSize hdr :=
  Nat.mul_pos (pageSize_pos nonzero) (by omega)

theorem safeRead_some {dev : BootDevice} {size : Nat} {data : List UInt8}
    (read : dev.safeRead size = some data) : data = dev.bytes.take size ∧ data.length = size := by
  rw [BootDevice.safeRead] at read
  split at read
  next inside =>
    cases read
    exact ⟨rfl, List.length_take_of_le inside.2⟩
  next => cases read

theorem readImageGpt_right {abi : Abi} {dev : BootDevice} {hdr : BootImgHdr} {n : Int}
    (size : bootimageSize abi dev = .value n) (right : n = imageSize hdr ∨ n ≤ 0) :
    ∃ ret data, readImageGpt abi dev = .value (ret, data) ∧
      ∀ got ∈ data, got = dev.bytes.take (imageSize hdr) ∧ got.length = imageSize hdr := by
  have rejected : ∃ ret data, (Computed.value (-1, none) : Computed (Int × Option (List UInt8))) =
      .value (ret, data) ∧
        ∀ got ∈ data, got = dev.bytes.take (imageSize hdr) ∧ got.length = imageSize hdr :=
    ⟨-1, none, rfl, by simp⟩
  rw [readImageGpt, size]
  dsimp only
  split
  · exact rejected
  · split
    · exact rejected
    next positive =>
      split
      · exact rejected
      · split
        · exact rejected
        · cases read : dev.safeRead n.toNat with
          | none => exact rejected
          | some data =>
              refine ⟨asInt n, some data, rfl, ?_⟩
              rintro got ⟨⟩
              rw [right.resolve_right positive, Int.toNat_natCast] at read
              exact safeRead_some read

/-- The header is measured right exactly when it is rejected for its magic, or it has a page size
and the size fits, or what is left of it in 32 bits is rejected as well. -/
theorem boot_image_sized_iff (abi : Abi) (hdr : BootImgHdr) :
    SizedRight abi hdr ↔
      (hdr.magic = BOOT_MAGIC →
        hdr.pageSize ≠ 0 ∧ (imageSize hdr < abi.limit ∨ wrappedSize hdr = 0 ∨
          abi.limit ≤ wrappedSize hdr)) := by
  constructor
  · intro sized magic
    let dev : BootDevice := ⟨true, some hdr, true, true, true, []⟩
    have header : dev.header = some hdr := rfl
    rcases (sized dev header).size with ⟨n, size, right⟩
    have nonzero : hdr.pageSize ≠ 0 := by
      intro zero
      rw [bootimageSize_crash header magic zero] at size
      cases size
    refine ⟨nonzero, ?_⟩
    rcases bootimageSize_eq header magic nonzero with ⟨m, wrapped, computed⟩
    rw [computed] at size
    cases size
    rw [← wrapped]
    rcases right with exact | rejected
    · exact .inl ((ssize_eq_iff abi m _ (imageSize_pos nonzero)).mp exact).2
    · exact .inr ((ssize_nonpos_iff abi m).mp rejected)
  · intro condition dev header
    have size : ∃ n, bootimageSize abi dev = .value n ∧ (n = imageSize hdr ∨ n ≤ 0) := by
      by_cases magic : hdr.magic = BOOT_MAGIC
      · rcases condition magic with ⟨nonzero, fits⟩
        rcases bootimageSize_eq header magic nonzero with ⟨m, wrapped, computed⟩
        refine ⟨abi.ssize m, computed, ?_⟩
        rw [ssize_eq_iff abi m _ (imageSize_pos nonzero), ssize_nonpos_iff, wrapped]
        rcases fits with small | rejected
        · have below := small.trans_le abi.limit_le
          exact .inl ⟨wrappedSize_of_small nonzero below, small⟩
        · exact .inr rejected
      · exact ⟨-1, by simp [bootimageSize, header, magic], .inr (by decide)⟩
    rcases id size with ⟨n, computed, right⟩
    exact ⟨size, readImageGpt_right computed right⟩

def hugeBlobs : BootImgHdr where
  magic := BOOT_MAGIC
  kernelSize := 0x80000000
  ramdiskSize := 0x80000000
  secondSize := 0
  pageSize := 1

/-- The size of 2^32 + 1 bytes comes out as 1. -/
theorem huge_blobs_wrap : ¬ SizedRight .ilp32 hugeBlobs := by
  intro sized
  rcases (sized ⟨true, some hugeBlobs, true, true, true, []⟩ rfl).size with ⟨n, size, right⟩
  have one : bootimageSize .ilp32 ⟨true, some hugeBlobs, true, true, true, []⟩ = .value 1 := by
    decide
  rw [one] at size
  cases size
  have exact : imageSize hugeBlobs = 2 ^ 32 + 1 := by decide
  rw [exact] at right
  omega

end A500cg.Gpt
