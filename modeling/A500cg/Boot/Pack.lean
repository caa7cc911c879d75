import A500cg.Lib.Files
import A500cg.Lib.Words
import A500cg.Osip.Update

/-! `pack.c`: a boot image is a header of 13280 bytes, the kernel, the
ramdisk and padding to whole sectors.

The input files are there and the writes succeed. What `pack` finds in its variable
`paddings` before it assigns it is a parameter. -/

namespace A500cg.Boot

open Lib Osip

def MAGIC_SIZE : Nat := 7
def ID_SIZE : Nat := 0x28
def HEADER_SIZE : Nat := MAGIC_SIZE + 0x1 + ID_SIZE + 0x4 + 0x4
def HEAD_PADDING : Nat := 0x1c8
def UNKNOWN_SIZE : Nat := 0x1e0
def CMDLINE_SIZE : Nat := 0x400
def CMDLINE_END : Nat := HEADER_SIZE + HEAD_PADDING + UNKNOWN_SIZE + CMDLINE_SIZE
def PADDING1_SIZE : Nat := 0xbf0
def BOOTSTUBSTACK_SIZE : Nat := 0x2000
def SECTOR_SIZE : UInt32 := 0x200

def xorOffset : Nat := MAGIC_SIZE
def sectorsOffset : Nat := MAGIC_SIZE + 1 + ID_SIZE
def bzImageSizeOffset : Nat := CMDLINE_END
def initrdSizeOffset : Nat := CMDLINE_END + 4
def bootheaderBytes : Nat := CMDLINE_END + 16 + PADDING1_SIZE + BOOTSTUBSTACK_SIZE

def BUFSIZ : Nat := 8192

inductive PackError where
  | readingBootstub
  deriving DecidableEq, Repr

def calculateChecksum (hdr : Buffer) : UInt8 :=
  (List.range HEADER_SIZE).foldl (fun sum i => sum ^^^ hdr i) (hdr xorOffset)

def patchHeader (file : Buffer) (bzImageSize initrdSize sectors : UInt32) : Buffer :=
  let file := store32 file bzImageSizeOffset bzImageSize
  let file := store32 file initrdSizeOffset initrdSize
  let file := store32 file sectorsOffset sectors
  Function.update file xorOffset (calculateChecksum file)

/-- `main` of `pack.c`. Only a size that is not whole sectors assigns `paddings`; more
padding than the buffer holds is written past its end. -/
def pack (paddings : UInt32) (origin bzImage ramdisk : List UInt8) :
    Outcome PackError (List UInt8) :=
  if origin.length < bootheaderBytes then .error .readingBootstub
  else
    let bzImageSize := UInt32.ofNat bzImage.length
    let initrdSize := UInt32.ofNat ramdisk.length
    let totalImageSize := bzImageSize + UInt32.ofNat bootheaderBytes + initrdSize
    let paddings := if totalImageSize % SECTOR_SIZE > 0 then
      SECTOR_SIZE - totalImageSize % SECTOR_SIZE else paddings
    let totalImageSize := if totalImageSize % SECTOR_SIZE > 0 then
      totalImageSize + (SECTOR_SIZE - totalImageSize % SECTOR_SIZE) else totalImageSize
    let file := patchHeader (bytesOf origin) bzImageSize initrdSize (totalImageSize / SECTOR_SIZE - 1)
    if paddings.toNat ≤ BUFSIZ then
      .ok (firstBytes file bootheaderBytes ++ copyRest BUFSIZ bzImage 0 ++
        copyRest BUFSIZ ramdisk 0 ++ List.replicate paddings.toNat 0xff)
    else .stray paddings.toNat

def partsSize (bzImage ramdisk : List UInt8) : Nat :=
  bootheaderBytes + bzImage.length + ramdisk.length

def sectorsOf (bzImage ramdisk : List UInt8) : UInt32 :=
  UInt32.ofNat ((partsSize bzImage ramdisk + 511) / 512 - 1)

def packedHeader (origin bzImage ramdisk : List UInt8) : Buffer :=
  patchHeader (bytesOf origin) (UInt32.ofNat bzImage.length) (UInt32.ofNat ramdisk.length)
    (sectorsOf bzImage ramdisk)

/-- Header, kernel, ramdisk and `pad` bytes of 0xff. -/
def packedImage (origin bzImage ramdisk : List UInt8) (pad : Nat) : List UInt8 :=
  firstBytes (packedHeader origin bzImage ramdisk) bootheaderBytes ++ bzImage ++ ramdisk ++
    List.replicate pad 0xff

/-- What `pack` pads with, from what it found in `paddings`. -/
def padding (paddings : UInt32) (bzImage ramdisk : List UInt8) : Nat :=
  if partsSize bzImage ramdisk % 512 = 0 then paddings.toNat
  else 512 - partsSize bzImage ramdisk % 512

theorem toNat_parts {bzImage ramdisk : List UInt8} (fits : partsSize bzImage ramdisk < 2 ^ 32) :
    (UInt32.ofNat bzImage.length + UInt32.ofNat bootheaderBytes +
      UInt32.ofNat ramdisk.length).toNat = partsSize bzImage ramdisk := by
  have size : partsSize bzImage ramdisk = 13280 + bzImage.length + ramdisk.length := rfl
  have header : bootheaderBytes = 13280 := rfl
  simp only [UInt32.toNat_add, UInt32.toNat_ofNat', header]
  omega

theorem sectors_less_one {size : UInt32} (sector : 512 ≤ size.toNat) :
    size / SECTOR_SIZE - 1 = UInt32.ofNat (size.toNat / 512 - 1) := by
  apply UInt32.toNat_inj.mp
  have count : (size / SECTOR_SIZE).toNat = size.toNat / 512 := UInt32.toNat_div size SECTOR_SIZE
  have one : (1 : UInt32).toNat ≤ (size / SECTOR_SIZE).toNat := by
    rw [count, UInt32.toNat_one]
    omega
  have bound := size.toNat_lt
  rw [UInt32.toNat_sub_of_le _ _ (UInt32.le_iff_toNat_le.mpr one), count, UInt32.toNat_ofNat',
    UInt32.toNat_one]
  omega

theorem pack_eq (paddings : UInt32) {origin bzImage ramdisk : List UInt8}
    (whole : bootheaderBytes ≤ origin.length) (fits : partsSize bzImage ramdisk + 511 < 2 ^ 32) :
    pack paddings origin bzImage ramdisk =
      if padding paddings bzImage ramdisk ≤ BUFSIZ then
        .ok (packedImage origin bzImage ramdisk (padding paddings bzImage ramdisk))
      else .stray (padding paddings bzImage ramdisk) := by
  have long : 512 ≤ partsSize bzImage ramdisk := by
    have size : partsSize bzImage ramdisk = 13280 + bzImage.length + ramdisk.length := rfl
    omega
  have total := toNat_parts (show partsSize bzImage ramdisk < 2 ^ 32 by omega)
  have sector : SECTOR_SIZE.toNat = 512 := rfl
  generalize sum : UInt32.ofNat bzImage.length + UInt32.ofNat bootheaderBytes +
    UInt32.ofNat ramdisk.length = totalSize at total
  have rest : (totalSize % SECTOR_SIZE).toNat = partsSize bzImage ramdisk % 512 := by
    rw [UInt32.toNat_mod, total, sector]
  have gap : (totalSize % SECTOR_SIZE > 0) ↔ ¬ partsSize bzImage ramdisk % 512 = 0 := by
    rw [gt_iff_lt, UInt32.lt_iff_toNat_lt, rest, UInt32.toNat_zero]
    omega
  rw [pack, if_neg (by omega)]
  simp only [sum, copyRest_eq (show 0 < BUFSIZ by decide), List.drop_zero]
  by_cases aligned : partsSize bzImage ramdisk % 512 = 0
  · have sectors : totalSize / SECTOR_SIZE - 1 = sectorsOf bzImage ramdisk := by
      rw [sectors_less_one (by omega), total, sectorsOf,
        show (partsSize bzImage ramdisk + 511) / 512 = partsSize bzImage ramdisk / 512 by omega]
    have none : ¬ totalSize % SECTOR_SIZE > 0 := fun more => gap.mp more aligned
    rw [if_neg none, if_neg none, sectors, padding, if_pos aligned]
    rfl
  · have less : (totalSize % SECTOR_SIZE).toNat ≤ SECTOR_SIZE.toNat := by
      rw [rest, sector]
      omega
    have fill : (SECTOR_SIZE - totalSize % SECTOR_SIZE).toNat =
        512 - partsSize bzImage ramdisk % 512 := by
      rw [UInt32.toNat_sub_of_le _ _ (UInt32.le_iff_toNat_le.mpr less), rest, sector]
    have grown : (totalSize + (SECTOR_SIZE - totalSize % SECTOR_SIZE)).toNat =
        partsSize bzImage ramdisk + (512 - partsSize bzImage ramdisk % 512) := by
      rw [UInt32.toNat_add, total, fill]
      omega
    have sectors : (totalSize + (SECTOR_SIZE - totalSize % SECTOR_SIZE)) / SECTOR_SIZE - 1 =
        sectorsOf bzImage ramdisk := by
      rw [sectors_less_one (by omega), grown, sectorsOf,
        show (partsSize bzImage ramdisk + (512 - partsSize bzImage ramdisk % 512)) / 512 =
          (partsSize bzImage ramdisk + 511) / 512 by omega]
    rw [if_pos (gap.mpr aligned), if_pos (gap.mpr aligned), sectors, padding, if_neg aligned, fill]
    rfl

end A500cg.Boot
