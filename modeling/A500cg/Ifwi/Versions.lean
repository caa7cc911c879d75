import A500cg.Lib.Files
import A500cg.Lib.Scan

/-! The two readers of the IFWI version in `fw_version_check.c`: `get_image_fw_rev` on a
buffer and `crack_update_fw` on a file.

An image is the list of its bytes. The file holds the same bytes and its reads fail only
at its end. -/

namespace A500cg.Ifwi

open Lib

def FIP_PATTERN : UInt32 := 0x50494624

def fipBytes : Nat := 44

structure FwVersion where
  major : UInt8
  minor : UInt8
  deriving DecidableEq, Repr

def FwVersion.zero : FwVersion := ⟨0, 0⟩

@[ext]
structure FirmwareVersions where
  ifwi : FwVersion
  scu : FwVersion
  oem : FwVersion
  punit : FwVersion
  ia32 : FwVersion
  suppIa32 : FwVersion
  chaabiIcache : FwVersion
  chaabiRes : FwVersion
  chaabiExt : FwVersion
  deriving DecidableEq, Repr

def FirmwareVersions.zero : FirmwareVersions :=
  ⟨.zero, .zero, .zero, .zero, .zero, .zero, .zero, .zero, .zero⟩

def fipVersionBlock (buf : Buffer) (offset : Nat) : FwVersion :=
  ⟨buf (offset + 2), buf (offset + 1)⟩

def ifwiRev (buf : Buffer) (offset : Nat) : FwVersion := ⟨buf (offset + 1), buf offset⟩

/-- The versions of a `struct FIP_header` found at `pos`. -/
def fipHeader (image : List UInt8) (pos : Nat) : FirmwareVersions where
  ia32 := fipVersionBlock (bytesOf image) (pos + 8)
  punit := fipVersionBlock (bytesOf image) (pos + 12)
  oem := fipVersionBlock (bytesOf image) (pos + 16)
  suppIa32 := fipVersionBlock (bytesOf image) (pos + 20)
  scu := fipVersionBlock (bytesOf image) (pos + 24)
  chaabiIcache := fipVersionBlock (bytesOf image) (pos + 28)
  chaabiRes := fipVersionBlock (bytesOf image) (pos + 32)
  chaabiExt := fipVersionBlock (bytesOf image) (pos + 36)
  ifwi := ifwiRev (bytesOf image) (pos + 40)

def FwVersion.update (old new : FwVersion) : FwVersion :=
  ⟨keepLast old.major new.major, keepLast old.minor new.minor⟩

def FirmwareVersions.update (v fip : FirmwareVersions) : FirmwareVersions where
  ifwi := v.ifwi.update fip.ifwi
  scu := v.scu.update fip.scu
  oem := v.oem.update fip.oem
  punit := v.punit.update fip.punit
  ia32 := v.ia32.update fip.ia32
  suppIa32 := v.suppIa32.update fip.suppIa32
  chaabiIcache := v.chaabiIcache.update fip.chaabiIcache
  chaabiRes := v.chaabiRes.update fip.chaabiRes
  chaabiExt := v.chaabiExt.update fip.chaabiExt

def isFip (image : List UInt8) (pos : Nat) : Bool := le32 (bytesOf image) pos == FIP_PATTERN

/-- The inner loop of `get_image_fw_rev`; `sz` is what is left of the image behind `pos`. -/
def scanFipMagic (image : List UInt8) (pos : Nat) : Option Nat :=
  scan (isFip image) 4 fipBytes image.length pos

theorem scanFipMagic_ge {image : List UInt8} {pos hit : Nat}
    (found : scanFipMagic image pos = some hit) : pos ≤ hit := (scan_eq_some found).1.1

def getImageLoop (image : List UInt8) (pos : Nat) (magicFound : Bool) (v : FirmwareVersions) :
    Option FirmwareVersions :=
  if _inside : pos + fipBytes ≤ image.length then
    match _found : scanFipMagic image pos with
    | some hit => getImageLoop image (hit + 4) true (v.update (fipHeader image hit))
    | none => if magicFound then some v else none
  else some v
termination_by image.length - pos
decreasing_by
  have := scanFipMagic_ge _found
  simp only [fipBytes] at _inside
  omega

/-- `get_image_fw_rev`; `none` is its -1. -/
def getImageFwRev (image : List UInt8) : Option FirmwareVersions :=
  getImageLoop image 0 false .zero

/-- The inner loop of `crack_update_fw`: one byte further after each `fread` of an `int`. -/
def findFipPattern (image : List UInt8) (pos : Nat) : Option Nat :=
  scan (isFip image) 1 4 image.length pos

theorem findFipPattern_ge {image : List UInt8} {pos hit : Nat}
    (found : findFipPattern image pos = some hit) : pos ≤ hit := (scan_eq_some found).1.1

/-- The outer loop. A header that was read is behind the file position, so after a zero
version the search goes on past it. -/
def crackLoop (image : List UInt8) (pos : Nat) : Option FwVersion :=
  match _found : findFipPattern image pos with
  | none => none
  | some location =>
      if _fits : location + fipBytes ≤ image.length then
        if (fipHeader image location).ifwi = .zero then crackLoop image (location + fipBytes)
        else some (fipHeader image location).ifwi
      else none
termination_by image.length - pos
decreasing_by
  have := findFipPattern_ge _found
  simp only [fipBytes] at *
  omega

/-- `crack_update_fw` on a file that holds the image; `none` is its -1. -/
def crackUpdateFw (image : List UInt8) : Option FwVersion := crackLoop image 0

end A500cg.Ifwi
