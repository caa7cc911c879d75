import A500cg.Osip.Slots

/-! The operations of `update_osip.c` and `flash_osip/bootimage.c` on the device.

`size_t`, `unsigned` and `off_t` are 32 bits wide. Diagnostics on `stderr` are
left out. A transfer is one step that ends whole or after some of its bytes. -/

namespace A500cg.Osip

open Lib Flash

def ATTR_SIGNED_KERNEL : UInt8 := 0
def ATTR_UNSIGNED_KERNEL : UInt8 := 1
def ATTR_SIGNED_COS : UInt8 := 0x0A
def ATTR_SIGNED_POS : UInt8 := 0x0E
def ATTR_SIGNED_ROS : UInt8 := 0x0C
def ATTR_SIGNED_COMB : UInt8 := 0x10
def ATTR_SIGNED_FW : UInt8 := 8
def ATTR_UNSIGNED_FW : UInt8 := 9
def ATTR_NOTUSED : UInt8 := 0xff
def ATTR_SIGNED_SPLASHSCREEN : UInt8 := 0x04
def ATTR_SIGNED_RAMDUMPOS : UInt8 := 0x16

def attrClass (attr : UInt8) : UInt8 := attr &&& 0xfe

theorem attrClass_even (attr : UInt8) : attrClass attr &&& 1 = 0 := by
  rw [attrClass, UInt8.and_assoc]
  exact UInt8.and_zero

def read32 (addr : Nat) : Flash OsipError UInt32 := do
  let buf ← readAt .readFailed addr
  pure (le32 buf 0)

def readOSIP : Flash OsipError OSIPHeader := do
  call .openFailed
  let buf ← readAt .readFailed 0
  let osip := OSIPHeader.ofBytes buf
  lift (Outcome.require (getOsipCrc osip = 0) .corrupt)
  pure osip

def writeOSIP (osip : OSIPHeader) : Flash OsipError Unit := do
  call .openFailed
  writeAt .writeFailed 0 headerBytes osip.seal.byte

def crackStitchedImage (data : Buffer) : Outcome OsipError OSII := do
  let osip := OSIPHeader.ofBytes data
  Outcome.require (osip.numPointers = 1) .tooManyRecords
  pure (osip.desc 0)

def OSIP_BACKUP_OFFSET : Nat := 0xE0

/-- `destroy_the_osip_backup`; the result of its `write` is not looked at. -/
def destroyTheOsipBackup : Flash OsipError Unit := do
  call .openFailed
  let sig ← read32 OSIP_BACKUP_OFFSET
  if sig = OSIP_SIG then do
    let _ ← attempt (writeAt OsipError.writeFailed OSIP_BACKUP_OFFSET 4 (fun _ => 0xff))
    pure ()
  else pure ()

def checkIndexOutofbound (osiiIndex : Int) : Outcome OsipError Unit :=
  Outcome.require (¬ (osiiIndex < 0 ∨ osiiIndex ≥ MAX_OSIP_DESC)) (.badIndex osiiIndex)

def osClasses : List UInt8 :=
  [ATTR_SIGNED_KERNEL, ATTR_SIGNED_POS, ATTR_SIGNED_COS, ATTR_SIGNED_ROS, ATTR_SIGNED_COMB,
   ATTR_SIGNED_SPLASHSCREEN, ATTR_SIGNED_RAMDUMPOS, ATTR_UNSIGNED_KERNEL]

def fwClasses : List UInt8 := [ATTR_SIGNED_FW, ATTR_UNSIGNED_FW]

/-- The switch on the image's class in `write_stitch_image_ex`: where the image
goes and how many blocks it may have. -/
def chooseSlot (osip : OSIPHeader) (attr : UInt8) (largeImage : Bool) :
    Outcome OsipError (UInt32 × UInt32) :=
  if attrClass attr ∈ osClasses then
    if largeImage then .ok (OS_START_OFFSET, OS_MAX_LBA * OS_SLOTS)
    else do
      let lba ← getFreeOsLba osip
      pure (lba, OS_MAX_LBA)
  else if attrClass attr ∈ fwClasses then do
    let lba ← getFreeFwLba osip
    pure (lba, FW_MAX_LBA)
  else .error (.unhandledAttribute attr)

def OSII.placedAt (osii : OSII) (lba : UInt32) : OSII := { osii with logicalStartBlock := lba }

/-- Lines 523 to 562 of `write_stitch_image_ex`; the second test for block 0 is dead. -/
def placeImage (osip : OSIPHeader) (osii : OSII) (largeImage : Bool) : Outcome OsipError OSII := do
  let (lba, maxSizeLba) ← chooseSlot osip osii.attr largeImage
  Outcome.require (lba ≠ 0) .noPlace
  Outcome.require (osii.sizeOfOsImage ≤ maxSizeLba) (.tooLarge osii.sizeOfOsImage maxSizeLba)
  pure (osii.placedAt lba)

/-- Assigns `num_pointers` and the `header_size` that goes with it. -/
def OSIPHeader.resize (osip : OSIPHeader) (numPointers : UInt8) : OSIPHeader :=
  { osip with
    numPointers := numPointers
    headerSize := numPointers.toUInt16 * 0x18 + 0x20 }

def preserveInvalidation (old osii : OSII) : OSII :=
  if old.ddrLoadAddress = 0 ∧ old.entryPoint = 0 then
    { osii with ddrLoadAddress := old.ddrLoadAddress, entryPoint := old.entryPoint }
  else osii

def overwrittenClasses : List UInt8 :=
  [ATTR_SIGNED_KERNEL, ATTR_SIGNED_POS, ATTR_SIGNED_COS, ATTR_SIGNED_ROS, ATTR_SIGNED_COMB,
   ATTR_SIGNED_RAMDUMPOS, ATTR_UNSIGNED_KERNEL, attrClass ATTR_NOTUSED]

/-- The second switch of `write_stitch_image_ex`: overwrite the entry, or move it
behind the last one when it is of another class. -/
def storeEntry (osip : OSIPHeader) (osii : OSII) (index : Nat) :
    Outcome OsipError OSIPHeader := do
  let old ← osip.getDesc index
  if attrClass old.attr ∈ overwrittenClasses then osip.setDesc index osii
  else if attrClass old.attr = attrClass osii.attr then osip.setDesc index osii
  else do
    let osip ← osip.setDesc osip.count old
    let osip ← osip.setDesc index osii
    pure (osip.resize (osip.numPointers + 1))

/-- Lines 563 to 595 of `write_stitch_image_ex`. -/
def updateTable (osip : OSIPHeader) (osii : OSII) (index : Nat) :
    Outcome OsipError OSIPHeader :=
  if index ≥ osip.count then
    storeEntry (osip.resize (UInt8.ofNat (index + 1))) osii index
  else do
    let old ← osip.getDesc index
    storeEntry osip (preserveInvalidation old osii) index

/-- `lseek` takes the 32-bit byte offset as a signed number and refuses a negative one. -/
def seekBlock (lba : UInt32) : Outcome OsipError Nat := do
  let offset := lba * 512
  Outcome.require (offset.toNat < 2 ^ 31) .seekFailed
  pure offset.toNat

def writeBlob (data : Buffer) (size : UInt32) (lba : UInt32) : Flash OsipError Unit := do
  call .openFailed
  let offset ← lift (seekBlock lba)
  writeAt .writeFailed offset (size - 512).toNat (fun i => data (LBA_SIZE + i))

/-- `write_stitch_image_ex` up to its final `write_OSIP`; returns the directory to commit. -/
def stitchImage (data : Buffer) (size : UInt32) (osiiIndex : Int) (largeImage : Bool) :
    Flash OsipError OSIPHeader := do
  lift (checkIndexOutofbound osiiIndex)
  let osii ← lift (crackStitchedImage data)
  lift (Outcome.require (osii.sizeOfOsImage * 512 = size - 512) .dataFormat)
  let osip ← readOSIP
  let _ ← attempt destroyTheOsipBackup
  let osii ← lift (placeImage osip osii largeImage)
  let osip ← lift (updateTable osip osii osiiIndex.toNat)
  writeBlob data size osii.logicalStartBlock
  pure osip

def writeStitchImageEx (data : Buffer) (size : UInt32) (osiiIndex : Int) (largeImage : Bool) :
    Flash OsipError Unit := do
  let osip ← stitchImage data size osiiIndex largeImage
  writeOSIP osip

def writeStitchImage (data : Buffer) (size : UInt32) (osiiIndex : Int) : Flash OsipError Unit :=
  writeStitchImageEx data size osiiIndex false

def getNamedOsiiAttr (destination : String) : Option (UInt8 × Nat) :=
  if destination = "boot" then some (ATTR_SIGNED_KERNEL, 1)
  else if destination = "recovery" then some (ATTR_SIGNED_ROS, 1)
  else if destination = "fastboot" then some (ATTR_SIGNED_POS, 1)
  else if destination = "droidboot" then some (ATTR_SIGNED_POS, 1)
  else if destination = "splashscreen" then some (ATTR_SIGNED_SPLASHSCREEN, 1)
  else if destination = "splashscreen2" then some (ATTR_SIGNED_SPLASHSCREEN, 2)
  else if destination = "splashscreen3" then some (ATTR_SIGNED_SPLASHSCREEN, 3)
  else if destination = "splashscreen4" then some (ATTR_SIGNED_SPLASHSCREEN, 4)
  else if destination = "silentlake" then some (ATTR_SIGNED_FW, 1)
  else if destination = "ramdump" then some (ATTR_SIGNED_RAMDUMPOS, 1)
  else none

inductive OsipOperation where
  | readOsipHeader
  | writeOsipHeader
  deriving DecidableEq, Repr

/-- The loop of `get_attribute_osii_index`: the entry found, if any, and the
instance number the loop stopped at. -/
def findInstance (osip : OSIPHeader) (attr : UInt8) (wanted : Nat) :
    List Nat → Nat → Outcome OsipError (Option Nat × Nat)
  | [], current => .ok (none, current)
  | i :: rest, current => do
      let d ← osip.getDesc i
      if attrClass d.attr = attr then
        if current = wanted then .ok (some i, current)
        else findInstance osip attr wanted rest (current + 1)
      else findInstance osip attr wanted rest current

def resolveIndex (osip : OSIPHeader) (attr : UInt8) (wanted : Nat) (operation : OsipOperation) :
    Outcome OsipError Int := do
  match ← findInstance osip attr wanted (List.range osip.count) 1 with
  | (some i, _) => pure i
  | (none, current) =>
      pure (if current = wanted ∧ operation = .writeOsipHeader then osip.count else -1)

def getAttributeOsiiIndex (attr : UInt8) (wanted : Nat) (operation : OsipOperation) :
    Flash OsipError Int := do
  match ← attempt readOSIP with
  | none => pure (-1)
  | some osip => lift (resolveIndex osip attr wanted operation)

def getNamedOsiiIndex (destination : String) (operation : OsipOperation) :
    Flash OsipError Int :=
  match getNamedOsiiAttr destination with
  | none => pure (-1)
  | some (attr, wanted) => getAttributeOsiiIndex attr wanted operation

def setPointers (osip : OSIPHeader) (index : Nat) (ddrLoadAddress entryPoint : UInt32) :
    Outcome OsipError OSIPHeader := do
  let d ← osip.getDesc index
  osip.setDesc index { d with ddrLoadAddress := ddrLoadAddress, entryPoint := entryPoint }

def updateOsii (destination : String) (ddrLoadAddress entryPoint : UInt32) :
    Flash OsipError Unit := do
  let osiiIndex ← getNamedOsiiIndex destination .readOsipHeader
  lift (checkIndexOutofbound osiiIndex)
  let osip ← readOSIP
  let osip ← lift (setPointers osip osiiIndex.toNat ddrLoadAddress entryPoint)
  writeOSIP osip

def invalidateOsii (destination : String) : Flash OsipError Unit := updateOsii destination 0 0

def restoreOsii (destination : String) : Flash OsipError Unit :=
  updateOsii destination DDR_LOAD_ADDX ENTRY_POINT

/-- The static header of `oem_write_osip_header`; `write_OSIP` fills in the checksum. -/
def defaultOsip : OSIPHeader where
  sig := OSIP_SIG
  intelReserved := 0
  headerRevMinor := 0
  headerRevMajor := 1
  headerChecksum := 0
  numPointers := 1
  numImages := 1
  headerSize := 0
  reserved := fun _ => 0
  desc := fun _ => OSII.zero

def oemWriteOsipHeader : Flash OsipError Unit := do
  let _ ← attempt (writeOSIP defaultOsip)
  let _ ← attempt (restoreOsii "boot")
  let _ ← attempt (restoreOsii "recovery")
  let _ ← attempt (restoreOsii "fastboot")
  pure ()

/-- The attribute `flash_image_osip` gives the image: the class the name stands
for (-1 for an unknown name), keeping the image's own bit 0. -/
def renamedAttribute (name : String) (attr : UInt8) : UInt8 :=
  (match getNamedOsiiAttr name with
    | some (named, _) => named
    | none => 0xff) + (attr &&& ATTR_UNSIGNED_KERNEL)

def attributeOffset : Nat := 52

def flashImageOsip (data : Buffer) (sz : UInt32) (name : String) : Flash OsipError Unit :=
  if name = "testos" then do
    oemWriteOsipHeader
    writeStitchImageEx data sz 0 true
  else do
    let index ← getNamedOsiiIndex name .writeOsipHeader
    let data := Function.update data attributeOffset
      (renamedAttribute name (data attributeOffset))
    lift (checkIndexOutofbound index)
    writeStitchImage data sz index

end A500cg.Osip
