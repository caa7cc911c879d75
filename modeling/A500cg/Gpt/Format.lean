import A500cg.Gpt.Crc32
import A500cg.Lib.Packed

/-! The records of a GUID partition table and what the tool holds of a drive (`gpt.h`, `cgptlib.h`). -/

namespace A500cg.Gpt

open Lib

structure Guid where
  timeLow : UInt32
  timeMid : UInt16
  timeHighAndVersion : UInt16
  clockSeqHighAndReserved : UInt8
  clockSeqLow : UInt8
  node : Vector UInt8 6
deriving DecidableEq

structure GptHeader where
  signature : Vector UInt8 8
  revision : UInt32
  size : UInt32
  headerCrc32 : UInt32
  reservedZero : UInt32
  myLba : UInt64
  alternateLba : UInt64
  firstUsableLba : UInt64
  lastUsableLba : UInt64
  diskUuid : Guid
  entriesLba : UInt64
  numberOfEntries : UInt32
  sizeOfEntry : UInt32
  entriesCrc32 : UInt32
deriving DecidableEq

structure GptEntry where
  type : Guid
  unique : Guid
  startingLba : UInt64
  endingLba : UInt64
  reserved : Vector UInt16 3
  gptAtt : UInt16
  name : Vector UInt16 36
deriving DecidableEq

/-- The entries of one table: `TOTAL_ENTRIES_SIZE` bytes of `GptEntry`. -/
abbrev Entries := Vector GptEntry 128

def guidCodec : Codec Guid :=
  (Codec.u32.pair (Codec.u16.pair (Codec.u16.pair (Codec.u8.pair (Codec.u8.pair
    (Codec.u8.array 6)))))).map
    (fun p => ⟨p.1, p.2.1, p.2.2.1, p.2.2.2.1, p.2.2.2.2.1, p.2.2.2.2.2⟩)
    (fun g => (g.timeLow, g.timeMid, g.timeHighAndVersion, g.clockSeqHighAndReserved,
      g.clockSeqLow, g.node))
    (fun _ => rfl) (fun _ => rfl)

/-- `signature`, `revision`, `size`: what stands before the checksum. -/
def frontCodec : Codec (Vector UInt8 8 × UInt32 × UInt32) :=
  (Codec.u8.array 8).pair (Codec.u32.pair Codec.u32)

def headerCodec : Codec GptHeader :=
  (frontCodec.pair (Codec.u32.pair (Codec.u32.pair (Codec.u64.pair (Codec.u64.pair
    (Codec.u64.pair (Codec.u64.pair (guidCodec.pair (Codec.u64.pair (Codec.u32.pair
    (Codec.u32.pair Codec.u32))))))))))).map
    (fun p => ⟨p.1.1, p.1.2.1, p.1.2.2, p.2.1, p.2.2.1, p.2.2.2.1, p.2.2.2.2.1, p.2.2.2.2.2.1,
      p.2.2.2.2.2.2.1, p.2.2.2.2.2.2.2.1, p.2.2.2.2.2.2.2.2.1, p.2.2.2.2.2.2.2.2.2.1,
      p.2.2.2.2.2.2.2.2.2.2.1, p.2.2.2.2.2.2.2.2.2.2.2⟩)
    (fun h => ((h.signature, h.revision, h.size), h.headerCrc32, h.reservedZero, h.myLba,
      h.alternateLba, h.firstUsableLba, h.lastUsableLba, h.diskUuid, h.entriesLba,
      h.numberOfEntries, h.sizeOfEntry, h.entriesCrc32))
    (fun _ => rfl) (fun _ => rfl)

def entryCodec : Codec GptEntry :=
  (guidCodec.pair (guidCodec.pair (Codec.u64.pair (Codec.u64.pair ((Codec.u16.array 3).pair
    (Codec.u16.pair (Codec.u16.array 36))))))).map
    (fun p => ⟨p.1, p.2.1, p.2.2.1, p.2.2.2.1, p.2.2.2.2.1, p.2.2.2.2.2.1, p.2.2.2.2.2.2⟩)
    (fun e => (e.type, e.unique, e.startingLba, e.endingLba, e.reserved, e.gptAtt, e.name))
    (fun _ => rfl) (fun _ => rfl)

def entriesCodec : Codec Entries := entryCodec.array 128

theorem headerCodec_width : headerCodec.width = 92 := rfl

theorem entryCodec_width : entryCodec.width = 128 := rfl

theorem entriesCodec_width : entriesCodec.width = 16384 := rfl

structure Mask where
  primary : Bool
  secondary : Bool
deriving DecidableEq

def MASK_NONE : Mask := ⟨false, false⟩
def MASK_PRIMARY : Mask := ⟨true, false⟩
def MASK_SECONDARY : Mask := ⟨false, true⟩
def MASK_BOTH : Mask := ⟨true, true⟩

structure Modified where
  header1 : Bool
  header2 : Bool
  entries1 : Bool
  entries2 : Bool
deriving DecidableEq

def UNMODIFIED : Modified := ⟨false, false, false, false⟩
def MODIFIED_ALL : Modified := ⟨true, true, true, true⟩

inductive GptError where
  | noValidKernel
  | invalidHeaders
  | invalidEntries
  | invalidSectorSize
  | invalidSectorNumber
  | invalidUpdateType
  | crcCorrupted
  | outOfRegion
  | startLbaOverlap
  | endLbaOverlap
  | dupGuid
deriving DecidableEq

structure GptData where
  primaryHeader : Overlay GptHeader
  secondaryHeader : Overlay GptHeader
  primaryEntries : Overlay Entries
  secondaryEntries : Overlay Entries
  sectorBytes : UInt32
  driveSectors : UInt64
  modified : Modified
  validHeaders : Mask
  validEntries : Mask
deriving DecidableEq

def GPT_PMBR_SECTOR : UInt64 := 1
def GPT_HEADER_SECTOR : UInt64 := 1
def GPT_ENTRIES_SECTORS : UInt64 := 32
def TOTAL_ENTRIES_SIZE : UInt32 := 16384

def GPT_HEADER_SIGNATURE : Vector UInt8 8 := #v[0x45, 0x46, 0x49, 0x20, 0x50, 0x41, 0x52, 0x54]
def GPT_HEADER_SIGNATURE2 : Vector UInt8 8 := #v[0x43, 0x48, 0x52, 0x4f, 0x4d, 0x45, 0x4f, 0x53]
def GPT_HEADER_REVISION : UInt32 := 0x00010000

def MIN_SIZE_OF_HEADER : UInt32 := 92
def MAX_SIZE_OF_HEADER : UInt32 := 512
def MIN_NUMBER_OF_ENTRIES : UInt32 := 32
def MAX_NUMBER_OF_ENTRIES : UInt32 := 512

def guidUnused : Guid := ⟨0, 0, 0, 0, 0, #v[0, 0, 0, 0, 0, 0]⟩
def guidChromeosKernel : Guid :=
  ⟨0xfe3a2a5d, 0x4f32, 0x41a7, 0xb7, 0x25, #v[0xac, 0xcc, 0x32, 0x85, 0xa3, 0x09]⟩

/-- `IsUnusedEntry`, and `IsZero` of the entry's type. -/
def GptEntry.isUnused (e : GptEntry) : Bool := e.type == guidUnused

def GptEntry.isKernel (e : GptEntry) : Bool := e.type == guidChromeosKernel

end A500cg.Gpt
