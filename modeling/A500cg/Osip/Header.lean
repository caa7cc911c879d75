import A500cg.Lib.Flash

/-! The OSIP directory of `update_osip.h`: the in-memory structures, their
224-byte little-endian layout and the XOR checksum `get_osip_crc`. -/

namespace A500cg.Osip

open Lib

def LBA_SIZE : Nat := 512
def MAX_OSIP_DESC : Nat := 8

/-- Literals name entries of the directory. -/
scoped instance neZero_maxOsipDesc : NeZero 8 := ⟨by decide⟩

def OSIP_SIG : UInt32 := 0x24534f24
def DDR_LOAD_ADDX : UInt32 := 0x01100000
def ENTRY_POINT : UInt32 := 0x01101000

/-- `struct OSII`, one directory entry of 24 bytes; `attr` is its `attribute`. -/
@[ext]
structure OSII where
  osRevMinor : UInt16
  osRevMajor : UInt16
  logicalStartBlock : UInt32
  ddrLoadAddress : UInt32
  entryPoint : UInt32
  sizeOfOsImage : UInt32
  attr : UInt8
  reserved : Fin 3 → UInt8
  deriving DecidableEq

@[ext]
structure OSIPHeader where
  sig : UInt32
  intelReserved : UInt8
  headerRevMinor : UInt8
  headerRevMajor : UInt8
  headerChecksum : UInt8
  numPointers : UInt8
  numImages : UInt8
  headerSize : UInt16
  reserved : Fin 5 → UInt32
  desc : Fin 8 → OSII
  deriving DecidableEq

def OSII.zero : OSII := ⟨0, 0, 0, 0, 0, 0, 0, fun _ => 0⟩

def OSII.ofBytes (buf : Buffer) : OSII where
  osRevMinor := le16 buf 0
  osRevMajor := le16 buf 2
  logicalStartBlock := le32 buf 4
  ddrLoadAddress := le32 buf 8
  entryPoint := le32 buf 12
  sizeOfOsImage := le32 buf 16
  attr := buf 20
  reserved := fun i => buf (21 + i)

def OSII.byte (d : OSII) (i : Nat) : UInt8 :=
  if i < 2 then leByte d.osRevMinor.toNat i
  else if i < 4 then leByte d.osRevMajor.toNat (i - 2)
  else if i < 8 then leByte d.logicalStartBlock.toNat (i - 4)
  else if i < 12 then leByte d.ddrLoadAddress.toNat (i - 8)
  else if i < 16 then leByte d.entryPoint.toNat (i - 12)
  else if i < 20 then leByte d.sizeOfOsImage.toNat (i - 16)
  else if i = 20 then d.attr
  else if h : i - 21 < 3 then d.reserved ⟨i - 21, h⟩ else 0

def OSIPHeader.ofBytes (buf : Buffer) : OSIPHeader where
  sig := le32 buf 0
  intelReserved := buf 4
  headerRevMinor := buf 5
  headerRevMajor := buf 6
  headerChecksum := buf 7
  numPointers := buf 8
  numImages := buf 9
  headerSize := le16 buf 10
  reserved := fun i => le32 buf (12 + 4 * i)
  desc := fun i => OSII.ofBytes (fun k => buf (32 + 24 * i + k))

def OSIPHeader.byte (h : OSIPHeader) (i : Nat) : UInt8 :=
  if i < 4 then leByte h.sig.toNat i
  else if i = 4 then h.intelReserved
  else if i = 5 then h.headerRevMinor
  else if i = 6 then h.headerRevMajor
  else if i = 7 then h.headerChecksum
  else if i = 8 then h.numPointers
  else if i = 9 then h.numImages
  else if i < 12 then leByte h.headerSize.toNat (i - 10)
  else if r : (i - 12) / 4 < 5 then leByte (h.reserved ⟨(i - 12) / 4, r⟩).toNat ((i - 12) % 4)
  else if e : (i - 32) / 24 < 8 then (h.desc ⟨(i - 32) / 24, e⟩).byte ((i - 32) % 24) else 0

def headerBytes : Nat := 224

theorem OSII.ofBytes_of_byte (d : OSII) (buf : Buffer)
    (bytes : ∀ i < 24, buf i = d.byte i) : OSII.ofBytes buf = d := by
  have word (offset : Nat) (field : UInt32) (fits : offset + 4 ≤ 24)
      (stored : ∀ k < 4, d.byte (offset + k) = leByte field.toNat k) :
      le32 buf offset = field := by
    apply le32_leByte
    intro k bound
    rw [bytes (offset + k) (by omega), stored k bound]
  have half (offset : Nat) (field : UInt16) (fits : offset + 2 ≤ 24)
      (stored : ∀ k < 2, d.byte (offset + k) = leByte field.toNat k) :
      le16 buf offset = field := by
    apply le16_leByte
    intro k bound
    rw [bytes (offset + k) (by omega), stored k bound]
  ext1
  · exact half 0 _ (by decide) (by intro k bound; interval_cases k <;> rfl)
  · exact half 2 _ (by decide) (by intro k bound; interval_cases k <;> rfl)
  · exact word 4 _ (by decide) (by intro k bound; interval_cases k <;> rfl)
  · exact word 8 _ (by decide) (by intro k bound; interval_cases k <;> rfl)
  · exact word 12 _ (by decide) (by intro k bound; interval_cases k <;> rfl)
  · exact word 16 _ (by decide) (by intro k bound; interval_cases k <;> rfl)
  · exact bytes 20 (by decide)
  · funext i
    change buf (21 + i) = _
    rw [bytes (21 + i) (by omega)]
    fin_cases i <;> rfl

theorem OSII.byte_ofBytes (buf : Buffer) (i : Nat) (bound : i < 24) :
    (OSII.ofBytes buf).byte i = buf i := by
  unfold OSII.byte OSII.ofBytes
  split
  · rw [leByte_le16 _ _ _ (by omega), Nat.zero_add]
  split
  · rw [leByte_le16 _ _ _ (by omega), Nat.add_sub_cancel' (by omega)]
  split
  · rw [leByte_le32 _ _ _ (by omega), Nat.add_sub_cancel' (by omega)]
  split
  · rw [leByte_le32 _ _ _ (by omega), Nat.add_sub_cancel' (by omega)]
  split
  · rw [leByte_le32 _ _ _ (by omega), Nat.add_sub_cancel' (by omega)]
  split
  · rw [leByte_le32 _ _ _ (by omega), Nat.add_sub_cancel' (by omega)]
  split
  · rename_i cell
    rw [cell]
  · have tail : i - 21 < 3 := by omega
    rw [dif_pos tail]
    exact congrArg buf (by simp only; omega)

theorem OSIPHeader.byte_desc (h : OSIPHeader) (i : Fin 8) (k : Nat) (bound : k < 24) :
    h.byte (32 + 24 * i + k) = (h.desc i).byte k := by
  have index : (32 + 24 * i.val + k - 32) / 24 = i := by omega
  have rest : (32 + 24 * i.val + k - 32) % 24 = k := by omega
  have past : ¬ (32 + 24 * i.val + k - 12) / 4 < 5 := by omega
  simp only [OSIPHeader.byte]
  simp only [show ¬ 32 + 24 * i.val + k < 4 by omega, show ¬ 32 + 24 * i.val + k = 4 by omega,
    show ¬ 32 + 24 * i.val + k = 5 by omega, show ¬ 32 + 24 * i.val + k = 6 by omega,
    show ¬ 32 + 24 * i.val + k = 7 by omega, show ¬ 32 + 24 * i.val + k = 8 by omega,
    show ¬ 32 + 24 * i.val + k = 9 by omega, show ¬ 32 + 24 * i.val + k < 12 by omega,
    past, index, rest, i.isLt, ↓reduceIte, ↓reduceDIte]

theorem OSIPHeader.ofBytes_of_byte (h : OSIPHeader) (buf : Buffer)
    (bytes : ∀ i < headerBytes, buf i = h.byte i) : OSIPHeader.ofBytes buf = h := by
  simp only [headerBytes] at bytes
  ext1
  · apply le32_leByte
    intro k bound
    rw [bytes _ (by omega)]
    interval_cases k <;> rfl
  · exact bytes 4 (by decide)
  · exact bytes 5 (by decide)
  · exact bytes 6 (by decide)
  · exact bytes 7 (by decide)
  · exact bytes 8 (by decide)
  · exact bytes 9 (by decide)
  · apply le16_leByte
    intro k bound
    rw [bytes _ (by omega)]
    interval_cases k <;> rfl
  · funext i
    apply le32_leByte
    intro k bound
    rw [bytes _ (by omega)]
    fin_cases i <;> interval_cases k <;> rfl
  · funext i
    apply OSII.ofBytes_of_byte
    intro k bound
    rw [bytes _ (by omega), OSIPHeader.byte_desc h i k bound]

theorem OSIPHeader.byte_ofBytes (buf : Buffer) (i : Nat) (bound : i < headerBytes) :
    (OSIPHeader.ofBytes buf).byte i = buf i := by
  simp only [headerBytes] at bound
  by_cases table : 32 ≤ i
  · have entry : (i - 32) / 24 < 8 := by omega
    have split : i = 32 + 24 * (⟨(i - 32) / 24, entry⟩ : Fin 8) + (i - 32) % 24 := by
      simp only
      omega
    rw [split, OSIPHeader.byte_desc _ _ _ (by omega)]
    exact OSII.byte_ofBytes _ _ (by omega)
  · have place : i < 4 ∨ i = 4 ∨ i = 5 ∨ i = 6 ∨ i = 7 ∨ i = 8 ∨ i = 9 ∨
        (10 ≤ i ∧ i < 12) ∨ 12 ≤ i := by omega
    rcases place with low | rfl | rfl | rfl | rfl | rfl | rfl | size | words
    · rw [OSIPHeader.byte, if_pos low]
      exact (leByte_le32 buf 0 i low).trans (congrArg buf (Nat.zero_add i))
    iterate 6 exact rfl
    · have shape : (OSIPHeader.ofBytes buf).byte i = leByte (le16 buf 10).toNat (i - 10) := by
        rcases size with ⟨lower, upper⟩
        interval_cases i <;> rfl
      rw [shape, leByte_le16 _ _ _ (by omega), Nat.add_sub_cancel' (by omega)]
    · have shape : (OSIPHeader.ofBytes buf).byte i =
          leByte (le32 buf (12 + 4 * ((i - 12) / 4))).toNat ((i - 12) % 4) := by
        have upper : i < 32 := by omega
        clear bound table
        interval_cases i <;> rfl
      rw [shape, leByte_le32 _ _ _ (by omega)]
      exact congrArg buf (by omega)

def getOsipCrc (osip : OSIPHeader) : UInt8 :=
  (List.range' 2 (headerBytes - 2)).foldl (fun crc i => crc ^^^ osip.byte i)
    (osip.byte 0 ^^^ osip.byte 1)

private theorem foldl_xor_eq (f : Nat → UInt8) (start count : Nat) :
    (List.range' start count).foldl (fun crc i => crc ^^^ f i) (xorRange f start) =
      xorRange f (start + count) := by
  induction count generalizing start with
  | zero => rfl
  | succ count ih =>
      rw [List.range'_succ, List.foldl_cons]
      change List.foldl _ (xorRange f (start + 1)) _ = _
      rw [ih, Nat.add_right_comm, Nat.add_assoc]

theorem getOsipCrc_eq (osip : OSIPHeader) : getOsipCrc osip = xorRange osip.byte headerBytes := by
  have first : xorRange osip.byte 2 = osip.byte 0 ^^^ osip.byte 1 := by
    simp only [xorRange, zero_xor]
  rw [getOsipCrc, ← first, foldl_xor_eq]
  rfl

theorem OSIPHeader.byte_checksum (h : OSIPHeader) (value : UInt8) (i : Nat) :
    { h with headerChecksum := value }.byte i = Function.update h.byte 7 value i := by
  by_cases cell : i = 7
  · subst cell
    rw [Function.update_self]
    rfl
  · rw [Function.update_of_ne cell]
    simp only [OSIPHeader.byte, cell, ↓reduceIte]

/-- The checksum step of `write_OSIP`: clear the field, then store the XOR of the rest. -/
def OSIPHeader.seal (osip : OSIPHeader) : OSIPHeader :=
  { osip with headerChecksum := getOsipCrc { osip with headerChecksum := 0 } }

theorem getOsipCrc_seal (osip : OSIPHeader) : getOsipCrc osip.seal = 0 := by
  have stored : osip.seal.byte =
      Function.update osip.byte 7 (xorRange (Function.update osip.byte 7 0) headerBytes) := by
    funext i
    rw [OSIPHeader.seal, OSIPHeader.byte_checksum, getOsipCrc_eq]
    congr 2
    funext j
    exact OSIPHeader.byte_checksum osip 0 j
  rw [getOsipCrc_eq, stored]
  exact xorRange_balanced osip.byte headerBytes 7 (by decide)

/-- Why an operation on the directory gives up. The system-call failures come
last; the ones before them are verdicts on the arguments or on the directory. -/
inductive OsipError where
  | badIndex (index : Int)
  | tooManyRecords
  | dataFormat
  | unhandledAttribute (attr : UInt8)
  | noPlace
  | tooLarge (image max : UInt32)
  | corrupt
  | openFailed
  | seekFailed
  | readFailed
  | writeFailed
  | outOfMemory
  deriving DecidableEq, Repr

def OsipError.isValidation : OsipError → Bool
  | .badIndex _ | .tooManyRecords | .dataFormat | .unhandledAttribute _ | .noPlace
  | .tooLarge _ _ => true
  | _ => false

def OSIPHeader.getDesc (osip : OSIPHeader) (k : Nat) : Outcome OsipError OSII :=
  if h : k < 8 then .ok (osip.desc ⟨k, h⟩) else .stray k

def OSIPHeader.setDesc (osip : OSIPHeader) (k : Nat) (d : OSII) : Outcome OsipError OSIPHeader :=
  if h : k < 8 then .ok { osip with desc := Function.update osip.desc ⟨k, h⟩ d } else .stray k

theorem OSIPHeader.getDesc_fin (osip : OSIPHeader) (i : Fin 8) :
    osip.getDesc i = .ok (osip.desc i) := dif_pos i.isLt

theorem OSIPHeader.setDesc_fin (osip : OSIPHeader) (i : Fin 8) (d : OSII) :
    osip.setDesc i d = .ok { osip with desc := Function.update osip.desc i d } := dif_pos i.isLt

def OSIPHeader.count (osip : OSIPHeader) : Nat := osip.numPointers.toNat

def OSII.start (d : OSII) : Nat := d.logicalStartBlock.toNat

def OSII.blocks (d : OSII) : Nat := d.sizeOfOsImage.toNat

end A500cg.Osip
