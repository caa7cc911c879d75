import A500cg.Osip.Rejected

/-! `read_osimage_data` and the digests computed over what it returns.

The block it puts before the payload is rebuilt in memory `malloc` returned, and
the 70 bytes between the run of 0xFF and the boot signature are never stored. -/

namespace A500cg.Osip

open Lib Flash

structure ImageBlob where
  data : Buffer
  size : UInt32

def ImageBlob.bytes (blob : ImageBlob) : List UInt8 :=
  (List.range blob.size.toNat).map blob.data

def fileOsii (osii : OSII) : OSII :=
  if osii.attr ≠ ATTR_SIGNED_FW ∧ osii.attr ≠ ATTR_UNSIGNED_FW then
    (osii.placedAt 1).pointTo DDR_LOAD_ADDX ENTRY_POINT
  else osii.placedAt 1

def fileOsip (osii : OSII) : OSIPHeader :=
  OSIPHeader.seal
    { sig := OSIP_SIG
      intelReserved := 0
      headerRevMinor := 0
      headerRevMajor := 1
      headerChecksum := 0
      numPointers := 1
      numImages := 1
      headerSize := 1 * 0x18 + 0x20
      reserved := fun _ => 0
      desc := Function.update (fun _ => OSII.zero) 0 (fileOsii osii) }

def stitchedBlock (memory : Buffer) (osii : OSII) : Buffer :=
  let blob := overlay memory 0 headerBytes (fileOsip osii).byte
  let blob := overlay blob 0x38 384 (fun _ => 0xFF)
  let blob := Function.update blob (0x38 + 384 + 70) 0x55
  Function.update blob (0x38 + 384 + 70 + 1) 0xAA

/-- `(osii->size_of_os_image + 1) * LBA_SIZE` in a 32-bit `size_t`. -/
def blobSize (osii : OSII) : UInt32 := (osii.sizeOfOsImage + 1) * 512

/-- Stores into the block before the payload; a blob that has no block 0, because
its size wrapped to 0, is overrun from its first byte on. -/
def rebuildBlock (memory : Buffer) (osii : OSII) : Outcome OsipError Buffer :=
  if blobSize osii = 0 then .stray 0 else .ok (stitchedBlock memory osii)

/-- `read_osimage_data`; `memory` is what `malloc` returns, with what it holds. -/
def readOsimageData (memory : Option Buffer) (osiiIndex : Nat) : Flash OsipError ImageBlob := do
  let osip ← readOSIP
  let osii ← lift (osip.getDesc osiiIndex)
  match memory with
  | none => lift (.error .outOfMemory)
  | some memory => do
      let blob ← lift (rebuildBlock memory osii)
      let left := blobSize osii - 0x38 - 384 - 70 - 2
      call .openFailed
      let offset ← lift (seekBlock osii.logicalStartBlock)
      let image ← readAt .readFailed offset
      pure ⟨overlay blob LBA_SIZE left.toNat image, blobSize osii⟩

def readImageOsip (name : String) (memory : Option Buffer) : Flash OsipError ImageBlob := do
  let index ← getNamedOsiiIndex name .readOsipHeader
  lift (checkIndexOutofbound index)
  readOsimageData memory index.toNat

/-- What `check_recovery_image` and `patch_recovery` compare with the digest they
were given, for the images `recovery` and `boot`. -/
def imageDigest (shaHash : List UInt8 → List UInt8) (name : String) (memory : Option Buffer) :
    Flash OsipError (List UInt8) := do
  let blob ← readImageOsip name memory
  pure (shaHash blob.bytes)

/-- What `read_osimage_data` returns when it succeeds. -/
def imageBlob (memory : Buffer) (osii : OSII) (content : Buffer) : ImageBlob where
  data := overlay (stitchedBlock memory osii) LBA_SIZE (blobSize osii - 512).toNat
    (fun i => content ((osii.logicalStartBlock * 512).toNat + i))
  size := blobSize osii

private theorem blob_left (osii : OSII) :
    blobSize osii - 0x38 - 384 - 70 - 2 = blobSize osii - 512 := by
  apply UInt32.toNat_inj.mp
  simp only [UInt32.toNat_sub]
  have bound := (blobSize osii).toNat_lt
  change (2 ^ 32 - 2 + ((2 ^ 32 - 70 + ((2 ^ 32 - 384 +
    ((2 ^ 32 - 56 + (blobSize osii).toNat) % 2 ^ 32)) % 2 ^ 32)) % 2 ^ 32)) % 2 ^ 32 =
      (2 ^ 32 - 512 + (blobSize osii).toNat) % 2 ^ 32
  omega

theorem seekBlock_ok {lba : UInt32} {offset : Nat} (seek : seekBlock lba = .ok offset) :
    offset = (lba * 512).toNat := by
  rcases Outcome.bind_ok_inv seek with ⟨_, _, same⟩
  exact (Outcome.ok.inj same).symm

theorem readOsimageData_ok {memory : Option Buffer} {index : Fin 8} {w w' : World}
    {blob : ImageBlob} (ran : readOsimageData memory index w = (.ok blob, w')) :
    ∃ held, memory = some held ∧ blobSize ((directory w).desc index) ≠ 0 ∧
      blob = imageBlob held ((directory w).desc index) w.content := by
  rcases readOSIP_spec w with ⟨read, same, ⟨_, reads⟩ | ⟨_, _, _, reads⟩⟩
  rotate_left
  · rw [readOsimageData, bind_of_error reads] at ran
    cases ran
  rw [readOsimageData, bind_of_ok reads, OSIPHeader.getDesc_fin, lift_ok_bind] at ran
  cases memory with
  | none => cases ran
  | some held =>
      simp only at ran
      by_cases empty : blobSize ((directory w).desc index) = 0
      · rw [rebuildBlock, if_pos empty] at ran
        cases ran
      refine ⟨held, rfl, empty, ?_⟩
      rw [rebuildBlock, if_neg empty, lift_ok_bind, blob_left] at ran
      rcases bind_ok_inv ran with ⟨_, opened, opens, ran⟩
      rcases bind_lift_ok_inv ran with ⟨offset, seek, ran⟩
      rcases bind_ok_inv ran with ⟨image, _, transfers, done⟩
      have unchanged : w.Same opened := by
        have touched : read.Touches (fun _ => False) (call OsipError.openFailed read).2 :=
          Confined.call OsipError.openFailed read
        rw [opens] at touched
        exact same.trans touched.same
      rcases readAt_spec OsipError.readFailed offset opened with ⟨_, _, transfers' | transfers'⟩
      · rw [transfers] at transfers'
        cases transfers'
        cases done
        rw [unchanged.content_eq, seekBlock_ok seek]
        rfl
      · rw [transfers] at transfers'
        cases transfers'

theorem readOsimageData_healthy {index : Fin 8} {w : World} (held : Buffer) (healthy : Healthy w)
    (accepted : Accepted w) (nonempty : blobSize ((directory w).desc index) ≠ 0)
    (positive : (((directory w).desc index).logicalStartBlock * 512).toNat < 2 ^ 31) :
    readOsimageData (some held) index w =
      (.ok (imageBlob held ((directory w).desc index) w.content), w) := by
  rw [readOsimageData, bind_of_ok (readOSIP_healthy w healthy accepted), OSIPHeader.getDesc_fin,
    lift_ok_bind]
  simp only
  rw [rebuildBlock, if_neg nonempty, lift_ok_bind, blob_left,
    bind_of_ok (call_healthy _ w healthy), seekBlock_pos positive, lift_ok_bind,
    bind_of_ok (readAt_healthy _ _ w healthy), pure_apply]
  rfl

theorem stitchedBlock_header (memory : Buffer) (osii : OSII) (k : Nat) (header : k < 56) :
    stitchedBlock memory osii k = (fileOsip osii).byte k := by
  have inside := overlay_inside memory 0 headerBytes (fileOsip osii).byte k (by
    simp only [headerBytes]
    omega)
  rw [Nat.zero_add] at inside
  rw [stitchedBlock, Function.update_of_ne (by omega), Function.update_of_ne (by omega),
    overlay_outside _ _ _ _ _ (by omega), inside]

theorem stitchedBlock_ones (memory : Buffer) (osii : OSII) (k : Nat) (lower : 56 ≤ k)
    (upper : k < 440) : stitchedBlock memory osii k = 0xff := by
  have inside : 0x38 ≤ k ∧ k < 0x38 + 384 := by omega
  rw [stitchedBlock, Function.update_of_ne (by omega), Function.update_of_ne (by omega),
    overlay, if_pos inside]

theorem stitchedBlock_gap (memory : Buffer) (osii : OSII) (k : Nat) (lower : 440 ≤ k)
    (outside : k ≠ 510 ∧ k ≠ 511) : stitchedBlock memory osii k = memory k := by
  rw [stitchedBlock, Function.update_of_ne (by omega), Function.update_of_ne (by omega),
    overlay_outside _ _ _ _ _ (by omega), overlay_outside _ _ _ _ _ (by
      simp only [headerBytes]
      omega)]

theorem stitchedBlock_cookie (memory : Buffer) (osii : OSII) :
    stitchedBlock memory osii 510 = 0x55 ∧ stitchedBlock memory osii 511 = 0xAA := by
  constructor
  · rw [stitchedBlock, Function.update_of_ne (by omega), Function.update_self]
  · rw [stitchedBlock, Function.update_self]

theorem stitchedBlock_congr (first second : Buffer) (osii : OSII) (k : Nat) (block : k < 512)
    (agree : 440 ≤ k → k < 510 → first k = second k) :
    stitchedBlock first osii k = stitchedBlock second osii k := by
  by_cases header : k < 56
  · rw [stitchedBlock_header _ _ k header, stitchedBlock_header _ _ k header]
  · by_cases ones : k < 440
    · rw [stitchedBlock_ones _ _ k (by omega) ones, stitchedBlock_ones _ _ k (by omega) ones]
    · by_cases gap : k < 510
      · rw [stitchedBlock_gap _ _ k (by omega) (by omega),
          stitchedBlock_gap _ _ k (by omega) (by omega), agree (by omega) gap]
      · have marker : k = 510 ∨ k = 511 := by omega
        rcases marker with rfl | rfl
        · rw [(stitchedBlock_cookie first osii).1, (stitchedBlock_cookie second osii).1]
        · rw [(stitchedBlock_cookie first osii).2, (stitchedBlock_cookie second osii).2]

theorem blobSize_block {osii : OSII} (nonempty : blobSize osii ≠ 0) :
    512 ≤ (blobSize osii).toNat ∧ (blobSize osii).toNat = 512 + (blobSize osii - 512).toNat := by
  have value : (blobSize osii).toNat = (osii.sizeOfOsImage + 1).toNat * 512 % 2 ^ 32 :=
    UInt32.toNat_mul ..
  have positive : (blobSize osii).toNat ≠ 0 := fun zero => nonempty (UInt32.toNat_inj.mp zero)
  have whole : (blobSize osii - 512).toNat = (2 ^ 32 - 512 + (blobSize osii).toNat) % 2 ^ 32 :=
    UInt32.toNat_sub ..
  have bound := (blobSize osii).toNat_lt
  omega

theorem imageBlob_block (memory : Buffer) (osii : OSII) (content : Buffer) (k : Nat)
    (block : k < 512) :
    (imageBlob memory osii content).data k = stitchedBlock memory osii k := by
  have below : k < LBA_SIZE := block
  unfold imageBlob
  simp only
  rw [overlay_outside _ _ _ _ _ (.inl below)]

theorem imageBlob_payload (memory : Buffer) (osii : OSII) (content : Buffer) (i : Nat)
    (bound : i < (blobSize osii - 512).toNat) :
    (imageBlob memory osii content).data (512 + i) =
      content ((osii.logicalStartBlock * 512).toNat + i) := by
  unfold imageBlob
  simp only
  exact overlay_inside _ LBA_SIZE _ _ i bound

theorem imageBlob_bytes_iff (first second : Buffer) (osii : OSII) (content : Buffer)
    (nonempty : blobSize osii ≠ 0) :
    (imageBlob first osii content).bytes = (imageBlob second osii content).bytes ↔
      ∀ k, 440 ≤ k → k < 510 → first k = second k := by
  have sizes := blobSize_block nonempty
  have bytes : (imageBlob first osii content).bytes = (imageBlob second osii content).bytes ↔
      ∀ k < (blobSize osii).toNat,
        (imageBlob first osii content).data k = (imageBlob second osii content).data k := by
    simp only [ImageBlob.bytes]
    constructor
    · intro equal k bound
      exact List.map_inj_left.mp equal k (List.mem_range.mpr bound)
    · intro equal
      exact List.map_inj_left.mpr (fun k member => equal k (List.mem_range.mp member))
  rw [bytes]
  constructor
  · intro equal k lower upper
    have same := equal k (by omega)
    rwa [imageBlob_block _ _ _ k (by omega), imageBlob_block _ _ _ k (by omega),
      stitchedBlock_gap _ _ k lower (by omega), stitchedBlock_gap _ _ k lower (by omega)] at same
  · intro agree k bound
    by_cases block : k < 512
    · rw [imageBlob_block _ _ _ k block, imageBlob_block _ _ _ k block]
      exact stitchedBlock_congr _ _ _ k block (agree k)
    · obtain ⟨i, rfl⟩ : ∃ i, k = 512 + i := ⟨k - 512, by omega⟩
      rw [imageBlob_payload _ _ _ i (by omega), imageBlob_payload _ _ _ i (by omega)]

/-- The two stretches of memory agree where the reader stores nothing. -/
def AgreeOnGap (first second : Buffer) : Prop := ∀ k, 440 ≤ k → k < 510 → first k = second k

theorem getNamedOsiiIndex_ok {name : String} {operation : OsipOperation} {w w' : World} {k : Int}
    (ran : getNamedOsiiIndex name operation w = (.ok k, w')) (found : k ≠ -1) :
    w.Same w' ∧ ResolvesTo (directory w) name operation k := by
  have touched := getNamedOsiiIndex_confined (fun _ => False) name operation w
  rw [ran] at touched
  refine ⟨touched.same, ?_⟩
  simp only [getNamedOsiiIndex] at ran
  cases named : getNamedOsiiAttr name with
  | none =>
      rw [named] at ran
      cases ran
      exact absurd rfl found
  | some pair =>
      rcases pair with ⟨attr, wanted⟩
      rw [named] at ran
      change getAttributeOsiiIndex attr wanted operation w = _ at ran
      rcases readOSIP_spec w with ⟨read, _, ⟨_, reads⟩ | ⟨_, _, _, reads⟩⟩
      · rw [getAttributeOsiiIndex, bind_of_ok (attempt_of_ok reads)] at ran
        exact ⟨attr, wanted, named, congrArg Prod.fst ran⟩
      · rw [getAttributeOsiiIndex, bind_of_ok (attempt_of_error reads)] at ran
        cases ran
        exact absurd rfl found

theorem readImageOsip_ok {name : String} {memory : Option Buffer} {w w' : World}
    {blob : ImageBlob} (ran : readImageOsip name memory w = (.ok blob, w')) :
    ∃ (i : Fin 8) (held : Buffer), memory = some held ∧
      ResolvesTo (directory w) name .readOsipHeader i ∧
      blobSize ((directory w).desc i) ≠ 0 ∧
      blob = imageBlob held ((directory w).desc i) w.content := by
  rcases bind_ok_inv ran with ⟨k, middle, lookup, ran⟩
  rcases bind_lift_ok_inv ran with ⟨_, inside, ran⟩
  rcases checkIndexOutofbound_ok inside with ⟨lower, upper⟩
  rcases getNamedOsiiIndex_ok lookup (by omega) with ⟨same, resolved⟩
  have index : k = (⟨k.toNat, by omega⟩ : Fin 8).val := (Int.toNat_of_nonneg lower).symm
  rw [index] at resolved
  obtain ⟨held, given, nonempty, shape⟩ :=
    readOsimageData_ok (show readOsimageData memory (⟨k.toNat, by omega⟩ : Fin 8) middle = _ from ran)
  rw [directory_same same] at nonempty shape
  rw [same.content_eq] at shape
  exact ⟨_, held, given, resolved, nonempty, shape⟩

theorem resolvesTo_unique {osip : OSIPHeader} {name : String} {operation : OsipOperation}
    {i j : Fin 8} (first : ResolvesTo osip name operation i)
    (second : ResolvesTo osip name operation j) : i = j := by
  rcases first with ⟨attr, wanted, named, value⟩
  rcases second with ⟨attr', wanted', named', value'⟩
  rw [named] at named'
  cases named'
  rw [value] at value'
  apply Fin.ext
  exact_mod_cast Outcome.ok.inj value'

theorem imageDigest_determined {shaHash : List UInt8 → List UInt8} {name : String}
    {held held' : Buffer} {v w v' w' : World} {digest digest' : List UInt8} (same : v.Same w)
    (agree : AgreeOnGap held held')
    (ran : imageDigest shaHash name (some held) v = (.ok digest, v'))
    (ran' : imageDigest shaHash name (some held') w = (.ok digest', w')) : digest = digest' := by
  rcases bind_ok_inv ran with ⟨blob, _, read, done⟩
  rcases bind_ok_inv ran' with ⟨blob', _, read', done'⟩
  cases done
  cases done'
  rcases readImageOsip_ok read with ⟨i, _, given, resolved, nonempty, rfl⟩
  rcases readImageOsip_ok read' with ⟨j, _, given', resolved', _, rfl⟩
  cases given
  cases given'
  rw [directory_same same] at resolved'
  rw [← resolvesTo_unique resolved resolved', directory_same same, same.content_eq]
  exact congrArg shaHash ((imageBlob_bytes_iff _ _ _ _ nonempty).mpr agree)

/-- Two successful reads of one entry return the same bytes exactly when the memory
they were given agrees on the 70 bytes before the boot signature. -/
theorem read_determined_iff {index : Fin 8} {held held' : Buffer} {v w v' w' : World}
    {blob blob' : ImageBlob} (same : v.Same w)
    (ran : readOsimageData (some held) index v = (.ok blob, v'))
    (ran' : readOsimageData (some held') index w = (.ok blob', w')) :
    (blob.bytes = blob'.bytes ↔ AgreeOnGap held held') ∧
    (AgreeOnGap held held' → ∀ shaHash name digest digest' after after',
      imageDigest shaHash name (some held) v = (.ok digest, after) →
      imageDigest shaHash name (some held') w = (.ok digest', after') → digest = digest') := by
  constructor
  · rcases readOsimageData_ok ran with ⟨_, given, nonempty, rfl⟩
    rcases readOsimageData_ok ran' with ⟨_, given', _, rfl⟩
    cases given
    cases given'
    rw [directory_same same, same.content_eq]
    exact imageBlob_bytes_iff _ _ _ _ nonempty
  · intro agree shaHash name digest digest' after after' run run'
    exact imageDigest_determined same agree run run'

private theorem twoImageDevice_reads (held : Buffer) :
    readOsimageData (some held) (0 : Fin 8) twoImageDevice =
      (.ok (imageBlob held ((directory twoImageDevice).desc 0) twoImageDevice.content),
        twoImageDevice) := by
  refine readOsimageData_healthy held rfl (accepted_deviceWith _) ?_ ?_
  · rw [twoImageDevice_directory]
    decide
  · rw [twoImageDevice_directory]
    decide

theorem read_determined_zero_one :
    ∃ blob blob', readOsimageData (some fun _ => 0) (0 : Fin 8) twoImageDevice =
        (.ok blob, twoImageDevice) ∧
      readOsimageData (some fun _ => 1) (0 : Fin 8) twoImageDevice = (.ok blob', twoImageDevice) ∧
      (blob.bytes = blob'.bytes ↔ AgreeOnGap (fun _ => 0) (fun _ => 1)) :=
  ⟨_, _, twoImageDevice_reads _, twoImageDevice_reads _,
    (read_determined_iff (World.Same.refl _) (twoImageDevice_reads _)
      (twoImageDevice_reads _)).1⟩

/-- The same entry of the same device, read into memory of zeros and of ones. -/
theorem read_depends_on_memory :
    ∃ blob blob', readOsimageData (some fun _ => 0) (0 : Fin 8) twoImageDevice =
        (.ok blob, twoImageDevice) ∧
      readOsimageData (some fun _ => 1) (0 : Fin 8) twoImageDevice = (.ok blob', twoImageDevice) ∧
      blob.bytes ≠ blob'.bytes := by
  refine ⟨_, _, twoImageDevice_reads _, twoImageDevice_reads _, ?_⟩
  rw [ne_eq, imageBlob_bytes_iff]
  · intro agree
    exact absurd (agree 440 (by decide) (by decide)) (by decide)
  · rw [twoImageDevice_directory]
    decide

end A500cg.Osip
