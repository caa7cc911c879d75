import A500cg.Osip.PowerCut
import A500cg.Util.Interrupted

/-! What `write_stitch_image_ex` has made sure of when it comes to write the image's data. -/

namespace A500cg.Osip

open Lib Flash

/-- The directory to commit, the image's record, and where the data goes. -/
structure DataWrite where
  table : OSIPHeader
  osii : OSII
  offset : Nat

/-- `write_stitch_image_ex` up to the loop that writes the data. -/
def beforeDataWrite (data : Buffer) (size : UInt32) (osiiIndex : Int) (largeImage : Bool) :
    Flash OsipError DataWrite := do
  lift (checkIndexOutofbound osiiIndex)
  let osii ← lift (crackStitchedImage data)
  lift (Outcome.require (osii.sizeOfOsImage * 512 = size - 512) .dataFormat)
  let osip ← readOSIP
  let _ ← attempt destroyTheOsipBackup
  let osii ← lift (placeImage osip osii largeImage)
  let osip ← lift (updateTable osip osii osiiIndex.toNat)
  call .openFailed
  let offset ← lift (seekBlock osii.logicalStartBlock)
  pure ⟨osip, osii, offset⟩

theorem stitchImage_eq (data : Buffer) (size : UInt32) (osiiIndex : Int) (largeImage : Bool) :
    stitchImage data size osiiIndex largeImage =
      beforeDataWrite data size osiiIndex largeImage >>= fun write =>
        writeAt .writeFailed write.offset (size - 512).toNat (payload data) >>= fun _ =>
          pure write.table := by
  simp only [stitchImage, beforeDataWrite, writeBlob, Flash.bind_assoc]
  rfl

def imageSlots (attr : UInt8) (largeImage : Bool) : List UInt32 × Nat :=
  if attrClass attr ∈ osClasses then
    if largeImage then ([OS_START_OFFSET], 9 * 32000) else (osLbaSlots, 32000)
  else (fwLbaSlots, 2000)

def imageArea (attr : UInt8) : Nat × Nat :=
  if attrClass attr ∈ osClasses then (4050, 4050 + 9 * 32000) else (50, 4050)

theorem chooseSlot_ok {osip : OSIPHeader} {attr : UInt8} {largeImage : Bool} {lba limit : UInt32}
    (chosen : chooseSlot osip attr largeImage = .ok (lba, limit)) (found : lba ≠ 0) :
    lba ∈ (imageSlots attr largeImage).1 ∧ limit.toNat = (imageSlots attr largeImage).2 := by
  simp only [chooseSlot, imageSlots] at chosen ⊢
  by_cases os : attrClass attr ∈ osClasses
  · rw [if_pos os] at chosen ⊢
    cases largeImage with
    | true =>
        cases chosen
        exact ⟨List.mem_singleton_self _, rfl⟩
    | false =>
        rcases Outcome.bind_ok_inv chosen with ⟨free, search, same⟩
        cases same
        exact ⟨getFreeLba_ok_mem search found, rfl⟩
  · rw [if_neg os] at chosen ⊢
    split at chosen
    · rcases Outcome.bind_ok_inv chosen with ⟨free, search, same⟩
      cases same
      exact ⟨getFreeLba_ok_mem search found, rfl⟩
    · cases chosen

theorem imageSlots_area {attr : UInt8} {largeImage : Bool} {lba : UInt32}
    (member : lba ∈ (imageSlots attr largeImage).1) :
    50 ≤ (imageArea attr).1 ∧ (imageArea attr).1 ≤ lba.toNat ∧
      lba.toNat + (imageSlots attr largeImage).2 ≤ (imageArea attr).2 ∧
      (imageArea attr).2 ≤ 292050 ∧ (imageSlots attr largeImage).2 ≤ 288000 := by
  simp only [imageSlots, imageArea] at member ⊢
  by_cases os : attrClass attr ∈ osClasses
  · rw [if_pos os] at member ⊢
    rw [if_pos os]
    cases largeImage with
    | true =>
        rw [List.mem_singleton.mp member]
        decide
    | false =>
        rcases osLbaSlots_bounds lba member with ⟨k, below, place⟩
        simp only [Bool.false_eq_true, if_false]
        omega
  · rw [if_neg os] at member ⊢
    rw [if_neg os]
    rcases fwLbaSlots_bounds lba member with ⟨k, below, place⟩
    dsimp only
    omega

theorem beforeDataWrite_ok {data : Buffer} {size : UInt32} {osiiIndex : Int} {largeImage : Bool}
    {w w' : World} {write : DataWrite}
    (reached : beforeDataWrite data size osiiIndex largeImage w = (.ok write, w')) :
    ∃ osip osii, crackStitchedImage data = .ok osii ∧ osii.sizeOfOsImage * 512 = size - 512 ∧
      placeImage osip osii largeImage = .ok write.osii ∧
      seekBlock write.osii.logicalStartBlock = .ok write.offset := by
  rcases bind_lift_ok_inv reached with ⟨_, _, rest⟩
  rcases bind_lift_ok_inv rest with ⟨osii, record, rest⟩
  rcases bind_lift_ok_inv rest with ⟨_, length, rest⟩
  rcases bind_ok_inv rest with ⟨osip, middle, _, rest⟩
  rcases bind_ok_inv rest with ⟨_, middle, _, rest⟩
  rcases bind_lift_ok_inv rest with ⟨placed, place, rest⟩
  rcases bind_lift_ok_inv rest with ⟨table, _, rest⟩
  rcases bind_ok_inv rest with ⟨_, middle, _, rest⟩
  rcases bind_lift_ok_inv rest with ⟨offset, seek, rest⟩
  cases rest
  exact ⟨osip, osii, record, Outcome.require_ok length, place, seek⟩

theorem size_of_check {n size : UInt32} (check : n * 512 = size - 512) (small : n.toNat ≤ 288000) :
    size.toNat = 512 * (n.toNat + 1) ∧ (n * 512).toNat = n.toNat * 512 ∧
      (size - 512).toNat = size.toNat - 512 := by
  have width := size.toNat_lt
  have product : (n * 512).toNat = n.toNat * 512 := by
    rw [UInt32.toNat_mul]
    change n.toNat * 512 % 2 ^ 32 = _
    omega
  have difference : (size - 512).toNat = (2 ^ 32 - 512 + size.toNat) % 2 ^ 32 := by
    rw [UInt32.toNat_sub]
    rfl
  have same := congrArg UInt32.toNat check
  rw [product, difference] at same
  rw [product, difference]
  omega

def blobStores (data : Buffer) (offset : Nat) (t : Util.Transfer) : List ByteWrite :=
  t.moved.zipIdx.map fun entry => ⟨offset + entry.2, data (LBA_SIZE + entry.1 : Int).toNat⟩

theorem blobStores_places {data : Buffer} {offset n : Nat} {t : Util.Transfer}
    (moved : t.moved = Util.places n) :
    blobStores data offset t = writesAt offset n (payload data) := by
  rw [blobStores, moved, writesAt]
  apply List.ext_getElem
  · simp [Util.places]
  · intro i _ _
    simp only [Util.places, List.getElem_map, List.getElem_zipIdx, List.getElem_range, Nat.zero_add]
    rfl

/-- With `n` the number of blocks in the image's record and `start` its place: the size is
that of `n` blocks behind the header, nothing wraps, and the place is one of the image's class. -/
structure Exact (data : Buffer) (size : UInt32) (largeImage : Bool) (write : DataWrite) : Prop where
  record : write.osii.sizeOfOsImage = ((OSIPHeader.ofBytes data).desc 0).sizeOfOsImage ∧
    write.osii.attr = ((OSIPHeader.ofBytes data).desc 0).attr
  whole : size.toNat = 512 * (write.osii.sizeOfOsImage.toNat + 1)
  limit : write.osii.sizeOfOsImage.toNat ≤ (imageSlots write.osii.attr largeImage).2
  product : (write.osii.sizeOfOsImage * 512).toNat = write.osii.sizeOfOsImage.toNat * 512
  difference : (size - 512).toNat = size.toNat - 512
  start : (write.osii.logicalStartBlock * 512).toNat = write.osii.logicalStartBlock.toNat * 512
  offset : write.offset = 512 * write.osii.logicalStartBlock.toNat
  slot : write.osii.logicalStartBlock ∈ (imageSlots write.osii.attr largeImage).1
  lower : 50 ≤ (imageArea write.osii.attr).1 ∧
    (imageArea write.osii.attr).1 ≤ write.osii.logicalStartBlock.toNat
  upper : write.osii.logicalStartBlock.toNat + write.osii.sizeOfOsImage.toNat ≤
    (imageArea write.osii.attr).2

theorem beforeDataWrite_exact {data : Buffer} {size : UInt32} {osiiIndex : Int}
    {largeImage : Bool} {w w' : World} {write : DataWrite}
    (reached : beforeDataWrite data size osiiIndex largeImage w = (.ok write, w')) :
    Exact data size largeImage write := by
  rcases beforeDataWrite_ok reached with ⟨osip, osii, record, check, place, seek⟩
  rcases placeImage_ok place with ⟨lba, limit, chosen, found, small, placed⟩
  rcases chooseSlot_ok chosen found with ⟨member, most⟩
  have area := imageSlots_area member
  have few : osii.sizeOfOsImage.toNat ≤ limit.toNat := UInt32.le_iff_toNat_le.mp small
  rcases size_of_check check (by omega) with ⟨whole, product, difference⟩
  have start : (lba * 512).toNat = lba.toNat * 512 := by
    rw [UInt32.toNat_mul]
    change lba.toNat * 512 % 2 ^ 32 = _
    omega
  have cracked : osii = (OSIPHeader.ofBytes data).desc 0 := by
    rcases Outcome.bind_ok_inv record with ⟨_, _, same⟩
    exact (Outcome.ok.inj same).symm
  rw [placed, placedAt_start, seekBlock_pos (by omega), start] at seek
  have offset : write.offset = 512 * lba.toNat := by
    rw [← Outcome.ok.inj seek, Nat.mul_comm]
  refine ⟨?_, ?_, ?_, ?_, difference, ?_, ?_, ?_, ?_, ?_⟩ <;>
    simp only [placed, placedAt_start, placedAt_size, placedAt_attr]
  · rw [cracked]
    exact ⟨rfl, rfl⟩
  · exact whole
  · omega
  · exact product
  · exact start
  · exact offset
  · exact member
  · exact ⟨area.1, area.2.1⟩
  · omega

/-- When the data is written, the image has passed every check of its size, and calls that each
transfer something store exactly its blocks at its place. -/
theorem data_write_exact {data : Buffer} {size : UInt32} {osiiIndex : Int} {largeImage : Bool}
    {w w' : World} {write : DataWrite}
    (reached : beforeDataWrite data size osiiIndex largeImage w = (.ok write, w')) :
    stitchImage data size osiiIndex largeImage w =
      (writeAt .writeFailed write.offset (size - 512).toNat (payload data) >>= fun _ =>
        pure write.table) w' ∧
    Exact data size largeImage write ∧
    ∀ (errno : Int) (schedule : List Util.CallResult),
      (∀ result ∈ schedule, ∃ n, 0 < n ∧ result = .count n) →
      ((Util.writeBlob size errno schedule).status = some 0 →
        blobStores data write.offset (Util.writeBlob size errno schedule) =
          writesAt (512 * write.osii.logicalStartBlock.toNat)
            (512 * write.osii.sizeOfOsImage.toNat) (payload data)) ∧
      (512 * write.osii.sizeOfOsImage.toNat ≤ schedule.length →
        (Util.writeBlob size errno schedule).status = some 0) ∧
      ∀ store ∈ blobStores data write.offset (Util.writeBlob size errno schedule),
        512 * write.osii.logicalStartBlock.toNat ≤ store.addr ∧
          store.addr < 512 *
            (write.osii.logicalStartBlock.toNat + write.osii.sizeOfOsImage.toNat) := by
  have exact := beforeDataWrite_exact reached
  refine ⟨?_, exact, fun errno schedule moving => ?_⟩
  · rw [stitchImage_eq, bind_of_ok reached]
  have length : (size - 512).toNat = 512 * write.osii.sizeOfOsImage.toNat := by
    rw [exact.difference, exact.whole]
    omega
  have started : (Util.Transfer.start (size - 512) errno).status = none ∨
      (Util.Transfer.start (size - 512) errno).status = some 0 := by
    rw [Util.Transfer.start, Util.Transfer.test]
    split
    · exact Or.inr rfl
    · exact Or.inl rfl
  rcases (Util.Transfer.InStep.start (size - 512) errno).progress started moving with ⟨inStep, ended⟩
  change Util.Transfer.InStep (size - 512) (Util.writeBlob size errno schedule) at inStep
  change (Util.writeBlob size errno schedule).status = some 0 ∨
    ((Util.writeBlob size errno schedule).status = none ∧ _ ≤
      (Util.writeBlob size errno schedule).moved.length) at ended
  have left := inStep.left
  refine ⟨fun done => ?_, fun enough => ?_, fun store member => ?_⟩
  · rw [blobStores_places (inStep.complete done), length, exact.offset]
  · rcases ended with done | ⟨running, moved⟩
    · exact done
    · have more := inStep.running running
      omega
  · rw [blobStores_places inStep.moved, exact.offset] at member
    have bounds := mem_writesAt _ _ _ _ member
    omega

theorem beforeDataWrite_healthy {data : Buffer} {size : UInt32} {osiiIndex : Int} {osii placed : OSII}
    {table : OSIPHeader} {w : World} {largeImage : Bool} (healthy : Healthy w)
    (checked : Checked data size osiiIndex osii w)
    (plan : stitchPlan (directory w) osii osiiIndex largeImage = .ok (placed, table))
    (positive : (placed.logicalStartBlock * 512).toNat < 2 ^ 31) :
    beforeDataWrite data size osiiIndex largeImage w =
      (.ok ⟨table, placed, (placed.logicalStartBlock * 512).toNat⟩, afterBackup w) := by
  rcases stitchPlan_inv plan with ⟨place, update⟩
  have places : lift (placeImage (directory w) osii largeImage) (afterBackup w) =
      (.ok placed, afterBackup w) := by
    rw [place, lift_apply]
  have updates : lift (updateTable (directory w) placed osiiIndex.toNat) (afterBackup w) =
      (.ok table, afterBackup w) := by
    rw [update, lift_apply]
  have seeks : lift (seekBlock placed.logicalStartBlock) (afterBackup w) =
      (.ok (placed.logicalStartBlock * 512).toNat, afterBackup w) := by
    rw [seekBlock_pos positive, lift_apply]
  have opens : call OsipError.openFailed (afterBackup w) = (.ok (), afterBackup w) :=
    call_healthy _ _ (afterBackup_healthy w healthy)
  rw [beforeDataWrite, bind_of_ok checked.inside, bind_of_ok checked.cracked,
    bind_of_ok checked.sized,
    bind_of_ok (readOSIP_healthy w healthy checked.accepted),
    bind_of_ok (destroyTheOsipBackup_healthy w healthy), bind_of_ok places, bind_of_ok updates,
    bind_of_ok opens, bind_of_ok seeks, pure_apply]

theorem data_write_exact_first_slot :
    ∃ (write : DataWrite) (w' : World),
      beforeDataWrite (plainImage 0 1 (fun _ => 0xAA)) 1024 0 false
        (deviceWith { defaultOsip with numPointers := 0 }) = (.ok write, w') ∧
      write.offset = 512 * 4050 ∧
      Exact (plainImage 0 1 (fun _ => 0xAA)) 1024 false write := by
  have osip := directory_deviceWith { defaultOsip with numPointers := 0 }
  have checked : Checked (plainImage 0 1 (fun _ => 0xAA)) 1024 0 (plainRecord 0 1)
      (deviceWith { defaultOsip with numPointers := 0 }) :=
    plainImage_checked (by decide) (by decide) (accepted_deviceWith _) (by decide)
  have place : placeImage (directory (deviceWith { defaultOsip with numPointers := 0 }))
      (plainRecord 0 1) false = .ok ((plainRecord 0 1).placedAt 4050) := by
    rw [osip]
    exact plainImage_placed (by decide) (by decide : slotTable 0 = some (osLbaSlots, OS_MAX_LBA))
      (by decide) (by decide)
  have update : updateTable (directory (deviceWith { defaultOsip with numPointers := 0 }))
      ((plainRecord 0 1).placedAt 4050) 0 = .ok (overwritten
        { defaultOsip with numPointers := 0 }.seal ((plainRecord 0 1).placedAt 4050) 0) := by
    have replaces : Replaces { defaultOsip with numPointers := 0 }.seal
        ((plainRecord 0 1).placedAt 4050) 0 := by decide
    have shape := updateTable_eq { defaultOsip with numPointers := 0 }.seal
      ((plainRecord 0 1).placedAt 4050) 0
    rw [if_pos replaces] at shape
    rw [osip]
    exact shape
  have healthy : Healthy (deviceWith { defaultOsip with numPointers := 0 }) := rfl
  have reached := beforeDataWrite_healthy healthy checked (stitchPlan_ok place update) (by decide)
  exact ⟨_, _, reached, by decide, (data_write_exact reached).2.1⟩

end A500cg.Osip
