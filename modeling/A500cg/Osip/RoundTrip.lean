import A500cg.Osip.Read

/-! Reading back an image that was just flashed. -/

namespace A500cg.Osip

open Lib Flash

/-- The blob is a stitched image that could be flashed again: the payload of `data`
behind a block with the record of `osii`. -/
structure ReadsBack (data : Buffer) (size : UInt32) (osii : OSII) (blob : ImageBlob) : Prop where
  length : blob.size = size
  payload : ∀ i, 512 ≤ i → i < size.toNat → blob.data i = data i
  record : ∃ record, crackStitchedImage blob.data = .ok record ∧
    record.sizeOfOsImage * 512 = size - 512 ∧ record.sizeOfOsImage = osii.sizeOfOsImage ∧
    record.attr = osii.attr ∧ record.osRevMinor = osii.osRevMinor ∧
    record.osRevMajor = osii.osRevMajor ∧ record.logicalStartBlock = 1 ∧
    (osii.attr ≠ ATTR_SIGNED_FW → osii.attr ≠ ATTR_UNSIGNED_FW →
      record.entryPoint = ENTRY_POINT ∧ record.ddrLoadAddress = DDR_LOAD_ADDX)
  checksum : xorRange blob.data 56 = 0
  checksums : xorRange blob.data headerBytes = 0
  cookie : blob.data 510 = 0x55 ∧ blob.data 511 = 0xAA

theorem fileOsii_fields (osii : OSII) :
    (fileOsii osii).sizeOfOsImage = osii.sizeOfOsImage ∧ (fileOsii osii).attr = osii.attr ∧
    (fileOsii osii).osRevMinor = osii.osRevMinor ∧ (fileOsii osii).osRevMajor = osii.osRevMajor ∧
    (fileOsii osii).logicalStartBlock = 1 := by
  simp only [fileOsii]
  split <;> exact ⟨rfl, rfl, rfl, rfl, rfl⟩

theorem fileOsii_pointers (osii : OSII) (signed : osii.attr ≠ ATTR_SIGNED_FW)
    (unsigned : osii.attr ≠ ATTR_UNSIGNED_FW) :
    (fileOsii osii).entryPoint = ENTRY_POINT ∧ (fileOsii osii).ddrLoadAddress = DDR_LOAD_ADDX := by
  rw [fileOsii, if_pos ⟨signed, unsigned⟩]
  exact ⟨rfl, rfl⟩

theorem fileOsip_desc (osii : OSII) :
    (fileOsip osii).desc = Function.update (fun _ => OSII.zero) 0 (fileOsii osii) := rfl

theorem imageBlob_header (memory : Buffer) (osii : OSII) (content : Buffer) (k : Nat)
    (header : k < 56) : (imageBlob memory osii content).data k = (fileOsip osii).byte k := by
  rw [imageBlob_block _ _ _ k (by omega), stitchedBlock_header _ _ k header]

theorem imageBlob_record (memory : Buffer) (osii : OSII) (content : Buffer) :
    crackStitchedImage (imageBlob memory osii content).data = .ok (fileOsii osii) := by
  have single : (OSIPHeader.ofBytes (imageBlob memory osii content).data).numPointers = 1 :=
    imageBlob_header memory osii content 8 (by decide)
  rw [crackStitchedImage_eq, if_pos single]
  congr 1
  apply OSII.ofBytes_of_byte
  intro k bound
  have place := (fileOsip osii).byte_desc 0 k bound
  rw [fileOsip_desc, Function.update_self] at place
  rw [← place]
  exact imageBlob_header memory osii content (32 + 24 * 0 + k) (by omega)

private theorem fileOsip_tail (osii : OSII) (i : Nat) (bound : i < 168) :
    (fileOsip osii).byte (56 + i) = 0 := by
  have index : i / 24 + 1 < 8 := by omega
  have place := (fileOsip osii).byte_desc ⟨i / 24 + 1, index⟩ (i % 24) (Nat.mod_lt _ (by decide))
  have other : (⟨i / 24 + 1, index⟩ : Fin 8) ≠ 0 := by
    intro zero
    have value := congrArg Fin.val zero
    simp at value
  have offset : 32 + 24 * (i / 24 + 1) + i % 24 = 56 + i := by omega
  rw [fileOsip_desc, Function.update_of_ne other] at place
  simp only [offset] at place
  rw [place]
  have zero : ∀ k : Fin 24, OSII.zero.byte k = 0 := by decide
  exact zero ⟨i % 24, Nat.mod_lt _ (by decide)⟩

private theorem fileOsip_checksum (osii : OSII) : xorRange (fileOsip osii).byte 56 = 0 := by
  have whole : xorRange (fileOsip osii).byte (56 + 168) = 0 := by
    have sealed := getOsipCrc_seal { fileOsip osii with headerChecksum := 0 }
    rw [getOsipCrc_eq] at sealed
    exact sealed
  rw [xorRange_add, xorRange_zero _ 168 (fileOsip_tail osii), xor_zero] at whole
  exact whole

theorem imageBlob_checksum (memory : Buffer) (osii : OSII) (content : Buffer) :
    xorRange (imageBlob memory osii content).data 56 = 0 := by
  rw [← fileOsip_checksum osii]
  exact xorRange_congr _ _ _ (fun k header => imageBlob_header memory osii content k header)

theorem imageBlob_checksums (memory : Buffer) (osii : OSII) (content : Buffer) :
    xorRange (imageBlob memory osii content).data headerBytes = 0 := by
  change xorRange _ (56 + 168) = 0
  have ones : xorRange (fun i => (imageBlob memory osii content).data (56 + i)) 168 =
      xorRange (fun _ => (0xff : UInt8)) 168 := by
    apply xorRange_congr
    intro i bound
    rw [imageBlob_block _ _ _ _ (by omega), stitchedBlock_ones _ _ _ (by omega) (by omega)]
  have even : xorRange (fun _ => (0xff : UInt8)) 168 = 0 := xorRange_const 0xff 84
  rw [xorRange_add, imageBlob_checksum, ones, even, xor_zero]

theorem updateTable_desc {osip table : OSIPHeader} {osii : OSII} {index : Fin 8}
    (update : updateTable osip osii index = .ok table) :
    table.desc index = storedEntry osip osii index := by
  rw [updateTable_eq] at update
  split at update
  · cases update
    exact Function.update_self ..
  · split at update
    · cases update
      exact Function.update_self ..
    · cases update

structure Flashed (data : Buffer) (size : UInt32) (index : Fin 8) (osii : OSII) (w' : World) :
    Prop where
  accepted : Accepted w'
  length : size.toNat = 512 * (osii.blocks + 1)
  small : osii.blocks ≤ 32000
  start : (((directory w').desc index).logicalStartBlock * 512).toNat < 2 ^ 31
  entry : ((directory w').desc index).sizeOfOsImage = osii.sizeOfOsImage ∧
    ((directory w').desc index).attr = osii.attr ∧
    ((directory w').desc index).osRevMinor = osii.osRevMinor ∧
    ((directory w').desc index).osRevMajor = osii.osRevMajor
  blob : ∀ i < 512 * osii.blocks,
    w'.content ((((directory w').desc index).logicalStartBlock * 512).toNat + i) = data (512 + i)

private theorem image_length {size : UInt32} {osii : OSII}
    (length : osii.sizeOfOsImage * 512 = size - 512) (small : osii.blocks ≤ 32000) :
    size.toNat = 512 * (osii.blocks + 1) := by
  have payload := payload_length length (by omega)
  have value : (size - 512).toNat = (2 ^ 32 - 512 + size.toNat) % 2 ^ 32 := UInt32.toNat_sub ..
  have bound := size.toNat_lt
  omega

theorem writeStitchImage_flashed {data : Buffer} {size : UInt32} {osiiIndex : Int} {w w' : World}
    (few : (directory w).count ≤ 8)
    (wrote : writeStitchImage data size osiiIndex w = (.ok (), w')) :
    ∃ (index : Fin 8) (osii : OSII), osiiIndex = index ∧ crackStitchedImage data = .ok osii ∧
      Flashed data size index osii w' := by
  rcases writeStitchImageEx_cases wrote with ⟨_, same, _⟩ | ⟨_, same, _⟩ |
    ⟨table, middle, stitch, commit⟩
  · cases same
  · cases same
  cases stitch with
  | written osii placed _ backup _ checked plan destroyed initial log =>
      obtain ⟨index, rfl⟩ : ∃ index : Fin 8, osiiIndex = index :=
        ⟨⟨osiiIndex.toNat, by have := checked.lower; have := checked.upper; omega⟩,
          (Int.toNat_of_nonneg checked.lower).symm⟩
      rcases stitchPlan_inv plan with ⟨place, update⟩
      rw [Int.toNat_natCast] at update
      rcases placeImage_slot few place with ⟨slots, limit, slotted, member, _, _, small, shape⟩
      have bounds := slot_bounds slotted member
      have offset := slot_byte_offset slotted member
      have fits : osii.blocks ≤ 32000 := by omega
      have payload := payload_length checked.length (by omega)
      rcases storedEntry_fields (directory w) placed index with ⟨start, blocks, minor, major⟩
      have entry : (directory w').desc index = storedEntry (directory w) placed index := by
        rw [directory_committed commit]
        change table.desc index = _
        exact updateTable_desc update
      have attr := storedEntry_attr (directory w) placed index
      rw [shape] at blocks minor major attr
      refine ⟨index, osii, rfl, checked.record, accepted_committed commit,
        image_length checked.length fits, fits, ?_, ?_, ?_⟩
      · rw [entry, start, offset]
        omega
      · rw [entry, shape]
        exact ⟨blocks, attr, minor, major⟩
      · intro i bound
        have stored : middle.content = overlay backup.content (512 * placed.logicalStartBlock.toNat)
            (512 * osii.blocks) (Osip.payload data) := by
          rw [World.content_of_log initial log, offset, payload]
        rw [entry, start, offset, writeOSIP_content commit,
          overlay_outside _ _ _ _ _ (by unfold headerBytes; omega), stored,
          overlay_inside _ _ _ _ _ bound]
        rfl

theorem Flashed.readsBack {data : Buffer} {size : UInt32} {index : Fin 8} {osii : OSII}
    {w : World} (flashed : Flashed data size index osii w) (held : Buffer) :
    blobSize ((directory w).desc index) ≠ 0 ∧
      ReadsBack data size osii (imageBlob held ((directory w).desc index) w.content) := by
  rcases flashed.entry with ⟨sameSize, attr, minor, major⟩
  have length := flashed.length
  have small := flashed.small
  have blobs : blobSize ((directory w).desc index) = size := by
    apply UInt32.toNat_inj.mp
    rw [blobSize, sameSize, UInt32.toNat_mul, UInt32.toNat_add]
    change (osii.blocks + 1) % 2 ^ 32 * 512 % 2 ^ 32 = size.toNat
    omega
  have payload : (size - 512).toNat = 512 * osii.blocks := by
    have value : (size - 512).toNat = (2 ^ 32 - 512 + size.toNat) % 2 ^ 32 := UInt32.toNat_sub ..
    omega
  obtain ⟨fileSize, fileAttr, fileMinor, fileMajor, fileStart⟩ :=
    fileOsii_fields ((directory w).desc index)
  constructor
  · rw [blobs]
    intro same
    rcases same with rfl
    have zero : (0 : UInt32).toNat = 0 := rfl
    omega
  · refine ⟨blobs, ?_, ⟨_, imageBlob_record held _ w.content, ?_⟩, imageBlob_checksum _ _ _,
      imageBlob_checksums _ _ _, ?_⟩
    · intro i lower upper
      obtain ⟨k, rfl⟩ : ∃ k, i = 512 + k := ⟨i - 512, by omega⟩
      rw [imageBlob_payload _ _ _ k (by rw [blobs, payload]; omega)]
      exact flashed.blob k (by omega)
    · refine ⟨?_, fileSize.trans sameSize, fileAttr.trans attr, fileMinor.trans minor,
        fileMajor.trans major, fileStart, ?_⟩
      · rw [fileSize, sameSize]
        apply UInt32.toNat_inj.mp
        rw [payload, UInt32.toNat_mul]
        change osii.blocks * 512 % 2 ^ 32 = _
        omega
      · intro signed unsigned
        rw [← attr] at signed unsigned
        exact fileOsii_pointers _ signed unsigned
    · rw [imageBlob_block _ _ _ 510 (by decide), imageBlob_block _ _ _ 511 (by decide)]
      exact stitchedBlock_cookie _ _

/-- After a successful flash the image can be read back from its entry, and every
successful read returns it. -/
theorem write_read_round_trip {data : Buffer} {size : UInt32} {osiiIndex : Int} {w w' v : World}
    (few : (directory w).count ≤ 8)
    (wrote : writeStitchImage data size osiiIndex w = (.ok (), w')) (same : w'.Same v)
    (held : Buffer) :
    ∃ (index : Fin 8) (osii : OSII), osiiIndex = index ∧ crackStitchedImage data = .ok osii ∧
      (Healthy v → ∃ blob, readOsimageData (some held) index v = (.ok blob, v)) ∧
      ∀ blob v', readOsimageData (some held) index v = (.ok blob, v') →
        ReadsBack data size osii blob := by
  rcases writeStitchImage_flashed few wrote with ⟨index, osii, position, record, flashed⟩
  have unchanged := directory_same same
  rcases flashed.readsBack held with ⟨nonempty, back⟩
  refine ⟨index, osii, position, record, ?_, ?_⟩
  · intro healthy
    have accepted : Accepted v := by
      rw [Accepted, unchanged]
      exact flashed.accepted
    rw [← unchanged] at nonempty
    exact ⟨_, readOsimageData_healthy held healthy accepted nonempty (by
      rw [unchanged]
      exact flashed.start)⟩
  · intro blob v' ran
    rcases readOsimageData_ok ran with ⟨_, given, _, rfl⟩
    cases given
    rw [unchanged, same.content_eq]
    exact back

theorem write_read_sevens :
    ∃ w', writeStitchImage (plainImage 0 1 fun _ => 7) 1024 0 twoImageDevice = (.ok (), w') ∧
      ∃ blob, readOsimageData (some fun _ => 0) 0 w' = (.ok blob, w') ∧
        ReadsBack (plainImage 0 1 fun _ => 7) 1024 (plainRecord 0 1) blob := by
  have few : (directory twoImageDevice).count ≤ 8 := by
    rw [twoImageDevice_directory]
    decide
  rcases sevens_written with ⟨w', wrote, healthy⟩
  obtain ⟨index, osii, position, record, reads, back⟩ :=
    write_read_round_trip few wrote (World.Same.refl w') (fun _ => 0)
  have zero : index = 0 := by exact_mod_cast position.symm
  rw [zero] at reads back
  rw [plainImage_record] at record
  cases record
  rcases reads healthy with ⟨blob, ran⟩
  exact ⟨w', wrote, blob, ran, back blob w' ran⟩

end A500cg.Osip
