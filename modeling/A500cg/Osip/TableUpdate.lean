import A500cg.Osip.Invariant

/-! What the three writers of the directory make of an arbitrary accepted one:
`write_stitch_image_ex` stores or moves one entry, `update_osii` changes two
pointers, and `oem_write_osip_header` starts over. -/

namespace A500cg.Osip

open Lib Flash

/-- The header states the size that goes with its number of entries. -/
def SizeConsistent (osip : OSIPHeader) : Prop :=
  osip.headerSize.toNat = osip.count * 0x18 + 0x20

/-- The descriptor at the index is overwritten, or there is room behind the last
entry to move it to. -/
def RoomToStore (osip : OSIPHeader) (attr : UInt8) (index : Fin 8) : Prop :=
  attrClass (osip.desc index).attr ∈ overwrittenClasses ∨
    attrClass (osip.desc index).attr = attrClass attr ∨ max osip.count (index + 1) < 8

/-- The directory `table` is `osip` with an image stored at `index`. -/
structure StoresImage (osip : OSIPHeader) (osii : OSII) (index : Fin 8) (table : OSIPHeader) :
    Prop where
  few : table.count ≤ 8
  size : SizeConsistent osip ∨ table.count ≠ osip.count → SizeConsistent table
  grows : osip.count ≤ table.count
  /-- The image's record, at the block where it was placed. -/
  image : index.val < table.count ∧ (table.desc index).attr = osii.attr ∧
    (table.desc index).sizeOfOsImage = osii.sizeOfOsImage ∧
    (table.desc index).osRevMinor = osii.osRevMinor ∧
    (table.desc index).osRevMajor = osii.osRevMajor
  kept : ∀ i : Fin 8, i.val < osip.count → i ≠ index → table.desc i = osip.desc i
  moved : index.val < osip.count → ¬ Replaces osip osii index →
    ∃ last : Fin 8, last.val + 1 = table.count ∧ table.desc last = osip.desc index
  /-- Besides the image, only what was in use before or was passed over on the way
  to the index is in use now. -/
  fresh : ∀ i : Fin 8, i.val < table.count → i ≠ index →
    ∃ j : Fin 8, table.desc i = osip.desc j ∧
      (j.val < osip.count ∨ (osip.count ≤ j.val ∧ j.val ≤ index.val))

theorem StoresImage.seal {osip table : OSIPHeader} {osii : OSII} {index : Fin 8}
    (stored : StoresImage osip osii index table) : StoresImage osip osii index table.seal :=
  ⟨stored.few, stored.size, stored.grows, stored.image, stored.kept, stored.moved, stored.fresh⟩

theorem grow_consistent {osip : OSIPHeader} (index : Fin 8)
    (reason : SizeConsistent osip ∨ (osip.grow index).count ≠ osip.count) :
    SizeConsistent (osip.grow index) := by
  rcases reason with size | grown
  · exact grow_headerSize index size
  · simp only [OSIPHeader.grow] at grown ⊢
    split
    · simp only [SizeConsistent]
      fin_cases index <;> rfl
    · rename_i inside
      rw [if_neg inside] at grown
      exact absurd rfl grown

private theorem stored_image (osip : OSIPHeader) (osii : OSII) (lba : UInt32) (index : Fin 8) :
    (storedEntry osip (osii.placedAt lba) index).attr = osii.attr ∧
    (storedEntry osip (osii.placedAt lba) index).sizeOfOsImage = osii.sizeOfOsImage ∧
    (storedEntry osip (osii.placedAt lba) index).osRevMinor = osii.osRevMinor ∧
    (storedEntry osip (osii.placedAt lba) index).osRevMajor = osii.osRevMajor := by
  rcases storedEntry_fields osip (osii.placedAt lba) index with ⟨_, size, minor, major⟩
  exact ⟨storedEntry_attr osip _ index, size, minor, major⟩

theorem overwritten_storesImage (osip : OSIPHeader) (osii : OSII) (lba : UInt32) (index : Fin 8)
    (few : osip.count ≤ 8) (replaces : Replaces osip osii index) :
    StoresImage osip osii index (overwritten osip (osii.placedAt lba) index) := by
  have count : (overwritten osip (osii.placedAt lba) index).count = max osip.count (index + 1) :=
    grow_count osip index
  have other : ∀ i, i ≠ index →
      (overwritten osip (osii.placedAt lba) index).desc i = osip.desc i := by
    intro i different
    exact Function.update_of_ne different _ _
  have here : (overwritten osip (osii.placedAt lba) index).desc index =
      storedEntry osip (osii.placedAt lba) index := Function.update_self ..
  refine ⟨by omega, grow_consistent index, by omega, ⟨by omega, ?_⟩, ?_, ?_, ?_⟩
  · rw [here]
    exact stored_image osip osii lba index
  · intro i _ different
    exact other i different
  · intro _ moves
    exact absurd replaces moves
  · intro i live different
    have apart : i.val ≠ index.val := fun same => different (Fin.ext same)
    exact ⟨i, other i different, by omega⟩

private theorem displaced_count (osip : OSIPHeader) (osii : OSII) (index last : Fin 8)
    (end_ : last.val = (osip.grow index).count) :
    (displaced osip osii index last).count = last + 1 := by
  change ((osip.grow index).numPointers + 1).toNat = _
  have value : (osip.grow index).numPointers.toNat = last := end_.symm
  rw [UInt8.toNat_add, value]
  change (last.val + 1) % 256 = _
  omega

private theorem displaced_consistent (osip : OSIPHeader) (osii : OSII) (index last : Fin 8)
    (end_ : last.val = (osip.grow index).count) :
    SizeConsistent (displaced osip osii index last) := by
  have value : (osip.grow index).numPointers = UInt8.ofNat last := by
    apply UInt8.toNat_inj.mp
    rw [UInt8.toNat_ofNat', Nat.mod_eq_of_lt (by omega)]
    exact end_.symm
  simp only [SizeConsistent]
  rw [displaced_count osip osii index last end_]
  change (((osip.grow index).numPointers + 1).toUInt16 * 0x18 + 0x20).toNat = _
  rw [value]
  fin_cases last <;> rfl

theorem displaced_storesImage (osip : OSIPHeader) (osii : OSII) (lba : UInt32)
    (index last : Fin 8) (end_ : last.val = (osip.grow index).count) :
    StoresImage osip osii index (displaced osip (osii.placedAt lba) index last) := by
  have count := displaced_count osip (osii.placedAt lba) index last end_
  have place : last.val = max osip.count (index + 1) := end_.trans (grow_count osip index)
  have apart : last ≠ index := by
    intro same
    rw [same] at place
    omega
  have here : (displaced osip (osii.placedAt lba) index last).desc index =
      storedEntry osip (osii.placedAt lba) index := Function.update_self ..
  have end_desc : (displaced osip (osii.placedAt lba) index last).desc last = osip.desc index :=
    (Function.update_of_ne apart _ _).trans (Function.update_self ..)
  have other : ∀ i, i ≠ index → i ≠ last →
      (displaced osip (osii.placedAt lba) index last).desc i = osip.desc i := by
    intro i different later
    exact (Function.update_of_ne different _ _).trans (Function.update_of_ne later _ _)
  refine ⟨by omega, ?_, by omega, ⟨by omega, ?_⟩, ?_, ?_, ?_⟩
  · intro _
    exact displaced_consistent osip _ index last end_
  · rw [here]
    exact stored_image osip osii lba index
  · intro i live different
    have later : i ≠ last := by
      intro same
      rcases same with rfl
      omega
    exact other i different later
  · intro _ _
    exact ⟨last, count.symm, end_desc⟩
  · intro i live different
    by_cases later : i = last
    · rw [later]
      exact ⟨index, end_desc, by omega⟩
    · have index_apart : i.val ≠ index.val := fun same => different (Fin.ext same)
      have last_apart : i.val ≠ last.val := fun same => later (Fin.ext same)
      exact ⟨i, other i different later, by omega⟩

theorem updateTable_storesImage {osip table : OSIPHeader} {osii : OSII} {lba : UInt32}
    {index : Fin 8} (few : osip.count ≤ 8)
    (update : updateTable osip (osii.placedAt lba) index = .ok table) :
    StoresImage osip osii index table := by
  rw [updateTable_eq] at update
  split at update
  · rename_i replaces
    cases update
    exact overwritten_storesImage osip osii lba index few replaces
  · split at update
    · cases update
      exact displaced_storesImage osip osii lba index _ rfl
    · cases update

theorem updateTable_room {osip : OSIPHeader} {osii : OSII} {lba : UInt32} {index : Fin 8} {k : Nat}
    (room : RoomToStore osip osii.attr index)
    (update : updateTable osip (osii.placedAt lba) index = .stray k) : False := by
  rw [updateTable_eq] at update
  split at update
  · cases update
  · rename_i moves
    split at update
    · cases update
    · rename_i full
      rw [grow_count] at full
      rcases room with listed | same | space
      · exact moves (.inl listed)
      · exact moves (.inr same)
      · exact full space

theorem writeStitchImageEx_storesImage {data : Buffer} {size : UInt32} {index : Fin 8}
    {largeImage : Bool} {w w' : World} {result : Outcome OsipError Unit}
    (few : (directory w).count ≤ 8)
    (ran : writeStitchImageEx data size index largeImage w = (result, w')) :
    (RoomToStore (directory w) (data attributeOffset) index → ∀ k, result ≠ .stray k) ∧
    (result = .ok () → ∃ osii, crackStitchedImage data = .ok osii ∧
      StoresImage (directory w) osii index (directory w')) := by
  constructor
  · intro room k same
    rcases same with rfl
    rcases writeStitchImageEx_settled ran (by simp [Settled]) with ⟨_, same, _⟩ |
      ⟨osii, checked, ⟨_, _, plan⟩ | ⟨_, _, same, _⟩⟩
    · cases same
    · rw [← crackStitchedImage_attr checked.record] at room
      rcases stitchPlan_stray_inv few plan with ⟨placed, place, update⟩
      rcases placeImage_ok place with ⟨lba, _, _, _, _, rfl⟩
      rw [Int.toNat_natCast] at update
      exact updateTable_room room update
    · cases same
  · intro same
    rcases same with rfl
    rcases writeStitchImageEx_settled ran (by simp [Settled]) with ⟨_, same, _⟩ |
      ⟨osii, checked, ⟨_, same, _⟩ | ⟨placed, table, _, plan, committed⟩⟩
    · cases same
    · cases same
    · rcases stitchPlan_inv plan with ⟨place, update⟩
      rcases placeImage_ok place with ⟨lba, _, _, _, _, rfl⟩
      rw [Int.toNat_natCast] at update
      refine ⟨osii, checked.record, ?_⟩
      rw [committed]
      exact (updateTable_storesImage few update).seal

/-- The directory after `update_osii`: one entry in use points elsewhere. -/
structure Repoints (osip : OSIPHeader) (name : String) (ddrLoadAddress entryPoint : UInt32)
    (table : OSIPHeader) : Prop where
  count : table.count = osip.count
  size : table.headerSize = osip.headerSize
  entry : ∃ i : Fin 8, i.val < osip.count ∧ ResolvesTo osip name .readOsipHeader i ∧
    table.desc i = (osip.desc i).pointTo ddrLoadAddress entryPoint ∧
    ∀ j, j ≠ i → table.desc j = osip.desc j

theorem updateOsii_repoints {name : String} {ddrLoadAddress entryPoint : UInt32} {w w' : World}
    {result : Outcome OsipError Unit} (few : (directory w).count ≤ 8)
    (ran : updateOsii name ddrLoadAddress entryPoint w = (result, w')) :
    (∀ k, result ≠ .stray k) ∧
    (result = .ok () → Repoints (directory w) name ddrLoadAddress entryPoint (directory w')) := by
  rcases updateOsii_cases few ran with ⟨cause, rfl, same⟩ | ⟨i, middle, live, resolved, _, commit⟩
  · exact ⟨by simp, by simp⟩
  · constructor
    · intro k same
      rcases same with rfl
      cases (writeOSIP_settled commit (by simp [Settled])).1
    · intro same
      rcases same with rfl
      rw [(writeOSIP_settled commit (by simp [Settled])).2]
      refine ⟨rfl, rfl, i, live, resolved, Function.update_self .., ?_⟩
      intro j different
      exact Function.update_of_ne different _ _

theorem writeOSIP_few {osip : OSIPHeader} {w w' : World} {result : Outcome OsipError Unit}
    (old : (directory w).count ≤ 8) (new : osip.count ≤ 8)
    (ran : writeOSIP osip w = (result, w')) : (directory w').count ≤ 8 := by
  have logged : ∃ done, w'.initial = w.initial ∧
      w'.writes = w.writes ++ writesAt 0 done osip.seal.byte := by
    rcases writeOSIP_spec osip w with ⟨done, middle, _, initial, log, ⟨ran', _⟩ | ⟨_, _, _, ran'⟩⟩
    · cases ran.symm.trans ran'
      exact ⟨done, initial, log⟩
    · cases ran.symm.trans ran'
      exact ⟨done, initial, log⟩
  rcases logged with ⟨done, initial, log⟩
  change (w'.content 8).toNat ≤ 8
  rw [World.content_of_log initial log, overlay]
  split
  · exact new
  · exact old

theorem updateOsii_few {name : String} {ddrLoadAddress entryPoint : UInt32} {w w' : World}
    {result : Outcome OsipError Unit} (few : (directory w).count ≤ 8)
    (ran : updateOsii name ddrLoadAddress entryPoint w = (result, w')) :
    (directory w').count ≤ 8 := by
  rcases updateOsii_cases few ran with ⟨_, _, same⟩ | ⟨i, middle, _, _, same, commit⟩
  · rw [directory_same same]
    exact few
  · refine writeOSIP_few ?_ ?_ commit
    · rw [directory_same same]
      exact few
    · exact few

private theorem attempt_total {program : Flash OsipError Unit} (w : World)
    (inside : ∀ result w', program w = (result, w') →
      (∀ k, result ≠ .stray k) ∧ (directory w').count ≤ 8) :
    ∃ value w', attempt program w = (.ok value, w') ∧ (directory w').count ≤ 8 := by
  rcases ran : program w with ⟨value | cause | k, w'⟩
  · exact ⟨_, w', attempt_of_ok ran, (inside _ _ ran).2⟩
  · exact ⟨_, w', attempt_of_error ran, (inside _ _ ran).2⟩
  · exact absurd rfl ((inside _ _ ran).1 k)

private theorem attempt_restoreOsii (name : String) (w : World) (few : (directory w).count ≤ 8) :
    ∃ value w', attempt (restoreOsii name) w = (.ok value, w') ∧ (directory w').count ≤ 8 := by
  apply attempt_total
  intro result w' ran
  exact ⟨(updateOsii_repoints few ran).1, updateOsii_few few ran⟩

theorem oemWriteOsipHeader_total (w : World) (few : (directory w).count ≤ 8) :
    ∃ w', oemWriteOsipHeader w = (.ok (), w') := by
  have header : ∃ value w', attempt (writeOSIP defaultOsip) w = (.ok value, w') ∧
      (directory w').count ≤ 8 := by
    apply attempt_total
    intro result w' ran
    refine ⟨?_, writeOSIP_few few (by decide) ran⟩
    intro k same
    rcases same with rfl
    cases (writeOSIP_settled ran (by simp [Settled])).1
  rcases header with ⟨_, written, writes, few⟩
  rcases attempt_restoreOsii "boot" written few with ⟨_, boot, boots, few⟩
  rcases attempt_restoreOsii "recovery" boot few with ⟨_, recovery, recovers, few⟩
  rcases attempt_restoreOsii "fastboot" recovery few with ⟨_, fastboot, fastboots, few⟩
  refine ⟨fastboot, ?_⟩
  rw [oemWriteOsipHeader, bind_of_ok writes, bind_of_ok boots, bind_of_ok recovers,
    bind_of_ok fastboots, pure_apply]

/-- The directory `oem_write_osip_header` leaves: one empty entry that points to the
default load address. -/
def resetOsip : OSIPHeader := repointed defaultOsip 0 DDR_LOAD_ADDX ENTRY_POINT

private theorem restoreOsii_missing {name : String} {w : World} (healthy : Healthy w)
    (accepted : Accepted w) (missing : ResolvesTo (directory w) name .readOsipHeader (-1)) :
    attempt (restoreOsii name) w = (.ok none, w) := by
  apply attempt_of_error
  rw [restoreOsii, updateOsii, bind_of_ok (getNamedOsiiIndex_healthy healthy accepted missing)]
  rfl

private theorem repointed_seal (osip : OSIPHeader) (i : Fin 8)
    (ddrLoadAddress entryPoint : UInt32) :
    (repointed osip.seal i ddrLoadAddress entryPoint).seal =
      (repointed osip i ddrLoadAddress entryPoint).seal := rfl

theorem oemWriteOsipHeader_healthy (w : World) (healthy : Healthy w) :
    ∃ w', oemWriteOsipHeader w = (.ok (), w') ∧ directory w' = resetOsip.seal := by
  obtain ⟨written, writes, healthy, directory_written, accepted⟩ :=
    writeOSIP_commits defaultOsip w healthy
  have boot : ResolvesTo (directory written) "boot" .readOsipHeader (0 : Fin 8) := by
    rw [directory_written]
    exact ⟨0, 1, rfl, by decide⟩
  obtain ⟨after, restores, healthy, directory_after, accepted⟩ :=
    updateOsii_healthy DDR_LOAD_ADDX ENTRY_POINT healthy accepted boot
  rw [directory_written, repointed_seal] at directory_after
  have recovery : ResolvesTo (directory after) "recovery" .readOsipHeader (-1) := by
    rw [directory_after]
    exact ⟨_, _, rfl, by decide⟩
  have fastboot : ResolvesTo (directory after) "fastboot" .readOsipHeader (-1) := by
    rw [directory_after]
    exact ⟨_, _, rfl, by decide⟩
  refine ⟨after, ?_, directory_after⟩
  rw [oemWriteOsipHeader, bind_of_ok (attempt_of_ok writes), restoreOsii,
    bind_of_ok (attempt_of_ok restores), bind_of_ok (restoreOsii_missing healthy accepted recovery),
    bind_of_ok (restoreOsii_missing healthy accepted fastboot), pure_apply]

/-- What the three writers do to a directory of at most eight entries. -/
theorem directory_writers (w : World) (few : (directory w).count ≤ 8) :
    (∀ data size index largeImage result w',
      writeStitchImageEx data size (index : Fin 8) largeImage w = (result, w') →
      (RoomToStore (directory w) (data attributeOffset) index → ∀ k, result ≠ .stray k) ∧
      (result = .ok () → ∃ osii, crackStitchedImage data = .ok osii ∧
        StoresImage (directory w) osii index (directory w'))) ∧
    (∀ name ddrLoadAddress entryPoint result w',
      updateOsii name ddrLoadAddress entryPoint w = (result, w') →
      (∀ k, result ≠ .stray k) ∧
      (result = .ok () → Repoints (directory w) name ddrLoadAddress entryPoint (directory w'))) ∧
    (∀ result w', oemWriteOsipHeader w = (result, w') →
      result = .ok () ∧ (Healthy w → directory w' = resetOsip.seal)) := by
  refine ⟨?_, ?_, ?_⟩
  · intro data size index largeImage result w' ran
    exact writeStitchImageEx_storesImage few ran
  · intro name ddrLoadAddress entryPoint result w' ran
    exact updateOsii_repoints few ran
  · intro result w' ran
    rcases oemWriteOsipHeader_total w few with ⟨after, total⟩
    rw [ran] at total
    cases total
    refine ⟨rfl, ?_⟩
    intro healthy
    rcases oemWriteOsipHeader_healthy w healthy with ⟨_, total, reset⟩
    rw [ran] at total
    cases total
    exact reset

theorem directory_writers_two_images :
    (∃ w', writeStitchImageEx (plainImage 0 1 fun _ => 7) 1024 (0 : Fin 8) false twoImageDevice =
        (.ok (), w') ∧
      ∃ osii, crackStitchedImage (plainImage 0 1 fun _ => 7) = .ok osii ∧
        StoresImage (directory twoImageDevice) osii 0 (directory w')) ∧
    (∃ w', updateOsii "boot" 5 6 twoImageDevice = (.ok (), w') ∧
      Repoints (directory twoImageDevice) "boot" 5 6 (directory w')) ∧
    ∃ w', oemWriteOsipHeader twoImageDevice = (.ok (), w') ∧ directory w' = resetOsip.seal := by
  have few : (directory twoImageDevice).count ≤ 8 := by
    rw [twoImageDevice_directory]
    decide
  have ⟨stores, repoints, resets⟩ := directory_writers twoImageDevice few
  have boot : ResolvesTo (directory twoImageDevice) "boot" .readOsipHeader (0 : Fin 8) := by
    rw [twoImageDevice_directory]
    exact ⟨0, 1, rfl, by decide⟩
  have healthy : Healthy twoImageDevice := rfl
  rcases sevens_written with ⟨stored, wrote, _⟩
  obtain ⟨repointed, updated, _⟩ := updateOsii_healthy 5 6 healthy (accepted_deviceWith _) boot
  rcases oemWriteOsipHeader_healthy twoImageDevice healthy with ⟨reset, ran, _⟩
  exact ⟨⟨stored, wrote, (stores _ 1024 0 false _ stored wrote).2 rfl⟩,
    ⟨repointed, updated, (repoints "boot" 5 6 _ repointed updated).2 rfl⟩,
    ⟨reset, ran, (resets _ reset ran).2 healthy⟩⟩

/-- The reset forgets the second image and states a header size of 0. -/
theorem reset_drops_live_entry :
    Accepted twoImageDevice ∧ (1 : Fin 8).val < (directory twoImageDevice).count ∧
    ∃ w', oemWriteOsipHeader twoImageDevice = (.ok (), w') ∧
      (directory w').headerSize.toNat ≠ (directory w').count * 0x18 + 0x20 ∧
      ∀ i : Fin 8, (directory w').desc i ≠ (directory twoImageDevice).desc 1 := by
  rcases oemWriteOsipHeader_healthy twoImageDevice rfl with ⟨w', ran, reset⟩
  refine ⟨accepted_deviceWith _, ?_, w', ran, ?_, ?_⟩
  · rw [twoImageDevice_directory]
    decide
  · rw [reset]
    decide
  · rw [reset, twoImageDevice_directory]
    decide

end A500cg.Osip
