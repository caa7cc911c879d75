import A500cg.Osip.TableUpdate

/-! What a flash that fails one of its checks has already done to the device.

The backup signature is destroyed before the image is placed, and `testos` resets
the directory before its image is looked at. -/

namespace A500cg.Osip

open Lib Flash

private theorem scanSlot_error {osip : OSIPHeader} {slot slotSize : UInt32} {indices : List Nat}
    {cause : OsipError} (scan : scanSlot osip slot slotSize indices = .error cause) : False := by
  induction indices with
  | nil => cases scan
  | cons i rest ih =>
      simp only [scanSlot, OSIPHeader.getDesc] at scan
      by_cases bound : i < 8
      · rw [dif_pos bound, Outcome.ok_bind] at scan
        split at scan
        · cases scan
        · exact ih scan
      · rw [dif_neg bound] at scan
        cases scan

theorem getFreeLba_error {slotSize : UInt32} {osip : OSIPHeader} {slots : List UInt32}
    {cause : OsipError} (search : getFreeLba slotSize osip slots = .error cause) : False := by
  induction slots with
  | nil => cases search
  | cons slot rest ih =>
      rw [getFreeLba] at search
      cases scan : scanSlot osip slot slotSize (List.range osip.count) with
      | error cause => exact scanSlot_error scan
      | stray k =>
          rw [scan] at search
          cases search
      | ok free =>
          rw [scan, Outcome.ok_bind] at search
          split at search
          · cases search
          · exact ih search

def OsipError.isLate : OsipError → Bool
  | .unhandledAttribute _ => true
  | .noPlace => true
  | .tooLarge _ _ => true
  | _ => false

private theorem chooseSlot_error {osip : OSIPHeader} {attr : UInt8} {largeImage : Bool}
    {cause : OsipError} (chosen : chooseSlot osip attr largeImage = .error cause) :
    cause = .unhandledAttribute attr := by
  simp only [chooseSlot] at chosen
  split at chosen
  · split at chosen
    · cases chosen
    · cases search : getFreeOsLba osip with
      | error cause => exact (getFreeLba_error search).elim
      | _ =>
          rw [search] at chosen
          cases chosen
  · split at chosen
    · cases search : getFreeFwLba osip with
      | error cause => exact (getFreeLba_error search).elim
      | _ =>
          rw [search] at chosen
          cases chosen
    · exact (Outcome.error.inj chosen).symm

theorem placeImage_error {osip : OSIPHeader} {osii : OSII} {largeImage : Bool}
    {cause : OsipError} (place : placeImage osip osii largeImage = .error cause) :
    cause.isLate = true := by
  cases chosen : chooseSlot osip osii.attr largeImage with
  | error cause' =>
      rw [placeImage, chosen] at place
      cases place
      rw [chooseSlot_error chosen]
      rfl
  | stray k =>
      rw [placeImage, chosen] at place
      cases place
  | ok choice =>
      rw [placeImage_chosen chosen] at place
      split_ifs at place
      · cases place
        rfl
      · cases place
        rfl

/-- A byte that a rejected flash changed is part of a backup signature that was
there, is all ones now, and the image had passed the early checks. -/
def BackupByteLost (w : World) (cause : OsipError) (w' : World) (a : Nat) : Prop :=
  (OSIP_BACKUP_OFFSET ≤ a ∧ a < OSIP_BACKUP_OFFSET + 4) ∧ w'.content a = 0xff ∧
    le32 w.content OSIP_BACKUP_OFFSET = OSIP_SIG ∧ cause.isLate = true

theorem BackupDestroyed.lost {w w' : World} {cause : OsipError} (destroyed : BackupDestroyed w w')
    (late : cause.isLate = true) (a : Nat) (changed : w'.content a ≠ w.content a) :
    BackupByteLost w cause w' a := by
  rcases destroyed with ⟨initial, done, bound, log, present⟩
  have content := World.content_of_log initial log
  rw [content] at changed
  by_cases inside : OSIP_BACKUP_OFFSET ≤ a ∧ a < OSIP_BACKUP_OFFSET + done
  · refine ⟨by omega, ?_, present (by omega), late⟩
    rw [content, overlay, if_pos inside]
  · rw [overlay, if_neg inside] at changed
    exact absurd rfl changed

theorem writeStitchImageEx_rejected {data : Buffer} {size : UInt32} {osiiIndex : Int}
    {largeImage : Bool} {w w' : World} {cause : OsipError}
    (ran : writeStitchImageEx data size osiiIndex largeImage w = (.error cause, w'))
    (kind : cause.isValidation = true) (a : Nat) (changed : w'.content a ≠ w.content a) :
    BackupByteLost w cause w' a := by
  rcases writeStitchImageEx_cases ran with ⟨_, same, stitch⟩ | ⟨_, same, _⟩ |
    ⟨table, middle, _, commit⟩
  · cases same
    cases stitch with
    | refused _ _ same _ =>
        rw [same.content_eq] at changed
        exact absurd rfl changed
    | rejected osii _ _ checked destroyed plan =>
        refine destroyed.lost ?_ a changed
        have inside : osiiIndex.toNat < 8 := by
          have lower := checked.lower
          have upper := checked.upper
          omega
        exact placeImage_error (stitchPlan_error_inv inside plan)
    | stopped _ _ _ _ _ _ _ _ _ _ _ _ _ failure =>
        rw [kind] at failure
        cases failure.1
  · cases same
  · have settled : Settled (.error cause) := by
      intro cause' taken
      rcases taken with ⟨rfl⟩
      exact kind
    cases (writeOSIP_settled commit settled).1

theorem readOSIP_confined (region : Nat → Prop) : Confined region readOSIP :=
  (Confined.call _).bind fun _ => (Confined.readAt _ _).bind fun _ =>
    (Confined.lift _).bind fun _ => Confined.pure _

theorem writeOSIP_confined (osip : OSIPHeader) :
    Confined (fun a => a < headerBytes) (writeOSIP osip) := by
  refine (Confined.call _).bind fun _ => Confined.writeAt _ _ _ _ ?_
  intro a _ upper
  simpa using upper

theorem getNamedOsiiIndex_confined (region : Nat → Prop) (name : String)
    (operation : OsipOperation) : Confined region (getNamedOsiiIndex name operation) := by
  simp only [getNamedOsiiIndex]
  cases getNamedOsiiAttr name with
  | none => exact Confined.pure _
  | some pair =>
      apply (readOSIP_confined region).attempt.bind
      intro read
      cases read with
      | none => exact Confined.pure _
      | some osip => exact Confined.lift _

theorem updateOsii_confined (name : String) (ddrLoadAddress entryPoint : UInt32) :
    Confined (fun a => a < headerBytes) (updateOsii name ddrLoadAddress entryPoint) :=
  (getNamedOsiiIndex_confined _ _ _).bind fun _ => (Confined.lift _).bind fun _ =>
    (readOSIP_confined _).bind fun _ => (Confined.lift _).bind fun _ => writeOSIP_confined _

theorem oemWriteOsipHeader_confined :
    Confined (fun a => a < headerBytes) oemWriteOsipHeader :=
  (writeOSIP_confined _).attempt.bind fun _ => (updateOsii_confined _ _ _).attempt.bind fun _ =>
    (updateOsii_confined _ _ _).attempt.bind fun _ =>
      (updateOsii_confined _ _ _).attempt.bind fun _ => Confined.pure _

private theorem testos_changes {data : Buffer} {sz : UInt32} {w w' : World} {cause : OsipError}
    (ran : flashImageOsip data sz "testos" w = (.error cause, w'))
    (kind : cause.isValidation = true) (a : Nat) (changed : w'.content a ≠ w.content a) :
    BackupByteLost w cause w' a ∨ a < headerBytes := by
  rw [flashImageOsip, if_pos rfl] at ran
  have confined := oemWriteOsipHeader_confined w
  rcases outcome : oemWriteOsipHeader w with ⟨value | early | k, middle⟩
  · rw [outcome] at confined
    rw [bind_of_ok outcome] at ran
    by_cases header : a < headerBytes
    · exact .inr header
    · rw [← confined.content_eq a header] at changed
      rcases writeStitchImageEx_rejected ran kind a changed with ⟨inside, lost, present, late⟩
      refine .inl ⟨inside, lost, ?_, late⟩
      rw [← present]
      apply le32_congr
      intro i _
      refine (confined.content_eq _ ?_).symm
      simp only [headerBytes, OSIP_BACKUP_OFFSET]
      omega
  · rw [outcome] at confined
    rw [bind_of_error outcome] at ran
    cases ran
    by_contra outside
    exact changed (confined.content_eq a (fun header => outside (.inr header)))
  · rw [bind_of_stray outcome] at ran
    cases ran

private theorem testos_resets {data : Buffer} {sz : UInt32} {w w' : World} {cause : OsipError}
    (ran : flashImageOsip data sz "testos" w = (.error cause, w'))
    (kind : cause.isValidation = true) (healthy : Healthy w) :
    directory w' = resetOsip.seal := by
  rcases oemWriteOsipHeader_healthy w healthy with ⟨middle, total, reset⟩
  rw [flashImageOsip, if_pos rfl, bind_of_ok total] at ran
  have settled : Settled (.error cause) := by
    intro cause' taken
    rcases taken with ⟨rfl⟩
    exact kind
  rcases writeStitchImageEx_settled ran settled with ⟨_, _, unchanged⟩ |
    ⟨_, _, ⟨_, same, _⟩ | ⟨_, _, same, _⟩⟩
  · rw [unchanged, reset]
  · cases same
  · cases same

/-- A flash rejected by one of its checks changes at most the backup signature, and
for `testos` also the directory, which it resets first. -/
theorem rejected_flash_keeps_device {data : Buffer} {sz : UInt32} {name : String} {w w' : World}
    {cause : OsipError} (ran : flashImageOsip data sz name w = (.error cause, w'))
    (kind : cause.isValidation = true) :
    (name ≠ "testos" → ∀ a, w'.content a ≠ w.content a → BackupByteLost w cause w' a) ∧
    (name = "testos" →
      (∀ a, w'.content a ≠ w.content a → BackupByteLost w cause w' a ∨ a < headerBytes) ∧
      (Healthy w → directory w' = resetOsip.seal)) := by
  constructor
  · intro ordinary a changed
    have confined := getNamedOsiiIndex_confined (fun _ => False) name .writeOsipHeader w
    rw [flashImageOsip, if_neg ordinary] at ran
    rcases bind_cases ran with ⟨k, middle, lookup, ran⟩ | ⟨_, lookup, _⟩ | ⟨_, _, same⟩
    · rw [lookup] at confined
      rcases bind_lift_cases ran with ⟨_, inside, ran⟩ | ⟨_, _, _, rfl⟩ | ⟨_, _, same, _⟩
      · rw [← confined.same.content_eq] at changed
        rcases writeStitchImageEx_rejected ran kind a changed with ⟨inside, lost, present, late⟩
        rw [confined.same.content_eq] at present
        exact ⟨inside, lost, present, late⟩
      · rw [confined.same.content_eq] at changed
        exact absurd rfl changed
      · cases same
    · rw [lookup] at confined
      rw [confined.same.content_eq] at changed
      exact absurd rfl changed
    · cases same
  · intro same
    rcases same with rfl
    exact ⟨testos_changes ran kind, testos_resets ran kind⟩

def fullDevice : World :=
  (deviceWith fiveFullOsip).store (writesAt OSIP_BACKUP_OFFSET 4 (leByte OSIP_SIG.toNat))

private theorem fullDevice_directory : directory fullDevice = fiveFullOsip.seal := by
  rw [← directory_deviceWith fiveFullOsip]
  apply directory_of_content
  intro a header
  rw [fullDevice, World.store_content]
  exact overlay_outside _ _ _ _ _ (.inl header)

private theorem fullDevice_backup : le32 fullDevice.content OSIP_BACKUP_OFFSET = OSIP_SIG := by
  rw [fullDevice, World.store_content]
  apply le32_leByte
  intro k bound
  exact overlay_inside _ _ _ _ _ bound

private theorem fullDevice_accepted : Accepted fullDevice := by
  rw [Accepted, fullDevice_directory]
  exact getOsipCrc_seal _

theorem plainImage_renamed (body : Buffer) :
    renamed (plainImage 0 1 body) "boot" = plainImage 0 1 body := by
  apply Function.update_eq_self_iff.mpr
  have attr : plainImage 0 1 body attributeOffset = 0 := rfl
  rw [attr]
  decide

private theorem fullDevice_rejects :
    flashImageOsip (plainImage 0 1 (fun _ => 0)) 1024 "boot" fullDevice =
      (.error .noPlace, afterBackup fullDevice) := by
  have healthy : Healthy fullDevice := rfl
  have boot : ResolvesTo (directory fullDevice) "boot" .writeOsipHeader (0 : Fin 8) := by
    rw [fullDevice_directory]
    exact ⟨0, 1, rfl, by decide⟩
  have checked : Checked (plainImage 0 1 (fun _ => 0)) 1024 (0 : Fin 8) (plainRecord 0 1) fullDevice :=
    plainImage_checked (by decide) (by decide) fullDevice_accepted (by decide)
  have plan : stitchPlan (directory fullDevice) (plainRecord 0 1) (0 : Fin 8) false =
      .error .noPlace := by
    rw [fullDevice_directory]
    have place : placeImage fiveFullOsip.seal (plainRecord 0 1) false = .error .noPlace := by decide
    rw [stitchPlan, place]
    rfl
  have stitch : stitchImage (plainImage 0 1 (fun _ => 0)) 1024 (0 : Fin 8) false fullDevice =
      (.error .noPlace, afterBackup fullDevice) := by
    rw [stitchImage_healthy false healthy checked, carryOut_eq, plan]
    rfl
  have ordinary : "boot" ≠ "testos" := by decide
  rw [flashImageOsip, if_neg ordinary,
    bind_of_ok (getNamedOsiiIndex_healthy healthy fullDevice_accepted boot)]
  change (lift (checkIndexOutofbound (0 : Fin 8)) >>= fun _ => writeStitchImage
    (renamed (plainImage 0 1 (fun _ => 0)) "boot") 1024 (0 : Fin 8)) fullDevice = _
  rw [plainImage_renamed, checkIndexOutofbound_inside (by decide) (by decide), lift_ok_bind,
    writeStitchImage, writeStitchImageEx, bind_of_error stitch]

theorem rejected_flash_of_full_device :
    flashImageOsip (plainImage 0 1 (fun _ => 0)) 1024 "boot" fullDevice =
      (.error .noPlace, afterBackup fullDevice) ∧
    ∀ a, (afterBackup fullDevice).content a ≠ fullDevice.content a →
      BackupByteLost fullDevice .noPlace (afterBackup fullDevice) a :=
  ⟨fullDevice_rejects, (rejected_flash_keeps_device fullDevice_rejects rfl).1 (by decide)⟩

/-- A rejected image costs the device its backup signature, and a rejected `testos`
image its directory. -/
theorem rejected_flash_changes_device :
    (∃ w', flashImageOsip (plainImage 0 1 (fun _ => 0)) 1024 "boot" fullDevice =
        (.error .noPlace, w') ∧
      w'.content OSIP_BACKUP_OFFSET ≠ fullDevice.content OSIP_BACKUP_OFFSET) ∧
    ∃ w', flashImageOsip (fun _ => 0) 512 "testos" twoImageDevice =
        (.error .tooManyRecords, w') ∧ w'.content 8 ≠ twoImageDevice.content 8 := by
  constructor
  · refine ⟨_, fullDevice_rejects, ?_⟩
    have before : fullDevice.content OSIP_BACKUP_OFFSET = 0x24 := by
      have byte := leByte_le32 fullDevice.content OSIP_BACKUP_OFFSET 0 (by decide)
      rw [fullDevice_backup, Nat.add_zero] at byte
      rw [← byte]
      decide
    have after : (afterBackup fullDevice).content OSIP_BACKUP_OFFSET = 0xff := by
      rw [afterBackup, if_pos fullDevice_backup, World.store_content]
      exact overlay_inside _ OSIP_BACKUP_OFFSET 4 _ 0 (by decide)
    rw [before, after]
    decide
  · rcases oemWriteOsipHeader_healthy twoImageDevice rfl with ⟨w', ran, reset⟩
    refine ⟨w', ?_, ?_⟩
    · rw [flashImageOsip, if_pos rfl, bind_of_ok ran]
      rfl
    · have new : w'.content 8 = 1 := congrArg OSIPHeader.numPointers reset
      have old : twoImageDevice.content 8 = 2 :=
        congrArg OSIPHeader.numPointers twoImageDevice_directory
      rw [new, old]
      decide

end A500cg.Osip
