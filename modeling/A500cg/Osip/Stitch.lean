import A500cg.Osip.UpdateSpec

/-! Every way a run of `write_stitch_image_ex` can go, up to and including its
final `write_OSIP`. -/

namespace A500cg.Osip

open Lib Flash

/-- What has been checked once the directory was read: the index, the stitched
header, the size, and the checksum of the directory. -/
structure Checked (data : Buffer) (size : UInt32) (osiiIndex : Int) (osii : OSII) (w : World) :
    Prop where
  lower : 0 ≤ osiiIndex
  upper : osiiIndex < 8
  record : crackStitchedImage data = .ok osii
  length : osii.sizeOfOsImage * 512 = size - 512
  accepted : Accepted w

def stitchPlan (osip : OSIPHeader) (osii : OSII) (osiiIndex : Int) (largeImage : Bool) :
    Outcome OsipError (OSII × OSIPHeader) := do
  let placed ← placeImage osip osii largeImage
  let table ← updateTable osip placed osiiIndex.toNat
  pure (placed, table)

theorem stitchPlan_ok {osip table : OSIPHeader} {osii placed : OSII} {osiiIndex : Int}
    {largeImage : Bool} (place : placeImage osip osii largeImage = .ok placed)
    (update : updateTable osip placed osiiIndex.toNat = .ok table) :
    stitchPlan osip osii osiiIndex largeImage = .ok (placed, table) := by
  rw [stitchPlan, place, Outcome.ok_bind, update]
  rfl

theorem stitchPlan_stray {osip : OSIPHeader} {osii placed : OSII} {osiiIndex : Int} {k : Nat}
    {largeImage : Bool} (place : placeImage osip osii largeImage = .ok placed)
    (update : updateTable osip placed osiiIndex.toNat = .stray k) :
    stitchPlan osip osii osiiIndex largeImage = .stray k := by
  rw [stitchPlan, place, Outcome.ok_bind, update]
  rfl

theorem stitchPlan_inv {osip table : OSIPHeader} {osii placed : OSII} {osiiIndex : Int}
    {largeImage : Bool} (plan : stitchPlan osip osii osiiIndex largeImage = .ok (placed, table)) :
    placeImage osip osii largeImage = .ok placed ∧
      updateTable osip placed osiiIndex.toNat = .ok table := by
  rcases Outcome.bind_ok_inv plan with ⟨placed', place, rest⟩
  rcases Outcome.bind_ok_inv rest with ⟨table', update, same⟩
  cases same
  exact ⟨place, update⟩

def payload (data : Buffer) : Buffer := fun i => data (LBA_SIZE + i)

inductive StitchRun (data : Buffer) (size : UInt32) (osiiIndex : Int) (largeImage : Bool)
    (w : World) : Outcome OsipError OSIPHeader → World → Prop where
  | refused (cause : OsipError) (w' : World) (same : w.Same w')
      (early : cause ≠ .noPlace ∧ (cause = .corrupt → ¬ Accepted w)) :
      StitchRun data size osiiIndex largeImage w (.error cause) w'
  | rejected (osii : OSII) (w' : World) (cause : OsipError)
      (checked : Checked data size osiiIndex osii w) (destroyed : BackupDestroyed w w')
      (plan : stitchPlan (directory w) osii osiiIndex largeImage = .error cause) :
      StitchRun data size osiiIndex largeImage w (.error cause) w'
  | strayed (osii : OSII) (w' : World) (index : Nat)
      (checked : Checked data size osiiIndex osii w) (destroyed : BackupDestroyed w w')
      (plan : stitchPlan (directory w) osii osiiIndex largeImage = .stray index) :
      StitchRun data size osiiIndex largeImage w (.stray index) w'
  | stopped (osii placed : OSII) (table : OSIPHeader) (middle w' : World) (cause : OsipError)
      (done : Nat) (checked : Checked data size osiiIndex osii w)
      (plan : stitchPlan (directory w) osii osiiIndex largeImage = .ok (placed, table))
      (destroyed : BackupDestroyed w middle) (bound : done ≤ (size - 512).toNat)
      (initial : w'.initial = middle.initial)
      (log : w'.writes = middle.writes ++
        writesAt (placed.logicalStartBlock * 512).toNat done (payload data))
      (failure : cause.isValidation = false ∧ cause ≠ .corrupt) :
      StitchRun data size osiiIndex largeImage w (.error cause) w'
  | written (osii placed : OSII) (table : OSIPHeader) (middle w' : World)
      (checked : Checked data size osiiIndex osii w)
      (plan : stitchPlan (directory w) osii osiiIndex largeImage = .ok (placed, table))
      (destroyed : BackupDestroyed w middle) (initial : w'.initial = middle.initial)
      (log : w'.writes = middle.writes ++ writesAt (placed.logicalStartBlock * 512).toNat
        (size - 512).toNat (payload data)) :
      StitchRun data size osiiIndex largeImage w (.ok table) w'

theorem seekBlock_pos {lba : UInt32} (positive : (lba * 512).toNat < 2 ^ 31) :
    seekBlock lba = .ok (lba * 512).toNat := by
  rw [seekBlock, Outcome.require_pos _ positive]
  rfl

theorem seekBlock_neg {lba : UInt32} (negative : ¬ (lba * 512).toNat < 2 ^ 31) :
    seekBlock lba = .error .seekFailed := by
  rw [seekBlock, Outcome.require_neg _ negative]
  rfl

theorem writeBlob_spec (data : Buffer) (size lba : UInt32) (w : World) :
    ∃ done w', done ≤ (size - 512).toNat ∧ w'.initial = w.initial ∧
      w'.writes = w.writes ++ writesAt (lba * 512).toNat done (payload data) ∧
      ((writeBlob data size lba w = (.ok (), w') ∧ done = (size - 512).toNat) ∨
        ∃ cause : OsipError, cause.isValidation = false ∧ cause ≠ .corrupt ∧
          writeBlob data size lba w = (.error cause, w')) := by
  rcases call_spec OsipError.openFailed w with ⟨opened, same, opens | opens⟩
  · by_cases positive : (lba * 512).toNat < 2 ^ 31
    · have seeks : lift (seekBlock lba) opened = (.ok (lba * 512).toNat, opened) := by
        rw [seekBlock_pos positive, lift_apply]
      obtain ⟨done, w', bound, initial, log, result⟩ := writeAt_spec OsipError.writeFailed
        (lba * 512).toNat (size - 512).toNat (payload data) opened
      refine ⟨done, w', bound, initial.trans same.1, by rw [log, same.2], ?_⟩
      rw [writeBlob, bind_of_ok opens, bind_of_ok seeks]
      rcases result with whole | failed
      · exact .inl whole
      · exact .inr ⟨.writeFailed, rfl, by simp, failed⟩
    · have seeks : lift (seekBlock lba) opened = (.error .seekFailed, opened) := by
        rw [seekBlock_neg positive, lift_apply]
      refine ⟨0, opened, Nat.zero_le _, same.1, by simp [writesAt, same.2], .inr ?_⟩
      exact ⟨.seekFailed, rfl, by simp, by
        rw [writeBlob, bind_of_ok opens, bind_of_error seeks]⟩
  · refine ⟨0, opened, Nat.zero_le _, same.1, by simp [writesAt, same.2], .inr ?_⟩
    exact ⟨.openFailed, rfl, by simp, by rw [writeBlob, bind_of_error opens]⟩

theorem checkIndexOutofbound_ok {osiiIndex : Int} {value : Unit}
    (checked : checkIndexOutofbound osiiIndex = .ok value) : 0 ≤ osiiIndex ∧ osiiIndex < 8 := by
  have inside := Outcome.require_ok checked
  simp only [MAX_OSIP_DESC, ge_iff_le, not_or, not_lt, not_le] at inside
  exact ⟨inside.1, by exact_mod_cast inside.2⟩

theorem checkIndexOutofbound_error {osiiIndex : Int} {cause : OsipError}
    (checked : checkIndexOutofbound osiiIndex = .error cause) : cause = .badIndex osiiIndex := by
  exact Outcome.require_error checked

theorem checkIndexOutofbound_inside {osiiIndex : Int} (lower : 0 ≤ osiiIndex)
    (upper : osiiIndex < 8) : checkIndexOutofbound osiiIndex = .ok () := by
  apply Outcome.require_pos
  simp only [MAX_OSIP_DESC, ge_iff_le, not_or, not_lt, not_le]
  exact ⟨lower, by exact_mod_cast upper⟩

theorem crackStitchedImage_eq (data : Buffer) :
    crackStitchedImage data = if (OSIPHeader.ofBytes data).numPointers = 1 then
      .ok ((OSIPHeader.ofBytes data).desc 0) else .error .tooManyRecords := by
  by_cases single : (OSIPHeader.ofBytes data).numPointers = 1
  · rw [if_pos single, crackStitchedImage, Outcome.require_pos _ single]
    rfl
  · rw [if_neg single, crackStitchedImage, Outcome.require_neg _ single]
    rfl

theorem crackStitchedImage_error {data : Buffer} {cause : OsipError}
    (cracked : crackStitchedImage data = .error cause) : cause = .tooManyRecords := by
  rw [crackStitchedImage_eq] at cracked
  split at cracked
  · cases cracked
  · exact (Outcome.error.inj cracked).symm

theorem crackStitchedImage_stray {data : Buffer} {index : Nat}
    (cracked : crackStitchedImage data = .stray index) : False := by
  rw [crackStitchedImage_eq] at cracked
  split at cracked <;> cases cracked

theorem stitchImage_cases {data : Buffer} {size : UInt32} {osiiIndex : Int} {largeImage : Bool}
    {w w' : World} {result : Outcome OsipError OSIPHeader}
    (ran : stitchImage data size osiiIndex largeImage w = (result, w')) :
    StitchRun data size osiiIndex largeImage w result w' := by
  simp only [stitchImage] at ran
  rcases bind_lift_cases ran with ⟨_, inside, ran⟩ | ⟨cause, bad, rfl, rfl⟩ | ⟨_, bad, _, _⟩
  rotate_left
  · rw [checkIndexOutofbound_error bad]
    exact .refused _ _ (World.Same.refl _) ⟨by simp, by simp⟩
  · exact (Outcome.require_stray bad).elim
  rcases bind_lift_cases ran with ⟨osii, record, ran⟩ | ⟨cause, bad, rfl, rfl⟩ | ⟨_, bad, _, _⟩
  rotate_left
  · rw [crackStitchedImage_error bad]
    exact .refused _ _ (World.Same.refl _) ⟨by simp, by simp⟩
  · exact (crackStitchedImage_stray bad).elim
  rcases bind_lift_cases ran with ⟨_, length, ran⟩ | ⟨cause, bad, rfl, rfl⟩ | ⟨_, bad, _, _⟩
  rotate_left
  · rw [Outcome.require_error bad]
    exact .refused _ _ (World.Same.refl _) ⟨by simp, by simp⟩
  · exact (Outcome.require_stray bad).elim
  rcases readOSIP_spec w with ⟨read, same, ⟨accepted, reads⟩ | ⟨cause, kind, corrupt, reads⟩⟩
  · have checked : Checked data size osiiIndex osii w :=
      ⟨(checkIndexOutofbound_ok inside).1, (checkIndexOutofbound_ok inside).2, record,
        Outcome.require_ok length, accepted⟩
    rcases destroyTheOsipBackup_spec read with ⟨_, middle, destroys, destroyed⟩
    have destroyed := BackupDestroyed.of_same same destroyed
    rw [bind_of_ok reads, bind_of_ok destroys] at ran
    rcases bind_lift_cases ran with ⟨placed, place, ran⟩ | ⟨cause, place, rfl, rfl⟩ |
      ⟨index, place, rfl, rfl⟩
    · rcases bind_lift_cases ran with ⟨table, update, ran⟩ | ⟨cause, update, rfl, rfl⟩ |
        ⟨index, update, rfl, rfl⟩
      · have plan := stitchPlan_ok place update
        obtain ⟨done, after, bound, initial, log, ⟨writes, whole⟩ | ⟨cause, kind, good, writes⟩⟩ :=
          writeBlob_spec data size placed.logicalStartBlock middle
        · rw [bind_of_ok writes] at ran
          cases ran
          exact .written osii placed table middle _ checked plan destroyed initial
            (by rw [log, whole])
        · rw [bind_of_error writes] at ran
          cases ran
          exact .stopped osii placed table middle _ cause done checked plan destroyed bound
            initial log ⟨kind, good⟩
      · refine .rejected osii _ cause checked destroyed ?_
        rw [stitchPlan, place, Outcome.ok_bind, update]
        rfl
      · exact .strayed osii _ index checked destroyed (stitchPlan_stray place update)
    · refine .rejected osii _ cause checked destroyed ?_
      rw [stitchPlan, place]
      rfl
    · refine .strayed osii _ index checked destroyed ?_
      rw [stitchPlan, place]
      rfl
  · rw [bind_of_error reads] at ran
    cases ran
    refine .refused cause _ same ⟨?_, corrupt⟩
    intro same
    rcases same with rfl
    cases kind

theorem writeStitchImageEx_cases {data : Buffer} {size : UInt32} {osiiIndex : Int}
    {largeImage : Bool} {w w' : World} {result : Outcome OsipError Unit}
    (ran : writeStitchImageEx data size osiiIndex largeImage w = (result, w')) :
    (∃ cause, result = .error cause ∧
      StitchRun data size osiiIndex largeImage w (.error cause) w') ∨
    (∃ k, result = .stray k ∧ StitchRun data size osiiIndex largeImage w (.stray k) w') ∨
    (∃ table middle, StitchRun data size osiiIndex largeImage w (.ok table) middle ∧
      writeOSIP table middle = (result, w')) := by
  rcases bind_cases ran with ⟨table, middle, stitch, commit⟩ | ⟨cause, stitch, same⟩ |
    ⟨k, stitch, same⟩
  · exact .inr (.inr ⟨table, middle, stitchImage_cases stitch, commit⟩)
  · exact .inl ⟨cause, same, stitchImage_cases stitch⟩
  · exact .inr (.inl ⟨k, same, stitchImage_cases stitch⟩)

/-- A system call did not fail: the operation succeeded, was rejected by one of its
own checks, or left the array. -/
def Settled (result : Outcome OsipError Unit) : Prop :=
  ∀ cause, result = .error cause → cause.isValidation = true

theorem writeOSIP_settled {osip : OSIPHeader} {w w' : World} {result : Outcome OsipError Unit}
    (ran : writeOSIP osip w = (result, w')) (settled : Settled result) :
    result = .ok () ∧ directory w' = osip.seal := by
  rcases writeOSIP_spec osip w with ⟨_, middle, _, _, _, ⟨whole, _⟩ | ⟨cause, kind, _, failed⟩⟩
  · have same : (result, w') = (.ok (), middle) := ran.symm.trans whole
    cases same
    exact ⟨rfl, directory_committed whole⟩
  · have same : (result, w') = (.error cause, middle) := ran.symm.trans failed
    cases same
    rw [settled cause rfl] at kind
    cases kind

theorem writeStitchImageEx_settled {data : Buffer} {size : UInt32} {osiiIndex : Int}
    {largeImage : Bool} {w w' : World} {result : Outcome OsipError Unit}
    (ran : writeStitchImageEx data size osiiIndex largeImage w = (result, w'))
    (settled : Settled result) :
    (∃ cause, result = .error cause ∧ directory w' = directory w) ∨
    ∃ osii, Checked data size osiiIndex osii w ∧
      ((∃ k, result = .stray k ∧
          stitchPlan (directory w) osii osiiIndex largeImage = .stray k) ∨
        ∃ placed table, result = .ok () ∧
          stitchPlan (directory w) osii osiiIndex largeImage = .ok (placed, table) ∧
          directory w' = table.seal) := by
  rcases writeStitchImageEx_cases ran with ⟨cause, rfl, stitch⟩ | ⟨k, rfl, stitch⟩ |
    ⟨table, middle, stitch, commit⟩
  · refine .inl ⟨cause, rfl, ?_⟩
    cases stitch with
    | refused _ _ same early => exact directory_same same
    | rejected osii _ _ checked destroyed plan => exact destroyed.directory_eq
    | stopped _ _ _ _ _ _ _ _ _ _ _ _ _ failure =>
        rw [settled cause rfl] at failure
        cases failure.1
  · cases stitch with
    | strayed osii _ _ checked destroyed plan => exact .inr ⟨osii, checked, .inl ⟨k, rfl, plan⟩⟩
  · rcases writeOSIP_settled commit settled with ⟨done, committed⟩
    cases stitch with
    | written osii placed _ _ _ checked plan destroyed initial log =>
        exact .inr ⟨osii, checked, .inr ⟨placed, table, done, plan, committed⟩⟩

/-- What `write_stitch_image_ex` does between the backup and the final `write_OSIP`. -/
def carryOut (data : Buffer) (size : UInt32) (osip : OSIPHeader) (osii : OSII) (osiiIndex : Int)
    (largeImage : Bool) : Flash OsipError OSIPHeader := do
  let osii ← lift (placeImage osip osii largeImage)
  let osip ← lift (updateTable osip osii osiiIndex.toNat)
  writeBlob data size osii.logicalStartBlock
  pure osip

theorem carryOut_eq (data : Buffer) (size : UInt32) (osip : OSIPHeader) (osii : OSII)
    (osiiIndex : Int) (largeImage : Bool) (w : World) :
    carryOut data size osip osii osiiIndex largeImage w =
      (lift (stitchPlan osip osii osiiIndex largeImage) >>= fun plan =>
        writeBlob data size plan.1.logicalStartBlock >>= fun _ => pure plan.2) w := by
  rw [carryOut, stitchPlan]
  cases placeImage osip osii largeImage with
  | error cause => rfl
  | stray index => rfl
  | ok placed =>
      change (lift (updateTable osip placed osiiIndex.toNat) >>= _) w = _
      rw [Outcome.ok_bind]
      cases updateTable osip placed osiiIndex.toNat with
      | error cause => rfl
      | stray index => rfl
      | ok table => rfl

section Checks

variable {data : Buffer} {size : UInt32} {osiiIndex : Int} {osii : OSII} {w : World}

theorem Checked.inside (checked : Checked data size osiiIndex osii w) :
    lift (checkIndexOutofbound osiiIndex) w = (.ok (), w) := by
  rw [checkIndexOutofbound_inside checked.lower checked.upper, lift_apply]

theorem Checked.cracked (checked : Checked data size osiiIndex osii w) :
    lift (crackStitchedImage data) w = (.ok osii, w) := by
  rw [checked.record, lift_apply]

theorem Checked.sized (checked : Checked data size osiiIndex osii w) :
    lift (Outcome.require (osii.sizeOfOsImage * 512 = size - 512) OsipError.dataFormat) w =
      (.ok (), w) := by
  rw [Outcome.require_pos _ checked.length, lift_apply]

end Checks

theorem stitchImage_healthy {data : Buffer} {size : UInt32} {osiiIndex : Int} {osii : OSII}
    {w : World} (largeImage : Bool) (healthy : Healthy w)
    (checked : Checked data size osiiIndex osii w) :
    stitchImage data size osiiIndex largeImage w =
      carryOut data size (directory w) osii osiiIndex largeImage (afterBackup w) := by
  rw [stitchImage, bind_of_ok checked.inside, bind_of_ok checked.cracked, bind_of_ok checked.sized,
    bind_of_ok (readOSIP_healthy w healthy checked.accepted),
    bind_of_ok (destroyTheOsipBackup_healthy w healthy)]
  rfl

theorem writeBlob_healthy (data : Buffer) (size lba : UInt32) (w : World) (healthy : Healthy w)
    (positive : (lba * 512).toNat < 2 ^ 31) :
    writeBlob data size lba w =
      (.ok (), w.store (writesAt (lba * 512).toNat (size - 512).toNat (payload data))) := by
  have seeks : lift (seekBlock lba) w = (.ok (lba * 512).toNat, w) := by
    rw [seekBlock_pos positive, lift_apply]
  rw [writeBlob, bind_of_ok (call_healthy _ w healthy), bind_of_ok seeks]
  exact writeAt_healthy _ _ _ _ w healthy

theorem stitchImage_healthy_stray {data : Buffer} {size : UInt32} {osiiIndex : Int} {osii : OSII}
    {w : World} {largeImage : Bool} {k : Nat} (healthy : Healthy w)
    (checked : Checked data size osiiIndex osii w)
    (plan : stitchPlan (directory w) osii osiiIndex largeImage = .stray k) :
    stitchImage data size osiiIndex largeImage w = (.stray k, afterBackup w) := by
  rw [stitchImage_healthy largeImage healthy checked, carryOut_eq, plan]
  rfl

theorem stitchImage_healthy_written {data : Buffer} {size : UInt32} {osiiIndex : Int}
    {osii placed : OSII} {table : OSIPHeader} {w : World} {largeImage : Bool}
    (healthy : Healthy w) (checked : Checked data size osiiIndex osii w)
    (plan : stitchPlan (directory w) osii osiiIndex largeImage = .ok (placed, table))
    (positive : (placed.logicalStartBlock * 512).toNat < 2 ^ 31) :
    stitchImage data size osiiIndex largeImage w =
      (.ok table, (afterBackup w).store (writesAt (placed.logicalStartBlock * 512).toNat
        (size - 512).toNat (payload data))) := by
  have writes := writeBlob_healthy data size placed.logicalStartBlock (afterBackup w)
    (afterBackup_healthy w healthy) positive
  rw [stitchImage_healthy largeImage healthy checked, carryOut_eq, plan, lift_ok_bind,
    bind_of_ok writes, pure_apply]

end A500cg.Osip
