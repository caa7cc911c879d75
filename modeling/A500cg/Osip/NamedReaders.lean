import A500cg.Lib.Files
import A500cg.Osip.Lookup
import A500cg.Gpt.Table

/-! The readers that take an image name, and when they refer to the same entry.

`read_image_signature_osip` takes the block to seek to from a header variable of its own that
nothing fills, and `is_image_signed_osip` looks the recovery image up whatever its argument. -/

namespace A500cg.Osip

open Lib Flash Gpt

def OSIP_SIG_SIZE : Nat := 480

/-- `read_image_signature_osip`; `stack` is what stands where its header variable is. -/
def readImageSignatureOsip (stack : OSIPHeader) (memory : Option Buffer) (name : String) :
    Flash OsipError (List UInt8) := do
  let imageIndex ← getNamedOsiiIndex name .readOsipHeader
  lift (checkIndexOutofbound imageIndex)
  call .openFailed
  let osii ← lift (stack.getDesc imageIndex.toNat)
  let offset ← lift (seekBlock osii.logicalStartBlock)
  match memory with
  | none => lift (.error .outOfMemory)
  | some _ => do
      let buf ← readAt .readFailed offset
      pure (firstBytes buf OSIP_SIG_SIZE)

def isImageSignedOsip (_name : String) : Flash OsipError Int := do
  match ← attempt readOSIP with
  | none => pure (-1)
  | some osip => do
      let recoveryIndex ← getNamedOsiiIndex "recovery" .readOsipHeader
      match ← attempt (lift (checkIndexOutofbound recoveryIndex)) with
      | none => pure (-1)
      | some _ => do
          let osii ← lift (osip.getDesc recoveryIndex.toNat)
          pure (if osii.attr &&& ATTR_UNSIGNED_KERNEL ≠ 0 then 0 else 1)

/-- The `size_t` that `read_image_osip` returns as an `int`. -/
def ImageBlob.returned (blob : ImageBlob) : Int :=
  if blob.size.toNat < 2 ^ 31 then blob.size.toNat else (blob.size.toNat : Int) - 2 ^ 32

/-- The blob is the image of the entry: its payload behind a block with its record. -/
structure IsImage (content : Buffer) (osii : OSII) (blob : ImageBlob) : Prop where
  length : blob.returned = 512 * (osii.blocks + 1)
  payload : ∀ k < 512 * osii.blocks, blob.data (512 + k) = content (512 * osii.start + k)
  record : crackStitchedImage blob.data = .ok (fileOsii osii)

/-- Bit 0 of the attribute is clear. -/
def OSII.Signed (osii : OSII) : Prop := osii.attr &&& ATTR_UNSIGNED_KERNEL = 0

instance (osii : OSII) : Decidable osii.Signed :=
  inferInstanceAs (Decidable (osii.attr &&& ATTR_UNSIGNED_KERNEL = 0))

structure SameEntry (w : World) (stack : OSIPHeader) (name : String) (i : Fin 8) : Prop where
  image : ∀ held, ∃ blob, readImageOsip name (some held) w = (.ok blob, w) ∧
    IsImage w.content ((directory w).desc i) blob
  signature : ∀ held, readImageSignatureOsip stack (some held) name w =
    (.ok (firstBytes (fun k => w.content (512 * ((directory w).desc i).start + k)) 480), w)
  signed : ∃ v, isImageSignedOsip name w = (.ok v, w) ∧ (v = 1 ↔ ((directory w).desc i).Signed)
  startBlock : getNamedOsiiLogicalStartBlock name w = (.ok ((directory w).desc i).start, w)

/-- The 32-bit offset of block `lba` can be sought to, and shows what stands at `start`. -/
def Shows (content : Buffer) (lba : UInt32) (start count : Nat) : Prop :=
  (lba * 512).toNat < 2 ^ 31 ∧
    ∀ k < count, content ((lba * 512).toNat + k) = content (512 * start + k)

/-- What the four readers need: an image of less than 2 GiB that a 32-bit offset reaches, the
same 480 bytes at the block the stack happens to name, and a recovery image (or none) with the
same signing. -/
structure ReadersReach (w : World) (stack : OSIPHeader) (i : Fin 8) : Prop where
  small : ((directory w).desc i).blocks + 1 < 2 ^ 22
  payload : Shows w.content ((directory w).desc i).logicalStartBlock
    ((directory w).desc i).start (512 * ((directory w).desc i).blocks)
  signature : Shows w.content (stack.desc i).logicalStartBlock ((directory w).desc i).start 480
  recovery : ∃ k, ResolvesTo (directory w) "recovery" .readOsipHeader k ∧
    ((∃ r : Fin 8, k = r ∧ ((directory w).desc r).Signed) ↔ ((directory w).desc i).Signed)

theorem checkIndexOutofbound_fin (i : Fin 8) : checkIndexOutofbound i = .ok () :=
  checkIndexOutofbound_inside (by omega) (by omega)

theorem blobSize_toNat {osii : OSII} (small : osii.blocks + 1 < 2 ^ 22) :
    (blobSize osii).toNat = 512 * (osii.blocks + 1) := by
  have next : (osii.sizeOfOsImage + 1).toNat = (osii.blocks + 1) % 2 ^ 32 := UInt32.toNat_add ..
  have value : (blobSize osii).toNat = (osii.sizeOfOsImage + 1).toNat * 512 % 2 ^ 32 :=
    UInt32.toNat_mul ..
  rw [value, next]
  omega

theorem blobSize_ne_zero {osii : OSII} (small : osii.blocks + 1 < 2 ^ 22) : blobSize osii ≠ 0 := by
  have size := blobSize_toNat small
  intro zero
  rw [zero] at size
  cases size

section Readers

variable {w : World} {name : String} {i : Fin 8}

theorem readImageOsip_eq (lookup : getNamedOsiiIndex name .readOsipHeader w = (.ok (i : Int), w))
    (memory : Option Buffer) : readImageOsip name memory w = readOsimageData memory i w := by
  rw [readImageOsip, bind_of_ok lookup, checkIndexOutofbound_fin, lift_ok_bind]
  rfl

theorem readOsimageData_seek {held : Buffer} {blob : ImageBlob} (healthy : Healthy w)
    (accepted : Accepted w) (read : readOsimageData (some held) i w = (.ok blob, w)) :
    (((directory w).desc i).logicalStartBlock * 512).toNat < 2 ^ 31 := by
  by_contra far
  rw [readOsimageData, bind_of_ok (readOSIP_healthy w healthy accepted), OSIPHeader.getDesc_fin,
    lift_ok_bind] at read
  rcases bind_lift_ok_inv read with ⟨block, _, rest⟩
  rw [bind_of_ok (call_healthy _ w healthy), seekBlock_neg far] at rest
  cases rest

theorem returned_iff (held content : Buffer) (osii : OSII) :
    (imageBlob held osii content).returned = 512 * (osii.blocks + 1) ↔ osii.blocks + 1 < 2 ^ 22 := by
  have value : (imageBlob held osii content).returned =
      if (blobSize osii).toNat < 2 ^ 31 then ((blobSize osii).toNat : Int)
      else (blobSize osii).toNat - 2 ^ 32 := rfl
  have bound := (blobSize osii).toNat_lt
  rw [value]
  constructor
  · intro length
    by_cases positive : (blobSize osii).toNat < 2 ^ 31
    · rw [if_pos positive] at length
      omega
    · rw [if_neg positive] at length
      omega
  · intro small
    have size := blobSize_toNat small
    rw [if_pos (by omega), size]
    omega

theorem image_iff (healthy : Healthy w) (accepted : Accepted w)
    (lookup : getNamedOsiiIndex name .readOsipHeader w = (.ok (i : Int), w)) :
    (∀ held, ∃ blob, readImageOsip name (some held) w = (.ok blob, w) ∧
        IsImage w.content ((directory w).desc i) blob) ↔
      ((directory w).desc i).blocks + 1 < 2 ^ 22 ∧
        Shows w.content ((directory w).desc i).logicalStartBlock ((directory w).desc i).start
          (512 * ((directory w).desc i).blocks) := by
  constructor
  · intro image
    rcases image fun _ => 0 with ⟨blob, read, returned, payload, _⟩
    rw [readImageOsip_eq lookup] at read
    rcases readOsimageData_ok read with ⟨held, _, _, rfl⟩
    have small := (returned_iff _ _ _).mp returned
    have size := blobSize_toNat small
    refine ⟨small, readOsimageData_seek healthy accepted read, fun k inside => ?_⟩
    have split := blobSize_block (blobSize_ne_zero small)
    rw [← payload k inside, imageBlob_payload _ _ _ k (by omega)]
  · rintro ⟨small, reached, shown⟩ held
    have size := blobSize_toNat small
    have nonempty := blobSize_ne_zero small
    have split := blobSize_block nonempty
    have read := readImageOsip_eq lookup (some held)
    rw [readOsimageData_healthy held healthy accepted nonempty reached] at read
    refine ⟨_, read, (returned_iff _ _ _).mpr small, fun k inside => ?_, imageBlob_record _ _ _⟩
    rw [imageBlob_payload _ _ _ k (by omega), shown k inside]

theorem readImageSignatureOsip_eq (stack : OSIPHeader) (healthy : Healthy w)
    (lookup : getNamedOsiiIndex name .readOsipHeader w = (.ok (i : Int), w)) (held : Buffer) :
    readImageSignatureOsip stack (some held) name w =
      (if ((stack.desc i).logicalStartBlock * 512).toNat < 2 ^ 31 then
        .ok (firstBytes
          (fun k => w.content (((stack.desc i).logicalStartBlock * 512).toNat + k)) 480)
      else .error .seekFailed, w) := by
  rw [readImageSignatureOsip, bind_of_ok lookup, checkIndexOutofbound_fin, lift_ok_bind,
    bind_of_ok (call_healthy _ w healthy)]
  change (lift (stack.getDesc i) >>= _) w = _
  rw [OSIPHeader.getDesc_fin, lift_ok_bind]
  by_cases reached : ((stack.desc i).logicalStartBlock * 512).toNat < 2 ^ 31
  · rw [seekBlock_pos reached, lift_ok_bind, if_pos reached]
    simp only
    rw [bind_of_ok (readAt_healthy _ _ w healthy)]
    rfl
  · rw [seekBlock_neg reached, if_neg reached]
    rfl

theorem signature_iff (stack : OSIPHeader) (healthy : Healthy w)
    (lookup : getNamedOsiiIndex name .readOsipHeader w = (.ok (i : Int), w)) :
    (∀ held, readImageSignatureOsip stack (some held) name w =
        (.ok (firstBytes (fun k => w.content (512 * ((directory w).desc i).start + k)) 480), w)) ↔
      Shows w.content (stack.desc i).logicalStartBlock ((directory w).desc i).start 480 := by
  constructor
  · intro signature
    have read := signature fun _ => 0
    rw [readImageSignatureOsip_eq stack healthy lookup] at read
    have value := (Prod.mk.inj read).1
    split at value
    · rename_i reached
      exact ⟨reached, firstBytes_inj.mp (Outcome.ok.inj value)⟩
    · cases value
  · rintro ⟨reached, shown⟩ held
    rw [readImageSignatureOsip_eq stack healthy lookup, if_pos reached, firstBytes_congr shown]

theorem isImageSignedOsip_of_resolved (name : String) {k : Int} (healthy : Healthy w)
    (accepted : Accepted w)
    (resolved : ResolvesTo (directory w) "recovery" .readOsipHeader k) :
    ∃ v, isImageSignedOsip name w = (.ok v, w) ∧
      (v = 1 ↔ ∃ r : Fin 8, k = r ∧ ((directory w).desc r).Signed) := by
  rw [isImageSignedOsip, bind_of_ok (attempt_of_ok (readOSIP_healthy w healthy accepted))]
  simp only
  rw [bind_of_ok (getNamedOsiiIndex_healthy healthy accepted resolved)]
  by_cases inside : 0 ≤ k ∧ k < 8
  · obtain ⟨r, rfl⟩ : ∃ r : Fin 8, k = r := ⟨⟨k.toNat, by omega⟩, by simp [inside.1]⟩
    rw [checkIndexOutofbound_fin, bind_of_ok (attempt_of_ok (lift_apply _ w))]
    change ∃ v, (lift ((directory w).getDesc r) >>= _) w = (.ok v, w) ∧ _
    rw [OSIPHeader.getDesc_fin, lift_ok_bind]
    refine ⟨_, rfl, ?_⟩
    have value : (if ((directory w).desc r).attr &&& ATTR_UNSIGNED_KERNEL ≠ 0 then (0 : Int)
        else 1) = 1 ↔ ((directory w).desc r).Signed := by
      by_cases unsigned : ((directory w).desc r).attr &&& ATTR_UNSIGNED_KERNEL ≠ 0
      · rw [if_pos unsigned]
        exact ⟨fun one => absurd one (by decide), fun signed => absurd signed unsigned⟩
      · rw [if_neg unsigned]
        exact ⟨fun _ => not_not.mp unsigned, fun _ => rfl⟩
    rw [value]
    constructor
    · intro signed
      exact ⟨r, rfl, signed⟩
    · rintro ⟨r', same, signed⟩
      have index : r = r' := Fin.ext (by exact_mod_cast same)
      rwa [index]
  · have outside : checkIndexOutofbound k = .error (.badIndex k) := by
      apply Outcome.require_neg
      simp only [MAX_OSIP_DESC, not_not]
      omega
    have failed : attempt (lift (checkIndexOutofbound k)) w = (.ok none, w) := by
      rw [outside]
      rfl
    rw [bind_of_ok failed]
    refine ⟨-1, rfl, fun one => absurd one (by decide), ?_⟩
    rintro ⟨r, rfl, _⟩
    omega

theorem resolved_of_isImageSignedOsip {v : Int} {w' : World} (healthy : Healthy w)
    (accepted : Accepted w) (ran : isImageSignedOsip name w = (.ok v, w')) :
    ∃ k, ResolvesTo (directory w) "recovery" .readOsipHeader k := by
  have reads := attempt_of_ok (readOSIP_healthy w healthy accepted)
  rw [isImageSignedOsip, bind_of_ok reads] at ran
  rcases bind_ok_inv ran with ⟨k, middle, lookup, _⟩
  change getAttributeOsiiIndex ATTR_SIGNED_ROS 1 .readOsipHeader w = _ at lookup
  rw [getAttributeOsiiIndex, bind_of_ok reads] at lookup
  exact ⟨k, ATTR_SIGNED_ROS, 1, rfl, congrArg Prod.fst lookup⟩

theorem signed_iff (name : String) (i : Fin 8) (healthy : Healthy w) (accepted : Accepted w) :
    (∃ v, isImageSignedOsip name w = (.ok v, w) ∧ (v = 1 ↔ ((directory w).desc i).Signed)) ↔
      ∃ k, ResolvesTo (directory w) "recovery" .readOsipHeader k ∧
        ((∃ r : Fin 8, k = r ∧ ((directory w).desc r).Signed) ↔ ((directory w).desc i).Signed) := by
  constructor
  · rintro ⟨v, ran, agrees⟩
    rcases resolved_of_isImageSignedOsip healthy accepted ran with ⟨k, resolved⟩
    rcases isImageSignedOsip_of_resolved name healthy accepted resolved with
      ⟨v', ran', recovery⟩
    rw [ran'] at ran
    cases ran
    exact ⟨k, resolved, recovery.symm.trans agrees⟩
  · rintro ⟨k, resolved, agrees⟩
    rcases isImageSignedOsip_of_resolved name healthy accepted resolved with
      ⟨v, ran, recovery⟩
    exact ⟨v, ran, recovery.trans agrees⟩

theorem getNamedOsiiLogicalStartBlock_eq (healthy : Healthy w) (accepted : Accepted w)
    (lookup : getNamedOsiiIndex name .readOsipHeader w = (.ok (i : Int), w)) :
    getNamedOsiiLogicalStartBlock name w = (.ok ((directory w).desc i).start, w) := by
  rw [getNamedOsiiLogicalStartBlock, bind_of_ok lookup, checkIndexOutofbound_fin,
    bind_of_ok (attempt_of_ok (lift_apply _ w))]
  simp only
  rw [bind_of_ok (attempt_of_ok (readOSIP_healthy w healthy accepted))]
  change (lift ((directory w).getDesc i) >>= _) w = _
  rw [OSIPHeader.getDesc_fin, lift_ok_bind]
  rfl

/-- The readers of a name refer to the entry the name resolves to exactly when the header
variable that nothing fills, and the recovery image, happen to say the same as that entry. -/
theorem same_entry_iff {stack : OSIPHeader} (healthy : Healthy w) (accepted : Accepted w)
    (lookup : getNamedOsiiIndex name .readOsipHeader w = (.ok (i : Int), w)) :
    SameEntry w stack name i ↔ ReadersReach w stack i := by
  have images := image_iff healthy accepted lookup
  have signatures := signature_iff stack healthy lookup
  have signing := signed_iff name i healthy accepted
  constructor
  · intro same
    rcases images.mp same.image with ⟨small, payload⟩
    exact ⟨small, payload, signatures.mp same.signature, signing.mp same.signed⟩
  · intro reach
    exact ⟨images.mpr ⟨reach.small, reach.payload⟩, signatures.mpr reach.signature,
      signing.mpr reach.recovery, getNamedOsiiLogicalStartBlock_eq healthy accepted lookup⟩

end Readers

def bootRecoveryOsip : OSIPHeader :=
  { twoEntryOsip with
    desc := Function.update twoEntryOsip.desc 1
      { twoEntryOsip.desc 1 with attr := ATTR_SIGNED_ROS } }

def bootRecoveryDevice : World := deviceWith bootRecoveryOsip

theorem bootRecoveryDevice_directory : directory bootRecoveryDevice = bootRecoveryOsip.seal :=
  directory_deviceWith _

theorem bootRecoveryDevice_healthy : Healthy bootRecoveryDevice := rfl

theorem bootRecoveryDevice_recovery :
    ResolvesTo (directory bootRecoveryDevice) "recovery" .readOsipHeader (1 : Fin 8) := by
  rw [bootRecoveryDevice_directory]
  exact ⟨ATTR_SIGNED_ROS, 1, rfl, by decide⟩

theorem bootRecoveryDevice_lookup :
    getNamedOsiiIndex "recovery" .readOsipHeader bootRecoveryDevice =
      (.ok ((1 : Fin 8) : Int), bootRecoveryDevice) :=
  getNamedOsiiIndex_healthy bootRecoveryDevice_healthy (accepted_deviceWith _)
    bootRecoveryDevice_recovery

theorem same_entry_recovery :
    SameEntry bootRecoveryDevice (directory bootRecoveryDevice) "recovery" 1 := by
  have reach : ReadersReach bootRecoveryDevice (directory bootRecoveryDevice) 1 := by
    have recovery := bootRecoveryDevice_recovery
    rw [bootRecoveryDevice_directory] at recovery
    constructor
    all_goals rw [bootRecoveryDevice_directory]
    · decide
    · exact ⟨by decide, fun k _ => rfl⟩
    · exact ⟨by decide, fun k _ => rfl⟩
    · refine ⟨_, recovery, fun _ => by decide, fun signed => ⟨1, rfl, signed⟩⟩
  exact (same_entry_iff bootRecoveryDevice_healthy (accepted_deviceWith _)
    bootRecoveryDevice_lookup).mpr reach

/-- On a stack of zeros the signature is read from the directory itself. -/
theorem signature_of_directory :
    Healthy bootRecoveryDevice ∧ Accepted bootRecoveryDevice ∧
    getNamedOsiiIndex "recovery" .readOsipHeader bootRecoveryDevice =
      (.ok ((1 : Fin 8) : Int), bootRecoveryDevice) ∧
    ¬ SameEntry bootRecoveryDevice (OSIPHeader.ofBytes fun _ => 0) "recovery" 1 := by
  refine ⟨bootRecoveryDevice_healthy, accepted_deviceWith _, bootRecoveryDevice_lookup, ?_⟩
  intro same
  have shown := (signature_iff _ bootRecoveryDevice_healthy bootRecoveryDevice_lookup).mp
    same.signature
  have first := shown.2 0 (by decide)
  rw [bootRecoveryDevice_directory] at first
  exact absurd first (by decide)

end A500cg.Osip
