import A500cg.Osip.Plan

/-! A power cut while an image is being flashed.

The directory is committed last, so until then the device must still boot from
the old entries. The end-point test of `get_free_lba` misses an entry that covers
a slot from before its first block to its last one, and the blob then lands on it. -/

namespace A500cg.Osip

open Lib Flash

/-- The byte lies in a block of an entry in use. -/
def LiveByte (osip : OSIPHeader) (a : Nat) : Prop :=
  ∃ i : Fin 8, i.val < osip.count ∧ 512 * (osip.desc i).start ≤ a ∧
    a < 512 * ((osip.desc i).start + (osip.desc i).blocks)

/-- What a cut must not change: the directory and the blocks it points to. -/
def Protected (osip : OSIPHeader) (a : Nat) : Prop := a < headerBytes ∨ LiveByte osip a

/-- Every cut before the final `write_OSIP` leaves the protected bytes as they
were. A run that leaves the descriptor array has no defined stores to cut. -/
def PowerCutSafe (w : World) (data : Buffer) (size : UInt32) (osiiIndex : Int) : Prop :=
  (∀ k, (stitchImage data size osiiIndex false w).1 ≠ .stray k) ∧
  ∀ log, w.writes <+: log → log <+: (stitchImage data size osiiIndex false w).2.writes →
    ∀ a, Protected (directory w) a → replay w.initial log a = w.content a

/-- The entry starts below the slot and reaches its last block, so that neither of
the two blocks the code looks at lies in the slot. -/
def Spans (d : OSII) (slot limit : UInt32) : Prop :=
  d.start < slot.toNat ∧ slot.toNat + limit.toNat ≤ d.start + d.blocks + 1

def BackupClear (w : World) : Prop :=
  le32 w.content OSIP_BACKUP_OFFSET = OSIP_SIG →
    ∀ i : Fin 8, i.val < (directory w).count → ((directory w).desc i).start = 0 →
      ((directory w).desc i).blocks = 0

/-- Where the blob lies on the entry, it is what is there already. -/
def SameBytes (w : World) (data : Buffer) (blocks : Nat) (slot : UInt32) (d : OSII) : Prop :=
  ∀ k < 512 * blocks, 512 * d.start ≤ 512 * slot.toNat + k →
    512 * slot.toNat + k < 512 * (d.start + d.blocks) →
      payload data k = w.content (512 * slot.toNat + k)

/-- The entry at the index is not one of another class that would be moved past the array. -/
def StaysInside (osip : OSIPHeader) (attr : UInt8) (index : Nat) : Prop :=
  ∀ i : Fin 8, i.val = index → osip.count = 8 ∨ i = 7 →
    attrClass (osip.desc i).attr ∈ overwrittenClasses ∨
      attrClass (osip.desc i).attr = attrClass attr

/-- What makes a flash safe, if it passes its checks: the backup signature is nobody's; and
where the image has a slot, no entry in use that spans the slot gets other bytes. -/
def CutClear (w : World) (data : Buffer) (size : UInt32) (osiiIndex : Int) : Prop :=
  ∀ osii, Checked data size osiiIndex osii w → BackupClear w ∧
    ∀ slots limit slot, slotTable osii.attr = some (slots, limit) →
      slots.find? (fun slot => decide (SlotFree (directory w) limit slot)) = some slot →
      osii.sizeOfOsImage ≤ limit →
        StaysInside (directory w) osii.attr osiiIndex.toNat ∧
          ∀ i : Fin 8, i.val < (directory w).count → Spans ((directory w).desc i) slot limit →
            SameBytes w data osii.blocks slot ((directory w).desc i)

theorem payload_length {size : UInt32} {osii : OSII} (length : osii.sizeOfOsImage * 512 = size - 512)
    (small : osii.blocks ≤ 288000) : (size - 512).toNat = 512 * osii.blocks := by
  rw [← length, UInt32.toNat_mul]
  change osii.blocks * 512 % 2 ^ 32 = _
  omega

theorem crackStitchedImage_attr {data : Buffer} {osii : OSII}
    (record : crackStitchedImage data = .ok osii) : osii.attr = data attributeOffset := by
  rw [crackStitchedImage_eq] at record
  split at record
  · cases record
    rfl
  · cases record

theorem spans_of_overlap {osip : OSIPHeader} {slot limit : UInt32} {i : Fin 8} (block : Nat)
    (fits : slot.toNat + limit.toNat < 2 ^ 32) (live : i.val < osip.count)
    (free : SlotFree osip limit slot) (inSlot : slot.toNat ≤ block ∧ block < slot.toNat + limit.toNat)
    (inEntry : (osip.desc i).start ≤ block ∧
      block < (osip.desc i).start + (osip.desc i).blocks) :
    Spans (osip.desc i) slot limit := by
  have unused : ¬ slotUsed slot limit (osip.desc i) = true := by
    rw [free i live]
    exact Bool.false_ne_true
  rw [slotUsed_iff slot limit _ fits, not_or] at unused
  rcases unused with ⟨first, last⟩
  have below : (osip.desc i).start < slot.toNat := by omega
  refine ⟨below, ?_⟩
  by_contra short
  have small : (osip.desc i).start + 1 + (osip.desc i).blocks < 2 ^ 32 := by omega
  rw [Nat.mod_eq_of_lt small] at last
  omega

theorem backup_keeps_protected {w after : World} (clear : BackupClear w)
    (destroyed : BackupDestroyed w after) :
    w.Touches (fun a => ¬ Protected (directory w) a) after := by
  rcases destroyed with ⟨initial, done, bound, log, present⟩
  refine ⟨initial, _, log, ?_⟩
  intro store member
  have range := mem_writesAt _ _ _ _ member
  change 224 ≤ store.addr ∧ store.addr < 224 + done at range
  intro either
  rcases either with header | ⟨i, live, lower, upper⟩
  · simp only [headerBytes] at header
    omega
  · have empty := clear (present (by omega)) i live (by omega)
    omega

theorem blob_preserves {w middle after : World} {data : Buffer} {size : UInt32}
    {osiiIndex : Int} {osii placed : OSII} {table : OSIPHeader} {done : Nat}
    (few : (directory w).count ≤ 8) (clear : CutClear w data size osiiIndex)
    (checked : Checked data size osiiIndex osii w)
    (plan : stitchPlan (directory w) osii osiiIndex false = .ok (placed, table))
    (kept : ∀ a, Protected (directory w) a → middle.content a = w.content a)
    (bound : done ≤ (size - 512).toNat) (initial : after.initial = middle.initial)
    (log : after.writes = middle.writes ++
      writesAt (placed.logicalStartBlock * 512).toNat done (payload data)) :
    middle.Preserves (Protected (directory w)) after := by
  have place := (stitchPlan_inv plan).1
  rcases placeImage_slot few place with ⟨slots, limit, classes, member, free, first, small, shape⟩
  have bounds := slot_bounds classes member
  have same := ((clear osii checked).2 slots limit _ classes first
    (UInt32.le_iff_toNat_le.mpr small)).2
  have length := payload_length checked.length (by omega)
  refine ⟨initial, _, log, ?_⟩
  intro store written inside
  rcases List.mem_map.mp written with ⟨k, ranged, rfl⟩
  have ranged := List.mem_range.mp ranged
  simp only [slot_byte_offset classes member] at inside ⊢
  rw [kept _ inside]
  rcases inside with header | ⟨i, live, lower, upper⟩
  · simp only [headerBytes] at header
    omega
  · have spans : Spans ((directory w).desc i) placed.logicalStartBlock limit :=
      spans_of_overlap ((512 * placed.logicalStartBlock.toNat + k) / 512) (by omega) live free
        (by omega) (by omega)
    exact same i live spans k (by omega) lower upper

theorem stitchPlan_inside {osip : OSIPHeader} {osii : OSII} {osiiIndex : Int} {k : Nat}
    (few : osip.count ≤ 8) (lower : 0 ≤ osiiIndex) (upper : osiiIndex < 8)
    (stays : ∀ slots limit slot, slotTable osii.attr = some (slots, limit) →
      slots.find? (fun slot => decide (SlotFree osip limit slot)) = some slot →
        osii.sizeOfOsImage ≤ limit → StaysInside osip osii.attr osiiIndex.toNat) :
    stitchPlan osip osii osiiIndex false ≠ .stray k := by
  intro plan
  rcases stitchPlan_stray_inv few plan with ⟨placed, place, update⟩
  rcases placeImage_slot few place with ⟨slots, limit, classes, _, _, first, small, shape⟩
  have index : osiiIndex.toNat < 8 := by omega
  have kept := stays slots limit _ classes first (UInt32.le_iff_toNat_le.mpr small)
    ⟨osiiIndex.toNat, index⟩ rfl
  have attr : placed.attr = osii.attr := by rw [shape, placedAt_attr]
  have table := updateTable_eq osip placed ⟨osiiIndex.toNat, index⟩
  simp only at table
  rw [table] at update
  by_cases replaces : Replaces osip placed ⟨osiiIndex.toNat, index⟩
  · rw [if_pos replaces] at update
    cases update
  · rw [if_neg replaces] at update
    by_cases room : (osip.grow ⟨osiiIndex.toNat, index⟩).count < 8
    · rw [dif_pos room] at update
      cases update
    · rw [grow_count] at room
      change ¬ max osip.count (osiiIndex.toNat + 1) < 8 at room
      apply replaces
      rw [Replaces, attr]
      have full : osip.count = 8 ∨ osiiIndex.toNat = 7 := by omega
      rcases full with all | last
      · exact kept (.inl all)
      · exact kept (.inr (Fin.ext last))

theorem power_cut_safe_of_clear {w : World} {data : Buffer} {size : UInt32} {osiiIndex : Int}
    (few : (directory w).count ≤ 8) (clear : CutClear w data size osiiIndex) :
    PowerCutSafe w data size osiiIndex := by
  have ran : stitchImage data size osiiIndex false w =
      ((stitchImage data size osiiIndex false w).1, (stitchImage data size osiiIndex false w).2) :=
    rfl
  generalize (stitchImage data size osiiIndex false w).1 = result at ran
  generalize (stitchImage data size osiiIndex false w).2 = after at ran
  have preserved : (∀ k, result ≠ .stray k) ∧ w.Preserves (Protected (directory w)) after := by
    cases stitchImage_cases ran with
    | refused cause _ same early => exact ⟨by simp, (same.touches _).preserves⟩
    | rejected osii _ cause checked destroyed plan =>
        exact ⟨by simp, (backup_keeps_protected (clear osii checked).1 destroyed).preserves⟩
    | strayed osii _ index checked destroyed plan =>
        refine absurd plan (stitchPlan_inside few checked.lower checked.upper ?_)
        exact fun slots limit slot classes first small =>
          ((clear osii checked).2 slots limit slot classes first small).1
    | stopped osii placed table middle _ cause done checked plan destroyed bound initial log =>
        have front := (backup_keeps_protected (clear osii checked).1 destroyed).preserves
        exact ⟨by simp, front.trans
          (blob_preserves few clear checked plan front.content_eq bound initial log)⟩
    | written osii placed table middle _ checked plan destroyed initial log =>
        have front := (backup_keeps_protected (clear osii checked).1 destroyed).preserves
        exact ⟨by simp, front.trans
          (blob_preserves few clear checked plan front.content_eq (le_refl _) initial log)⟩
  rw [PowerCutSafe, ran]
  exact ⟨preserved.1, fun log start stop a inside => preserved.2.cut log start stop a inside⟩

/-- A stitched image of `blocks` blocks; the rest of its header is zero. -/
def plainImage (attr blocks : UInt8) (body : Buffer) : Buffer := fun i =>
  if i = 8 then 1 else if i = 48 then blocks else if i = attributeOffset then attr
  else if i < LBA_SIZE then 0 else body (i - LBA_SIZE)

def plainRecord (attr blocks : UInt8) : OSII :=
  { OSII.zero with sizeOfOsImage := blocks.toUInt32, attr := attr }

theorem plainImage_record (attr blocks : UInt8) (body : Buffer) :
    crackStitchedImage (plainImage attr blocks body) = .ok (plainRecord attr blocks) := by
  have single : (OSIPHeader.ofBytes (plainImage attr blocks body)).numPointers = 1 := rfl
  rw [crackStitchedImage_eq, if_pos single]
  congr 1
  ext1
  · rfl
  · rfl
  · rfl
  · rfl
  · rfl
  · apply UInt32.toNat_inj.mp
    change (le32 (fun k => plainImage attr blocks body (32 + 24 * 0 + k)) 16).toNat = _
    rw [le32_toNat]
    simp [plainImage, plainRecord, attributeOffset, LBA_SIZE]
  · rfl
  · funext i
    fin_cases i <;> rfl

theorem carryOut_extends (data : Buffer) (size : UInt32) (osip : OSIPHeader) (osii : OSII)
    (osiiIndex : Int) (largeImage : Bool) (w : World) :
    w.writes <+: (carryOut data size osip osii osiiIndex largeImage w).2.writes := by
  rw [carryOut_eq]
  cases stitchPlan osip osii osiiIndex largeImage with
  | error cause => exact List.prefix_refl _
  | stray k => exact List.prefix_refl _
  | ok plan =>
      change w.writes <+: ((writeBlob data size plan.1.logicalStartBlock >>= fun _ =>
        pure plan.2) w).2.writes
      obtain ⟨done, after, _, _, log, ⟨writes, _⟩ | ⟨cause, _, _, writes⟩⟩ :=
        writeBlob_spec data size plan.1.logicalStartBlock w
      · rw [bind_of_ok writes, pure_apply, log]
        exact List.prefix_append _ _
      · rw [bind_of_error writes, log]
        exact List.prefix_append _ _

theorem plainImage_checked {w : World} {attr blocks : UInt8} {body : Buffer} {size : UInt32}
    {osiiIndex : Int} (lower : 0 ≤ osiiIndex) (upper : osiiIndex < 8) (accepted : Accepted w)
    (length : blocks.toUInt32 * 512 = size - 512) :
    Checked (plainImage attr blocks body) size osiiIndex (plainRecord attr blocks) w :=
  ⟨lower, upper, plainImage_record attr blocks body, length, accepted⟩

section Healthy

variable {w : World} {data : Buffer} {size : UInt32} {osiiIndex : Int} {osii : OSII}

theorem backupClear_of_safe (healthy : Healthy w) (checked : Checked data size osiiIndex osii w)
    (safe : PowerCutSafe w data size osiiIndex) : BackupClear w := by
  intro present i live start
  by_contra nonempty
  have grown : (afterBackup w).writes =
      w.writes ++ writesAt OSIP_BACKUP_OFFSET 4 (fun _ => 0xff) := by
    rw [afterBackup, if_pos present, World.store_writes]
  have started : w.writes <+: (afterBackup w).writes := by
    rw [grown]
    exact List.prefix_append _ _
  have reached : (afterBackup w).writes <+:
      (stitchImage data size osiiIndex false w).2.writes := by
    rw [stitchImage_healthy false healthy checked]
    exact carryOut_extends _ _ _ _ _ _ _
  have owned : Protected (directory w) 224 := .inr ⟨i, live, by omega, by omega⟩
  have cut := safe.2 _ started reached 224 owned
  have before : w.content 224 = 0x24 := by
    have signed : le32 w.content 224 = OSIP_SIG := present
    have byte := leByte_le32 w.content 224 0 (by decide)
    rw [signed, Nat.add_zero] at byte
    rw [← byte]
    decide
  rw [grown, replay_append, replay_writesAt, overlay, if_pos (by decide), before] at cut
  exact absurd cut (by decide)

theorem blob_reaches {slots : List UInt32} {limit slot : UInt32} {table : OSIPHeader}
    (healthy : Healthy w) (checked : Checked data size osiiIndex osii w)
    (classes : slotTable osii.attr = some (slots, limit)) (member : slot ∈ slots)
    (place : placeImage (directory w) osii false = .ok (osii.placedAt slot))
    (update : updateTable (directory w) (osii.placedAt slot) osiiIndex.toNat = .ok table)
    {k : Nat} (inside : k < (size - 512).toNat) :
    ∃ log, w.writes <+: log ∧ log <+: (stitchImage data size osiiIndex false w).2.writes ∧
      replay w.initial log (512 * slot.toNat + k) = payload data k := by
  have bounds := slot_bounds classes member
  have offset := slot_byte_offset classes member
  have ran := stitchImage_healthy_written healthy checked (stitchPlan_ok place update)
    (by rw [placedAt_start]; omega)
  rw [placedAt_start, offset] at ran
  have started : w.writes <+: (afterBackup w).writes := by
    simp only [afterBackup]
    split
    · exact List.prefix_append _ _
    · exact List.prefix_refl _
  refine ⟨(afterBackup w).writes ++ writesAt (512 * slot.toNat) (size - 512).toNat (payload data),
    started.trans (List.prefix_append _ _), ?_, ?_⟩
  · rw [ran]
    exact List.prefix_refl _
  · rw [replay_append, replay_writesAt]
    exact overlay_inside _ _ _ _ k inside

end Healthy

theorem placeImage_free {osip : OSIPHeader} {osii : OSII} {slots : List UInt32}
    {limit slot : UInt32} (few : osip.count ≤ 8) (table : slotTable osii.attr = some (slots, limit))
    (first : slots.find? (fun slot => decide (SlotFree osip limit slot)) = some slot)
    (small : osii.sizeOfOsImage ≤ limit) :
    placeImage osip osii false = .ok (osii.placedAt slot) := by
  have bounds := slot_bounds table (List.mem_of_find?_eq_some first)
  have chosen : chooseSlot osip osii.attr false = .ok (slot, limit) := by
    rw [chooseSlot_small, table]
    simp only [getFreeLba_eq _ _ _ few, first]
    rfl
  refine placeImage_of_choice chosen ?_ small
  intro same
  rcases same with rfl
  exact absurd bounds.1 (by decide)

theorem plainImage_placed {osip : OSIPHeader} {attr blocks : UInt8} {slots : List UInt32}
    {limit slot : UInt32} (few : osip.count ≤ 8) (table : slotTable attr = some (slots, limit))
    (first : slots.find? (fun slot => decide (SlotFree osip limit slot)) = some slot)
    (small : blocks.toNat ≤ 1) :
    placeImage osip (plainRecord attr blocks) false =
      .ok ((plainRecord attr blocks).placedAt slot) := by
  refine placeImage_free few table first ?_
  have bounds := slot_bounds table (List.mem_of_find?_eq_some first)
  rw [UInt32.le_iff_toNat_le]
  change blocks.toUInt32.toNat ≤ _
  rw [UInt8.toNat_toUInt32]
  omega

theorem clear_of_power_cut_safe {w : World} {data : Buffer} {size : UInt32} {osiiIndex : Int}
    (healthy : Healthy w) (few : (directory w).count ≤ 8)
    (safe : PowerCutSafe w data size osiiIndex) : CutClear w data size osiiIndex := by
  intro osii checked
  refine ⟨backupClear_of_safe healthy checked safe, ?_⟩
  intro slots limit slot classes first small
  have index : osiiIndex.toNat < 8 := by
    have lower := checked.lower
    have upper := checked.upper
    omega
  have member := List.mem_of_find?_eq_some first
  have bounds := slot_bounds classes member
  have place := placeImage_free few classes first small
  have shape := updateTable_eq (directory w) (osii.placedAt slot) ⟨osiiIndex.toNat, index⟩
  simp only at shape
  cases update : updateTable (directory w) (osii.placedAt slot) osiiIndex.toNat with
  | error cause => exact (updateTable_no_error index update).elim
  | stray k =>
      have plan : stitchPlan (directory w) osii osiiIndex false = .stray k :=
        stitchPlan_stray place update
      exact absurd (by rw [stitchImage_healthy_stray healthy checked plan]) (safe.1 k)
  | ok table =>
      constructor
      · -- moving the entry would have left the array
        intro i here full
        have there : (⟨osiiIndex.toNat, index⟩ : Fin 8) = i := Fin.ext here.symm
        by_contra moved
        have noRoom : ¬ ((directory w).grow i).count < 8 := by
          rw [grow_count]
          rcases full with all | rfl
          · omega
          · simp
        have kept : ¬ Replaces (directory w) (osii.placedAt slot) i := moved
        rw [update, there, if_neg kept, dif_neg noRoom] at shape
        cases shape
      · intro i live _ k inside lower upper
        have length := payload_length checked.length
          (Nat.le_trans (UInt32.le_iff_toNat_le.mp small) (by omega))
        obtain ⟨log, start, stop, stored⟩ :=
          blob_reaches healthy checked classes member place update (length.symm ▸ inside)
        rw [← stored]
        exact safe.2 log start stop _ (.inr ⟨i, live, lower, upper⟩)

/-- A flash is safe from power cuts exactly if nothing that its checks let through writes other
bytes onto what is in use. Where system calls fail, it is safe all the more. -/
theorem flash_power_cut_safe_iff (w : World) (data : Buffer) (size : UInt32) (osiiIndex : Int)
    (accepted : Accepted w) (few : (directory w).count ≤ 8) :
    (PowerCutSafe { w with answers := [] } data size osiiIndex ↔ CutClear w data size osiiIndex) ∧
      (CutClear w data size osiiIndex → ∀ answers,
        PowerCutSafe { w with answers := answers } data size osiiIndex) := by
  have answered : CutClear w data size osiiIndex → ∀ answers,
      CutClear { w with answers := answers } data size osiiIndex := by
    intro clear answers osii checked
    exact clear osii ⟨checked.lower, checked.upper, checked.record, checked.length, accepted⟩
  have enough : CutClear w data size osiiIndex → ∀ answers,
      PowerCutSafe { w with answers := answers } data size osiiIndex :=
    fun clear answers => power_cut_safe_of_clear few (answered clear answers)
  refine ⟨⟨fun safe osii checked => ?_, fun clear => enough clear []⟩, enough⟩
  have quiet : Healthy { w with answers := [] } := rfl
  exact clear_of_power_cut_safe quiet few safe osii
    ⟨checked.lower, checked.upper, checked.record, checked.length, accepted⟩

def deviceWith (osip : OSIPHeader) : World :=
  ⟨overlay (fun _ => 0) 0 headerBytes osip.seal.byte, [], []⟩

theorem directory_deviceWith (osip : OSIPHeader) : directory (deviceWith osip) = osip.seal := by
  apply OSIPHeader.ofBytes_of_byte
  intro i bound
  have inside := overlay_inside (fun _ => 0) 0 headerBytes osip.seal.byte i bound
  rwa [Nat.zero_add] at inside

theorem accepted_deviceWith (osip : OSIPHeader) : Accepted (deviceWith osip) := by
  rw [Accepted, directory_deviceWith]
  exact getOsipCrc_seal osip

def bootOsip : OSIPHeader :=
  { defaultOsip with
    numPointers := 2
    headerSize := 80
    desc := fun i => if i = 0 then { OSII.zero with logicalStartBlock := 4050, sizeOfOsImage := 100 }
      else if i = 1 then
        { OSII.zero with logicalStartBlock := 36050, sizeOfOsImage := 30000, attr := 0x0C }
      else OSII.zero }

theorem flash_power_cut_safe_boot :
    PowerCutSafe (deviceWith bootOsip) (plainImage 0 1 fun _ => 7) 1024 0 := by
  have osip := directory_deviceWith bootOsip
  refine (flash_power_cut_safe_iff (deviceWith bootOsip) (plainImage 0 1 fun _ => 7) 1024 0
    (accepted_deviceWith _) (by rw [osip]; decide)).1.mpr ?_
  intro osii checked
  have record : osii = plainRecord 0 1 :=
    Outcome.ok.inj (checked.record.symm.trans (plainImage_record 0 1 _))
  subst record
  refine ⟨fun present => absurd present (by decide), ?_⟩
  intro slots limit slot classes first _
  have table : slotTable (plainRecord 0 1).attr = some (osLbaSlots, OS_MAX_LBA) := by decide
  cases table.symm.trans classes
  rw [osip] at first ⊢
  have third : osLbaSlots.find? (fun slot => decide (SlotFree bootOsip.seal OS_MAX_LBA slot)) =
      some 68050 := by decide
  cases third.symm.trans first
  constructor
  · intro i here full
    have first : i = 0 := Fin.ext here
    rw [first] at full
    exact absurd full (by decide)
  · intro i live spans
    have apart : ∀ i : Fin 8, i.val < bootOsip.seal.count →
        ¬ ((bootOsip.seal.desc i).start < 68050 ∧
          68050 + 32000 ≤ (bootOsip.seal.desc i).start + (bootOsip.seal.desc i).blocks + 1) := by
      decide
    exact absurd spans (apart i live)

/-- The directory `testos` leaves behind after flashing 100000 blocks. -/
def testosOsip : OSIPHeader :=
  { defaultOsip with
    headerSize := 56
    desc := Function.update (fun _ => OSII.zero) 0
      { OSII.zero with logicalStartBlock := 4050, sizeOfOsImage := 100000 } }

private theorem succ_ne_self (byte : UInt8) : byte + 1 ≠ byte := by
  intro same
  have values := congrArg UInt8.toNat same
  rw [UInt8.toNat_add] at values
  change (byte.toNat + 1) % 256 = byte.toNat at values
  omega

def clobberImage (w : World) (attr : UInt8) (slot : UInt32) : Buffer :=
  plainImage attr 1 (fun j => w.content (512 * slot.toNat + j) + 1)

/-- Flashing one more block as `boot` overwrites block 36050 of that image before
the directory is committed. -/
theorem flash_over_testos_entry :
    Accepted (deviceWith testosOsip) ∧ (directory (deviceWith testosOsip)).count ≤ 8 ∧
    ∃ log, (deviceWith testosOsip).writes <+: log ∧
      log <+: (stitchImage (clobberImage (deviceWith testosOsip) 0 36050) 1024 0 false
        (deviceWith testosOsip)).2.writes ∧
      LiveByte (directory (deviceWith testosOsip)) (512 * (36050 : UInt32).toNat) ∧
      replay (deviceWith testosOsip).initial log (512 * (36050 : UInt32).toNat) ≠
        (deviceWith testosOsip).content (512 * (36050 : UInt32).toNat) := by
  have osip := directory_deviceWith testosOsip
  have update : updateTable (directory (deviceWith testosOsip)) ((plainRecord 0 1).placedAt 36050) 0 =
      .ok (overwritten testosOsip.seal ((plainRecord 0 1).placedAt 36050) 0) := by
    have replaces : Replaces testosOsip.seal ((plainRecord 0 1).placedAt 36050) 0 := by decide
    have shape := updateTable_eq testosOsip.seal ((plainRecord 0 1).placedAt 36050) 0
    rw [if_pos replaces] at shape
    rw [osip]
    exact shape
  have few : (directory (deviceWith testosOsip)).count ≤ 8 := by
    rw [osip]
    decide
  have classes : slotTable (plainRecord 0 1).attr = some (osLbaSlots, OS_MAX_LBA) := by decide
  have first : osLbaSlots.find? (fun slot =>
      decide (SlotFree (directory (deviceWith testosOsip)) OS_MAX_LBA slot)) = some 36050 := by
    rw [osip]
    decide
  have checked : Checked (clobberImage (deviceWith testosOsip) 0 36050) 1024 0 (plainRecord 0 1)
      (deviceWith testosOsip) :=
    plainImage_checked (by decide) (by decide) (accepted_deviceWith _) (by decide)
  have quiet : Healthy (deviceWith testosOsip) := rfl
  obtain ⟨log, start, stop, stored⟩ := blob_reaches quiet checked classes
    (List.mem_of_find?_eq_some first) (placeImage_free few classes first (by decide)) update
    (show 0 < (1024 - 512 : UInt32).toNat by decide)
  refine ⟨accepted_deviceWith _, few, log, start, stop, ?_, ?_⟩
  · rw [osip]
    exact ⟨0, by decide, by decide, by decide⟩
  · rw [Nat.add_zero] at stored
    rw [stored]
    exact succ_ne_self _

end A500cg.Osip
