import A500cg.Osip.Named

/-! The invariant of the directory over whole runs of the named operations. -/

namespace A500cg.Osip

open Lib Flash

def classSlots (attr : UInt8) : List UInt32 × UInt32 :=
  if attrClass attr = ATTR_SIGNED_FW then (fwLbaSlots, FW_MAX_LBA) else (osLbaSlots, OS_MAX_LBA)

/-- Every entry in use has a slot of its class to itself, the rest are zero, and
the header says how many there are. -/
structure WellFormed (osip : OSIPHeader) : Prop where
  few : osip.count ≤ 8
  size : osip.headerSize.toNat = osip.count * 0x18 + 0x20
  unused : ∀ i : Fin 8, osip.count ≤ i.val → osip.desc i = OSII.zero
  placed : ∀ i : Fin 8, i.val < osip.count →
    (osip.desc i).logicalStartBlock ∈ (classSlots (osip.desc i).attr).1 ∧
    (osip.desc i).sizeOfOsImage ≤ (classSlots (osip.desc i).attr).2
  distinct : ∀ i j : Fin 8, i.val < osip.count → j.val < osip.count →
    (osip.desc i).logicalStartBlock = (osip.desc j).logicalStartBlock → i = j

theorem classSlots_of_slotTable {attr : UInt8} {slots : List UInt32} {limit : UInt32}
    (table : slotTable attr = some (slots, limit)) : classSlots attr = (slots, limit) := by
  simp only [slotTable] at table
  split at table
  · rename_i os
    cases table
    apply if_neg
    intro firmware
    rw [firmware] at os
    exact absurd os (by decide)
  · split at table
    · rename_i fw
      cases table
      apply if_pos
      simp only [fwClasses, List.mem_cons, List.not_mem_nil, or_false] at fw
      rcases fw with signed | unsigned
      · exact signed
      · have even := attrClass_even attr
        rw [unsigned] at even
        exact absurd even (by decide)
    · cases table

private theorem classSlots_range {d : OSII} (member : d.logicalStartBlock ∈ (classSlots d.attr).1)
    (small : d.sizeOfOsImage ≤ (classSlots d.attr).2) :
    (∃ k < 2, d.start = 50 + 2000 * k ∧ d.blocks ≤ 2000) ∨
      ∃ k < 9, d.start = 4050 + 32000 * k ∧ d.blocks ≤ 32000 := by
  have limit := UInt32.le_iff_toNat_le.mp small
  simp only [classSlots] at member limit
  split at member
  · rename_i firmware
    rw [if_pos firmware] at limit
    rcases fwLbaSlots_bounds _ member with ⟨k, bound, place⟩
    exact .inl ⟨k, bound, place, limit⟩
  · rename_i other
    rw [if_neg other] at limit
    rcases osLbaSlots_bounds _ member with ⟨k, bound, place⟩
    exact .inr ⟨k, bound, place, limit⟩

theorem WellFormed.disjoint {osip : OSIPHeader} (wf : WellFormed osip) (i j : Fin 8)
    (live : i.val < osip.count) (live' : j.val < osip.count) (different : i ≠ j) :
    (osip.desc i).start + (osip.desc i).blocks ≤ (osip.desc j).start ∨
      (osip.desc j).start + (osip.desc j).blocks ≤ (osip.desc i).start := by
  have apart : (osip.desc i).start ≠ (osip.desc j).start := by
    intro same
    exact different (wf.distinct i j live live' (UInt32.toNat_inj.mp same))
  have first := classSlots_range (wf.placed i live).1 (wf.placed i live).2
  have second := classSlots_range (wf.placed j live').1 (wf.placed j live').2
  rcases first with ⟨k, _, _, _⟩ | ⟨k, _, _, _⟩ <;>
    rcases second with ⟨l, _, _, _⟩ | ⟨l, _, _, _⟩ <;>
      rcases Nat.lt_trichotomy k l with lower | same | upper <;> omega

theorem WellFormed.seal {osip : OSIPHeader} (wf : WellFormed osip) : WellFormed osip.seal :=
  ⟨wf.few, wf.size, wf.unused, wf.placed, wf.distinct⟩

theorem WellFormed.replace {osip table : OSIPHeader} (wf : WellFormed osip) {index : Fin 8}
    {entry : OSII} (next : index.val ≤ osip.count)
    (count : table.count = max osip.count (index + 1))
    (size : table.headerSize.toNat = table.count * 0x18 + 0x20)
    (desc : table.desc = Function.update osip.desc index entry)
    (slot : entry.logicalStartBlock ∈ (classSlots entry.attr).1 ∧
      entry.sizeOfOsImage ≤ (classSlots entry.attr).2)
    (fresh : ∀ j : Fin 8, j.val < osip.count →
      (osip.desc j).logicalStartBlock = entry.logicalStartBlock → j = index) :
    WellFormed table := by
  have few := wf.few
  have here : table.desc index = entry := by rw [desc, Function.update_self]
  have other : ∀ i, i ≠ index → table.desc i = osip.desc i := by
    intro i different
    rw [desc, Function.update_of_ne different]
  have old : ∀ i : Fin 8, i ≠ index → i.val < table.count → i.val < osip.count := by
    intro i different live
    have apart : i.val ≠ index.val := fun same => different (Fin.ext same)
    omega
  refine ⟨by omega, size, ?_, ?_, ?_⟩
  · intro i past
    have different : i ≠ index := by
      intro same
      rcases same with rfl
      omega
    rw [other i different]
    exact wf.unused i (by omega)
  · intro i live
    by_cases same : i = index
    · rw [same, here]
      exact slot
    · rw [other i same]
      exact wf.placed i (old i same live)
  · intro i j live live' equal
    by_cases first : i = index <;> by_cases second : j = index
    · rw [first, second]
    · rw [first, here, other j second] at equal
      exact absurd (fresh j (old j second live') equal.symm) second
    · rw [second, here, other i first] at equal
      exact absurd (fresh i (old i first live) equal) first
    · rw [other i first, other j second] at equal
      exact wf.distinct i j (old i first live) (old j second live') equal

theorem WellFormed.repointed {osip : OSIPHeader} (wf : WellFormed osip) {i : Fin 8}
    (live : i.val < osip.count) (ddrLoadAddress entryPoint : UInt32) :
    WellFormed (repointed osip i ddrLoadAddress entryPoint) := by
  have count : osip.count = max osip.count (i + 1) := by omega
  refine wf.replace (Nat.le_of_lt live) count wf.size rfl (wf.placed i live) ?_
  intro j live' same
  exact wf.distinct j i live' live same

theorem WellFormed.tidy {osip : OSIPHeader} (wf : WellFormed osip) : Tidy osip :=
  ⟨wf.few, wf.unused⟩

theorem grow_headerSize {osip : OSIPHeader} (index : Fin 8)
    (size : osip.headerSize.toNat = osip.count * 0x18 + 0x20) :
    (osip.grow index).headerSize.toNat = (osip.grow index).count * 0x18 + 0x20 := by
  simp only [OSIPHeader.grow]
  split
  · fin_cases index <;> rfl
  · exact size

theorem WellFormed.overwritten {osip : OSIPHeader} (wf : WellFormed osip) {osii placed : OSII}
    {index : Fin 8} (next : index.val ≤ osip.count)
    (place : placeImage osip osii false = .ok placed) :
    WellFormed (overwritten osip placed index) := by
  rcases placeImage_slot wf.few place with ⟨slots, limit, table, member, free, _, small, shape⟩
  rcases storedEntry_fields osip placed index with ⟨start, blocks, _⟩
  have attr : (storedEntry osip placed index).attr = osii.attr := by
    rw [storedEntry_attr, shape, placedAt_attr]
  have size : placed.sizeOfOsImage = osii.sizeOfOsImage := by
    rw [shape, placedAt_size]
  refine wf.replace next (grow_count osip index) (grow_headerSize index wf.size) rfl ?_ ?_
  · rw [attr, classSlots_of_slotTable table, start, blocks, size]
    exact ⟨member, UInt32.le_iff_toNat_le.mpr small⟩
  · intro j live same
    have bounds := slot_bounds table member
    have unused := free j live
    rw [← Bool.not_eq_true, slotUsed_iff _ _ _ (by omega), not_or] at unused
    rw [start] at same
    have equal : (osip.desc j).start = placed.logicalStartBlock.toNat := congrArg UInt32.toNat same
    omega

/-- One call of a named operation; `testos` resets the directory and is not one. -/
inductive DirectoryOp where
  | flash (data : Buffer) (sz : UInt32) (name : String) (ordinary : name ≠ "testos")
  | invalidate (name : String)
  | restore (name : String)

namespace DirectoryOp

def run : DirectoryOp → Flash OsipError Unit
  | flash data sz name _ => flashImageOsip data sz name
  | invalidate name => invalidateOsii name
  | restore name => restoreOsii name

def Targets (osip : OSIPHeader) (i : Fin 8) : DirectoryOp → Prop
  | flash _ _ name _ => ResolvesTo osip name .writeOsipHeader i
  | invalidate name => ResolvesTo osip name .readOsipHeader i
  | restore name => ResolvesTo osip name .readOsipHeader i

end DirectoryOp

/-- The operation ran on `w` and ended in `w'` without a failing system call. -/
def Step (w w' : World) : Prop :=
  ∃ (op : DirectoryOp) (result : Outcome OsipError Unit), op.run w = (result, w') ∧ Settled result

structure Sound (w : World) : Prop where
  accepted : Accepted w
  wellFormed : WellFormed (directory w)

theorem Sound.of_directory {w w' : World} (sound : Sound w) (same : directory w' = directory w) :
    Sound w' := by
  rcases sound with ⟨accepted, wellFormed⟩
  constructor
  · rw [Accepted, same]
    exact accepted
  · rw [same]
    exact wellFormed

theorem Sound.of_committed {table : OSIPHeader} {w' : World} (wf : WellFormed table)
    (committed : directory w' = table.seal) : Sound w' := by
  constructor
  · rw [Accepted, committed]
    exact getOsipCrc_seal table
  · rw [committed]
    exact wf.seal

/-- What an operation keeps of the directory, besides the invariant. -/
structure Keeps (w : World) (op : DirectoryOp) (w' : World) : Prop where
  count : (directory w).count ≤ (directory w').count
  others : ∀ i : Fin 8, i.val < (directory w).count → ¬ op.Targets (directory w) i →
    (directory w').desc i = (directory w).desc i

theorem Keeps.of_directory {w w' : World} (op : DirectoryOp) (same : directory w' = directory w) :
    Keeps w op w' := by
  constructor
  · rw [same]
  · intro i _ _
    rw [same]

private theorem keeps_of_update {w w' : World} {op : DirectoryOp} (table : OSIPHeader)
    {index : Fin 8} {entry : OSII} (count : (directory w).count ≤ table.count)
    (desc : table.desc = Function.update (directory w).desc index entry)
    (target : op.Targets (directory w) index) (committed : directory w' = table.seal) :
    Keeps w op w' := by
  constructor
  · rw [committed]
    exact count
  · intro i _ other
    have different : i ≠ index := by
      intro same
      rcases same with rfl
      exact other target
    rw [committed]
    change table.desc i = _
    rw [desc, Function.update_of_ne different]

private theorem flash_step {data : Buffer} {sz : UInt32} {name : String} {w w' : World}
    {result : Outcome OsipError Unit} (ordinary : name ≠ "testos") (sound : Sound w)
    (ran : flashImageOsip data sz name w = (result, w')) (settled : Settled result) :
    (∀ k, result ≠ .stray k) ∧ Sound w' ∧ Keeps w (.flash data sz name ordinary) w' := by
  have wf := sound.wellFormed
  rcases flashImageOsip_tidy ordinary wf.tidy ran with ⟨cause, rfl, unchanged⟩ |
    ⟨index, osii, placed, middle, resolved, next, _, place, _, commit⟩
  · exact ⟨by simp, sound.of_directory unchanged, Keeps.of_directory _ unchanged⟩
  · rcases writeOSIP_settled commit settled with ⟨rfl, committed⟩
    refine ⟨by simp, Sound.of_committed (wf.overwritten next place) committed, ?_⟩
    refine keeps_of_update (overwritten (directory w) placed index) ?_ rfl resolved committed
    change _ ≤ ((directory w).grow index).count
    rw [grow_count]
    exact Nat.le_max_left _ _

private theorem repoint_step {name : String} {ddrLoadAddress entryPoint : UInt32} {w w' : World}
    {result : Outcome OsipError Unit} (op : DirectoryOp)
    (targets : ∀ i, ResolvesTo (directory w) name .readOsipHeader (i : Fin 8) →
      op.Targets (directory w) i)
    (sound : Sound w) (ran : updateOsii name ddrLoadAddress entryPoint w = (result, w'))
    (settled : Settled result) : (∀ k, result ≠ .stray k) ∧ Sound w' ∧ Keeps w op w' := by
  have wf := sound.wellFormed
  rcases updateOsii_cases wf.few ran with ⟨cause, rfl, same⟩ |
    ⟨i, middle, live, resolved, same, commit⟩
  · have unchanged := directory_same same
    exact ⟨by simp, sound.of_directory unchanged, Keeps.of_directory _ unchanged⟩
  · rcases writeOSIP_settled commit settled with ⟨rfl, committed⟩
    have table := wf.repointed live ddrLoadAddress entryPoint
    refine ⟨by simp, Sound.of_committed table committed, ?_⟩
    exact keeps_of_update (repointed (directory w) i ddrLoadAddress entryPoint) (le_refl _) rfl
      (targets i resolved) committed

theorem step_sound {op : DirectoryOp} {w w' : World} {result : Outcome OsipError Unit}
    (sound : Sound w) (ran : op.run w = (result, w')) (settled : Settled result) :
    (∀ k, result ≠ .stray k) ∧ Sound w' ∧ Keeps w op w' := by
  cases op with
  | flash data sz name ordinary => exact flash_step ordinary sound ran settled
  | invalidate name => exact repoint_step _ (fun _ resolved => resolved) sound ran settled
  | restore name => exact repoint_step _ (fun _ resolved => resolved) sound ran settled

theorem run_sound {w w' : World} (sound : Sound w) (run : Relation.ReflTransGen Step w w') :
    Sound w' ∧ (directory w).count ≤ (directory w').count := by
  induction run with
  | refl => exact ⟨sound, le_refl _⟩
  | tail _ step ih =>
      rcases step with ⟨op, result, ran, settled⟩
      rcases step_sound ih.1 ran settled with ⟨_, kept, keeps⟩
      exact ⟨kept, ih.2.trans keeps.count⟩

/-- What the boot firmware relies on: the header is consistent and no two entries
share a block. -/
structure DirectoryInvariant (w : World) : Prop where
  few : (directory w).count ≤ 8
  size : (directory w).headerSize.toNat = (directory w).count * 0x18 + 0x20
  checksum : xorRange w.content headerBytes = 0
  disjoint : ∀ i j : Fin 8, i.val < (directory w).count → j.val < (directory w).count → i ≠ j →
    ((directory w).desc i).start + ((directory w).desc i).blocks ≤ ((directory w).desc j).start ∨
    ((directory w).desc j).start + ((directory w).desc j).blocks ≤ ((directory w).desc i).start

theorem Sound.invariant {w : World} (sound : Sound w) : DirectoryInvariant w := by
  refine ⟨sound.wellFormed.few, sound.wellFormed.size, ?_, sound.wellFormed.disjoint⟩
  have sealed : xorRange (directory w).byte headerBytes = 0 := by
    rw [← getOsipCrc_eq]
    exact sound.accepted
  rw [← sealed]
  exact xorRange_congr _ _ _ (fun i bound => (OSIPHeader.byte_ofBytes w.content i bound).symm)

/-- The directory invariant holds after every run of named operations, and the next
operation leaves the array alone, keeps the number of entries and changes only the
entry its name resolves to. -/
theorem directory_invariant_of_run {w w' : World} (sound : Sound w)
    (run : Relation.ReflTransGen Step w w') :
    DirectoryInvariant w' ∧ (directory w).count ≤ (directory w').count ∧
      ∀ (op : DirectoryOp) (result : Outcome OsipError Unit) (after : World),
        op.run w' = (result, after) →
        (∀ k, result ≠ .stray k) ∧ (Settled result → Keeps w' op after) := by
  rcases run_sound sound run with ⟨kept, count⟩
  refine ⟨kept.invariant, count, ?_⟩
  intro op result after ran
  constructor
  · intro k same
    rcases same with rfl
    exact (step_sound kept ran (by simp [Settled])).1 k rfl
  · intro settled
    exact (step_sound kept ran settled).2.2

def twoImageDevice : World := deviceWith (twoEntryOsip.resize 2)

theorem twoImageDevice_directory : directory twoImageDevice = (twoEntryOsip.resize 2).seal :=
  directory_deviceWith _

theorem writeStitchImage_healthy {data : Buffer} {size : UInt32} {osiiIndex : Int}
    {osii placed : OSII} {table : OSIPHeader} {w : World} (healthy : Healthy w)
    (checked : Checked data size osiiIndex osii w)
    (plan : stitchPlan (directory w) osii osiiIndex false = .ok (placed, table))
    (positive : (placed.logicalStartBlock * 512).toNat < 2 ^ 31) :
    ∃ w', writeStitchImage data size osiiIndex w = (.ok (), w') ∧ Healthy w' := by
  have stitch := stitchImage_healthy_written healthy checked plan positive
  obtain ⟨w', commit, healthy', _⟩ := writeOSIP_commits table
    ((afterBackup w).store (writesAt (placed.logicalStartBlock * 512).toNat (size - 512).toNat
      (payload data))) (afterBackup_healthy w healthy)
  refine ⟨w', ?_, healthy'⟩
  rw [writeStitchImage, writeStitchImageEx, bind_of_ok stitch, commit]

theorem sevens_written :
    ∃ w', writeStitchImage (plainImage 0 1 fun _ => 7) 1024 0 twoImageDevice = (.ok (), w') ∧
      Healthy w' := by
  have checked : Checked (plainImage 0 1 fun _ => 7) 1024 0 (plainRecord 0 1) twoImageDevice :=
    plainImage_checked (by decide) (by decide) (accepted_deviceWith _) (by decide)
  have place : placeImage (directory twoImageDevice) (plainRecord 0 1) false =
      .ok ((plainRecord 0 1).placedAt 68050) := by
    rw [twoImageDevice_directory]
    decide
  have update : updateTable (directory twoImageDevice) ((plainRecord 0 1).placedAt 68050) 0 =
      .ok (overwritten (directory twoImageDevice) ((plainRecord 0 1).placedAt 68050) 0) := by
    have replaces : Replaces (directory twoImageDevice) ((plainRecord 0 1).placedAt 68050) 0 := by
      rw [twoImageDevice_directory]
      decide
    have shape := updateTable_eq (directory twoImageDevice) ((plainRecord 0 1).placedAt 68050) 0
    rw [if_pos replaces] at shape
    exact shape
  have quiet : Healthy twoImageDevice := rfl
  exact writeStitchImage_healthy quiet checked (stitchPlan_ok place update) (by decide)

private theorem twoImageDevice_sound : Sound twoImageDevice := by
  refine ⟨accepted_deviceWith _, ?_⟩
  rw [twoImageDevice_directory]
  exact ⟨by decide, by decide, by decide, by decide, by decide⟩

theorem directory_invariant_after_invalidate :
    Sound twoImageDevice ∧ ∃ after, invalidateOsii "boot" twoImageDevice = (.ok (), after) ∧
      DirectoryInvariant after ∧
      (directory twoImageDevice).count ≤ (directory after).count := by
  have resolved : ResolvesTo (directory twoImageDevice) "boot" .readOsipHeader (0 : Fin 8) := by
    rw [twoImageDevice_directory]
    exact ⟨0, 1, rfl, by decide⟩
  have healthy : Healthy twoImageDevice := rfl
  rcases updateOsii_healthy 0 0 healthy twoImageDevice_sound.accepted resolved with ⟨after, ran, _⟩
  have step : Step twoImageDevice after :=
    ⟨.invalidate "boot", .ok (), ran, by simp [Settled]⟩
  have holds := directory_invariant_of_run twoImageDevice_sound (Relation.ReflTransGen.single step)
  exact ⟨twoImageDevice_sound, after, ran, holds.1, holds.2.1⟩

end A500cg.Osip
