import A500cg.Gpt.Commands

/-! What the table commands are for: a disk of partitions that never overlap, and the operations
on it that the commands on a drive refine. -/

namespace A500cg.Gpt

open Lib

def GptEntry.claim (e : GptEntry) : GptEntry := { e with gptAtt := 0 }

theorem partitioned_claims_iff (h : GptHeader) (table : List GptEntry) :
    Partitioned h (table.map GptEntry.claim) ↔ Partitioned h table := by
  constructor
  · intro claims
    exact ⟨fun e member => claims.inside e.claim (List.mem_map_of_mem member),
      List.pairwise_map.mp claims.apart⟩
  · intro partitioned
    apply Partitioned.mk
    · intro e member
      obtain ⟨e', member', rfl⟩ := List.mem_map.mp member
      exact partitioned.inside e' member'
    · exact List.pairwise_map.mpr partitioned.apart

theorem Partitioned.of_claims {h : GptHeader} {first second : List GptEntry}
    (same : first.map GptEntry.claim = second.map GptEntry.claim)
    (partitioned : Partitioned h first) : Partitioned h second := by
  rwa [← partitioned_claims_iff, ← same, partitioned_claims_iff]

/-- Whether an entry can take the place of the one at an index: unused, or in the usable region
and clear of every other partition. -/
def Takes (h : GptHeader) (table : Entries) (index : Nat) (e : GptEntry) : Prop :=
  e.isUnused = false →
    (e.startingLba ≤ e.endingLba ∧
      e.sectors ⊆ Set.Icc h.firstUsableLba.toNat h.lastUsableLba.toNat) ∧
    ∀ j (bound : j < 128), j ≠ index → table[j].isUnused = false →
      Disjoint e.sectors table[j].sectors ∧ e.unique ≠ table[j].unique

theorem partitioned_set_iff {h : GptHeader} {table : Entries} {index : Nat} (bound : index < 128)
    (e : GptEntry) (partitioned : Partitioned h table.toList) :
    Partitioned h (table.set index e).toList ↔ Takes h table index e := by
  have length : index < table.toList.length := by simpa using bound
  have region := forall_mem_set_iff partitioned.inside length e
  have pairs := pairwise_set_iff (fun a b apart used used' =>
    (⟨(apart used' used).1.symm, (apart used' used).2.symm⟩ :
      Disjoint b.sectors a.sectors ∧ b.unique ≠ a.unique)) partitioned.apart length e
  rw [Vector.toList_set]
  constructor
  · intro after used
    have others := pairs.mp after.apart
    exact ⟨region.mp after.inside used, fun j inside other =>
      others j (by simpa using inside) other used⟩
  · intro takes
    apply Partitioned.mk
    · exact region.mpr fun used => (takes used).1
    · apply pairs.mpr
      intro j inside other used
      exact (takes used).2 j (by simpa using inside) other

def GptHeader.owned (v : GptHeader) : GptHeader := { v.shared with entriesCrc32 := 0 }

/-- A disk as its owner sees it: a region, and partitions in it that are clear of each other. -/
structure Disk where
  sectors : UInt64
  header : GptHeader
  entries : Entries
  room : 67 ≤ sectors.toNat
  fields : HeaderFields header sectors
  partitioned : Partitioned header entries.toList

theorem HeaderFields.sectors {v : GptHeader} {n : UInt64} (fields : HeaderFields v n)
    (some : 67 ≤ n.toNat) : 68 ≤ n.toNat := by
  have ⟨_, top⟩ := created_last some
  have low := UInt64.le_iff_toNat_le.mp fields.first_usable
  have order := UInt64.le_iff_toNat_le.mp fields.usable
  have high := UInt64.lt_iff_toNat_lt.mp fields.last_usable
  rw [top] at high
  change 34 ≤ v.firstUsableLba.toNat at low
  omega

namespace Disk

def blank (sectors : UInt64) (uuid : Guid) (room : 68 ≤ sectors.toNat) : Disk where
  sectors := sectors
  header := (blankHeader sectors uuid).owned
  entries := entriesCodec.decode (List.replicate entriesCodec.width 0)
  room := by omega
  fields :=
    have f := blankHeader_fields uuid room
    ⟨f.signature, f.revision, f.size_min, f.size_max, f.reservedZero, f.sizeOfEntry,
      f.numberOfEntries, f.first_usable, f.last_usable, f.usable⟩
  partitioned := partitioned_of_unused zeroEntries_unused

def put (disk : Disk) (index : Nat) (bound : index < 128) (e : GptEntry)
    (takes : Takes disk.header disk.entries index e) : Disk :=
  { disk with
    entries := disk.entries.set index e
    partitioned := (partitioned_set_iff bound e disk.partitioned).mpr takes }

def create (disk : Disk) (uuidGenerator : Option Guid) : Exit × Disk :=
  match uuidGenerator with
  | none => (.failed, disk)
  | some uuid => (.ok, blank disk.sectors uuid (disk.fields.sectors disk.room))

def choose (disk : Disk) (partition : UInt32) : Option Nat :=
  if partition ≠ 0 then if 128 < partition then none else some (partition.toNat - 1)
  else disk.entries.toList.findIdx? GptEntry.isUnused

open Classical in
noncomputable def edit (disk : Disk) (chosen : Option Nat)
    (change : GptEntry → Except Exit GptEntry) : Exit × Disk :=
  match chosen with
  | none => (.failed, disk)
  | some index =>
    if bound : index < 128 then
      match change disk.entries[index] with
      | .error exit => (exit, disk)
      | .ok e =>
        if takes : Takes disk.header disk.entries index e then (.ok, disk.put index bound e takes)
        else (.failed, disk)
    else (.aborted, disk)

section Edit

variable {disk : Disk} {index : Nat} {change : GptEntry → Except Exit GptEntry} (bound : index < 128)

theorem edit_error {exit : Exit} (stops : change disk.entries[index] = .error exit) :
    disk.edit (some index) change = (exit, disk) := by
  rw [edit.eq_2, dif_pos bound, stops]

theorem edit_put {e : GptEntry} (edits : change disk.entries[index] = .ok e)
    (takes : Takes disk.header disk.entries index e) :
    disk.edit (some index) change = (.ok, disk.put index bound e takes) := by
  rw [edit.eq_2, dif_pos bound, edits]
  exact dif_pos takes

theorem edit_refused {e : GptEntry} (edits : change disk.entries[index] = .ok e)
    (refused : ¬ Takes disk.header disk.entries index e) :
    disk.edit (some index) change = (.failed, disk) := by
  rw [edit.eq_2, dif_pos bound, edits]
  exact dif_neg refused

end Edit

noncomputable def add (uuidGenerator : Option Guid) (p : CgptAddParams) (disk : Disk) : Exit × Disk :=
  disk.edit (disk.choose p.partition) (editEntry uuidGenerator p)

noncomputable def setAttributes (p : CgptAddParams) (disk : Disk) : Exit × Disk :=
  disk.edit (if p.partition = 0 then none else disk.choose p.partition) (withAttributes p)

end Disk

structure Represents (d : Drive) (disk : Disk) : Prop where
  sound : Sound d
  sectors : d.sectors = disk.sectors
  header : d.image.primaryHeader.value.owned = disk.header
  entries : d.image.primaryEntries.value = disk.entries

def Drive.edited (d : Drive) (table : Entries) : GptData :=
  { d.image with
    primaryEntries := { d.image.primaryEntries with value := table }
    validHeaders := MASK_BOTH
    validEntries := MASK_BOTH }

theorem Sound.openValid_edited {d : Drive} (sound : Sound d) :
    Gpt.openValid d = some (d.edited d.image.primaryEntries.value) :=
  sound.openValid

theorem checkParameters_congr {first second : GptData}
    (sectorBytes : first.sectorBytes = second.sectorBytes)
    (driveSectors : first.driveSectors = second.driveSectors) :
    checkParameters first = checkParameters second := by
  rw [checkParameters, checkParameters, sectorBytes, driveSectors]

theorem edited_committable {d : Drive} (sound : Sound d) {table : Entries}
    (partitioned : Partitioned d.image.primaryHeader.value table.toList) :
    Committable (copiedTable (d.edited table)) where
  parameters := (checkParameters_congr rfl rfl).trans sound.paired.parameters
  fields := sound.paired.fields
  placed := sound.paired.primary_placed
  size := sound.size
  signature := sound.signature
  mirrored := rfl
  partitioned := partitioned

theorem checkEntries_commit {d : Drive} (sound : Sound d) (table : Entries) :
    checkEntries (commit (d.edited table)).primaryEntries
        (commit (d.edited table)).primaryHeader.value = none ↔
      Partitioned d.image.primaryHeader.value table.toList := by
  have f := sound.paired.fields
  have fields : HeaderFields (commit (d.edited table)).primaryHeader.value d.sectors := by
    rw [commit_eq (d.edited table) sound.signature]
    exact ⟨f.signature, f.revision, f.size_min, f.size_max, f.reservedZero, f.sizeOfEntry,
      f.numberOfEntries, f.first_usable, f.last_usable, f.usable⟩
  rw [checkEntries_iff_describes fields, commit_eq (d.edited table) sound.signature]
  constructor
  · rintro ⟨-, inside, apart⟩
    exact ⟨inside, apart⟩
  · intro partitioned
    exact ⟨rfl, partitioned.inside, partitioned.apart⟩

theorem commit_represents {d : Drive} {disk : Disk} (represents : Represents d disk) (after : Disk)
    (same : after.header = disk.header) (sectors : after.sectors = disk.sectors) :
    Represents (d.closed (commit (d.edited after.entries))) after := by
  have partitioned : Partitioned d.image.primaryHeader.value after.entries.toList := by
    have given := after.partitioned
    rw [same, ← represents.header] at given
    exact ⟨given.inside, given.apart⟩
  have fits : d.Fits (copiedTable (d.edited after.entries)) :=
    d.image_fits.of_rests rfl rfl rfl rfl rfl rfl
  have ⟨sound, image⟩ := sound_of_finished fits represents.sound.whole
    (edited_committable represents.sound partitioned)
  rw [commit_eq (d.edited after.entries) represents.sound.signature]
  apply Represents.mk sound
  · exact represents.sectors.trans sectors.symm
  · rw [image, same, ← represents.header]
    rfl
  · rw [image]
    rfl

theorem getNumberOfEntries_edited {d : Drive} (sound : Sound d) (table : Entries) :
    getNumberOfEntries (d.edited table) = 128 :=
  sound.paired.fields.numberOfEntries

theorem chooseIndex_edited {d : Drive} {disk : Disk} (represents : Represents d disk)
    (partition : UInt32) :
    chooseIndex (d.edited disk.entries) partition = disk.choose partition := by
  have whole : disk.entries.toList.take (128 : UInt32).toNat = disk.entries.toList :=
    List.take_of_length_le (by simp)
  rw [chooseIndex, getNumberOfEntries_edited represents.sound]
  change (if partition ≠ 0 then _ else List.findIdx? _ (disk.entries.toList.take _)) = _
  rw [whole]
  rfl

theorem Disk.choose_lt {disk : Disk} {partition : UInt32} {index : Nat}
    (chosen : disk.choose partition = some index) : index < 128 := by
  unfold Disk.choose at chosen
  split_ifs at chosen with named beyond
  · cases chosen
    have most : partition.toNat ≤ 128 := Nat.le_of_not_lt (UInt32.lt_iff_toNat_lt.not.mp beyond)
    have least : partition.toNat ≠ 0 := fun zero => named (UInt32.toNat_inj.mp zero)
    omega
  · have found := (List.findIdx?_eq_some_iff_getElem.mp chosen).1
    simpa using found

theorem Represents.drive {d : Drive} {disk : Disk} (represents : Represents d disk) :
    Gpt.openValid d = some (d.edited disk.entries) := by
  rw [← represents.entries]
  exact represents.sound.openValid_edited

theorem Represents.takes_iff {d : Drive} {disk : Disk} (represents : Represents d disk)
    {index : Nat} (bound : index < 128) (e : GptEntry) :
    Partitioned d.image.primaryHeader.value (disk.entries.set index e).toList ↔
      Takes disk.header disk.entries index e := by
  rw [← partitioned_set_iff bound e disk.partitioned, ← represents.header]
  constructor
  · rintro ⟨inside, apart⟩
    exact ⟨inside, apart⟩
  · rintro ⟨inside, apart⟩
    exact ⟨inside, apart⟩

section EditPrimary

variable {d : Drive} {table : Entries} {index : Nat} {change : GptEntry → Except Exit GptEntry}
  (bound : index < 128)

theorem editPrimary_error {exit : Exit} (stops : change table[index] = .error exit) :
    editPrimary (d.edited table) index change = .error exit := by
  rw [editPrimary, dif_pos bound]
  change Except.map _ (change table[index]) = _
  rw [stops]
  rfl

theorem editPrimary_ok {e : GptEntry} (edits : change table[index] = .ok e) :
    editPrimary (d.edited table) index change = .ok (d.edited (table.set index e)) := by
  rw [editPrimary, dif_pos bound]
  change Except.map _ (change table[index]) = _
  rw [edits]
  rfl

end EditPrimary

theorem saveChecked_saved {d : Drive} {edited : GptData}
    (passes : checkEntries (commit edited).primaryEntries (commit edited).primaryHeader.value = none) :
    saveChecked .whole d edited = (.ok, d.closed (commit edited)) := by
  rw [saveChecked, passes, driveClose_whole]
  rfl

theorem saveChecked_refused {d : Drive} {edited : GptData}
    (fails : ¬ checkEntries (commit edited).primaryEntries (commit edited).primaryHeader.value =
      none) : saveChecked .whole d edited = (.failed, d) :=
  if_pos (Option.isSome_iff_ne_none.mpr fails)

theorem cgptAdd_refines {d : Drive} {disk : Disk} (represents : Represents d disk)
    (uuidGenerator : Option Guid) (p : CgptAddParams) :
    (cgptAdd .whole uuidGenerator p d).1 = (disk.add uuidGenerator p).1 ∧
      Represents (cgptAdd .whole uuidGenerator p d).2 (disk.add uuidGenerator p).2 := by
  unfold cgptAdd Disk.add
  rw [represents.drive]
  dsimp only
  rw [chooseIndex_edited represents]
  cases chosen : disk.choose p.partition with
  | none => exact ⟨rfl, represents⟩
  | some index =>
      have bound := Disk.choose_lt chosen
      dsimp only
      cases outcome : editEntry uuidGenerator p disk.entries[index] with
      | error exit =>
          rw [editPrimary_error bound outcome, Disk.edit_error bound outcome]
          exact ⟨rfl, represents⟩
      | ok e =>
          have checked := (checkEntries_commit represents.sound (disk.entries.set index e)).trans
            (represents.takes_iff bound e)
          rw [editPrimary_ok bound outcome]
          dsimp only
          by_cases takes : Takes disk.header disk.entries index e
          · rw [Disk.edit_put bound outcome takes, saveChecked_saved (checked.mpr takes)]
            exact ⟨rfl, commit_represents represents (disk.put index bound e takes) rfl rfl⟩
          · rw [Disk.edit_refused bound outcome takes, saveChecked_refused (checked.not.mpr takes)]
            exact ⟨rfl, represents⟩

theorem withAttributes_claim {p : CgptAddParams} {e e' : GptEntry}
    (edits : withAttributes p e = .ok e') : e'.claim = e.claim := by
  unfold withAttributes at edits
  split at edits
  · cases edits
  · cases edits
    rfl

theorem takes_of_claim {h : GptHeader} {table : Entries} {index : Nat} (bound : index < 128)
    {e : GptEntry} (partitioned : Partitioned h table.toList) (same : e.claim = table[index].claim) :
    Takes h table index e := by
  rw [← partitioned_set_iff bound e partitioned]
  apply partitioned.of_claims
  have length : index < (table.toList.map GptEntry.claim).length := by simpa using bound
  have here : (table.toList.map GptEntry.claim)[index] = table[index].claim := by simp
  rw [Vector.toList_set, List.map_set, same, ← here, List.set_getElem_self]

theorem cgptSetAttributes_refines {d : Drive} {disk : Disk} (represents : Represents d disk)
    (p : CgptAddParams) :
    (cgptSetAttributes .whole p d).1 = (disk.setAttributes p).1 ∧
      Represents (cgptSetAttributes .whole p d).2 (disk.setAttributes p).2 := by
  unfold cgptSetAttributes Disk.setAttributes
  rw [represents.drive]
  dsimp only
  rw [getNumberOfEntries_edited represents.sound]
  by_cases zero : p.partition = 0
  · rw [if_pos (Or.inl zero), if_pos zero]
    exact ⟨rfl, represents⟩
  · by_cases beyond : 128 < p.partition
    · rw [if_pos (Or.inr beyond), if_neg zero, Disk.choose, if_pos zero, if_pos beyond]
      exact ⟨rfl, represents⟩
    · have chosen : disk.choose p.partition = some (p.partition.toNat - 1) := by
        rw [Disk.choose, if_pos zero, if_neg beyond]
      have bound := Disk.choose_lt chosen
      rw [if_neg (not_or.mpr ⟨zero, beyond⟩), if_neg zero, chosen]
      cases outcome : withAttributes p disk.entries[p.partition.toNat - 1] with
      | error exit =>
          rw [editPrimary_error bound outcome, Disk.edit_error bound outcome]
          exact ⟨rfl, represents⟩
      | ok e =>
          have takes := takes_of_claim bound disk.partitioned (withAttributes_claim outcome)
          rw [editPrimary_ok bound outcome, Disk.edit_put bound outcome takes]
          exact ⟨rfl, commit_represents represents (disk.put _ bound e takes) rfl rfl⟩

end A500cg.Gpt
