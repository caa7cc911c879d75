import A500cg.Gpt.Runs

/-! Reading a partition back (`cgpt_get_partition_details`). -/

namespace A500cg.Gpt

open Lib

structure PartitionDetails where
  partition : Nat
  begin : UInt64
  size : UInt64
  typeGuid : Guid
  uniqueGuid : Guid
  rawValue : UInt16
  successful : Nat
  tries : Nat
  priority : Nat

def GptEntry.details (index : Nat) (e : GptEntry) : PartitionDetails where
  partition := index + 1
  begin := e.startingLba
  size := e.endingLba - e.startingLba + 1
  typeGuid := e.type
  uniqueGuid := e.unique
  rawValue := e.gptAtt
  successful := getSuccessful e.gptAtt
  tries := getTries e.gptAtt
  priority := getPriority e.gptAtt

def detailsIndex (partition : UInt32) (uniqueGuid : Option Guid) (maxPart : UInt32)
    (table : List GptEntry) : Option Nat :=
  if partition ≠ 0 then if maxPart < partition then none else some (partition.toNat - 1)
  else uniqueGuid.bind fun unique =>
    (table.take maxPart.toNat).findIdx? fun e => e.unique == unique

def cgptGetPartitionDetails (partition : UInt32) (uniqueGuid : Option Guid) (d : Drive) :
    Option PartitionDetails :=
  (openValid d).bind fun gpt =>
    (detailsIndex partition uniqueGuid (getNumberOfEntries gpt) gpt.primaryEntries.value.toList).bind
      fun index => (gpt.primaryEntries.value[index]?).map (GptEntry.details index)

def Disk.details (disk : Disk) (partition : UInt32) (uniqueGuid : Option Guid) :
    Option PartitionDetails :=
  (detailsIndex partition uniqueGuid 128 disk.entries.toList).bind fun index =>
    (disk.entries[index]?).map (GptEntry.details index)

theorem cgptGetPartitionDetails_eq {d : Drive} {disk : Disk} (represents : Represents d disk)
    (partition : UInt32) (uniqueGuid : Option Guid) :
    cgptGetPartitionDetails partition uniqueGuid d = disk.details partition uniqueGuid := by
  rw [cgptGetPartitionDetails, represents.drive, Option.bind_some,
    getNumberOfEntries_edited represents.sound]
  rfl

theorem Disk.details_number (disk : Disk) {partition : UInt32} (named : partition ≠ 0)
    (inside : partition ≤ 128) :
    disk.details partition none =
      (disk.entries[partition.toNat - 1]?).map (GptEntry.details (partition.toNat - 1)) := by
  rw [details, detailsIndex, if_pos named, if_neg (UInt32.not_lt.mpr inside)]
  rfl

theorem Disk.edit_ok {disk : Disk} {chosen : Option Nat} {change : GptEntry → Except Exit GptEntry}
    (stops : ∀ e, change e ≠ .error .ok) (edits : (disk.edit chosen change).1 = .ok) :
    ∃ index, ∃ bound : index < 128, ∃ e, ∃ takes : Takes disk.header disk.entries index e,
      chosen = some index ∧ change disk.entries[index] = .ok e ∧
      disk.edit chosen change = (.ok, disk.put index bound e takes) := by
  cases chosen with
  | none => cases edits
  | some index =>
      by_cases bound : index < 128
      · cases outcome : change disk.entries[index] with
        | error exit =>
            rw [edit_error bound outcome] at edits
            subst edits
            exact absurd outcome (stops _)
        | ok e =>
            by_cases takes : Takes disk.header disk.entries index e
            · exact ⟨index, bound, e, takes, rfl, outcome, edit_put bound outcome takes⟩
            · rw [edit_refused bound outcome takes] at edits
              cases edits
      · rw [edit.eq_2, dif_neg bound] at edits
        cases edits

theorem newEntry_spec {uuidGenerator : Option Guid} {p : CgptAddParams} {e : GptEntry} :
    (∀ e', newEntry uuidGenerator p e = .ok e' → ∃ unique, e' = { e with unique }) ∧
      newEntry uuidGenerator p e ≠ .error .ok := by
  unfold newEntry
  by_cases unused : e.isUnused = true
  · rw [if_pos unused]
    apply And.intro
    · intro e' same
      cases uuidGenerator with
      | none => split_ifs at same
      | some unique =>
          refine ⟨unique, ?_⟩
          split_ifs at same <;> cases same
          all_goals rfl
    · cases uuidGenerator with
      | none => split_ifs <;> rintro ⟨⟩
      | some unique => split_ifs <;> rintro ⟨⟩
  · rw [if_neg unused]
    apply And.intro
    · rintro e' ⟨⟩
      exact ⟨e.unique, rfl⟩
    · rintro ⟨⟩

theorem labelled_spec {p : CgptAddParams} {e : GptEntry} :
    (∀ e', labelled p e = .ok e' → ∃ name, e' = { e with name }) ∧
      labelled p e ≠ .error .ok := by
  unfold labelled
  cases p.label with
  | none =>
      apply And.intro
      · rintro e' ⟨⟩
        exact ⟨e.name, rfl⟩
      · rintro ⟨⟩
  | some label =>
      dsimp only
      split_ifs with fits
      · apply And.intro
        · rintro e' ⟨⟩
          exact ⟨_, rfl⟩
        · rintro ⟨⟩
      · apply And.intro
        · rintro e' ⟨⟩
        · rintro ⟨⟩

theorem withAttributes_spec {p : CgptAddParams} {e : GptEntry} :
    (∀ e', withAttributes p e = .ok e' →
      ∃ gptAtt, setEntryAttributes p e.gptAtt = some gptAtt ∧ e' = { e with gptAtt }) ∧
      withAttributes p e ≠ .error .ok := by
  unfold withAttributes
  cases setEntryAttributes p e.gptAtt with
  | none =>
      apply And.intro
      · rintro e' ⟨⟩
      · rintro ⟨⟩
  | some gptAtt =>
      apply And.intro
      · rintro e' ⟨⟩
        exact ⟨gptAtt, rfl, rfl⟩
      · rintro ⟨⟩

theorem bind_error {α β : Type} {x : Except Exit α} {f : α → Except Exit β}
    (first : x ≠ .error .ok) (second : ∀ a, f a ≠ .error .ok) : x.bind f ≠ .error .ok := by
  cases x with
  | error exit =>
      intro same
      apply first
      cases same
      rfl
  | ok a => exact second a

theorem editEntry_stops (uuidGenerator : Option Guid) (p : CgptAddParams) (e : GptEntry) :
    editEntry uuidGenerator p e ≠ .error .ok := by
  apply bind_error newEntry_spec.2
  intro e
  apply bind_error labelled_spec.2
  intro e
  exact withAttributes_spec.2

theorem bind_ok {α β : Type} {x : Except Exit α} {f : α → Except Exit β} {b : β}
    (both : x.bind f = .ok b) : ∃ a, x = .ok a ∧ f a = .ok b := by
  cases x with
  | error exit => cases both
  | ok a => exact ⟨a, rfl, both⟩

theorem editEntry_spec {uuidGenerator : Option Guid} {p : CgptAddParams} {e after : GptEntry}
    (edits : editEntry uuidGenerator p e = .ok after) :
    after.startingLba = p.begin.getD e.startingLba ∧
      after.endingLba = (p.size.map fun size => after.startingLba + size - 1).getD e.endingLba ∧
      after.type = p.typeGuid.getD e.type ∧
      (∀ unique, p.uniqueGuid = some unique → after.unique = unique) ∧
      setEntryAttributes p e.gptAtt = some after.gptAtt := by
  obtain ⟨first, new, rest⟩ := bind_ok edits
  obtain ⟨second, named, last⟩ := bind_ok rest
  obtain ⟨unique, rfl⟩ := newEntry_spec.1 _ new
  obtain ⟨name, rfl⟩ := labelled_spec.1 _ named
  obtain ⟨gptAtt, sets, rfl⟩ := withAttributes_spec.1 _ last
  refine ⟨rfl, rfl, rfl, ?_, sets⟩
  intro unique given
  change p.uniqueGuid.getD _ = unique
  rw [given]
  rfl

section IfSet

variable {offset k : Nat} {value : Option UInt32} {att after : UInt16}

theorem ifSet_value (fits : offset + k ≤ 16)
    (sets : ifSet (setAttribute offset (2 ^ k - 1)) value att = some after) (v : UInt32)
    (given : value = some v) : getAttribute offset (2 ^ k - 1) after = v.toNat := by
  subst given
  exact getAttribute_set fits sets

theorem ifSet_other {other l : Nat} (fits : other + l ≤ 16)
    (apart : other + l ≤ offset ∨ offset + k ≤ other)
    (sets : ifSet (setAttribute offset (2 ^ k - 1)) value att = some after) :
    getAttribute other (2 ^ l - 1) after = getAttribute other (2 ^ l - 1) att := by
  cases value with
  | none =>
      cases sets
      rfl
  | some v => exact getAttribute_set_other fits apart sets

end IfSet

theorem setEntryAttributes_spec {p : CgptAddParams} {att after : UInt16}
    (sets : setEntryAttributes p att = some after) :
    (∀ raw, p.rawValue = some raw → after = raw) ∧
      (p.rawValue = none →
        (∀ v, p.successful = some v → getSuccessful after = v.toNat) ∧
        (∀ v, p.tries = some v → getTries after = v.toNat) ∧
        ∀ v, p.priority = some v → getPriority after = v.toNat) := by
  unfold setEntryAttributes at sets
  cases raw : p.rawValue with
  | some value =>
      rw [raw] at sets
      cases sets
      apply And.intro
      · rintro _ ⟨⟩
        rfl
      · rintro ⟨⟩
  | none =>
      rw [raw] at sets
      apply And.intro
      · rintro _ ⟨⟩
      intro _
      obtain ⟨second, sets, priority⟩ := Option.bind_eq_some_iff.mp sets
      obtain ⟨first, successful, tries⟩ := Option.bind_eq_some_iff.mp sets
      refine ⟨?_, ?_, ?_⟩
      · intro v given
        calc getSuccessful after
          _ = getSuccessful second :=
            ifSet_other (by decide : 8 + 1 ≤ 16) (Or.inr (by decide : 0 + 4 ≤ 8)) priority
          _ = getSuccessful first :=
            ifSet_other (by decide : 8 + 1 ≤ 16) (Or.inr (by decide : 4 + 4 ≤ 8)) tries
          _ = v.toNat := ifSet_value (by decide : 8 + 1 ≤ 16) successful v given
      · intro v given
        calc getTries after
          _ = getTries second :=
            ifSet_other (by decide : 4 + 4 ≤ 16) (Or.inr (by decide : 0 + 4 ≤ 4)) priority
          _ = v.toNat := ifSet_value (by decide : 4 + 4 ≤ 16) tries v given
      · intro v given
        exact ifSet_value (by decide : 0 + 4 ≤ 16) priority v given

def numberOf (index : Nat) : UInt32 := UInt32.ofNat (index + 1)

theorem numberOf_toNat {index : Nat} (bound : index < 128) : (numberOf index).toNat = index + 1 :=
  UInt32.toNat_ofNat_of_lt' (by change index + 1 < 4294967296; omega)

theorem numberOf_named {index : Nat} (bound : index < 128) : numberOf index ≠ 0 := by
  intro zero
  have value := numberOf_toNat bound
  rw [zero] at value
  cases value

theorem numberOf_inside {index : Nat} (bound : index < 128) : numberOf index ≤ 128 := by
  rw [UInt32.le_iff_toNat_le, numberOf_toNat bound]
  exact bound

theorem Disk.choose_named {disk : Disk} {partition : UInt32} {index : Nat} (named : partition ≠ 0)
    (chosen : disk.choose partition = some index) : numberOf index = partition := by
  have bound := choose_lt chosen
  rw [choose, if_pos named] at chosen
  split_ifs at chosen
  cases chosen
  have least : partition.toNat ≠ 0 := fun zero => named (UInt32.toNat_inj.mp zero)
  apply UInt32.toNat_inj.mp
  rw [numberOf_toNat bound]
  omega

theorem Disk.details_other {before after : Disk} {index : Nat} (bound : index < 128) {e : GptEntry}
    (entries : after.entries = before.entries.set index e) {other : UInt32} (named : other ≠ 0)
    (apart : other ≠ numberOf index) : after.details other none = before.details other none := by
  by_cases inside : other ≤ 128
  · have distinct : index ≠ other.toNat - 1 := by
      intro same
      have least : other.toNat ≠ 0 := fun zero => named (UInt32.toNat_inj.mp zero)
      apply apart
      apply UInt32.toNat_inj.mp
      rw [numberOf_toNat bound]
      omega
    rw [details_number after named inside, details_number before named inside, entries,
      Vector.getElem?_set_ne bound distinct]
  · have beyond : (128 : UInt32) < other := UInt32.not_le.mp inside
    rw [details, details, detailsIndex, detailsIndex, if_pos named, if_pos beyond, if_pos named]
    rfl

/-- A partition that was added reads back as it was given, and every other one as before. -/
theorem cgptAdd_details {w : Writes} {d : Drive} {disk : Disk} (represents : Represents d disk)
    (uuidGenerator : Option Guid) (p : CgptAddParams)
    (added : (cgptAdd w uuidGenerator p d).1 = .ok) :
    ∃ q : UInt32, q ≠ 0 ∧ q ≤ 128 ∧ (p.partition ≠ 0 → q = p.partition) ∧
      (∃ x, cgptGetPartitionDetails q none (cgptAdd w uuidGenerator p d).2 = some x ∧
        (∀ begin, p.begin = some begin → x.begin = begin) ∧
        (∀ size, p.size = some size → x.size = size) ∧
        (∀ type, p.typeGuid = some type → x.typeGuid = type) ∧
        (∀ unique, p.uniqueGuid = some unique → x.uniqueGuid = unique) ∧
        (∀ raw, p.rawValue = some raw → x.rawValue = raw) ∧
        (p.rawValue = none →
          (∀ v, p.successful = some v → x.successful = v.toNat) ∧
          (∀ v, p.tries = some v → x.tries = v.toNat) ∧
          ∀ v, p.priority = some v → x.priority = v.toNat)) ∧
      ∀ other : UInt32, other ≠ 0 → other ≠ q →
        cgptGetPartitionDetails other none (cgptAdd w uuidGenerator p d).2 =
          cgptGetPartitionDetails other none d := by
  have whole : cgptAdd w uuidGenerator p d = cgptAdd .whole uuidGenerator p d :=
    (cgptAdd_outcome uuidGenerator p d).whole added
  rw [whole] at added ⊢
  have ⟨same, after⟩ := cgptAdd_refines represents uuidGenerator p
  rw [same] at added
  obtain ⟨index, bound, e, takes, chosen, edits, put⟩ :=
    Disk.edit_ok (editEntry_stops uuidGenerator p) added
  have entries : (disk.add uuidGenerator p).2.entries = disk.entries.set index e :=
    congrArg (fun result : Exit × Disk => result.2.entries) put
  obtain ⟨first, last, type, unique, sets⟩ := editEntry_spec edits
  have ⟨raw, separate⟩ := setEntryAttributes_spec sets
  have named := numberOf_named bound
  have inside := numberOf_inside bound
  refine ⟨numberOf index, named, inside, fun given => Disk.choose_named given chosen,
    ⟨e.details index, ?_, ?_, ?_, ?_, unique, raw, separate⟩, ?_⟩
  · have here : (disk.add uuidGenerator p).2.entries[(numberOf index).toNat - 1]? = some e := by
      rw [numberOf_toNat bound, Nat.add_sub_cancel, entries]
      exact Vector.getElem?_set_self bound
    rw [cgptGetPartitionDetails_eq after, Disk.details_number _ named inside, here,
      numberOf_toNat bound, Nat.add_sub_cancel]
    rfl
  · intro begin given
    change e.startingLba = begin
    rw [first, given]
    rfl
  · intro size given
    change e.endingLba - e.startingLba + 1 = size
    rw [last, given]
    change e.startingLba + size - 1 - e.startingLba + 1 = size
    grind
  · intro guid given
    change e.type = guid
    rw [type, given]
    rfl
  · intro other given apart
    rw [cgptGetPartitionDetails_eq after, cgptGetPartitionDetails_eq represents]
    exact Disk.details_other bound entries given apart

/-- `add` of a kernel in the only usable sector. -/
def firstKernel : CgptAddParams :=
  ⟨0, some 34, some 1, some guidChromeosKernel, none, none, none, none, some 1, none⟩

theorem firstKernel_new :
    newDisk.add (some guidUnused) firstKernel = (.ok, newDisk.put 0 (by decide) kernelEntry
      kernelEntry_takes) := by
  have edits : editEntry (some guidUnused) firstKernel newDisk.entries[0] = .ok kernelEntry := by
    rw [newDisk_entry]
    decide +kernel
  have table : newDisk.entries.toList = List.replicate 128 blankEntry :=
    Codec.items_replicate entryCodec 128 0
  have chosen : newDisk.choose 0 = some 0 := by
    rw [Disk.choose, if_neg (by decide), table, List.replicate_succ, List.findIdx?_cons,
      blankEntry_unused]
    rfl
  rw [Disk.add]
  change newDisk.edit (newDisk.choose 0) _ = _
  rw [chosen]
  exact Disk.edit_put (by decide) edits kernelEntry_takes

theorem firstKernel_added : (cgptAdd .whole (some guidUnused) firstKernel newDrive).1 = .ok := by
  rw [(cgptAdd_refines newDrive_represents _ _).1, firstKernel_new]

theorem cgptAdd_details_new : ∃ q : UInt32, q ≠ 0 ∧ q ≤ 128 ∧
    (∃ x, cgptGetPartitionDetails q none
        (cgptAdd .whole (some guidUnused) firstKernel newDrive).2 = some x ∧
      x.begin = 34 ∧ x.size = 1 ∧ x.typeGuid = guidChromeosKernel ∧ x.priority = 1) ∧
    ∀ other : UInt32, other ≠ 0 → other ≠ q →
      cgptGetPartitionDetails other none (cgptAdd .whole (some guidUnused) firstKernel newDrive).2 =
        cgptGetPartitionDetails other none newDrive := by
  obtain ⟨q, named, inside, -, ⟨x, read, begin, size, type, -, -, separate⟩, others⟩ :=
    cgptAdd_details newDrive_represents (some guidUnused) firstKernel firstKernel_added
  have ⟨_, _, priority⟩ := separate rfl
  exact ⟨q, named, inside, ⟨x, read, begin 34 rfl, size 1 rfl, type _ rfl, priority 1 rfl⟩, others⟩

end A500cg.Gpt
