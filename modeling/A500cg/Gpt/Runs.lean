import A500cg.Gpt.BootRecord
import A500cg.Gpt.Prioritize
import A500cg.Lib.Refinement

/-! Any number of commands in any order. -/

namespace A500cg.Gpt

open Lib

inductive Command where
  | create (zap : Bool) (uuidGenerator : Option Guid)
  | add (uuidGenerator : Option Guid) (p : CgptAddParams)
  | setAttributes (p : CgptAddParams)
  | prioritize (p : CgptPrioritizeParams)
  | repair
  | legacy (efipart : Bool)
  | boot (p : CgptBootParams)

def Command.run (c : Command) (w : Writes) (d : Drive) : Exit × Drive :=
  match c with
  | create zap uuidGenerator => cgptCreate w zap uuidGenerator d
  | add uuidGenerator p => cgptAdd w uuidGenerator p d
  | setAttributes p => cgptSetAttributes w p d
  | prioritize p => cgptPrioritize w p d
  | repair => cgptRepair w d
  | legacy efipart => cgptLegacy w efipart d
  | boot p => ((cgptBoot w p d).1, (cgptBoot w p d).2.2)

/-- The drives that a command may leave: of the same size, and the same outside the first sector and
the four parts. -/
structure Touches (d d' : Drive) : Prop where
  size : d'.size = d.size
  sectorBytes : d'.sectorBytes = d.sectorBytes
  outside : ∀ a, d.Outside a → 512 ≤ a → d'.content a = d.content a

theorem Touches.refl (d : Drive) : Touches d d := ⟨rfl, rfl, fun _ _ _ => rfl⟩

theorem Touches.outside_iff {d d' : Drive} (touches : Touches d d') (a : Nat) :
    d'.Outside a ↔ d.Outside a := by
  have sectors : d'.sectors = d.sectors := by
    rw [Drive.sectors, touches.size, touches.sectorBytes]
    rfl
  have start : ∀ p, d'.start p = d.start p := by
    intro p
    rw [Drive.start, sectors, touches.sectorBytes]
    rfl
  have length : ∀ p, d'.length p = d.length p := by
    intro p
    rw [Drive.length, touches.sectorBytes]
    rfl
  simp only [Drive.Outside, start, length]

theorem Touches.trans {d d' d'' : Drive} (first : Touches d d') (second : Touches d' d'') :
    Touches d d'' where
  size := second.size.trans first.size
  sectorBytes := second.sectorBytes.trans first.sectorBytes
  outside a outside behind :=
    (second.outside a ((first.outside_iff a).mpr outside) behind).trans
      (first.outside a outside behind)

/-- What a command comes to, however its writes end: it stops with the drive as it is, or closes the
drive over some tables, or writes the first sector. -/
inductive SaveOutcome (d : Drive) (run : Writes → Exit × Drive) : Prop where
  | stops (exit : Exit) (same : ∀ w, run w = (exit, d))
  | closes (gpt : GptData) (fits : d.Fits gpt) (same : ∀ w, run w = driveClose w d gpt)
  | names (pmbr : Pmbr) (same : ∀ w, run w = writePmbr w d pmbr)

/-- Some `write` takes less than the whole of what it is given. -/
def Writes.Short (w : Writes) (d : Drive) : Prop :=
  (∃ p, isShort (w.save p) (d.length p) = true) ∨ isShort w.pmbr 512 = true

namespace SaveOutcome

variable {d : Drive} {run : Writes → Exit × Drive}

theorem touches (outcome : SaveOutcome d run) (w : Writes) : Touches d (run w).2 := by
  cases outcome with
  | stops exit same =>
      rw [same]
      exact Touches.refl d
  | closes gpt fits same =>
      rw [same]
      exact ⟨rfl, rfl, fun _ outside _ => driveClose_outside fits outside⟩
  | names pmbr same =>
      rw [same]
      refine ⟨rfl, rfl, fun a _ behind => patch_outside d.content 0 _ a (Or.inr ?_)⟩
      have most := taken_length_le w.pmbr (pmbrCodec.encode pmbr)
      rw [pmbrCodec.encode_length, pmbrCodec_width] at most
      omega

theorem failed (outcome : SaveOutcome d run) {w : Writes} (fails : (run w).1 ≠ .ok) :
    (run w).2 = d ∨ w.Short d := by
  cases outcome with
  | stops exit same =>
      rw [same]
      exact Or.inl rfl
  | closes gpt fits same =>
      right
      left
      rw [same, ne_eq, driveClose_ok_iff] at fails
      push Not at fails
      obtain ⟨p, -, short⟩ := fails
      rw [fits.length] at short
      exact ⟨p, eq_true_of_ne_false short⟩
  | names pmbr same =>
      right
      right
      rw [same] at fails
      by_contra enough
      exact fails (if_neg enough)

theorem whole (outcome : SaveOutcome d run) {w : Writes} (ends : (run w).1 = .ok) :
    run w = run .whole := by
  cases outcome with
  | stops exit same => rw [same, same]
  | closes gpt fits same =>
      rw [same] at ends
      rw [same, same, driveClose_of_ok ends, driveClose_whole]
  | names pmbr same =>
      rw [same] at ends
      rw [same, same]
      exact Prod.ext ends (writePmbr_of_ok ends)

end SaveOutcome

section Fits

variable {d : Drive} {gpt : GptData}

theorem updateCrc_fits (fits : d.Fits gpt) : d.Fits (updateCrc gpt) := by
  have first : (updateCrc gpt).primaryHeader.rest.length = gpt.primaryHeader.rest.length := by
    unfold updateCrc
    dsimp only
    split_ifs <;> rfl
  have second : (updateCrc gpt).secondaryHeader.rest.length = gpt.secondaryHeader.rest.length := by
    unfold updateCrc
    dsimp only
    split_ifs <;> rfl
  exact fits.of_rests rfl rfl first second rfl rfl

theorem repairHeader_fits (fits : d.Fits gpt) (m : Mask) : d.Fits (repairHeader gpt m).2 := by
  unfold repairHeader
  split_ifs
  all_goals exact fits.of_rests rfl rfl rfl rfl rfl rfl

theorem repairEntries_fits (fits : d.Fits gpt) (m : Mask) : d.Fits (repairEntries gpt m).2 := by
  unfold repairEntries
  split_ifs
  all_goals exact fits.of_rests rfl rfl rfl rfl rfl rfl

theorem commit_fits (fits : d.Fits gpt) : d.Fits (commit gpt) := by
  have copied := repairHeader_fits (repairEntries_fits fits MASK_PRIMARY) MASK_PRIMARY
  apply updateCrc_fits
  exact copied.of_rests rfl rfl rfl rfl rfl rfl

theorem gptSanityCheck_fits (fits : d.Fits gpt) : d.Fits (gptSanityCheck gpt).2 := by
  unfold gptSanityCheck
  split_ifs
  all_goals exact fits.of_rests rfl rfl rfl rfl rfl rfl

theorem erased_fits : d.Fits (erased d.image) :=
  d.image_fits.of_rests rfl rfl (zeroed_rest_length ..) (zeroed_rest_length ..)
    (zeroed_rest_length ..) (zeroed_rest_length ..)

end Fits

theorem openValid_fits {d : Drive} {gpt : GptData} (usable : openValid d = some gpt) : d.Fits gpt := by
  rw [((openValid_iff d gpt).mp usable).2.2]
  exact d.image_fits.of_rests rfl rfl rfl rfl rfl rfl

theorem driveOpen_fits {d : Drive} {gpt : GptData} (opened : driveOpen d = some gpt) : d.Fits gpt := by
  rw [((driveOpen_eq_some_iff d gpt).mp opened).2.2]
  exact d.image_fits

theorem editPrimary_fits {d : Drive} {gpt edited : GptData} (fits : d.Fits gpt) {index : Nat}
    {change : GptEntry → Except Exit GptEntry} (edits : editPrimary gpt index change = .ok edited) :
    d.Fits edited := by
  unfold editPrimary at edits
  split at edits
  · cases outcome : change gpt.primaryEntries.value[index] with
    | error exit =>
        rw [outcome] at edits
        cases edits
    | ok e =>
        rw [outcome] at edits
        cases edits
        exact fits.of_rests rfl rfl rfl rfl rfl rfl
  · cases edits

theorem cgptCreate_outcome (zap : Bool) (uuidGenerator : Option Guid) (d : Drive) :
    SaveOutcome d (fun w => cgptCreate w zap uuidGenerator d) := by
  cases opened : driveOpen d with
  | none => exact .stops .failed fun w => by rw [cgptCreate, opened]
  | some gpt =>
      obtain ⟨whole, room, rfl⟩ := (driveOpen_eq_some_iff d gpt).mp opened
      cases zap with
      | true =>
          apply SaveOutcome.closes _ erased_fits
          intro w
          rw [cgptCreate, opened]
          rfl
      | false =>
          cases uuidGenerator with
          | none => exact .stops .failed fun w => by rw [cgptCreate, opened]; rfl
          | some uuid =>
              exact .closes _ (blank_fits uuid).finished fun w => cgptCreate_eq whole room w uuid

theorem cgptAdd_outcome (uuidGenerator : Option Guid) (p : CgptAddParams) (d : Drive) :
    SaveOutcome d (fun w => cgptAdd w uuidGenerator p d) := by
  unfold cgptAdd
  cases usable : openValid d with
  | none => exact .stops _ fun _ => rfl
  | some gpt =>
      dsimp only
      cases chooseIndex gpt p.partition with
      | none => exact .stops _ fun _ => rfl
      | some index =>
          dsimp only
          cases edits : editPrimary gpt index (editEntry uuidGenerator p) with
          | error exit => exact .stops _ fun _ => rfl
          | ok edited =>
              dsimp only
              unfold saveChecked
              split_ifs
              · exact .stops _ fun _ => rfl
              · have fits := commit_fits (editPrimary_fits (openValid_fits usable) edits)
                exact .closes _ fits fun _ => rfl

theorem cgptSetAttributes_outcome (p : CgptAddParams) (d : Drive) :
    SaveOutcome d (fun w => cgptSetAttributes w p d) := by
  unfold cgptSetAttributes
  cases usable : openValid d with
  | none => exact .stops _ fun _ => rfl
  | some gpt =>
      dsimp only
      split_ifs
      · exact .stops _ fun _ => rfl
      · cases edits : editPrimary gpt (p.partition.toNat - 1) (withAttributes p) with
        | error exit => exact .stops _ fun _ => rfl
        | ok edited =>
            have fits := commit_fits (editPrimary_fits (openValid_fits usable) edits)
            exact .closes _ fits fun _ => rfl

theorem cgptPrioritize_outcome (p : CgptPrioritizeParams) (d : Drive) :
    SaveOutcome d (fun w => cgptPrioritize w p d) := by
  unfold cgptPrioritize
  cases opened : driveOpen d with
  | none => exact .stops _ fun _ => rfl
  | some gpt =>
      have fits := gptSanityCheck_fits (driveOpen_fits opened)
      dsimp only
      split_ifs
      · exact .stops _ fun _ => rfl
      · exact .stops _ fun _ => rfl
      · cases prioritizeTable p (getNumberOfEntries (gptSanityCheck gpt).2)
          (gptSanityCheck gpt).2.primaryEntries.value with
        | none => exact .stops _ fun _ => rfl
        | some table =>
            refine .closes _ ?_ fun _ => rfl
            exact commit_fits (fits.of_rests rfl rfl rfl rfl rfl rfl)

theorem cgptRepair_outcome (d : Drive) : SaveOutcome d (fun w => cgptRepair w d) := by
  unfold cgptRepair
  cases opened : driveOpen d with
  | none => exact .stops _ fun _ => rfl
  | some gpt =>
      have fits := gptRepair_fits (gptSanityCheck_fits (driveOpen_fits opened))
      exact .closes _ fits fun _ => rfl

theorem cgptLegacy_outcome (efipart : Bool) (d : Drive) :
    SaveOutcome d (fun w => cgptLegacy w efipart d) := by
  unfold cgptLegacy
  cases opened : driveOpen d with
  | none => exact .stops _ fun _ => rfl
  | some gpt =>
      obtain ⟨-, -, rfl⟩ := (driveOpen_eq_some_iff d gpt).mp opened
      cases efipart with
      | true =>
          have signed : d.Fits (signHeaders d.image GPT_HEADER_SIGNATURE) :=
            d.image_fits.of_rests rfl rfl rfl rfl rfl rfl
          have copied := repairEntries_fits signed MASK_SECONDARY
          refine .closes _ ?_ fun _ => rfl
          exact updateCrc_fits (copied.of_rests rfl rfl rfl rfl rfl rfl)
      | false =>
          have cleared : d.Fits { signHeaders d.image GPT_HEADER_SIGNATURE2 with
              primaryEntries := clearedEntries d.image
              modified := MODIFIED_LEGACY } :=
            d.image_fits.of_rests rfl rfl rfl rfl (clearedEntries_rest d) rfl
          refine .closes _ ?_ fun _ => rfl
          exact updateCrc_fits cleared

theorem cgptBoot_outcome (p : CgptBootParams) (d : Drive) :
    SaveOutcome d (fun w => ((cgptBoot w p d).1, (cgptBoot w p d).2.2)) := by
  cases cgptBoot_drive p d with
  | inl stopped =>
      obtain ⟨exit, same⟩ := stopped
      exact .stops exit same
  | inr written =>
      obtain ⟨pmbr, same⟩ := written
      exact .names pmbr same

theorem Command.outcome (c : Command) (d : Drive) : SaveOutcome d (fun w => c.run w d) := by
  cases c with
  | create zap uuidGenerator => exact cgptCreate_outcome zap uuidGenerator d
  | add uuidGenerator p => exact cgptAdd_outcome uuidGenerator p d
  | setAttributes p => exact cgptSetAttributes_outcome p d
  | prioritize p => exact cgptPrioritize_outcome p d
  | repair => exact cgptRepair_outcome d
  | legacy efipart => exact cgptLegacy_outcome efipart d
  | boot p => exact cgptBoot_outcome p d

def runAll (commands : List (Writes × Command)) (d : Drive) : List Exit × Drive :=
  answers (fun c d => c.2.run c.1 d) commands d

/-- Whatever commands are given on whatever drive, in any order and however their writes end:
together they write nothing but the first sector and the two copies of the table. One that fails next
leaves the drive as it is, unless a `write` falls short, and one that succeeds has written
everything. -/
theorem commands_frame (d : Drive) (commands : List (Writes × Command)) :
    Touches d (runAll commands d).2 ∧ ∀ (c : Command) (w : Writes),
      ((c.run w (runAll commands d).2).1 ≠ .ok →
        (c.run w (runAll commands d).2).2 = (runAll commands d).2 ∨
          w.Short (runAll commands d).2) ∧
      ((c.run w (runAll commands d).2).1 = .ok →
        c.run w (runAll commands d).2 = c.run .whole (runAll commands d).2) := by
  apply And.intro
  · induction commands generalizing d with
    | nil => exact Touches.refl d
    | cons c commands ih => exact ((c.2.outcome d).touches c.1).trans (ih (c.2.run c.1 d).2)
  · intro c w
    exact ⟨(c.outcome _).failed, (c.outcome _).whole⟩

def reprioritized (p : CgptPrioritizeParams) (table : Entries) : Entries :=
  Vector.ofFn fun j => if table[j].isKernel = true ∧ 0 < rank p table.toList j then
    table[j].withPriority (newPriority p table.toList j) else table[j]

theorem prioritizeTable_eq {p : CgptPrioritizeParams} (least : 0 ≤ p.maxPriority)
    (most : p.maxPriority ≤ 15) (table : Entries) :
    prioritizeTable p 128 table = some (reprioritized p table) := by
  obtain ⟨after, made, entries⟩ := prioritizeTable_spec least most table
  rw [made]
  apply congrArg some
  apply Vector.ext
  intro j bound
  rw [entries j bound, reprioritized, Vector.getElem_ofFn]
  rfl

theorem reprioritized_claims {p : CgptPrioritizeParams} (table : Entries) :
    (reprioritized p table).toList.map GptEntry.claim = table.toList.map GptEntry.claim := by
  apply List.ext_getElem
  · simp
  · intro j _ _
    simp only [List.getElem_map, Vector.getElem_toList, reprioritized, Vector.getElem_ofFn]
    split_ifs
    · rfl
    · rfl

namespace Disk

def reorder (p : CgptPrioritizeParams) (disk : Disk) : Disk :=
  { disk with
    entries := reprioritized p disk.entries
    partitioned := disk.partitioned.of_claims (reprioritized_claims disk.entries).symm }

def prioritize (p : CgptPrioritizeParams) (disk : Disk) : Exit × Disk :=
  if p.setPartition ≠ 0 ∧ notAKernel p 128 disk.entries = true then (.failed, disk)
  else (.ok, disk.reorder p)

end Disk

theorem edited_edited (d : Drive) (before after : Entries) :
    { d.edited before with
      primaryEntries := { (d.edited before).primaryEntries with value := after } } =
      d.edited after := rfl

theorem cgptPrioritize_refines {d : Drive} {disk : Disk} (represents : Represents d disk)
    {p : CgptPrioritizeParams} (least : 0 ≤ p.maxPriority) (most : p.maxPriority ≤ 15) :
    (cgptPrioritize .whole p d).1 = (disk.prioritize p).1 ∧
      Represents (cgptPrioritize .whole p d).2 (disk.prioritize p).2 := by
  have state : (gptSanityCheck d.image).2 = d.edited disk.entries := by
    rw [represents.sound.paired.checks, ← represents.entries]
    rfl
  have passes : (gptSanityCheck d.image).1 = none := by
    rw [represents.sound.paired.checks]
  unfold cgptPrioritize Disk.prioritize
  rw [represents.sound.opens]
  dsimp only
  rw [if_neg (by rw [passes]; simp), state, getNumberOfEntries_edited represents.sound]
  have table : (d.edited disk.entries).primaryEntries.value = disk.entries := rfl
  rw [table]
  by_cases refused : p.setPartition ≠ 0 ∧ notAKernel p 128 disk.entries = true
  · rw [if_pos refused, if_pos refused]
    exact ⟨rfl, represents⟩
  · rw [if_neg refused, if_neg refused, prioritizeTable_eq least most]
    dsimp only
    rw [edited_edited]
    apply And.intro rfl
    apply commit_represents represents (disk.reorder p)
    · rw [Disk.reorder]
    · rw [Disk.reorder]

theorem Disk.blank_congr {first second : UInt64} (same : first = second) (uuid : Guid)
    (enough : 68 ≤ first.toNat) (enough' : 68 ≤ second.toNat) :
    Disk.blank first uuid enough = Disk.blank second uuid enough' := by
  subst same
  rfl

theorem cgptCreate_refines {d : Drive} {disk : Disk} (represents : Represents d disk)
    (uuidGenerator : Option Guid) :
    (cgptCreate .whole false uuidGenerator d).1 = (disk.create uuidGenerator).1 ∧
      Represents (cgptCreate .whole false uuidGenerator d).2 (disk.create uuidGenerator).2 := by
  have sound := represents.sound
  cases uuidGenerator with
  | none =>
      rw [cgptCreate, sound.opens]
      exact ⟨rfl, represents⟩
  | some uuid =>
      obtain ⟨sector, room⟩ := sound.room
      have enough := disk.fields.sectors disk.room
      have enough' := enough
      rw [← represents.sectors] at enough'
      have more : 68 ≤ d.count := by
        rw [d.sectors_toNat] at enough'
        exact enough'
      have created := cgptCreate_represents sound.whole sector more uuid enough'
      rw [Disk.blank_congr represents.sectors uuid enough' enough] at created
      apply And.intro _ created
      rw [cgptCreate_eq sound.whole (le_trans (by decide) room), driveClose_whole]
      rfl

/-- The commands of a drive in good order; `cmd_prioritize` bounds the highest priority. -/
inductive TableCommand where
  | create (uuidGenerator : Option Guid)
  | add (uuidGenerator : Option Guid) (p : CgptAddParams)
  | setAttributes (p : CgptAddParams)
  | prioritize (p : CgptPrioritizeParams) (least : 0 ≤ p.maxPriority) (most : p.maxPriority ≤ 15)
  | repair
  | boot (p : CgptBootParams)

namespace TableCommand

def command : TableCommand → Command
  | create uuidGenerator => .create false uuidGenerator
  | add uuidGenerator p => .add uuidGenerator p
  | setAttributes p => .setAttributes p
  | prioritize p _ _ => .prioritize p
  | repair => .repair
  | boot p => .boot p

/-- The command on a drive that takes every `write` whole. -/
def run (c : TableCommand) (d : Drive) : Exit × Drive := c.command.run .whole d

noncomputable def apply (c : TableCommand) (disk : Disk) : Exit × Disk :=
  match c with
  | create uuidGenerator => disk.create uuidGenerator
  | add uuidGenerator p => disk.add uuidGenerator p
  | setAttributes p => disk.setAttributes p
  | prioritize p _ _ => disk.prioritize p
  | repair => (.ok, disk)
  | boot p => disk.boot p

theorem refines : Refines run apply Represents := by
  intro c d disk represents
  cases c with
  | create uuidGenerator => exact cgptCreate_refines represents uuidGenerator
  | add uuidGenerator p => exact cgptAdd_refines represents uuidGenerator p
  | setAttributes p => exact cgptSetAttributes_refines represents p
  | prioritize p least most => exact cgptPrioritize_refines represents least most
  | repair =>
      have kept : (repair : TableCommand).run d = (.ok, d) := cgptRepair_of_openValid represents.drive
      rw [kept]
      exact ⟨rfl, represents⟩
  | boot p => exact cgptBoot_refines represents p

end TableCommand

/-- Any commands in any order, each with all of its writes taken, answer on a drive as they do on the
disk that it holds, and the drive goes on holding it: two good copies of one table, whose partitions
lie in the usable region and are clear of each other. -/
theorem commands_refine {d : Drive} {disk : Disk} (represents : Represents d disk)
    (commands : List TableCommand) :
    (answers TableCommand.run commands d).1 = (answers TableCommand.apply commands disk).1 ∧
      Represents (answers TableCommand.run commands d).2
        (answers TableCommand.apply commands disk).2 :=
  TableCommand.refines.run represents commands

/-- `boot` of the first partition. -/
def bootFirst : CgptBootParams := ⟨1, none, false⟩

def someCommands : List TableCommand := [
  .add (some guidUnused)
    ⟨0, some 34, some 1, some guidChromeosKernel, none, none, none, none, none, none⟩,
  .setAttributes ⟨1, none, none, none, none, none, some 1, some 15, some 2, none⟩,
  .boot bootFirst,
  .repair]

theorem commands_refine_new :
    (answers TableCommand.run someCommands newDrive).1 =
        (answers TableCommand.apply someCommands newDisk).1 ∧
      Represents (answers TableCommand.run someCommands newDrive).2
        (answers TableCommand.apply someCommands newDisk).2 :=
  commands_refine newDrive_represents someCommands

end A500cg.Gpt
