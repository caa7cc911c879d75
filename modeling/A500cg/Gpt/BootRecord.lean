import A500cg.Gpt.Restore

/-! The boot partition that is named in the first sector (`cgpt_boot.c`). -/

namespace A500cg.Gpt

open Lib

structure LegacyPartition where
  status : UInt8
  fHead : UInt8
  fSect : UInt8
  fCyl : UInt8
  type : UInt8
  lHead : UInt8
  lSect : UInt8
  lCyl : UInt8
  fLba : UInt32
  numSect : UInt32

structure Pmbr where
  bootcode : Vector UInt8 424
  bootGuid : Guid
  diskId : UInt32
  magic : Vector UInt8 2
  part : Vector LegacyPartition 4
  sig : Vector UInt8 2

def legacyPartitionCodec : Codec LegacyPartition :=
  (Codec.u8.pair (Codec.u8.pair (Codec.u8.pair (Codec.u8.pair (Codec.u8.pair (Codec.u8.pair
    (Codec.u8.pair (Codec.u8.pair (Codec.u32.pair Codec.u32))))))))).map
    (fun p => ⟨p.1, p.2.1, p.2.2.1, p.2.2.2.1, p.2.2.2.2.1, p.2.2.2.2.2.1, p.2.2.2.2.2.2.1,
      p.2.2.2.2.2.2.2.1, p.2.2.2.2.2.2.2.2.1, p.2.2.2.2.2.2.2.2.2⟩)
    (fun p => (p.status, p.fHead, p.fSect, p.fCyl, p.type, p.lHead, p.lSect, p.lCyl, p.fLba,
      p.numSect))
    (fun _ => rfl) (fun _ => rfl)

def bootcodeCodec : Codec (Vector UInt8 424) := Codec.u8.array 424

/-- `disk_id`, `magic`, `part`, `sig`: what stands behind the GUID. -/
def pmbrTailCodec : Codec (UInt32 × Vector UInt8 2 × Vector LegacyPartition 4 × Vector UInt8 2) :=
  Codec.u32.pair ((Codec.u8.array 2).pair ((legacyPartitionCodec.array 4).pair (Codec.u8.array 2)))

def pmbrCodec : Codec Pmbr :=
  (bootcodeCodec.pair (guidCodec.pair pmbrTailCodec)).map
    (fun p => ⟨p.1, p.2.1, p.2.2.1, p.2.2.2.1, p.2.2.2.2.1, p.2.2.2.2.2⟩)
    (fun p => (p.bootcode, p.bootGuid, p.diskId, p.magic, p.part, p.sig))
    (fun _ => rfl) (fun _ => rfl)

theorem pmbrCodec_width : pmbrCodec.width = 512 := rfl

def readPmbr (d : Drive) : Option Pmbr :=
  if pmbrCodec.width ≤ d.size then some (pmbrCodec.decode (span d.content 0 pmbrCodec.width)) else none

def writePmbr (w : Writes) (d : Drive) (pmbr : Pmbr) : Exit × Drive :=
  (if isShort w.pmbr pmbrCodec.width then .failed else .ok,
    { d with content := patch d.content 0 (taken w.pmbr (pmbrCodec.encode pmbr)) })

def Drive.withPmbr (d : Drive) (pmbr : Pmbr) : Drive :=
  { d with content := patch d.content 0 (pmbrCodec.encode pmbr) }

theorem writePmbr_of_ok {w : Writes} {d : Drive} {pmbr : Pmbr}
    (ends : (writePmbr w d pmbr).1 = .ok) : (writePmbr w d pmbr).2 = d.withPmbr pmbr := by
  unfold writePmbr at ends ⊢
  dsimp only at ends ⊢
  split_ifs at ends with short
  rw [taken_of_not_short]
  · rfl
  · rw [pmbrCodec.encode_length]
    exact Bool.eq_false_iff.mpr short

/-- `CgptBootParams`; the boot file comes as what `read` gives of it, `none` if it does not open. -/
structure CgptBootParams where
  partition : UInt32
  bootfile : Option (Option (List UInt8))
  createPmbr : Bool

def protective (pmbr : Pmbr) (driveSectors : UInt64) : Pmbr :=
  let none : LegacyPartition := ⟨0, 0, 0, 0, 0, 0, 0, 0, 0, 0⟩
  let max : UInt32 :=
    if driveSectors < 0xffffffff then (driveSectors - 1).toUInt32 else 0xffffffff
  { pmbr with
    magic := #v[0x1d, 0x9a]
    sig := #v[0x55, 0xaa]
    part := #v[⟨0, 0x00, 0x02, 0x00, 0xee, 0xff, 0xff, 0xff, 1, max⟩, none, none, none] }

def withBootcode (pmbr : Pmbr) (bytes : List UInt8) : Pmbr :=
  { pmbr with bootcode := Vector.ofFn fun i => (bytes[i.val]?).getD pmbr.bootcode[i] }

/-- `GetEntry` with `ANY_VALID`. -/
def getEntry (gpt : GptData) (index : Nat) : Option GptEntry := (trustedTable gpt)[index]?

/-- The GUID of the partition that is asked for; `none` when the command fails. -/
def chosenGuid (p : CgptBootParams) (gpt : GptData) (pmbr : Pmbr) : Option Guid :=
  if p.partition = 0 then some pmbr.bootGuid
  else
    let checked := gptSanityCheck gpt
    if checked.1 ≠ none then none
    else if getNumberOfEntries checked.2 < p.partition then none
    else (getEntry checked.2 (p.partition.toNat - 1)).map GptEntry.unique

/-- The record with the boot file in it; `none` when it cannot be read. -/
def bootfileRead (p : CgptBootParams) (pmbr : Pmbr) : Option Pmbr :=
  match p.bootfile with
  | none => some pmbr
  | some none => none
  | some (some bytes) => if bytes.isEmpty then none else some (withBootcode pmbr (bytes.take 424))

def writable (p : CgptBootParams) : Bool :=
  p.createPmbr || p.partition != 0 || p.bootfile.isSome

/-- The record `cgpt_boot` prints the GUID of, and writes. -/
def bootRecord (p : CgptBootParams) (gpt : GptData) (read : Pmbr) : Option Pmbr :=
  let pmbr := if p.createPmbr then protective read gpt.driveSectors else read
  (chosenGuid p gpt pmbr).bind fun bootGuid => bootfileRead p { pmbr with bootGuid }

def cgptBoot (w : Writes) (p : CgptBootParams) (d : Drive) : Exit × Option Guid × Drive :=
  match driveOpen d, readPmbr d with
  | some gpt, some read =>
    match bootRecord p gpt read with
    | none => (.failed, none, d)
    | some pmbr =>
      let written := if writable p then writePmbr w d pmbr else (.ok, d)
      (written.1, some pmbr.bootGuid, written.2)
  | _, _ => (.failed, none, d)

def cgptGetBootPartitionNumber (d : Drive) : Option Nat :=
  match driveOpen d, readPmbr d with
  | some gpt, some pmbr =>
    let checked := gptSanityCheck gpt
    if checked.1 ≠ none then none
    else ((trustedTable checked.2).toList.take (getNumberOfEntries checked.2).toNat).findIdx?
      (fun entry => entry.unique == pmbr.bootGuid) |>.map (· + 1)
  | _, _ => none

theorem Drive.start_ge {d : Drive} (room : 34 ≤ d.count) (p : Part) : 512 ≤ d.start p := by
  have least := d.sector_min
  cases p with
  | header1 =>
      rw [d.start_header1]
      exact least
  | header2 =>
      rw [d.start_header2 (by omega)]
      calc 512
        _ ≤ 1 * d.sectorBytes.toNat := by omega
        _ ≤ (d.count - 1) * d.sectorBytes.toNat := Nat.mul_le_mul_right _ (by omega)
  | entries1 =>
      rw [d.start_entries1]
      omega
  | entries2 =>
      rw [d.start_entries2 (by omega)]
      calc 512
        _ ≤ 1 * d.sectorBytes.toNat := by omega
        _ ≤ (d.count - 33) * d.sectorBytes.toNat := Nat.mul_le_mul_right _ (by omega)

theorem withPmbr_image {d : Drive} (room : 34 ≤ d.count) (pmbr : Pmbr) :
    (d.withPmbr pmbr).image = d.image := by
  have loads : ∀ p, (d.withPmbr pmbr).load p = d.load p := by
    intro p
    apply span_patch_of_disjoint
    right
    rw [pmbrCodec.encode_length, Nat.zero_add]
    exact d.start_ge room p
  unfold Drive.image
  rw [loads, loads, loads, loads]
  rfl

theorem readPmbr_eq {d : Drive} (room : 34 ≤ d.count) :
    readPmbr d = some (pmbrCodec.decode (span d.content 0 pmbrCodec.width)) := by
  have whole := d.count_mul_le
  have least := d.sector_min
  have more : 34 * 512 ≤ d.count * d.sectorBytes.toNat := Nat.mul_le_mul room least
  apply if_pos
  rw [pmbrCodec_width]
  omega

theorem readPmbr_withPmbr {d : Drive} (room : 34 ≤ d.count) (pmbr : Pmbr) :
    readPmbr (d.withPmbr pmbr) = some pmbr := by
  have written := span_patch d.content 0 (pmbrCodec.encode pmbr)
  have same : (d.withPmbr pmbr).count = d.count := rfl
  rw [pmbrCodec.encode_length] at written
  rw [readPmbr_eq (by rwa [same])]
  apply congrArg some
  change pmbrCodec.decode (span (patch d.content 0 (pmbrCodec.encode pmbr)) 0 pmbrCodec.width) = pmbr
  rw [written, pmbrCodec.decode_encode]

theorem withPmbr_guid {d : Drive} {pmbr : Pmbr} (room : 34 ≤ d.count)
    (read : readPmbr d = some pmbr) (bootGuid : Guid) :
    (d.withPmbr { pmbr with bootGuid }).content =
      patch d.content 424 (guidCodec.encode bootGuid) := by
  rw [readPmbr_eq room] at read
  have stands : pmbrCodec.encode pmbr = span d.content 0 pmbrCodec.width := by
    rw [← Option.some.inj read, pmbrCodec.encode_decode _ (span_length ..)]
  have layout : ∀ guid, pmbrCodec.encode { pmbr with bootGuid := guid } =
      bootcodeCodec.encode pmbr.bootcode ++ guidCodec.encode guid ++
        pmbrTailCodec.encode (pmbr.diskId, pmbr.magic, pmbr.part, pmbr.sig) := by
    intro guid
    rw [List.append_assoc]
    rfl
  have here : span d.content 0 (bootcodeCodec.encode pmbr.bootcode ++
      guidCodec.encode pmbr.bootGuid ++
      pmbrTailCodec.encode (pmbr.diskId, pmbr.magic, pmbr.part, pmbr.sig)).length =
      bootcodeCodec.encode pmbr.bootcode ++ guidCodec.encode pmbr.bootGuid ++
        pmbrTailCodec.encode (pmbr.diskId, pmbr.magic, pmbr.part, pmbr.sig) := by
    rw [← layout, pmbrCodec.encode_length]
    exact stands.symm
  have width : (guidCodec.encode bootGuid).length = (guidCodec.encode pmbr.bootGuid).length := by
    rw [guidCodec.encode_length, guidCodec.encode_length]
  have middle := patch_middle here width
  rw [Drive.withPmbr]
  dsimp only
  rw [layout, middle, bootcodeCodec.encode_length]
  rfl

theorem getNumberOfEntries_accepted {gpt : GptData} {headers entries : Mask}
    (accepted : CheckPassed gpt headers entries) (valid : gpt.validHeaders = headers) :
    getNumberOfEntries gpt = 128 := by
  have count := accepted.fields.numberOfEntries
  have any := accepted.headers_some
  rw [getNumberOfEntries, valid]
  split_ifs at count ⊢ with primary secondary
  · exact count
  · exact count
  · exact absurd ((Mask.eq_none_iff _).mpr ⟨by simpa using primary, by simpa using secondary⟩) any

theorem withBootcode_guid (pmbr : Pmbr) (bytes : List UInt8) :
    (withBootcode pmbr bytes).bootGuid = pmbr.bootGuid := by
  rw [withBootcode]

theorem bootfileRead_guid {p : CgptBootParams} {pmbr after : Pmbr}
    (read : bootfileRead p pmbr = some after) : after.bootGuid = pmbr.bootGuid := by
  unfold bootfileRead at read
  split at read
  · obtain rfl := Option.some.inj read
    rfl
  · cases read
  · split at read
    · cases read
    · rw [← Option.some.inj read, withBootcode_guid]

theorem getEntry_toList (gpt : GptData) (index : Nat) :
    getEntry gpt index = (trustedTable gpt).toList[index]? := by
  simp [getEntry]

theorem CheckPassed.partitioned {gpt : GptData}
    (accepted : CheckPassed gpt gpt.validHeaders gpt.validEntries) :
    Partitioned (trustedHeader gpt) (trustedTable gpt).toList := by
  rw [← gptRepair_table accepted.headers_some accepted.entries_some]
  exact (gptRepair_paired accepted).primary_table.2

theorem findIdx_unique {h : GptHeader} {entries : List GptEntry}
    (partitioned : Partitioned h entries) {i : Nat} (bound : i < entries.length) :
    ∃ q, ∃ inside : q < entries.length,
      entries.findIdx? (fun e => e.unique == entries[i].unique) = some q ∧
      (q = i ↔ ∀ j (less : j < i), entries[j].unique ≠ entries[i].unique) ∧
      entries[q].unique = entries[i].unique ∧
      (entries[i].isUnused = false → q = i ∨ entries[q].isUnused = true) := by
  have some_first : (entries.findIdx? fun e => e.unique == entries[i].unique).isSome = true := by
    rw [List.findIdx?_isSome, List.any_eq_true]
    exact ⟨_, List.getElem_mem bound, beq_self_eq_true _⟩
  obtain ⟨q, first⟩ := Option.isSome_iff_exists.mp some_first
  obtain ⟨inside, same, before⟩ := List.findIdx?_eq_some_iff_getElem.mp first
  have same : entries[q].unique = entries[i].unique := eq_of_beq same
  have early : q ≤ i := by
    by_contra late
    exact before _ (Nat.lt_of_not_le late) (beq_self_eq_true _)
  refine ⟨q, inside, first, ?_, same, ?_⟩
  · constructor
    · rintro rfl j less equal
      exact before j less (beq_iff_eq.mpr equal)
    · intro unique
      by_contra other
      exact unique q (by omega) same
  · intro used
    by_cases last : q = i
    · exact Or.inl last
    · right
      have less : q < i := by omega
      cases free : entries[q].isUnused with
      | true => rfl
      | false =>
          have apart := List.pairwise_iff_getElem.mp partitioned.apart q i inside bound less free used
          exact absurd same apart.2

theorem cgptBoot_drive (p : CgptBootParams) (d : Drive) :
    (∃ exit, ∀ w, ((cgptBoot w p d).1, (cgptBoot w p d).2.2) = (exit, d)) ∨
      ∃ pmbr, ∀ w, ((cgptBoot w p d).1, (cgptBoot w p d).2.2) = writePmbr w d pmbr := by
  unfold cgptBoot
  split
  · split
    · exact Or.inl ⟨_, fun _ => rfl⟩
    · cases writable p with
      | false => exact Or.inl ⟨_, fun _ => rfl⟩
      | true => exact Or.inr ⟨_, fun _ => rfl⟩
  · exact Or.inl ⟨_, fun _ => rfl⟩

def Disk.boot (p : CgptBootParams) (disk : Disk) : Exit × Disk :=
  if 128 < p.partition ∨ p.bootfile = some none ∨ p.bootfile = some (some []) then (.failed, disk)
  else (.ok, disk)

theorem withPmbr_represents {d : Drive} {disk : Disk} (represents : Represents d disk)
    (pmbr : Pmbr) : Represents (d.withPmbr pmbr) disk := by
  have sound := represents.sound
  have image := withPmbr_image (le_trans (by decide) sound.room.2) pmbr
  apply Represents.mk
  · apply Sound.mk
    · exact sound.whole
    · rw [image]
      exact sound.paired
    · rw [image]
      exact sound.mirrored
    · rw [image]
      exact sound.size
    · rw [image]
      exact sound.signature
  · exact represents.sectors
  · rw [image]
    exact represents.header
  · rw [image]
    exact represents.entries

theorem chosenGuid_isSome {d : Drive} {disk : Disk} (represents : Represents d disk)
    (p : CgptBootParams) (pmbr : Pmbr) :
    (chosenGuid p d.image pmbr).isSome = true ↔ ¬ 128 < p.partition := by
  have state : (gptSanityCheck d.image).2 = d.edited disk.entries := by
    rw [represents.sound.paired.checks, ← represents.entries]
    rfl
  have passes : (gptSanityCheck d.image).1 = none := by
    rw [represents.sound.paired.checks]
  unfold chosenGuid
  by_cases unnamed : p.partition = 0
  · rw [if_pos unnamed, unnamed]
    exact iff_of_true rfl (by decide)
  rw [if_neg unnamed]
  dsimp only
  rw [if_neg (by rw [passes]; simp), state, getNumberOfEntries_edited represents.sound]
  split_ifs with beyond
  · exact iff_of_false (by simp) (not_not.mpr beyond)
  · have most := UInt32.le_iff_toNat_le.mp (UInt32.not_lt.mp beyond)
    have least : p.partition.toNat ≠ 0 := fun zero => unnamed (UInt32.toNat_inj.mp zero)
    change p.partition.toNat ≤ 128 at most
    have bound : p.partition.toNat - 1 < 128 := by omega
    rw [getEntry, Vector.getElem?_eq_getElem bound]
    exact iff_of_true rfl beyond

theorem bootfileRead_isSome (p : CgptBootParams) (pmbr : Pmbr) :
    (bootfileRead p pmbr).isSome = true ↔
      ¬ (p.bootfile = some none ∨ p.bootfile = some (some [])) := by
  unfold bootfileRead
  cases p.bootfile with
  | none => simp
  | some file =>
      cases file with
      | none => simp
      | some bytes =>
          cases bytes with
          | nil => simp
          | cons byte bytes => simp

theorem cgptBoot_refines {d : Drive} {disk : Disk} (represents : Represents d disk)
    (p : CgptBootParams) :
    (cgptBoot .whole p d).1 = (disk.boot p).1 ∧
      Represents (cgptBoot .whole p d).2.2 (disk.boot p).2 := by
  have kept : (disk.boot p).2 = disk := by
    unfold Disk.boot
    split_ifs
    · rfl
    · rfl
  rw [kept]
  apply And.intro
  · have room : 34 ≤ d.count := le_trans (by decide) represents.sound.room.2
    unfold cgptBoot Disk.boot
    rw [represents.sound.opens, readPmbr_eq room]
    generalize pmbrCodec.decode (span d.content 0 pmbrCodec.width) = read
    dsimp only
    have made : (bootRecord p d.image read).isSome = true ↔
        ¬ (128 < p.partition ∨ p.bootfile = some none ∨ p.bootfile = some (some [])) := by
      rw [not_or, ← chosenGuid_isSome represents p
        (if p.createPmbr then protective read d.image.driveSectors else read), bootRecord]
      cases chosenGuid p d.image
        (if p.createPmbr then protective read d.image.driveSectors else read) with
      | none => simp
      | some bootGuid =>
          rw [Option.bind_some, bootfileRead_isSome]
          simp
    cases record : bootRecord p d.image read with
    | none =>
        rw [record] at made
        rw [if_pos (not_not.mp (made.not.mp (by simp)))]
    | some pmbr =>
        rw [record] at made
        rw [if_neg (made.mp rfl)]
        cases writable p with
        | false => rfl
        | true => rfl
  · cases cgptBoot_drive p d with
    | inl stopped =>
        obtain ⟨exit, same⟩ := stopped
        rw [(Prod.ext_iff.mp (same .whole)).2]
        exact represents
    | inr written =>
        obtain ⟨pmbr, same⟩ := written
        rw [(Prod.ext_iff.mp (same .whole)).2]
        exact withPmbr_represents represents pmbr

section Boot

variable {w : Writes} {d : Drive} {gpt : GptData} {p : CgptBootParams}

theorem cgptBoot_written (whole : d.size % d.sectorBytes.toNat = 0) (room : 34 ≤ d.count)
    (passed : gptSanityCheck d.image = (none, gpt)) (named : p.partition ≠ 0)
    (ends : (cgptBoot w p d).1 = .ok) :
    ∃ pmbr entry, (cgptBoot w p d).2.2 = d.withPmbr pmbr ∧ p.partition ≤ 128 ∧
      getEntry gpt (p.partition.toNat - 1) = some entry ∧ pmbr.bootGuid = entry.unique := by
  have accepted := gptSanityCheck_state passed
  have count := getNumberOfEntries_accepted accepted rfl
  have writes : writable p = true := by
    rw [writable, bne_iff_ne.mpr named, Bool.or_true, Bool.true_or]
  unfold cgptBoot at ends ⊢
  rw [driveOpen_of_room whole room, readPmbr_eq room] at ends ⊢
  dsimp only at ends ⊢
  rw [writes] at ends ⊢
  cases found : bootRecord p d.image (pmbrCodec.decode (span d.content 0 pmbrCodec.width)) with
  | none =>
      rw [found] at ends
      cases ends
  | some pmbr =>
      rw [found] at ends
      obtain ⟨bootGuid, chosen, read⟩ := Option.bind_eq_some_iff.mp found
      have guid := bootfileRead_guid read
      unfold chosenGuid at chosen
      rw [if_neg named] at chosen
      dsimp only at chosen
      rw [passed] at chosen
      dsimp only at chosen
      rw [if_neg (by simp), count] at chosen
      split_ifs at chosen with beyond
      obtain ⟨entry, present, rfl⟩ := Option.map_eq_some_iff.mp chosen
      exact ⟨pmbr, entry, writePmbr_of_ok ends, UInt32.not_lt.mp beyond, present, guid⟩

/-- The partition that is found after `cgpt_boot` is the first with the GUID of the one that was
named: another one only if it comes earlier and is unused, when the named one is in use. -/
theorem cgptBoot_read_back (whole : d.size % d.sectorBytes.toNat = 0)
    (passed : gptSanityCheck d.image = (none, gpt)) (named : p.partition ≠ 0)
    (ends : (cgptBoot w p d).1 = .ok) :
    ∃ entry, getEntry gpt (p.partition.toNat - 1) = some entry ∧
      (cgptGetBootPartitionNumber (cgptBoot w p d).2.2 = some p.partition.toNat ↔
        ∀ j < p.partition.toNat - 1, ∀ other, getEntry gpt j = some other →
          other.unique ≠ entry.unique) ∧
      ∃ q other, cgptGetBootPartitionNumber (cgptBoot w p d).2.2 = some (q + 1) ∧
        getEntry gpt q = some other ∧ other.unique = entry.unique ∧
        (entry.isUnused = false → q + 1 = p.partition.toNat ∨ other.isUnused = true) := by
  have accepted := gptSanityCheck_state passed
  have room : 34 ≤ d.count :=
    le_trans (by decide) (count_of_parameters (checked_fits passed) accepted.parameters).2
  obtain ⟨pmbr, entry, written, inside, present, guid⟩ :=
    cgptBoot_written whole room passed named ends
  have count := getNumberOfEntries_accepted accepted rfl
  have all : (trustedTable gpt).toList.take (128 : UInt32).toNat = (trustedTable gpt).toList :=
    List.take_of_length_le (by simp)
  have found : cgptGetBootPartitionNumber (cgptBoot w p d).2.2 =
      ((trustedTable gpt).toList.findIdx? fun e => e.unique == entry.unique).map (· + 1) := by
    rw [written, cgptGetBootPartitionNumber, readPmbr_withPmbr room,
      driveOpen_of_room (d := d.withPmbr pmbr) whole room, withPmbr_image room]
    dsimp only
    rw [passed]
    dsimp only
    rw [if_neg (by simp), count, all, guid]
  have least : p.partition.toNat ≠ 0 := fun zero => named (UInt32.toNat_inj.mp zero)
  simp only [getEntry_toList] at present ⊢
  generalize table : (trustedTable gpt).toList = entries at *
  have partitioned := accepted.partitioned
  rw [table] at partitioned
  obtain ⟨bound, rfl⟩ := List.getElem?_eq_some_iff.mp present
  obtain ⟨q, inside, first, named_first, same, used⟩ := findIdx_unique partitioned bound
  rw [found, first]
  refine ⟨entries[p.partition.toNat - 1], present, ?_, q, entries[q], rfl,
    List.getElem?_eq_getElem inside, same, ?_⟩
  · have number : (Option.map (· + 1) (some q) = some p.partition.toNat) ↔
        q = p.partition.toNat - 1 := by
      rw [Option.map_some, Option.some.injEq]
      omega
    rw [number, named_first]
    constructor
    · intro unique j less other here
      obtain ⟨_, rfl⟩ := List.getElem?_eq_some_iff.mp here
      exact unique j less
    · intro unique j less
      exact unique j less _ (List.getElem?_eq_getElem (less.trans bound))
  · intro free
    exact (used free).imp_left (by omega)

end Boot

def pairFile : Drive := { emptyDrive with size := 35328, size_lt := by decide }

def blankPair : Disk := Disk.blank pairFile.sectors guidUnused (by decide)

def firstOfPair : GptEntry := { kernelEntry with unique := { guidUnused with timeLow := 1 } }

def secondOfPair : GptEntry :=
  { kernelEntry with
    startingLba := 35
    endingLba := 35
    unique := { guidUnused with timeLow := 2 } }

theorem firstOfPair_takes : Takes blankPair.header blankPair.entries 0 firstOfPair :=
  Disk.blank_takes (by decide) (Set.Icc_subset_Icc (by decide) (by decide))

def halfPair : Disk := blankPair.put 0 first_entry firstOfPair firstOfPair_takes

theorem secondOfPair_takes : Takes halfPair.header halfPair.entries 1 secondOfPair := by
  intro _
  apply And.intro
  · apply And.intro (by decide)
    exact Set.Icc_subset_Icc (by decide) (by decide)
  · intro j bound _ used
    by_cases first : j = 0
    · subst first
      have here : halfPair.entries[0] = firstOfPair := Vector.getElem_set_self first_entry
      rw [here]
      apply And.intro _ (by decide)
      exact Set.disjoint_left.mpr fun sector second first => absurd second.1 (by
        have last : sector ≤ 34 := first.2
        change ¬ 35 ≤ sector
        omega)
    · have here : halfPair.entries[j] = blankEntry :=
        (Vector.getElem_set_ne first_entry bound (Ne.symm first)).trans (Disk.blank_entry _ _ _ bound)
      rw [here, blankEntry_unused] at used
      cases used

theorem second_entry : 1 < 128 := by decide

def pairDisk : Disk := halfPair.put 1 second_entry secondOfPair secondOfPair_takes

def pairDrive : Drive :=
  let created := (cgptCreate .whole false (some guidUnused) pairFile).2
  created.closed (commit (created.edited pairDisk.entries))

theorem pairDrive_represents : Represents pairDrive pairDisk := by
  have created : Represents (cgptCreate .whole false (some guidUnused) pairFile).2 blankPair :=
    cgptCreate_represents (by decide) rfl (by decide) guidUnused (by decide)
  exact commit_represents created pairDisk rfl rfl

/-- `boot` of the second partition. -/
def bootSecond : CgptBootParams := ⟨2, none, false⟩

theorem cgptBoot_read_back_pair :
    let gpt := { pairDrive.image with validHeaders := MASK_BOTH, validEntries := MASK_BOTH }
    let booted := (cgptBoot .whole bootSecond pairDrive).2.2
    ∃ entry, getEntry gpt 1 = some entry ∧
      (cgptGetBootPartitionNumber booted = some 2 ↔
        ∀ j < 1, ∀ other, getEntry gpt j = some other → other.unique ≠ entry.unique) ∧
      ∃ q other, cgptGetBootPartitionNumber booted = some (q + 1) ∧
        getEntry gpt q = some other ∧ other.unique = entry.unique ∧
        (entry.isUnused = false → q + 1 = 2 ∨ other.isUnused = true) := by
  apply cgptBoot_read_back (p := bootSecond) pairDrive_represents.sound.whole
    pairDrive_represents.sound.paired.checks (by decide)
  rw [(cgptBoot_refines pairDrive_represents bootSecond).1]
  decide

/-- `cgpt_boot` writes nothing behind the first sector, nothing at all when it fails without a short
`write`, and only the sixteen bytes of the GUID when neither a boot file nor a new record is asked
for. -/
theorem cgptBoot_frame (w : Writes) (p : CgptBootParams) (d : Drive) :
    (∀ a, 512 ≤ a → (cgptBoot w p d).2.2.content a = d.content a) ∧
      ((cgptBoot w p d).1 ≠ .ok → (cgptBoot w p d).2.2 = d ∨ isShort w.pmbr 512 = true) ∧
      (p.createPmbr = false → p.bootfile = none →
        ∀ a, a < 424 ∨ 440 ≤ a → (cgptBoot w p d).2.2.content a = d.content a) := by
  unfold cgptBoot
  cases opened : driveOpen d with
  | none => exact ⟨fun _ _ => rfl, fun _ => Or.inl rfl, fun _ _ _ _ => rfl⟩
  | some gpt =>
      have room := ((driveOpen_eq_some_iff d gpt).mp opened).2.1
      have read := readPmbr_eq room
      rw [read]
      generalize pmbrCodec.decode (span d.content 0 pmbrCodec.width) = pmbr at *
      dsimp only
      cases made : bootRecord p gpt pmbr with
      | none => exact ⟨fun _ _ => rfl, fun _ => Or.inl rfl, fun _ _ _ _ => rfl⟩
      | some after =>
          dsimp only
          cases writable p with
          | false => exact ⟨fun _ _ => rfl, fun _ => Or.inl rfl, fun _ _ _ _ => rfl⟩
          | true =>
              -- A short write changes no byte that the whole one leaves alone.
              have kept : ∀ a, (d.withPmbr after).content a = d.content a →
                  (writePmbr w d after).2.content a = d.content a := by
                intro a same
                cases patch_taken d.content 0 w.pmbr (pmbrCodec.encode after) a with
                | inl old => exact old
                | inr new => exact new.trans same
              refine ⟨?_, ?_, ?_⟩
              · intro a behind
                apply kept
                apply patch_outside
                right
                rw [pmbrCodec.encode_length, Nat.zero_add]
                exact behind
              · intro failed
                right
                by_contra enough
                exact failed (if_neg enough)
              · intro plain alone a outside
                obtain ⟨bootGuid, -, same⟩ := Option.bind_eq_some_iff.mp made
                rw [bootfileRead, alone, plain] at same
                obtain rfl := Option.some.inj same
                apply kept
                change (d.withPmbr { pmbr with bootGuid }).content a = d.content a
                rw [withPmbr_guid room read bootGuid]
                apply patch_outside
                rw [guidCodec.encode_length]
                exact outside

end A500cg.Gpt
