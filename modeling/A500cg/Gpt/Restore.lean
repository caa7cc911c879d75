import A500cg.Gpt.Disk

/-! The commands that bring a table to a drive, or back to it: `create`, `repair` and `legacy`. -/

namespace A500cg.Gpt

open Lib

theorem cgptCreate_eq {d : Drive} (whole : d.size % d.sectorBytes.toNat = 0) (room : 34 ≤ d.count)
    (w : Writes) (uuid : Guid) :
    cgptCreate w false (some uuid) d = driveClose w d (finished (blank d.image uuid)) := by
  rw [cgptCreate, driveOpen_of_room whole room]
  exact congrArg (driveClose w d) (initialized_eq d.image uuid)

theorem cgptCreate_represents {d : Drive} (whole : d.size % d.sectorBytes.toNat = 0)
    (sector : d.sectorBytes = 512) (room : 68 ≤ d.count) (uuid : Guid)
    (enough : 68 ≤ d.sectors.toNat) :
    Represents (cgptCreate .whole false (some uuid) d).2 (Disk.blank d.sectors uuid enough) := by
  have ⟨sound, image⟩ := sound_of_finished (blank_fits uuid) whole (blank_committable uuid sector room)
  rw [cgptCreate_eq whole (by omega), driveClose_whole]
  apply Represents.mk sound
  · rfl
  · rw [image]
    change (blank d.image uuid).primaryHeader.value.owned = _
    rw [blank_header]
    rfl
  · rw [image]
    exact blank_entries d.image uuid

/-- `create` succeeds on every drive it opens when no `write` falls short, but the other commands
can use the drive only if its sectors are 512 bytes and there are 68 of them. -/
theorem cgptCreate_usable_iff {d : Drive} (whole : d.size % d.sectorBytes.toNat = 0)
    (room : 34 ≤ d.count) (w : Writes) (uuid : Guid) :
    ((cgptCreate w false (some uuid) d).1 = .ok ↔
      ∀ p, isShort (w.save p) (d.length p) = false) ∧
    ((cgptCreate w false (some uuid) d).1 = .ok →
      ((openValid (cgptCreate w false (some uuid) d).2).isSome = true ↔
        d.sectorBytes = 512 ∧ 68 ≤ d.count)) := by
  have sectors := d.sectors_toNat
  have made := (blank_fits (d := d) uuid).finished
  rw [cgptCreate_eq whole room]
  apply And.intro
  · rw [driveClose_ok_iff]
    apply forall_congr'
    intro p
    have marked : (finished (blank d.image uuid)).modified.has p = true := by
      cases p <;> rfl
    rw [made.length, marked]
    exact ⟨fun enough => enough rfl, fun enough _ => enough⟩
  intro ends
  rw [driveClose_of_ok ends]
  constructor
  · intro usable
    obtain ⟨gpt, opened⟩ := Option.isSome_iff_exists.mp usable
    obtain ⟨-, paired, -⟩ := (openValid_iff _ gpt).mp opened
    have fits : (d.closed (finished (blank d.image uuid))).Fits
        (d.closed (finished (blank d.image uuid))).image := Drive.image_fits _
    have ⟨sector, most⟩ := count_of_parameters fits paired.parameters
    have enough : 67 ≤ d.count := most
    have image := closed_image made enough rfl
    have fields := paired.fields
    rw [image] at fields
    have more := HeaderFields.sectors fields (by change 67 ≤ d.sectors.toNat; rwa [sectors])
    change 68 ≤ d.sectors.toNat at more
    rw [sectors] at more
    exact ⟨sector, more⟩
  · rintro ⟨sector, most⟩
    have enough : 68 ≤ d.sectors.toNat := by
      rw [sectors]
      exact most
    have represents := cgptCreate_represents whole sector most uuid enough
    rw [cgptCreate_eq whole room, driveClose_whole] at represents
    rw [represents.drive]
    rfl

def emptyDrive : Drive where
  content := fun _ => 0
  size := 34816
  sectorBytes := 512
  size_lt := by decide
  sector_min := by decide
  sector_max := by decide

theorem cgptCreate_usable_empty :
    ((cgptCreate .whole false (some guidUnused) emptyDrive).1 = .ok ↔
      ∀ p, isShort (Writes.whole.save p) (emptyDrive.length p) = false) ∧
    ((cgptCreate .whole false (some guidUnused) emptyDrive).1 = .ok →
      ((openValid (cgptCreate .whole false (some guidUnused) emptyDrive).2).isSome = true ↔
        emptyDrive.sectorBytes = 512 ∧ 68 ≤ emptyDrive.count)) :=
  cgptCreate_usable_iff (by decide) (by decide) .whole guidUnused

/-- The image file after `create`. -/
def newDrive : Drive := (cgptCreate .whole false (some guidUnused) emptyDrive).2

def newDisk : Disk := Disk.blank emptyDrive.sectors guidUnused (by decide)

theorem newDrive_represents : Represents newDrive newDisk :=
  cgptCreate_represents (by decide) rfl (by decide) guidUnused _

def blankEntry : GptEntry := entryCodec.decode (List.replicate entryCodec.width 0)

theorem blankEntry_unused : blankEntry.isUnused = true := by decide +kernel

theorem Disk.blank_entry (sectors : UInt64) (uuid : Guid) (room : 68 ≤ sectors.toNat) {index : Nat}
    (bound : index < 128) : (Disk.blank sectors uuid room).entries[index] = blankEntry := by
  have table : (Disk.blank sectors uuid room).entries.toList = List.replicate 128 blankEntry :=
    Codec.items_replicate entryCodec 128 0
  have here : (Disk.blank sectors uuid room).entries.toList[index]? = some blankEntry := by
    rw [table, List.getElem?_replicate, if_pos bound]
  simpa [bound] using here

theorem newDisk_entry {index : Nat} (bound : index < 128) : newDisk.entries[index] = blankEntry :=
  Disk.blank_entry _ _ _ bound

theorem first_entry : 0 < 128 := by decide

theorem Disk.blank_takes {sectors : UInt64} {uuid : Guid} {room : 68 ≤ sectors.toNat}
    {index : Nat} {e : GptEntry} (order : e.startingLba ≤ e.endingLba)
    (inside : e.sectors ⊆ Set.Icc (Disk.blank sectors uuid room).header.firstUsableLba.toNat
      (Disk.blank sectors uuid room).header.lastUsableLba.toNat) :
    Takes (Disk.blank sectors uuid room).header (Disk.blank sectors uuid room).entries index e := by
  intro _
  apply And.intro ⟨order, inside⟩
  intro j bound _ used
  rw [Disk.blank_entry sectors uuid room bound, blankEntry_unused] at used
  cases used

def kernelEntry : GptEntry :=
  { blankEntry with type := guidChromeosKernel, startingLba := 34, endingLba := 34, gptAtt := 1 }

theorem kernelEntry_takes : Takes newDisk.header newDisk.entries 0 kernelEntry :=
  Disk.blank_takes (by decide) (Set.Icc_subset_Icc (by decide) (by decide))

def kernelDisk : Disk := newDisk.put 0 first_entry kernelEntry kernelEntry_takes

def kernelDrive : Drive := newDrive.closed (commit (newDrive.edited kernelDisk.entries))

theorem kernelDrive_represents : Represents kernelDrive kernelDisk :=
  commit_represents newDrive_represents kernelDisk rfl rfl

def GptData.valid (gpt : GptData) : Part → Bool
  | .header1 => gpt.validHeaders.primary
  | .header2 => gpt.validHeaders.secondary
  | .entries1 => gpt.validEntries.primary
  | .entries2 => gpt.validEntries.secondary

theorem Mask.cases_of_some {m : Mask} (any : m ≠ MASK_NONE) :
    m = MASK_PRIMARY ∨ m = MASK_SECONDARY ∨ m = MASK_BOTH := by
  obtain ⟨primary, secondary⟩ := m
  revert any
  cases primary <;> cases secondary <;> decide

theorem gptRepair_kept {gpt : GptData} (headers : gpt.validHeaders ≠ MASK_NONE)
    (entries : gpt.validEntries ≠ MASK_NONE) (unmodified : gpt.modified = UNMODIFIED) (p : Part) :
    (gptRepair gpt).modified.has p = !gpt.valid p ∧
      (gpt.valid p = true → (gptRepair gpt).buffer p = gpt.buffer p) := by
  obtain ⟨header1, header2, entries1, entries2, sectorBytes, sectors, marks, tops, tables⟩ := gpt
  dsimp only at headers entries unmodified
  subst unmodified
  obtain rfl | rfl | rfl := Mask.cases_of_some headers
  all_goals
    obtain rfl | rfl | rfl := Mask.cases_of_some entries
    all_goals
      cases p
      all_goals
        apply And.intro rfl
        intro good
        first | rfl | cases good

theorem gptRepair_fits {d : Drive} {gpt : GptData} (fits : d.Fits gpt) : d.Fits (gptRepair gpt) := by
  unfold gptRepair repairTables repairHeaders
  split_ifs
  all_goals exact fits.of_rests rfl rfl rfl rfl rfl rfl

theorem gptRepair_table {gpt : GptData} (headers : gpt.validHeaders ≠ MASK_NONE)
    (entries : gpt.validEntries ≠ MASK_NONE) :
    (gptRepair gpt).primaryEntries.value = trustedTable gpt := by
  obtain ⟨first, second, valid, -⟩ := repairHeaders_frame gpt
  have ⟨table, _⟩ := repairTables_tables (repairHeaders gpt)
  rw [first, second, valid] at table
  rw [gptRepair, if_neg (not_or.mpr ⟨headers, entries⟩), table, trustedTable]
  obtain only | only | only := Mask.cases_of_some entries
  all_goals
    rw [only]
    rfl

theorem gptRepair_second {gpt : GptData} (headers : gpt.validHeaders ≠ MASK_NONE)
    (entries : gpt.validEntries ≠ MASK_NONE) :
    (gptRepair gpt).secondaryEntries.value =
      if gpt.validEntries.secondary then gpt.secondaryEntries.value
      else gpt.primaryEntries.value := by
  obtain ⟨first, second, valid, -⟩ := repairHeaders_frame gpt
  have ⟨_, table⟩ := repairTables_tables (repairHeaders gpt)
  rw [first, second, valid] at table
  rw [gptRepair, if_neg (not_or.mpr ⟨headers, entries⟩), table]
  obtain only | only | only := Mask.cases_of_some entries
  all_goals
    rw [only]
    rfl

theorem cgptRepair_of_openValid {w : Writes} {d : Drive} {gpt : GptData}
    (usable : openValid d = some gpt) : cgptRepair w d = (.ok, d) := by
  obtain ⟨whole, paired, -⟩ := (openValid_iff d gpt).mp usable
  have room := (count_of_parameters d.image_fits paired.parameters).2
  rw [cgptRepair, driveOpen_of_room whole (by omega)]
  dsimp only
  rw [paired.checks, driveClose_unmodified]
  rfl

section Repair

variable {d : Drive} {gpt : GptData}

theorem checked_fits (passed : gptSanityCheck d.image = (none, gpt)) : d.Fits gpt := by
  rw [(gptSanityCheck_accepted passed).1]
  exact d.image_fits.of_rests rfl rfl rfl rfl rfl rfl

theorem checked_buffer (passed : gptSanityCheck d.image = (none, gpt)) (p : Part) :
    gpt.buffer p = d.load p := by
  rw [← d.image_buffer, (gptSanityCheck_accepted passed).1]
  cases p with
  | header1 => rfl
  | header2 => rfl
  | entries1 => rfl
  | entries2 => rfl

theorem checked_kept (passed : gptSanityCheck d.image = (none, gpt)) (p : Part) :
    (gptRepair gpt).modified.has p = !gpt.valid p ∧
      (gpt.valid p = true → (gptRepair gpt).buffer p = d.load p) := by
  have accepted := gptSanityCheck_state passed
  have unmodified : gpt.modified = UNMODIFIED := by
    rw [(gptSanityCheck_accepted passed).1]
    rfl
  have ⟨marks, kept⟩ := gptRepair_kept accepted.headers_some accepted.entries_some unmodified p
  exact ⟨marks, fun good => (kept good).trans (checked_buffer passed p)⟩

theorem cgptRepair_image (whole : d.size % d.sectorBytes.toNat = 0)
    (passed : gptSanityCheck d.image = (none, gpt)) :
    cgptRepair .whole d = (.ok, d.closed (gptRepair gpt)) ∧
    (d.closed (gptRepair gpt)).image = (gptRepair gpt).fresh := by
  have fits := checked_fits passed
  have room := (count_of_parameters fits (gptSanityCheck_state passed).parameters).2
  apply And.intro
  · rw [cgptRepair, driveOpen_of_room whole (by omega)]
    dsimp only
    rw [passed, driveClose_whole]
  · apply closed_image_of_kept (gptRepair_fits fits) room
    intro p unmarked
    have ⟨marks, kept⟩ := checked_kept passed p
    rw [marks, Bool.not_eq_false'] at unmarked
    exact kept unmarked

theorem repaired_openValid (whole : d.size % d.sectorBytes.toNat = 0)
    (passed : gptSanityCheck d.image = (none, gpt)) :
    ∃ usable, openValid (cgptRepair .whole d).2 = some usable := by
  have ⟨repaired, image⟩ := cgptRepair_image whole passed
  have paired := gptRepair_paired (gptSanityCheck_state passed)
  rw [repaired]
  exact ⟨_, (openValid_iff (d.closed (gptRepair gpt)) _).mpr
    ⟨whole, by rw [image]; exact paired.fresh.under_primary, rfl⟩⟩

theorem cgptRepair_usable (whole : d.size % d.sectorBytes.toNat = 0)
    (passed : gptSanityCheck d.image = (none, gpt)) :
    (openValid (cgptRepair .whole d).2).isSome = true := by
  obtain ⟨_, usable⟩ := repaired_openValid whole passed
  rw [usable]
  rfl

end Repair

theorem gptSanityCheck_passes_iff (gpt : GptData) :
    (gptSanityCheck gpt).1 = none ↔
      checkParameters gpt = none ∧ headersFound gpt ≠ MASK_NONE ∧ entriesFound gpt ≠ MASK_NONE := by
  unfold gptSanityCheck
  split_ifs with parameters headers entries different
  · simp [Option.isSome_iff_ne_none.mp parameters]
  · simp [headers]
  · simp [entries]
  · have fine : checkParameters gpt = none := by simpa using parameters
    simp [fine, headers, entries]
  · have fine : checkParameters gpt = none := by simpa using parameters
    simp [fine, headers, entries]

theorem gptSanityCheck_failed {gpt : GptData} (failed : (gptSanityCheck gpt).1 ≠ none) :
    gptRepair (gptSanityCheck gpt).2 = (gptSanityCheck gpt).2 ∧
      (gptSanityCheck gpt).2.modified = gpt.modified := by
  revert failed
  unfold gptSanityCheck
  split_ifs with parameters headers entries different
  · intro _
    exact ⟨if_pos (Or.inl rfl), rfl⟩
  · intro _
    exact ⟨if_pos (Or.inl rfl), rfl⟩
  · intro _
    exact ⟨if_pos (Or.inr rfl), rfl⟩
  · intro failed
    exact absurd rfl failed
  · intro failed
    exact absurd rfl failed

theorem openValid_passes {d : Drive} {gpt : GptData} (usable : openValid d = some gpt) :
    d.size % d.sectorBytes.toNat = 0 ∧ (gptSanityCheck d.image).1 = none := by
  obtain ⟨whole, paired, -⟩ := (openValid_iff d gpt).mp usable
  rw [paired.checks]
  exact ⟨whole, rfl⟩

theorem cgptRepair_failed {d : Drive}
    (fails : ¬ (d.size % d.sectorBytes.toNat = 0 ∧ (gptSanityCheck d.image).1 = none)) :
    (cgptRepair .whole d).2 = d := by
  unfold cgptRepair
  cases opened : driveOpen d with
  | none => rfl
  | some gpt =>
      obtain ⟨whole, -, rfl⟩ := (driveOpen_eq_some_iff d gpt).mp opened
      have ⟨same, marks⟩ := gptSanityCheck_failed (not_and.mp fails whole)
      dsimp only
      rw [same, driveClose_unmodified marks]

/-- `repair` makes a drive usable exactly if the check passes; a drive that it does not make usable
it leaves as it was, and says that it succeeded. -/
theorem cgptRepair_usable_iff (d : Drive) :
    ((openValid (cgptRepair .whole d).2).isSome = true ↔
      d.size % d.sectorBytes.toNat = 0 ∧ (gptSanityCheck d.image).1 = none) ∧
    (openValid (cgptRepair .whole d).2 = none → (cgptRepair .whole d).2 = d) := by
  by_cases passes : d.size % d.sectorBytes.toNat = 0 ∧ (gptSanityCheck d.image).1 = none
  · have passed : gptSanityCheck d.image = (none, (gptSanityCheck d.image).2) :=
      Prod.ext passes.2 rfl
    have usable := cgptRepair_usable passes.1 passed
    apply And.intro (iff_of_true usable passes)
    intro unusable
    rw [unusable] at usable
    cases usable
  · have kept := cgptRepair_failed passes
    rw [kept]
    apply And.intro _ (fun _ => rfl)
    apply iff_of_false _ passes
    intro usable
    obtain ⟨gpt, valid⟩ := Option.isSome_iff_exists.mp usable
    exact passes (openValid_passes valid)

section Legacy

def resigned (h : Overlay GptHeader) (signature : Vector UInt8 8) : Overlay GptHeader :=
  withRecordCrc { h with value := { h.value with signature } }

/-- The tables of a drive after `legacy`. -/
def legacyTables (gpt : GptData) : GptData :=
  { gpt with
    primaryHeader := resigned gpt.primaryHeader GPT_HEADER_SIGNATURE2
    secondaryHeader := resigned gpt.secondaryHeader GPT_HEADER_SIGNATURE2
    primaryEntries := clearedEntries gpt
    modified := MODIFIED_LEGACY }

variable {d : Drive} (sound : Sound d)

theorem Sound.room (sound : Sound d) : d.sectorBytes = 512 ∧ 67 ≤ d.count :=
  count_of_parameters d.image_fits sound.paired.parameters

theorem Sound.opens (sound : Sound d) : driveOpen d = some d.image :=
  driveOpen_of_room sound.whole (le_trans (by decide) sound.room.2)

theorem updateCrc_legacy {gpt : GptData} (marks : gpt.modified = MODIFIED_LEGACY) :
    updateCrc gpt = { gpt with
      primaryHeader := withRecordCrc (if startsWithSignature2 gpt.primaryHeader.value then
        gpt.primaryHeader else withEntriesCrc gpt.primaryHeader gpt.primaryEntries)
      secondaryHeader := withRecordCrc gpt.secondaryHeader } := by
  rw [updateCrc, marks]
  cases startsWithSignature2 gpt.primaryHeader.value with
  | false => rfl
  | true => rfl

theorem cgptLegacy_eq (sound : Sound d) :
    cgptLegacy .whole false d = (.ok, d.closed (legacyTables d.image)) := by
  have second : startsWithSignature2
      (signHeaders d.image GPT_HEADER_SIGNATURE2).primaryHeader.value = true := by
    change (GPT_HEADER_SIGNATURE2 == GPT_HEADER_SIGNATURE2 &&
      d.image.primaryHeader.value.revision &&& 0xff == 0) = true
    rw [sound.paired.fields.revision]
    decide
  rw [cgptLegacy, sound.opens]
  dsimp only
  rw [if_neg (by decide), updateCrc_legacy rfl, driveClose_whole]
  dsimp only
  rw [if_pos second]
  rfl

theorem clearedEntries_rest (d : Drive) :
    (clearedEntries d.image).rest.length = d.image.primaryEntries.rest.length := by
  have length := d.image_fits.length .entries1
  rw [d.length_entries (Or.inl rfl)] at length
  change (entriesCodec.bytes d.image.primaryEntries).length = _ at length
  rw [clearedEntries, Codec.view_rest_length, List.length_append, List.length_replicate,
    List.length_drop, length]
  rw [Codec.bytes_length] at length
  change d.sectorBytes.toNat + (32 * d.sectorBytes.toNat - d.sectorBytes.toNat) - _ = _
  omega

theorem entries1_rest (sound : Sound d) : d.image.primaryEntries.rest = [] := by
  have sector := sound.room.1
  have length := d.image_fits.length .entries1
  rw [d.length_entries (Or.inl rfl), sector] at length
  change (entriesCodec.bytes d.image.primaryEntries).length = 32 * 512 at length
  rw [Codec.bytes_length] at length
  change 16384 + _ = 16384 at length
  exact List.length_eq_zero_iff.mp (by omega)

theorem legacyTables_fits (d : Drive) : d.Fits (legacyTables d.image) :=
  d.image_fits.of_rests rfl rfl rfl rfl (clearedEntries_rest d) rfl

theorem legacy_image (sound : Sound d) :
    (d.closed (legacyTables d.image)).image = (legacyTables d.image).fresh := by
  apply closed_image_of_kept (legacyTables_fits d) sound.room.2
  intro p unmarked
  cases p with
  | header1 => cases unmarked
  | header2 => cases unmarked
  | entries1 => cases unmarked
  | entries2 => exact d.image_entries2

theorem resigned_back {h : Overlay GptHeader} (efi : h.value.signature = GPT_HEADER_SIGNATURE)
    (size : h.value.size = 92) (crc : headerCrc h = h.value.headerCrc32) :
    resigned (resigned h GPT_HEADER_SIGNATURE2) GPT_HEADER_SIGNATURE = h := by
  rw [headerCrc_eq_recordCrc size] at crc
  obtain ⟨v, rest⟩ := h
  dsimp only at efi crc
  have same : { v with signature := GPT_HEADER_SIGNATURE } = v := by
    rw [← efi]
  have back : resigned (resigned ⟨v, rest⟩ GPT_HEADER_SIGNATURE2) GPT_HEADER_SIGNATURE =
      withRecordCrc ⟨{ v with signature := GPT_HEADER_SIGNATURE }, rest⟩ := rfl
  rw [back, same, withRecordCrc]
  dsimp only
  rw [crc]

theorem Sound.secondary_same (sound : Sound d) :
    d.image.secondaryHeader.value.signature = GPT_HEADER_SIGNATURE ∧
      d.image.secondaryHeader.value.size = 92 := by
  have same := sound.paired.secondary_shared
  have signature := congrArg GptHeader.signature same
  have size := congrArg GptHeader.size same
  exact ⟨signature.trans sound.signature, size.trans sound.size⟩

theorem legacyTables_passes (sound : Sound d) : (gptSanityCheck (legacyTables d.image).fresh).1 = none := by
  have f := sound.paired.fields
  have fields : HeaderFields (legacyTables d.image).primaryHeader.value d.sectors :=
    ⟨Or.inr rfl, f.revision, f.size_min, f.size_max, f.reservedZero, f.sizeOfEntry,
      f.numberOfEntries, f.first_usable, f.last_usable, f.usable⟩
  have primary : checkHeader (legacyTables d.image).primaryHeader false d.sectors = true :=
    (checkHeader_iff ..).mpr ⟨fields, headerCrc_withRecordCrc sound.size,
      sound.paired.primary_placed⟩
  have described : Describes (legacyTables d.image).primaryHeader.value
      d.image.secondaryEntries.value :=
    ⟨sound.paired.secondary_table.1, sound.paired.secondary_table.2.inside,
      sound.paired.secondary_table.2.apart⟩
  have table := (checkEntries_iff_describes fields d.image.secondaryEntries).mpr described
  have good : goodHeader (legacyTables d.image).fresh = (legacyTables d.image).primaryHeader.value :=
    if_pos primary
  have under : (entriesUnder (legacyTables d.image).fresh
      (legacyTables d.image).primaryHeader.value).secondary = true :=
    Option.isNone_iff_eq_none.mpr table
  rw [gptSanityCheck_passes_iff]
  apply And.intro ((checkParameters_congr rfl rfl).trans sound.paired.parameters)
  apply And.intro
  · rw [ne_eq, Mask.eq_none_iff]
    intro absent
    have first : (headersFound (legacyTables d.image).fresh).primary = true := primary
    rw [absent.1] at first
    cases first
  · have once : triesSecond (legacyTables d.image).fresh = false := by
      rw [triesSecond, good, Bool.and_eq_false_iff]
      right
      rw [beq_eq_false_iff_ne, ne_eq, Mask.eq_none_iff, under]
      simp
    rw [entriesFound, once, good, ne_eq, Mask.eq_none_iff]
    intro absent
    rw [if_neg (by decide)] at absent
    rw [absent.2] at under
    cases under

/-- The tables after `legacy -e`, on the drive `legacy` left. -/
def restoredTables (gpt : GptData) : GptData :=
  { gpt with
    primaryEntries := { (clearedEntries gpt) with value := gpt.secondaryEntries.value }
    modified := MODIFIED_LEGACY }

theorem withEntriesCrc_same {h : Overlay GptHeader} {entries : Overlay Entries}
    (crc : crc32 (entriesCodec.encode entries.value) = h.value.entriesCrc32) :
    withEntriesCrc h entries = h := by
  rw [withEntriesCrc, crc]

theorem efipart_eq (sound : Sound d) :
    updateCrc { (repairEntries (signHeaders (legacyTables d.image).fresh GPT_HEADER_SIGNATURE)
      MASK_SECONDARY).2 with modified := MODIFIED_LEGACY } = restoredTables d.image := by
  have ⟨signature2, size2⟩ := sound.secondary_same
  have copied : (repairEntries (signHeaders (legacyTables d.image).fresh GPT_HEADER_SIGNATURE)
      MASK_SECONDARY).2 =
      { signHeaders (legacyTables d.image).fresh GPT_HEADER_SIGNATURE with
        primaryEntries := (restoredTables d.image).primaryEntries } := by
    have other : ¬ (signHeaders (legacyTables d.image).fresh
        GPT_HEADER_SIGNATURE).primaryHeader.value.signature = GPT_HEADER_SIGNATURE2 := by
      change ¬ GPT_HEADER_SIGNATURE = GPT_HEADER_SIGNATURE2
      decide
    rw [repairEntries, if_neg other, if_neg, if_pos rfl]
    · rfl
    · rintro (⟨both, -⟩ | primary)
      · exact absurd both (by decide)
      · exact absurd primary (by decide)
  have crc : crc32 (entriesCodec.encode (restoredTables d.image).primaryEntries.value) =
      (signHeaders (legacyTables d.image).fresh
        GPT_HEADER_SIGNATURE).primaryHeader.value.entriesCrc32 := sound.paired.secondary_table.1
  have efi : startsWithSignature2
      (signHeaders (legacyTables d.image).fresh GPT_HEADER_SIGNATURE).primaryHeader.value = false :=
    not_startsWithSignature2 rfl
  rw [copied, updateCrc_legacy rfl]
  dsimp only
  rw [efi, if_neg (by decide), withEntriesCrc_same crc]
  have first := resigned_back sound.signature sound.size sound.paired.primary_crc
  have second := resigned_back signature2 size2 sound.paired.secondary_crc
  rw [restoredTables]
  exact congrArg₂ (fun first second : Overlay GptHeader => { d.image with
    primaryHeader := first
    secondaryHeader := second
    primaryEntries := (restoredTables d.image).primaryEntries
    modified := MODIFIED_LEGACY }) first second

theorem restored_entries (sound : Sound d) :
    (restoredTables d.image).primaryEntries = d.image.primaryEntries := by
  have empty := entries1_rest sound
  have cleared : (clearedEntries d.image).rest = [] := by
    apply List.length_eq_zero_iff.mp
    rw [clearedEntries_rest d, empty]
    rfl
  have parts : ∀ o : Overlay Entries, o.rest = [] → (⟨o.value, []⟩ : Overlay Entries) = o := by
    rintro ⟨value, _⟩ rfl
    rfl
  have filled : (restoredTables d.image).primaryEntries =
      ⟨d.image.secondaryEntries.value, (clearedEntries d.image).rest⟩ := rfl
  rw [filled, cleared, sound.mirrored, parts _ empty]

theorem restoredTables_buffer (sound : Sound d) (p : Part) :
    (restoredTables d.image).buffer p = d.load p := by
  rw [← d.image_buffer]
  cases p with
  | header1 => exact congrArg headerCodec.bytes (rfl : (restoredTables d.image).primaryHeader = _)
  | header2 => exact congrArg headerCodec.bytes (rfl : (restoredTables d.image).secondaryHeader = _)
  | entries1 => exact congrArg entriesCodec.bytes (restored_entries sound)
  | entries2 =>
      exact congrArg entriesCodec.bytes (rfl : (restoredTables d.image).secondaryEntries = _)

theorem restoredTables_fits (sound : Sound d) :
    (d.closed (legacyTables d.image)).Fits (restoredTables d.image) := by
  apply Drive.Fits.mk
  · rfl
  · rfl
  · intro p
    rw [restoredTables_buffer sound, Drive.load, span_length]
    rfl

theorem cgptLegacy_efipart (sound : Sound d) :
    cgptLegacy .whole true (d.closed (legacyTables d.image)) =
      (.ok, Drive.closed (d.closed (legacyTables d.image)) (restoredTables d.image)) := by
  have opens : driveOpen (d.closed (legacyTables d.image)) = some (legacyTables d.image).fresh := by
    rw [← legacy_image sound]
    exact driveOpen_of_room sound.whole (le_trans (by decide) sound.room.2)
  rw [cgptLegacy, opens]
  dsimp only
  rw [if_pos rfl, efipart_eq sound, driveClose_whole]

theorem closed_restored (sound : Sound d) :
    Drive.closed (d.closed (legacyTables d.image)) (restoredTables d.image) = d := by
  have before := legacyTables_fits d
  have after := restoredTables_fits sound
  apply Drive.eq_of_loads
  · rfl
  · rfl
  · intro p
    rw [Drive.closed, saved_load after sound.room.2, restoredTables_buffer sound]
    split_ifs with marked
    · rfl
    · rw [Drive.closed, saved_load before sound.room.2]
      apply if_neg
      exact marked
  · intro a outside
    rw [Drive.closed, saved_outside after _ outside, Drive.closed, saved_outside before _ outside]

/-- `legacy -e` after `legacy` gives the drive back, byte for byte, and in between it passes the
check. -/
theorem cgptLegacy_restores (sound : Sound d) :
    (gptSanityCheck (cgptLegacy .whole false d).2.image).1 = none ∧
      cgptLegacy .whole true (cgptLegacy .whole false d).2 = (.ok, d) := by
  have changed : (cgptLegacy .whole false d).2 = d.closed (legacyTables d.image) :=
    congrArg Prod.snd (cgptLegacy_eq sound)
  rw [changed, cgptLegacy_efipart sound, closed_restored sound, legacy_image sound]
  exact ⟨legacyTables_passes sound, rfl⟩

theorem cgptLegacy_restores_kernel :
    (gptSanityCheck (cgptLegacy .whole false kernelDrive).2.image).1 = none ∧
      cgptLegacy .whole true (cgptLegacy .whole false kernelDrive).2 = (.ok, kernelDrive) :=
  cgptLegacy_restores kernelDrive_represents.sound

end Legacy

end A500cg.Gpt
