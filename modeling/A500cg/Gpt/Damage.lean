import A500cg.Gpt.PowerCut

/-! What `repair` makes of a drive on which one copy of a header or a table was damaged. -/

namespace A500cg.Gpt

open Lib

theorem encode_view_table {buffer : List UInt8} (length : buffer.length = entriesCodec.width) :
    entriesCodec.encode (entriesCodec.view buffer).value = buffer := by
  rw [Codec.view, List.take_of_length_le (le_of_eq length), entriesCodec.encode_decode _ length]

theorem bytes_eq_encode {table : Overlay Entries}
    (length : (entriesCodec.bytes table).length = entriesCodec.width) :
    entriesCodec.bytes table = entriesCodec.encode table.value := by
  rw [Codec.bytes_length] at length
  have nothing : table.rest = [] := List.length_eq_zero_iff.mp (by omega)
  rw [Codec.bytes, nothing, List.append_nil]

section Redundancy

variable {d d' : Drive} {disk : Disk} {table : Part} {bytes : List UInt8}

theorem Sound.length_table (sound : Sound d) (isTable : table = .entries1 ∨ table = .entries2) :
    d.length table = entriesCodec.width := by
  rw [d.length_entries isTable, sound.room.1, entriesCodec_width]
  rfl

theorem Sound.load_table (sound : Sound d) (isTable : table = .entries1 ∨ table = .entries2) :
    d.load table = entriesCodec.encode d.image.primaryEntries.value := by
  have length : (d.load table).length = entriesCodec.width := by
    rw [Drive.load, span_length, sound.length_table isTable]
  rw [← encode_view_table length]
  rcases isTable with rfl | rfl
  · rfl
  · exact congrArg entriesCodec.encode sound.mirrored

theorem Sound.table_checked (sound : Sound d) (isTable : table = .entries1 ∨ table = .entries2)
    {h : GptHeader} (shared : h.shared = d.image.primaryHeader.value.shared) {buffer : List UInt8}
    (length : buffer.length = entriesCodec.width)
    (noticed : buffer ≠ d.load table → crc32 buffer ≠ crc32 (d.load table)) :
    (checkEntries (entriesCodec.view buffer) h).isNone = decide (buffer = d.load table) := by
  have fields := sound.paired.fields.of_shared shared.symm
  rw [Bool.eq_iff_iff, Option.isNone_iff_eq_none, checkEntries_iff_describes fields,
    decide_eq_true_iff]
  constructor
  · intro passes
    by_contra other
    apply noticed other
    rw [sound.load_table isTable, sound.paired.primary_table.1, ← (passes.of_shared shared).1,
      encode_view_table length]
  · intro same
    rw [same]
    apply Describes.of_shared shared.symm
    rcases isTable with rfl | rfl
    · exact sound.paired.primary_table
    · exact sound.paired.secondary_table

def Drive.damaged (d : Drive) (p : Part) (bytes : List UInt8) : Drive :=
  { d with content := patch d.content (d.start p) bytes }

theorem damaged_load (sound : Sound d) (length : bytes.length = d.length table) (p : Part) :
    (d.damaged table bytes).load p = if p = table then bytes else d.load p := by
  split_ifs with here
  · subst here
    change span (patch d.content (d.start p) bytes) (d.start p) (d.length p) = bytes
    rw [← length, span_patch]
  · apply span_patch_of_disjoint
    have apart := Drive.apart d.image_fits sound.room.2 p table here
    rw [d.image_fits.length, d.image_fits.length] at apart
    rw [length]
    exact apart

theorem damaged_outside (length : bytes.length = d.length table) {a : Nat} (outside : d.Outside a) :
    (d.damaged table bytes).content a = d.content a := by
  apply patch_outside
  rw [length]
  exact outside table

theorem damaged_header (sound : Sound d) (isTable : table = .entries1 ∨ table = .entries2)
    (length : bytes.length = d.length table) {p : Part} (isHeader : p = .header1 ∨ p = .header2) :
    (d.damaged table bytes).load p = d.load p := by
  rw [damaged_load sound length]
  apply if_neg
  intro same
  rw [same] at isHeader
  rcases isTable with rfl | rfl
  · simp at isHeader
  · simp at isHeader

/-- A drive of which a header and a table are those of another drive, and of which the check sees
where the rest is not. -/
structure Survives (d d' : Drive) : Prop where
  size : d'.size = d.size
  sectorBytes : d'.sectorBytes = d.sectorBytes
  header : d'.load .header1 = d.load .header1 ∨ d'.load .header2 = d.load .header2
  table : d'.load .entries1 = d.load .entries1 ∨ d'.load .entries2 = d.load .entries2
  header1_noticed : d'.load .header1 ≠ d.load .header1 →
    checkHeader d'.image.primaryHeader false d'.sectors = false
  header2_noticed : d'.load .header2 ≠ d.load .header2 →
    checkHeader d'.image.secondaryHeader true d'.sectors = false
  entries1_noticed : d'.load .entries1 ≠ d.load .entries1 →
    crc32 (d'.load .entries1) ≠ crc32 (d.load .entries1)
  entries2_noticed : d'.load .entries2 ≠ d.load .entries2 →
    crc32 (d'.load .entries2) ≠ crc32 (d.load .entries2)

def sameHeaders (d d' : Drive) : Mask :=
  ⟨decide (d'.load .header1 = d.load .header1), decide (d'.load .header2 = d.load .header2)⟩

def sameTables (d d' : Drive) : Mask :=
  ⟨decide (d'.load .entries1 = d.load .entries1), decide (d'.load .entries2 = d.load .entries2)⟩

namespace Survives

theorem sectors (survives : Survives d d') : d'.sectors = d.sectors := by
  rw [Drive.sectors, Drive.sectors, survives.size, survives.sectorBytes]

theorem headersFound_eq (survives : Survives d d') (sound : Sound d) :
    headersFound d'.image = sameHeaders d d' := by
  have primary : checkHeader d'.image.primaryHeader false d'.sectors =
      decide (d'.load .header1 = d.load .header1) := by
    by_cases same : d'.load .header1 = d.load .header1
    · have image : d'.image.primaryHeader = d.image.primaryHeader := congrArg headerCodec.view same
      rw [image, survives.sectors, decide_eq_true same]
      exact sound.paired.primary_good
    · rw [survives.header1_noticed same, decide_eq_false same]
  have secondary : checkHeader d'.image.secondaryHeader true d'.sectors =
      decide (d'.load .header2 = d.load .header2) := by
    by_cases same : d'.load .header2 = d.load .header2
    · have image : d'.image.secondaryHeader = d.image.secondaryHeader := congrArg headerCodec.view same
      rw [image, survives.sectors, decide_eq_true same]
      exact sound.paired.secondary_good
    · rw [survives.header2_noticed same, decide_eq_false same]
  exact Mask.mk.injEq .. |>.mpr ⟨primary, secondary⟩

theorem goodHeader_shared (survives : Survives d d') (sound : Sound d) :
    (goodHeader d'.image).shared = d.image.primaryHeader.value.shared := by
  rw [goodHeader, survives.headersFound_eq sound, sameHeaders]
  by_cases same : d'.load .header1 = d.load .header1
  · have image : d'.image.primaryHeader = d.image.primaryHeader := congrArg headerCodec.view same
    rw [if_pos (decide_eq_true same), image]
  · have image : d'.image.secondaryHeader = d.image.secondaryHeader :=
      congrArg headerCodec.view (survives.header.resolve_left same)
    rw [if_neg (by simpa using same), image, sound.paired.secondary_shared]

theorem length_eq (survives : Survives d d') (p : Part) : (d'.load p).length = d.length p := by
  rw [Drive.load, span_length, Drive.length, Drive.length, survives.sectorBytes]

theorem under (survives : Survives d d') (sound : Sound d) {h : GptHeader}
    (shared : h.shared = d.image.primaryHeader.value.shared) :
    entriesUnder d'.image h = sameTables d d' := by
  have long : ∀ {p : Part}, p = .entries1 ∨ p = .entries2 →
      (d'.load p).length = entriesCodec.width := by
    intro p isTable
    rw [survives.length_eq, sound.length_table isTable]
  exact Mask.mk.injEq .. |>.mpr
    ⟨sound.table_checked (Or.inl rfl) shared (long (Or.inl rfl)) survives.entries1_noticed,
      sound.table_checked (Or.inr rfl) shared (long (Or.inr rfl)) survives.entries2_noticed⟩

theorem some_header (survives : Survives d d') : sameHeaders d d' ≠ MASK_NONE := by
  rw [ne_eq, Mask.eq_none_iff, sameHeaders, decide_eq_false_iff_not, decide_eq_false_iff_not,
    ← not_or, not_not]
  exact survives.header

theorem some_table (survives : Survives d d') : sameTables d d' ≠ MASK_NONE := by
  rw [ne_eq, Mask.eq_none_iff, sameTables, decide_eq_false_iff_not, decide_eq_false_iff_not,
    ← not_or, not_not]
  exact survives.table

theorem check (survives : Survives d d') (sound : Sound d) :
    gptSanityCheck d'.image = (none, { d'.image with
      validHeaders := sameHeaders d d', validEntries := sameTables d d' }) := by
  apply gptSanityCheck_found
  · rw [← sound.paired.parameters]
    exact checkParameters_congr survives.sectorBytes survives.sectors
  · exact survives.headersFound_eq sound
  · exact survives.some_header
  · intro both
    rw [Mask.eq_both_iff, sameHeaders, decide_eq_true_iff, decide_eq_true_iff] at both
    have primary : d'.image.primaryHeader = d.image.primaryHeader :=
      congrArg headerCodec.view both.1
    have secondary : d'.image.secondaryHeader = d.image.secondaryHeader :=
      congrArg headerCodec.view both.2
    rw [headerFieldsSame_iff, primary, secondary, sound.paired.secondary_shared]
  · exact survives.under sound (survives.goodHeader_shared sound)
  · exact survives.some_table

end Survives

theorem header_survives (sound : Sound d) (length : bytes.length = d.length .header1)
    (bad : checkHeader (headerCodec.view bytes) false d.sectors = false) :
    Survives d (d.damaged .header1 bytes) := by
  have others : ∀ p, p ≠ .header1 → (d.damaged .header1 bytes).load p = d.load p := by
    intro p other
    rw [damaged_load sound length, if_neg other]
  have front : (d.damaged .header1 bytes).image.primaryHeader = headerCodec.view bytes :=
    congrArg headerCodec.view ((damaged_load sound length .header1).trans (if_pos rfl))
  apply Survives.mk
  · rfl
  · rfl
  · exact Or.inr (others .header2 (by decide))
  · exact Or.inl (others .entries1 (by decide))
  · intro _
    rw [front]
    exact bad
  · exact fun other => absurd (others .header2 (by decide)) other
  · exact fun other => absurd (others .entries1 (by decide)) other
  · exact fun other => absurd (others .entries2 (by decide)) other

def headlessDrive : Drive := newDrive.damaged .header1 (List.replicate 512 0)

theorem headlessDrive_survives : Survives newDrive headlessDrive := by
  have sound := newDrive_represents.sound
  apply header_survives sound
  · rw [newDrive.length_header (Or.inl rfl), sound.room.1, List.length_replicate]
    rfl
  · rw [Bool.eq_false_iff]
    intro good
    have signature := ((checkHeader_iff ..).mp good).1.signature
    revert signature
    decide

/-- As long as one header and one table of a drive are left, and the check sees what is damaged, the
drive after `repair` holds the disk that it held. -/
theorem cgptRepair_survives (represents : Represents d disk) (survives : Survives d d') :
    Represents (cgptRepair .whole d').2 disk := by
  have sound := represents.sound
  have passed := survives.check sound
  have trusted : (trustedHeader { d'.image with
      validHeaders := sameHeaders d d', validEntries := sameTables d d' }).shared =
        d.image.primaryHeader.value.shared := by
    rw [← survives.goodHeader_shared sound, goodHeader, survives.headersFound_eq sound]
    rfl
  have first : d'.load .entries1 = d.load .entries1 →
      d'.image.primaryEntries.value = disk.entries := by
    intro same
    rw [← represents.entries]
    exact congrArg (fun buffer => (entriesCodec.view buffer).value) same
  have second : d'.load .entries2 = d.load .entries2 →
      d'.image.secondaryEntries.value = disk.entries := by
    intro same
    rw [← represents.entries, ← sound.mirrored]
    exact congrArg (fun buffer => (entriesCodec.view buffer).value) same
  apply cgptRepair_represents (d := d') _ passed (survives.sectors.trans represents.sectors) trusted
    represents.header sound.size sound.signature
  · rw [gptRepair_table survives.some_header survives.some_table, trustedTable]
    split_ifs with kept
    · exact first (of_decide_eq_true kept)
    · exact second (survives.table.resolve_left (by simpa [sameTables] using kept))
  · rw [gptRepair_second survives.some_header survives.some_table]
    split_ifs with kept
    · exact second (of_decide_eq_true kept)
    · exact first (survives.table.resolve_right (by simpa [sameTables] using kept))
  · rw [survives.size, survives.sectorBytes]
    exact sound.whole

theorem cgptRepair_survives_headless : Represents (cgptRepair .whole headlessDrive).2 newDisk :=
  cgptRepair_survives newDrive_represents headlessDrive_survives

/-- A drive that passes the check, if only with one header and one table, is usable after `repair`:
under the header and with the table that the check trusts. What was good keeps its bytes, and
repairing once more changes nothing. -/
theorem cgptRepair_repairs {gpt : GptData} (whole : d.size % d.sectorBytes.toNat = 0)
    (passed : gptSanityCheck d.image = (none, gpt)) :
    (openValid (cgptRepair .whole d).2).isSome = true ∧
    (cgptRepair .whole d).2.image.primaryHeader.value.shared = (trustedHeader gpt).shared ∧
    (cgptRepair .whole d).2.image.primaryEntries.value = trustedTable gpt ∧
    (∀ p, gpt.valid p = true → (cgptRepair .whole d).2.load p = d.load p) ∧
    cgptRepair .whole (cgptRepair .whole d).2 = (.ok, (cgptRepair .whole d).2) := by
  have accepted := gptSanityCheck_state passed
  have ⟨repaired, image⟩ := cgptRepair_image whole passed
  have paired := gptRepair_paired accepted
  have room := (count_of_parameters (checked_fits passed) accepted.parameters).2
  obtain ⟨_, usable⟩ := repaired_openValid whole passed
  apply And.intro (cgptRepair_usable whole passed)
  rw [repaired] at usable ⊢
  apply And.intro
  · rw [image]
    exact paired.primary_shared
  apply And.intro
  · rw [image]
    exact gptRepair_table accepted.headers_some accepted.entries_some
  apply And.intro
  · intro p good
    change (d.closed (gptRepair gpt)).load p = d.load p
    rw [Drive.closed, saved_load (gptRepair_fits (checked_fits passed)) room]
    have kept := (checked_kept passed p).2 good
    split_ifs
    · exact kept
    · rfl
  · exact cgptRepair_of_openValid usable

theorem cgptRepair_repairs_headless :
    let gpt := { headlessDrive.image with
      validHeaders := sameHeaders newDrive headlessDrive
      validEntries := sameTables newDrive headlessDrive }
    (openValid (cgptRepair .whole headlessDrive).2).isSome = true ∧
    (cgptRepair .whole headlessDrive).2.image.primaryHeader.value.shared =
      (trustedHeader gpt).shared ∧
    (cgptRepair .whole headlessDrive).2.image.primaryEntries.value = trustedTable gpt ∧
    (∀ p, gpt.valid p = true → (cgptRepair .whole headlessDrive).2.load p = headlessDrive.load p) ∧
    cgptRepair .whole (cgptRepair .whole headlessDrive).2 =
      (.ok, (cgptRepair .whole headlessDrive).2) :=
  cgptRepair_repairs (d := headlessDrive) newDrive_represents.sound.whole
    (headlessDrive_survives.check newDrive_represents.sound)

def GptData.allBut (gpt : GptData) (table : Part) : GptData :=
  { gpt with
    validHeaders := MASK_BOTH
    validEntries := ⟨decide (table ≠ .entries1), decide (table ≠ .entries2)⟩ }

theorem damaged_survives (sound : Sound d) (isTable : table = .entries1 ∨ table = .entries2)
    (length : bytes.length = d.length table) (noticed : crc32 bytes ≠ crc32 (d.load table)) :
    Survives d (d.damaged table bytes) := by
  have header1 := damaged_header sound isTable length (Or.inl rfl)
  have header2 := damaged_header sound isTable length (Or.inr rfl)
  have noticed_at : ∀ p, (d.damaged table bytes).load p ≠ d.load p →
      crc32 ((d.damaged table bytes).load p) ≠ crc32 (d.load p) := by
    intro p other
    rw [damaged_load sound length] at other ⊢
    split_ifs at other ⊢ with here
    · rw [here]
      exact noticed
    · exact absurd rfl other
  apply Survives.mk
  · rfl
  · rfl
  · exact Or.inl header1
  · rw [damaged_load sound length, damaged_load sound length]
    rcases isTable with rfl | rfl
    · exact Or.inr (if_neg (by decide))
    · exact Or.inl (if_neg (by decide))
  · exact fun other => absurd header1 other
  · exact fun other => absurd header2 other
  · exact noticed_at .entries1
  · exact noticed_at .entries2

theorem damaged_check (sound : Sound d) (isTable : table = .entries1 ∨ table = .entries2)
    (length : bytes.length = d.length table) (noticed : crc32 bytes ≠ crc32 (d.load table)) :
    gptSanityCheck (d.damaged table bytes).image =
      (none, (d.damaged table bytes).image.allBut table) := by
  have headers : sameHeaders d (d.damaged table bytes) = MASK_BOTH := by
    rw [sameHeaders, decide_eq_true (damaged_header sound isTable length (Or.inl rfl)),
      decide_eq_true (damaged_header sound isTable length (Or.inr rfl))]
    rfl
  have differ : bytes ≠ d.load table := fun same => noticed (congrArg crc32 same)
  have tables : sameTables d (d.damaged table bytes) =
      ⟨decide (table ≠ .entries1), decide (table ≠ .entries2)⟩ := by
    rw [sameTables, damaged_load sound length, damaged_load sound length]
    rcases isTable with rfl | rfl
    · simp [differ]
    · simp [differ]
  rw [(damaged_survives sound isTable length noticed).check sound, headers, tables]
  rfl

theorem damaged_repaired (sound : Sound d) (isTable : table = .entries1 ∨ table = .entries2)
    (length : bytes.length = d.length table) (noticed : crc32 bytes ≠ crc32 (d.load table)) :
    (gptRepair ((d.damaged table bytes).image.allBut table)).buffer table = d.load table := by
  have passed := damaged_check sound isTable length noticed
  have accepted := gptSanityCheck_state passed
  have first := gptRepair_table accepted.headers_some accepted.entries_some
  have second := gptRepair_second accepted.headers_some accepted.entries_some
  have long := (gptRepair_fits (checked_fits passed)).length table
  have kept : ∀ p, p ≠ table → (d.damaged table bytes).load p = d.load p := by
    intro p other
    rw [damaged_load sound length, if_neg other]
  rw [sound.load_table isTable]
  change _ = d.length table at long
  rw [sound.length_table isTable] at long
  rcases isTable with rfl | rfl
  · refine (bytes_eq_encode long).trans (congrArg entriesCodec.encode ?_)
    have intact : (d.damaged .entries1 bytes).image.secondaryEntries = d.image.secondaryEntries :=
      congrArg entriesCodec.view (kept .entries2 (by decide))
    calc _ = (d.damaged .entries1 bytes).image.secondaryEntries.value := first
      _ = d.image.secondaryEntries.value := by rw [intact]
      _ = d.image.primaryEntries.value := sound.mirrored
  · refine (bytes_eq_encode long).trans (congrArg entriesCodec.encode ?_)
    have intact : (d.damaged .entries2 bytes).image.primaryEntries = d.image.primaryEntries :=
      congrArg entriesCodec.view (kept .entries1 (by decide))
    calc _ = (d.damaged .entries2 bytes).image.primaryEntries.value := second
      _ = d.image.primaryEntries.value := by rw [intact]

theorem allBut_valid (gpt : GptData) (isTable : table = .entries1 ∨ table = .entries2) (p : Part) :
    (gpt.allBut table).valid p = decide (p ≠ table) := by
  rcases isTable with rfl | rfl
  · cases p <;> rfl
  · cases p <;> rfl

theorem closed_damaged {gpt : GptData} (sound : Sound d) (length : bytes.length = d.length table)
    (fits : (d.damaged table bytes).Fits gpt)
    (marks : ∀ p, gpt.modified.has p = decide (p = table))
    (repaired : gpt.buffer table = d.load table) : Drive.closed (d.damaged table bytes) gpt = d := by
  have room : 67 ≤ (d.damaged table bytes).count := sound.room.2
  apply Drive.eq_of_loads
  · rfl
  · rfl
  · intro p
    have member : p ∈ Part.all.filter gpt.modified.has ↔ p = table := by
      rw [List.mem_filter, marks, decide_eq_true_iff]
      exact and_iff_right (Part.mem_all p)
    rw [Drive.closed, saved_load fits room]
    by_cases here : p = table
    · rw [if_pos (member.mpr here), here, repaired]
    · rw [if_neg (member.not.mpr here), damaged_load sound length, if_neg here]
  · intro a outside
    have apart : (d.damaged table bytes).Outside a := outside
    rw [Drive.closed, saved_outside fits _ apart, damaged_outside length outside]

theorem cgptRepair_damaged (sound : Sound d) (isTable : table = .entries1 ∨ table = .entries2)
    (length : bytes.length = d.length table) (noticed : crc32 bytes ≠ crc32 (d.load table)) :
    cgptRepair .whole (d.damaged table bytes) = (.ok, d) := by
  have passed := damaged_check sound isTable length noticed
  rw [(cgptRepair_image (d := d.damaged table bytes) sound.whole passed).1]
  congr 1
  apply closed_damaged sound length (gptRepair_fits (checked_fits passed))
  · intro p
    rw [(checked_kept passed p).1, allBut_valid _ isTable, decide_not, Bool.not_not]
  · exact damaged_repaired sound isTable length noticed

/-- Whatever is written over up to four bytes of a table in a row, `repair` finds the bytes that
were there: no checksum stands for two tables that differ in so little. -/
theorem cgptRepair_burst (sound : Sound d) (isTable : table = .entries1 ∨ table = .entries2)
    {offset : Nat} (short : bytes.length ≤ 4) (inside : offset + bytes.length ≤ d.length table) :
    cgptRepair .whole { d with content := patch d.content (d.start table + offset) bytes } =
      (.ok, d) := by
  let before := (d.load table).take offset
  let old := ((d.load table).drop offset).take bytes.length
  let after := (d.load table).drop (offset + bytes.length)
  have whole : (d.load table).length = d.length table := span_length ..
  have here : d.load table = before ++ old ++ after := by
    simp only [before, old, after, List.append_assoc, ← List.drop_drop, List.take_append_drop]
  have head : before.length = offset := by
    rw [List.length_take, whole]
    omega
  have same : bytes.length = old.length := by
    rw [List.length_take, List.length_drop, whole]
    omega
  have length : (before ++ bytes ++ after).length = d.length table := by
    rw [← whole, here]
    simp only [List.length_append, same]
  have written : patch d.content (d.start table) (before ++ bytes ++ after) =
      patch d.content (d.start table + offset) bytes := by
    rw [← head]
    apply patch_middle _ same
    rw [← here, whole]
    rfl
  rw [← written]
  change cgptRepair .whole (d.damaged table (before ++ bytes ++ after)) = (.ok, d)
  by_cases differ : bytes = old
  · have unchanged : d.damaged table (before ++ bytes ++ after) = d := by
      rw [differ, ← here, Drive.damaged, Drive.load, patch_span]
    rw [unchanged, cgptRepair_of_openValid sound.openValid]
  · apply cgptRepair_damaged sound isTable length
    rw [here]
    exact crc32_burst before after same short differ

end Redundancy

theorem cgptRepair_burst_new :
    cgptRepair .whole { newDrive with
      content := patch newDrive.content (newDrive.start .entries1 + 56) [255, 255] } =
        (.ok, newDrive) := by
  have sound := newDrive_represents.sound
  apply cgptRepair_burst sound (Or.inl rfl) (by decide)
  rw [sound.length_table (Or.inl rfl), entriesCodec_width]
  decide

end A500cg.Gpt
