import A500cg.Gpt.Details

/-! What is left of a drive when the power fails while a table is saved. -/

namespace A500cg.Gpt

open Lib

section Copies

variable {γ : Type}

def survivor [DecidableEq γ] (h1 h2 t1 t2 : γ) : Option γ :=
  if h1 = t1 ∨ h1 = t2 then some h1 else if h2 = t1 ∨ h2 = t2 then some h2 else none

/-- Two good headers and two tables from several generations of which each header describes the
table of its own generation only. -/
structure Copies (gpt : GptData) (v : γ → GptHeader) (table : γ → Entries) (h1 h2 t1 t2 : γ) : Prop where
  parameters : checkParameters gpt = none
  fields : ∀ g, HeaderFields (v g) gpt.driveSectors
  primary_shared : gpt.primaryHeader.value.shared = (v h1).shared
  secondary_shared : gpt.secondaryHeader.value.shared = (v h2).shared
  primary_crc : headerCrc gpt.primaryHeader = gpt.primaryHeader.value.headerCrc32
  secondary_crc : headerCrc gpt.secondaryHeader = gpt.secondaryHeader.value.headerCrc32
  primary_placed : Placed gpt.primaryHeader.value false gpt.driveSectors
  secondary_placed : Placed gpt.secondaryHeader.value true gpt.driveSectors
  primary_table : gpt.primaryEntries.value = table t1
  secondary_table : gpt.secondaryEntries.value = table t2
  describes : ∀ g g', Describes (v g) (table g') ↔ g = g'

namespace Copies

variable {gpt : GptData} {v : γ → GptHeader} {table : γ → Entries} {h1 h2 t1 t2 : γ}

theorem headers (copies : Copies gpt v table h1 h2 t1 t2) : headersFound gpt = MASK_BOTH := by
  have primary : checkHeader gpt.primaryHeader false gpt.driveSectors = true :=
    (checkHeader_iff ..).mpr ⟨(copies.fields h1).of_shared copies.primary_shared.symm,
      copies.primary_crc, copies.primary_placed⟩
  have secondary : checkHeader gpt.secondaryHeader true gpt.driveSectors = true :=
    (checkHeader_iff ..).mpr ⟨(copies.fields h2).of_shared copies.secondary_shared.symm,
      copies.secondary_crc, copies.secondary_placed⟩
  rw [headersFound, primary, secondary]
  rfl

theorem under [DecidableEq γ] (copies : Copies gpt v table h1 h2 t1 t2) {h : GptHeader} {g : γ}
    (same : h.shared = (v g).shared) :
    entriesUnder gpt h = ⟨decide (g = t1), decide (g = t2)⟩ := by
  have each : ∀ (entries : Overlay Entries) (t : γ), entries.value = table t →
      (checkEntries entries h).isNone = decide (g = t) := by
    intro entries t value
    have fields := (copies.fields g).of_shared same.symm
    have described : Describes h entries.value ↔ g = t := by
      rw [value, ← copies.describes g t, ← describes_shared_iff, same, describes_shared_iff]
    rw [Bool.eq_iff_iff, Option.isNone_iff_eq_none, checkEntries_iff_describes fields, described,
      decide_eq_true_iff]
  rw [entriesUnder, each _ t1 copies.primary_table, each _ t2 copies.secondary_table]

theorem shared_iff (copies : Copies gpt v table h1 h2 t1 t2) :
    headerFieldsSame gpt.primaryHeader.value gpt.secondaryHeader.value = true ↔ h1 = h2 := by
  rw [headerFieldsSame_iff, copies.primary_shared, copies.secondary_shared]
  constructor
  · intro same
    exact (copies.describes h1 h2).mp
      (((copies.describes h2 h2).mpr rfl).of_shared same.symm)
  · intro same
    rw [same]

theorem check [DecidableEq γ] (copies : Copies gpt v table h1 h2 t1 t2) :
    gptSanityCheck gpt =
      if h1 = t1 ∨ h1 = t2 then (none, { gpt with
        validHeaders := if h1 = h2 then MASK_BOTH else MASK_PRIMARY
        validEntries := ⟨decide (h1 = t1), decide (h1 = t2)⟩ })
      else if h2 = t1 ∨ h2 = t2 then (none, { gpt with
        validHeaders := MASK_SECONDARY
        validEntries := ⟨decide (h2 = t1), decide (h2 = t2)⟩ })
      else (some .invalidEntries, { gpt with
        validHeaders := MASK_BOTH
        validEntries := MASK_NONE }) := by
  have both := copies.headers
  have good : goodHeader gpt = gpt.primaryHeader.value := by
    rw [goodHeader, both]
    rfl
  have first := copies.under copies.primary_shared
  have second := copies.under copies.secondary_shared
  have empty : ∀ g, (⟨decide (g = t1), decide (g = t2)⟩ : Mask) = MASK_NONE ↔
      ¬ (g = t1 ∨ g = t2) := by
    intro g
    simp [MASK_NONE]
  have some_headers : ¬ MASK_BOTH = MASK_NONE := by decide
  rw [gptSanityCheck, copies.parameters, if_neg (by decide), both, if_neg some_headers]
  by_cases front : h1 = t1 ∨ h1 = t2
  · have once : triesSecond gpt = false := by
      rw [triesSecond, good, first, Bool.and_eq_false_iff, beq_eq_false_iff_ne, beq_eq_false_iff_ne]
      exact Or.inr ((empty h1).not.mpr (not_not.mpr front))
    have found : entriesFound gpt = ⟨decide (h1 = t1), decide (h1 = t2)⟩ := by
      rw [entriesFound, once, good, first]
      rfl
    have kept : headersKept gpt = MASK_BOTH := by
      rw [headersKept, once, both]
      rfl
    rw [if_pos front, found, if_neg ((empty h1).not.mpr (not_not.mpr front)), kept]
    by_cases same : h1 = h2
    · have agree := copies.shared_iff.mpr same
      rw [if_neg (by rw [agree]; simp), if_pos same]
    · have differ := Bool.eq_false_iff.mpr (copies.shared_iff.not.mpr same)
      rw [if_pos ⟨rfl, differ⟩, if_neg same]
  · have twice : triesSecond gpt = true := by
      rw [triesSecond, good, first, both, (empty h1).mpr front]
      rfl
    have found : entriesFound gpt = ⟨decide (h2 = t1), decide (h2 = t2)⟩ := by
      rw [entriesFound, twice, second]
      rfl
    rw [if_neg front, found]
    by_cases back : h2 = t1 ∨ h2 = t2
    · have any := (empty h2).not.mpr (not_not.mpr back)
      have kept : headersKept gpt = MASK_SECONDARY := by
        rw [headersKept, twice, found, bne_iff_ne.mpr any]
        rfl
      rw [if_neg any, kept, if_neg (by simp [MASK_SECONDARY, MASK_BOTH]), if_pos back]
    · have kept : headersKept gpt = MASK_BOTH := by
        rw [headersKept, found, (empty h2).mpr back, both]
        simp
      rw [if_pos ((empty h2).mpr back), kept, if_neg back]

theorem repair_tables [DecidableEq γ] (copies : Copies gpt v table h1 h2 t1 t2) {headers : Mask}
    (any : headers ≠ MASK_NONE) {g : γ} (found : g = t1 ∨ g = t2) :
    (gptRepair { gpt with
      validHeaders := headers
      validEntries := ⟨decide (g = t1), decide (g = t2)⟩ }).primaryEntries.value = table g ∧
    (gptRepair { gpt with
      validHeaders := headers
      validEntries := ⟨decide (g = t1), decide (g = t2)⟩ }).secondaryEntries.value = table g := by
  have some_entries : (⟨decide (g = t1), decide (g = t2)⟩ : Mask) ≠ MASK_NONE := by
    rw [ne_eq, Mask.eq_none_iff, decide_eq_false_iff_not, decide_eq_false_iff_not, ← not_or, not_not]
    exact found
  rw [gptRepair_table any some_entries, gptRepair_second any some_entries, trustedTable]
  dsimp only
  rw [copies.primary_table, copies.secondary_table]
  by_cases first : g = t1
  · by_cases second : g = t2
    · simp [← first, ← second]
    · simp [← first, second]
  · have second := found.resolve_left first
    simp [first, ← second]

theorem check_some [DecidableEq γ] (copies : Copies gpt v table h1 h2 t1 t2) {g : γ}
    (survives : survivor h1 h2 t1 t2 = some g) :
    ∃ gpt', gptSanityCheck gpt = (none, gpt') ∧ (trustedHeader gpt').shared = (v g).shared ∧
      (gptRepair gpt').primaryEntries.value = table g ∧
      (gptRepair gpt').secondaryEntries.value = table g := by
  have checked := copies.check
  rw [survivor] at survives
  by_cases front : h1 = t1 ∨ h1 = t2
  · rw [if_pos front] at survives checked
    cases survives
    have any : (if h1 = h2 then MASK_BOTH else MASK_PRIMARY) ≠ MASK_NONE := by
      split_ifs <;> decide
    refine ⟨_, checked, ?_, copies.repair_tables any front⟩
    rw [← copies.primary_shared]
    by_cases same : h1 = h2
    · simp only [trustedHeader, if_pos same]
      rfl
    · simp only [trustedHeader, if_neg same]
      rfl
  · rw [if_neg front] at survives checked
    by_cases back : h2 = t1 ∨ h2 = t2
    · rw [if_pos back] at survives checked
      cases survives
      refine ⟨_, checked, ?_, copies.repair_tables (by decide) back⟩
      rw [← copies.secondary_shared]
      rfl
    · rw [if_neg back] at survives
      cases survives

theorem check_none [DecidableEq γ] (copies : Copies gpt v table h1 h2 t1 t2)
    (lost : survivor h1 h2 t1 t2 = none) : (gptSanityCheck gpt).1 ≠ none := by
  rw [survivor] at lost
  split_ifs at lost with front back
  rw [copies.check, if_neg front, if_neg back]
  simp

end Copies

end Copies

theorem cgptRepair_represents {d : Drive} {gpt : GptData} {disk : Disk} {v : GptHeader}
    (whole : d.size % d.sectorBytes.toNat = 0) (passed : gptSanityCheck d.image = (none, gpt))
    (sectors : d.sectors = disk.sectors) (trusted : (trustedHeader gpt).shared = v.shared)
    (owned : v.owned = disk.header) (size : v.size = 92)
    (signature : v.signature = GPT_HEADER_SIGNATURE)
    (primary : (gptRepair gpt).primaryEntries.value = disk.entries)
    (secondary : (gptRepair gpt).secondaryEntries.value = disk.entries) :
    Represents (cgptRepair .whole d).2 disk := by
  have ⟨repaired, image⟩ := cgptRepair_image whole passed
  have paired := gptRepair_paired (gptSanityCheck_state passed)
  have shared := paired.primary_shared.trans trusted
  rw [repaired]
  apply Represents.mk
  · apply Sound.mk
    · exact whole
    · rw [image]
      exact paired.fresh.under_primary
    · rw [image]
      exact secondary.trans primary.symm
    · rw [image]
      exact (congrArg GptHeader.size shared).trans size
    · rw [image]
      exact (congrArg GptHeader.signature shared).trans signature
  · exact sectors
  · rw [image, ← owned]
    exact congrArg (fun header : GptHeader => { header with entriesCrc32 := 0 }) shared
  · rw [image]
    exact primary

/-- The drive when the power fails while parts are saved: each sector that `Save` was to write holds
what it was to hold, or what it held. -/
def Drive.torn (d : Drive) (gpt : GptData) (done : Part → Nat → Bool) : Drive :=
  { d with
    content := patches d.start
      (fun p => Lib.torn d.sectorBytes.toNat (done p) (d.load p) (gpt.buffer p)) d.content
      (Part.all.filter gpt.modified.has) }

theorem torn_eq_saved {d : Drive} {gpt : GptData} (fits : d.Fits gpt) (room : 67 ≤ d.count)
    (all : gpt.modified = MODIFIED_ALL) {done : Part → Nat → Bool} (generation : Part → Bool)
    (either : ∀ p, Lib.torn d.sectorBytes.toNat (done p) (d.load p) (gpt.buffer p) =
      if generation p then gpt.buffer p else d.load p) :
    d.torn gpt done = d.saved gpt (Part.all.filter generation) := by
  have lengths : ∀ p, (Lib.torn d.sectorBytes.toNat (done p) (d.load p) (gpt.buffer p)).length =
      d.length p := by
    intro p
    rw [torn_length, fits.length]
  have apart : Apart d.start
      fun p => Lib.torn d.sectorBytes.toNat (done p) (d.load p) (gpt.buffer p) := by
    intro i j other
    have regions := Drive.apart fits room i j other
    rw [fits.length, fits.length] at regions
    rw [lengths, lengths]
    exact regions
  have every : ∀ p, p ∈ Part.all.filter gpt.modified.has := by
    intro p
    apply List.mem_filter.mpr ⟨Part.mem_all p, _⟩
    rw [all]
    cases p <;> rfl
  apply Drive.eq_of_loads
  · rfl
  · rfl
  · intro p
    have region := span_patches apart d.content (Part.all.filter gpt.modified.has) p
    rw [lengths, if_pos (every p), either] at region
    rw [saved_load fits room]
    have chosen : p ∈ Part.all.filter generation ↔ generation p = true :=
      ⟨fun member => (List.mem_filter.mp member).2,
        fun marked => List.mem_filter.mpr ⟨Part.mem_all p, marked⟩⟩
    simp only [chosen]
    exact region
  · intro a outside
    rw [saved_outside fits _ outside]
    apply patches_outside
    intro p _
    rw [lengths]
    exact outside p

section Edit

variable {d : Drive} {disk : Disk} {table : Entries}

def headerOf (d : Drive) (table : Entries) (new : Bool) : GptHeader :=
  if new then (finished (copiedTable (d.edited table))).primaryHeader.value
  else d.image.primaryHeader.value

def tableOf (d : Drive) (table : Entries) (new : Bool) : Entries :=
  if new then table else d.image.primaryEntries.value

theorem saved_copies (sound : Sound d)
    (partitioned : Partitioned d.image.primaryHeader.value table.toList)
    (differ : crc32 (entriesCodec.encode d.image.primaryEntries.value) ≠
      crc32 (entriesCodec.encode table)) (generation : Part → Bool) :
    Copies (d.saved (finished (copiedTable (d.edited table))) (Part.all.filter generation)).image
      (headerOf d table) (tableOf d table) (generation .header1) (generation .header2)
      (generation .entries1) (generation .entries2) := by
  have copied : d.Fits (copiedTable (d.edited table)) := d.image_fits.of_rests rfl rfl rfl rfl rfl rfl
  have fits := copied.finished
  have new := (edited_committable sound partitioned).paired
  have old := sound.paired
  have image := saved_image fits sound.room.2 (Part.all.filter generation)
  have chosen : ∀ p, p ∈ Part.all.filter generation ↔ generation p = true := fun p =>
    ⟨fun member => (List.mem_filter.mp member).2,
      fun marked => List.mem_filter.mpr ⟨Part.mem_all p, marked⟩⟩
  simp only [chosen] at image
  rw [image]
  apply Copies.mk
  · exact (checkParameters_congr rfl rfl).trans old.parameters
  · intro g
    cases g with
    | true => exact new.fields
    | false => exact old.fields
  · cases generation .header1 with
    | true => rfl
    | false => rfl
  · cases generation .header2 with
    | true => exact new.secondary_shared
    | false => exact old.secondary_shared
  · cases generation .header1 with
    | true => exact new.primary_crc
    | false => exact old.primary_crc
  · cases generation .header2 with
    | true => exact new.secondary_crc
    | false => exact old.secondary_crc
  · cases generation .header1 with
    | true => exact new.primary_placed
    | false => exact old.primary_placed
  · cases generation .header2 with
    | true => exact new.secondary_placed
    | false => exact old.secondary_placed
  · cases generation .entries1 with
    | true => rfl
    | false => rfl
  · cases generation .entries2 with
    | true => rfl
    | false => exact sound.mirrored
  · intro g g'
    cases g with
    | true =>
        cases g' with
        | true => exact iff_of_true new.primary_table rfl
        | false => exact iff_of_false (fun described => differ described.1) (by decide)
    | false =>
        cases g' with
        | true =>
            apply iff_of_false _ (by decide)
            intro described
            exact differ (old.primary_table.1.trans described.1.symm)
        | false => exact iff_of_true old.primary_table rfl

def reached (index : Nat) (done : Part → Nat → Bool) : Part → Bool
  | .header1 => done .header1 0
  | .header2 => done .header2 0
  | .entries1 => done .entries1 (index / 4)
  | .entries2 => done .entries2 (index / 4)

theorem torn_header {done : Nat → Bool} {old new : List UInt8} (first : old.length = 512)
    (second : new.length = 512) : Lib.torn 512 done old new = if done 0 then new else old := by
  apply torn_eq (first.trans second.symm)
  intro k differ
  apply Nat.div_eq_of_lt
  by_contra beyond
  apply differ
  rw [List.getElem?_eq_none (by omega), List.getElem?_eq_none (by omega)]

theorem torn_entries {done : Nat → Bool} {before : Entries} {index : Nat} (bound : index < 128)
    (e : GptEntry) (rest : List UInt8) :
    Lib.torn 512 done (entriesCodec.encode before ++ rest)
        (entriesCodec.encode (before.set index e) ++ rest) =
      if done (index / 4) then entriesCodec.encode (before.set index e) ++ rest
      else entriesCodec.encode before ++ rest := by
  apply torn_eq
  · simp
  · intro k differ
    have inside : k < 16384 := by
      by_contra beyond
      apply differ
      rw [List.getElem?_append_right, List.getElem?_append_right, entriesCodec.encode_length,
        entriesCodec.encode_length]
      · rw [entriesCodec.encode_length, entriesCodec_width]
        omega
      · rw [entriesCodec.encode_length, entriesCodec_width]
        omega
    rw [List.getElem?_append_left (by rw [entriesCodec.encode_length, entriesCodec_width]; omega),
      List.getElem?_append_left (by rw [entriesCodec.encode_length, entriesCodec_width]; omega)]
      at differ
    have item := entryCodec.array_encode_set before bound e differ
    rw [entryCodec_width] at item
    rw [← item, Nat.div_div_eq_div_mul]

theorem torn_set {index : Nat} (sound : Sound d) (bound : index < 128) (e : GptEntry)
    (done : Part → Nat → Bool) :
    d.torn (commit (d.edited (d.image.primaryEntries.value.set index e))) done =
      d.saved (finished (copiedTable (d.edited (d.image.primaryEntries.value.set index e))))
        (Part.all.filter (reached index done)) := by
  have ⟨sector, room⟩ := sound.room
  have copied : d.Fits (copiedTable (d.edited (d.image.primaryEntries.value.set index e))) :=
    d.image_fits.of_rests rfl rfl rfl rfl rfl rfl
  have fits := copied.finished
  have unit : d.sectorBytes.toNat = 512 := by
    rw [sector]
    rfl
  have old : ∀ p, (d.load p).length = d.length p := fun p => span_length ..
  have new := fits.length
  rw [commit_eq (d.edited _) sound.signature]
  apply torn_eq_saved fits room rfl
  intro p
  rw [unit]
  cases p with
  | header1 =>
      have length := (d.length_header (p := .header1) (Or.inl rfl)).trans unit
      exact torn_header ((old _).trans length) ((new _).trans length)
  | header2 =>
      have length := (d.length_header (p := .header2) (Or.inr rfl)).trans unit
      exact torn_header ((old _).trans length) ((new _).trans length)
  | entries1 =>
      rw [← d.image_entries1]
      exact torn_entries bound e d.image.primaryEntries.rest
  | entries2 =>
      have kept : d.image.buffer .entries2 =
          entriesCodec.encode d.image.primaryEntries.value ++ d.image.secondaryEntries.rest := by
        rw [← sound.mirrored]
        rfl
      rw [← d.image_entries2, kept]
      exact torn_entries bound e d.image.secondaryEntries.rest

def surviving (index : Nat) (done : Part → Nat → Bool) : Option Bool :=
  survivor (reached index done .header1) (reached index done .header2)
    (reached index done .entries1) (reached index done .entries2)

section Put

variable {index : Nat} (bound : index < 128) {e : GptEntry}
  (takes : Takes disk.header disk.entries index e)
  (differ : crc32 (entriesCodec.encode disk.entries) ≠
    crc32 (entriesCodec.encode (disk.entries.set index e)))
  (done : Part → Nat → Bool)

include takes differ

theorem put_copies (represents : Represents d disk) :
    Copies (d.torn (commit (d.edited (disk.entries.set index e))) done).image
      (headerOf d (disk.entries.set index e)) (tableOf d (disk.entries.set index e))
      (reached index done .header1) (reached index done .header2)
      (reached index done .entries1) (reached index done .entries2) := by
  have partitioned := (represents.takes_iff bound e).mpr takes
  have sound := represents.sound
  rw [← represents.entries] at differ partitioned ⊢
  rw [torn_set sound bound e done]
  exact saved_copies sound partitioned differ (reached index done)

theorem put_recovered (represents : Represents d disk) {new : Bool}
    (survives : surviving index done = some new) :
    Represents (cgptRepair .whole (d.torn (commit (d.edited (disk.entries.set index e))) done)).2
      (if new then disk.put index bound e takes else disk) := by
  obtain ⟨gpt, passed, trusted, primary, secondary⟩ :=
    (put_copies bound takes differ done represents).check_some survives
  have sound := represents.sound
  refine cgptRepair_represents (v := headerOf d (disk.entries.set index e) new) sound.whole passed
    ?_ trusted ?_ ?_ ?_ ?_ ?_
  · cases new with
    | true => exact represents.sectors
    | false => exact represents.sectors
  · cases new with
    | true => exact represents.header
    | false => exact represents.header
  · cases new with
    | true => exact sound.size
    | false => exact sound.size
  · cases new with
    | true => exact sound.signature
    | false => exact sound.signature
  · rw [primary]
    cases new with
    | true => rfl
    | false => exact represents.entries
  · rw [secondary]
    cases new with
    | true => rfl
    | false => exact represents.entries

theorem put_lost (represents : Represents d disk) (lost : surviving index done = none) :
    (gptSanityCheck (d.torn (commit (d.edited (disk.entries.set index e))) done).image).1 ≠ none ∧
      (cgptRepair .whole (d.torn (commit (d.edited (disk.entries.set index e))) done)).2 =
        d.torn (commit (d.edited (disk.entries.set index e))) done := by
  have fails := (put_copies bound takes differ done represents).check_none lost
  exact ⟨fails, cgptRepair_failed fun passes => fails passes.2⟩

end Put

theorem cgptAdd_saved (represents : Represents d disk) {uuidGenerator : Option Guid}
    {p : CgptAddParams} (added : (cgptAdd .whole uuidGenerator p d).1 = .ok) :
    ∃ index, ∃ bound : index < 128, ∃ e, ∃ takes : Takes disk.header disk.entries index e,
      disk.choose p.partition = some index ∧
      disk.add uuidGenerator p = (.ok, disk.put index bound e takes) ∧
      (cgptAdd .whole uuidGenerator p d).2 =
        d.closed (commit (d.edited (disk.entries.set index e))) := by
  have edited := added
  rw [(cgptAdd_refines represents uuidGenerator p).1] at edited
  obtain ⟨index, bound, e, takes, chosen, edits, put⟩ :=
    Disk.edit_ok (editEntry_stops uuidGenerator p) edited
  refine ⟨index, bound, e, takes, chosen, put, ?_⟩
  have passes := (checkEntries_commit represents.sound (disk.entries.set index e)).mpr
    ((represents.takes_iff bound e).mpr takes)
  unfold cgptAdd
  rw [represents.drive]
  dsimp only
  rw [chooseIndex_edited represents, chosen]
  dsimp only
  rw [editPrimary_ok bound edits]
  dsimp only
  rw [saveChecked_saved passes]

theorem cgptSetAttributes_saved (represents : Represents d disk) {p : CgptAddParams}
    (set : (cgptSetAttributes .whole p d).1 = .ok) :
    ∃ index, ∃ bound : index < 128, ∃ e, ∃ takes : Takes disk.header disk.entries index e,
      disk.choose p.partition = some index ∧ withAttributes p disk.entries[index] = .ok e ∧
      disk.setAttributes p = (.ok, disk.put index bound e takes) ∧
      (cgptSetAttributes .whole p d).2 =
        d.closed (commit (d.edited (disk.entries.set index e))) := by
  have edited := set
  rw [(cgptSetAttributes_refines represents p).1] at edited
  obtain ⟨index, bound, e, takes, chosen, edits, put⟩ :=
    Disk.edit_ok (fun _ => withAttributes_spec.2) edited
  split_ifs at chosen with unnamed
  refine ⟨index, bound, e, takes, chosen, edits, put, ?_⟩
  have inside : ¬ 128 < p.partition := by
    intro beyond
    rw [Disk.choose, if_pos unnamed, if_pos beyond] at chosen
    cases chosen
  have number : p.partition.toNat - 1 = index := by
    rw [Disk.choose, if_pos unnamed, if_neg inside] at chosen
    exact Option.some.inj chosen
  unfold cgptSetAttributes
  rw [represents.drive]
  dsimp only
  rw [getNumberOfEntries_edited represents.sound, if_neg (not_or.mpr ⟨unnamed, inside⟩), number,
    editPrimary_ok bound edits]
  exact congrArg Prod.snd (driveClose_whole ..)

/-- Both headers hold what one generation is to hold, and both tables the other. -/
def Crossed (index : Nat) (done : Part → Nat → Bool) : Prop :=
  done .header1 0 = done .header2 0 ∧ done .entries1 (index / 4) = done .entries2 (index / 4) ∧
    done .header1 0 ≠ done .entries1 (index / 4)

theorem surviving_none_iff (index : Nat) (done : Part → Nat → Bool) :
    surviving index done = none ↔ Crossed index done := by
  rw [surviving, survivor, reached, reached, reached, reached, Crossed]
  cases done .header1 0 <;> cases done .header2 0 <;> cases done .entries1 (index / 4) <;>
    cases done .entries2 (index / 4) <;> decide

/-- However the sectors of a save by `add` were ordered when the power failed, `repair` finds the disk
before it or the disk after it, unless the headers and the tables are crossed: then the check fails,
and `repair` leaves the drive as it is. -/
theorem cgptAdd_torn (represents : Represents d disk) {uuidGenerator : Option Guid}
    {p : CgptAddParams} (added : (cgptAdd .whole uuidGenerator p d).1 = .ok)
    (differ : crc32 (entriesCodec.encode disk.entries) ≠
      crc32 (entriesCodec.encode (disk.add uuidGenerator p).2.entries)) :
    ∃ index gpt, disk.choose p.partition = some index ∧
      gpt = commit (d.edited (disk.add uuidGenerator p).2.entries) ∧
      (cgptAdd .whole uuidGenerator p d).2 = d.closed gpt ∧
      ∀ done : Part → Nat → Bool,
        (¬ Crossed index done → ∃ new, surviving index done = some new ∧
          Represents (cgptRepair .whole (d.torn gpt done)).2
            (if new then (disk.add uuidGenerator p).2 else disk)) ∧
        (Crossed index done → (gptSanityCheck (d.torn gpt done).image).1 ≠ none ∧
          (cgptRepair .whole (d.torn gpt done)).2 = d.torn gpt done) := by
  obtain ⟨index, bound, e, takes, chosen, put, saved⟩ := cgptAdd_saved represents added
  rw [put] at differ ⊢
  refine ⟨index, _, chosen, rfl, saved, ?_⟩
  intro done
  rw [← surviving_none_iff]
  apply And.intro
  · intro some_left
    obtain ⟨new, survives⟩ := Option.ne_none_iff_exists'.mp some_left
    exact ⟨new, survives, put_recovered bound takes differ done represents survives⟩
  · exact put_lost bound takes differ done represents

/-- The first `n` sectors in the order of the `Save` calls. -/
def inOrder (n : Nat) : Part → Nat → Bool
  | .header1, k => decide (k < n)
  | .header2, k => decide (1 + k < n)
  | .entries1, k => decide (2 + k < n)
  | .entries2, k => decide (34 + k < n)

theorem surviving_inOrder {index : Nat} (bound : index < 128) (n : Nat) :
    surviving index (inOrder n) =
      if n ≤ 1 then some false else if n ≤ 2 + index / 4 then none else some true := by
  have sector : index / 4 < 32 := by omega
  rw [surviving, survivor, reached, reached, reached, reached, inOrder, inOrder, inOrder, inOrder]
  generalize index / 4 = block at sector
  simp only [decide_eq_decide]
  split_ifs
  · exact congrArg some (decide_eq_false (by omega))
  · omega
  · exact congrArg some (decide_eq_true (by omega))
  · exact congrArg some (decide_eq_false (by omega))
  · omega
  · exact congrArg some (decide_eq_true (by omega))
  · omega
  · rfl
  · omega

theorem attributes_burst {before : Entries} {index : Nat} (bound : index < 128) {gptAtt : UInt16}
    (differ : gptAtt ≠ before[index].gptAtt) :
    crc32 (entriesCodec.encode before) ≠
      crc32 (entriesCodec.encode (before.set index { before[index] with gptAtt })) := by
  have bytes : ∀ e : GptEntry, ∃ front back, ∀ gptAtt : UInt16,
      entryCodec.encode { e with gptAtt } = front ++ leBytes 2 gptAtt.toNat ++ back := by
    intro e
    refine ⟨guidCodec.encode e.type ++ guidCodec.encode e.unique ++
      Codec.u64.encode e.startingLba ++ Codec.u64.encode e.endingLba ++
      (Codec.u16.array 3).encode e.reserved, (Codec.u16.array 36).encode e.name, ?_⟩
    intro gptAtt
    simp only [List.append_assoc]
    rfl
  obtain ⟨front, back, entry⟩ := bytes before[index]
  have whole : before.set index { before[index] with gptAtt := before[index].gptAtt } = before :=
    Vector.set_getElem_self bound
  have split : ∀ gptAtt : UInt16,
      entriesCodec.encode (before.set index { before[index] with gptAtt }) =
        ((before.toList.take index).flatMap entryCodec.encode ++ front) ++ leBytes 2 gptAtt.toNat ++
          (back ++ (before.toList.drop (index + 1)).flatMap entryCodec.encode) := by
    intro gptAtt
    have items := entryCodec.array_encode_split before bound { before[index] with gptAtt }
    rw [entry gptAtt] at items
    rw [entriesCodec, items]
    simp only [List.append_assoc]
  have old := split before[index].gptAtt
  rw [whole] at old
  rw [old, split gptAtt]
  apply crc32_burst
  · simp
  · simp
  · intro same
    apply differ
    apply Codec.u16.encode_inj
    exact same.symm

/-- When the power fails after `n` sectors of a save by `set_attributes`, in the order of the `Save`
calls, `repair` finds the disk as it was if at most the first header was saved, and the disk as it was
to be if the sector of the entry was. In between the check fails and nothing can be repaired. -/
theorem cgptSetAttributes_powerCut (represents : Represents d disk) {p : CgptAddParams}
    (set : (cgptSetAttributes .whole p d).1 = .ok)
    (changed : (disk.setAttributes p).2.entries ≠ disk.entries) :
    ∃ index gpt, disk.choose p.partition = some index ∧
      gpt = commit (d.edited (disk.setAttributes p).2.entries) ∧
      (cgptSetAttributes .whole p d).2 = d.closed gpt ∧ ∀ n,
      (n ≤ 1 → Represents (cgptRepair .whole (d.torn gpt (inOrder n))).2 disk) ∧
      (2 ≤ n → n ≤ 2 + index / 4 → (gptSanityCheck (d.torn gpt (inOrder n)).image).1 ≠ none ∧
        (cgptRepair .whole (d.torn gpt (inOrder n))).2 = d.torn gpt (inOrder n)) ∧
      (2 + index / 4 < n →
        Represents (cgptRepair .whole (d.torn gpt (inOrder n))).2 (disk.setAttributes p).2) := by
  obtain ⟨index, bound, e, takes, chosen, edits, put, saved⟩ := cgptSetAttributes_saved represents set
  obtain ⟨gptAtt, -, rfl⟩ := withAttributes_spec.1 _ edits
  rw [put] at changed ⊢
  have new : gptAtt ≠ disk.entries[index].gptAtt := by
    intro same
    apply changed
    rw [same]
    exact Vector.set_getElem_self bound
  have differ := attributes_burst bound new
  refine ⟨index, _, chosen, rfl, saved, ?_⟩
  intro n
  have survives := surviving_inOrder bound n
  refine ⟨?_, ?_, ?_⟩
  · intro early
    rw [if_pos early] at survives
    exact put_recovered bound takes differ (inOrder n) represents survives
  · intro begun unfinished
    rw [if_neg (by omega), if_pos unfinished] at survives
    exact put_lost bound takes differ (inOrder n) represents survives
  · intro late
    rw [if_neg (by omega), if_neg (by omega)] at survives
    exact put_recovered bound takes differ (inOrder n) represents survives

end Edit

/-- An `add` that changes the priority of the kernel. -/
def secondPriority : CgptAddParams := ⟨1, none, none, none, none, none, none, none, some 2, none⟩

theorem secondPriority_kernel : (kernelDisk.add none secondPriority).1 = .ok ∧
    crc32 (entriesCodec.encode kernelDisk.entries) ≠
      crc32 (entriesCodec.encode (kernelDisk.add none secondPriority).2.entries) := by
  have first : kernelDisk.entries[0] = kernelEntry := Vector.getElem_set_self first_entry
  have edits : editEntry none secondPriority kernelDisk.entries[0] =
      .ok { kernelDisk.entries[0] with gptAtt := 2 } := by
    rw [first]
    decide +kernel
  have takes : Takes kernelDisk.header kernelDisk.entries 0
      { kernelDisk.entries[0] with gptAtt := 2 } :=
    takes_of_claim first_entry kernelDisk.partitioned rfl
  have put : kernelDisk.add none secondPriority = (.ok, kernelDisk.put 0 first_entry _ takes) :=
    Disk.edit_put first_entry edits takes
  rw [put]
  apply And.intro rfl
  apply attributes_burst first_entry
  rw [first]
  decide

theorem cgptAdd_torn_kernel :
    ∃ index gpt, kernelDisk.choose 1 = some index ∧
      gpt = commit (kernelDrive.edited (kernelDisk.add none secondPriority).2.entries) ∧
      (cgptAdd .whole none secondPriority kernelDrive).2 = kernelDrive.closed gpt ∧
      ∀ done : Part → Nat → Bool,
        (¬ Crossed index done → ∃ new, surviving index done = some new ∧
          Represents (cgptRepair .whole (kernelDrive.torn gpt done)).2
            (if new then (kernelDisk.add none secondPriority).2 else kernelDisk)) ∧
        (Crossed index done → (gptSanityCheck (kernelDrive.torn gpt done).image).1 ≠ none ∧
          (cgptRepair .whole (kernelDrive.torn gpt done)).2 = kernelDrive.torn gpt done) := by
  apply cgptAdd_torn kernelDrive_represents (p := secondPriority)
  · rw [(cgptAdd_refines kernelDrive_represents none secondPriority).1]
    exact secondPriority_kernel.1
  · exact secondPriority_kernel.2

/-- `set_attributes` of the priority of the first entry. -/
def firstPriority : CgptAddParams := ⟨1, none, none, none, none, none, none, none, some 1, none⟩

theorem firstPriority_new : (newDisk.setAttributes firstPriority).1 = .ok ∧
    (newDisk.setAttributes firstPriority).2.entries ≠ newDisk.entries := by
  have edits : withAttributes firstPriority newDisk.entries[0] = .ok { blankEntry with gptAtt := 1 } := by
    rw [newDisk_entry]
    decide +kernel
  have takes : Takes newDisk.header newDisk.entries 0 { blankEntry with gptAtt := 1 } := by
    apply takes_of_claim first_entry newDisk.partitioned
    rw [newDisk_entry]
    rfl
  have put : newDisk.setAttributes firstPriority = (.ok, newDisk.put 0 first_entry _ takes) :=
    Disk.edit_put first_entry edits takes
  rw [put]
  apply And.intro rfl
  intro same
  have first := congrArg (fun table : Entries => table[0].gptAtt) same
  simp only [Disk.put, Vector.getElem_set_self, newDisk_entry] at first
  revert first
  decide +kernel

theorem cgptSetAttributes_powerCut_new :
    ∃ index gpt, newDisk.choose 1 = some index ∧
      gpt = commit (newDrive.edited (newDisk.setAttributes firstPriority).2.entries) ∧
      (cgptSetAttributes .whole firstPriority newDrive).2 = newDrive.closed gpt ∧ ∀ n,
      (n ≤ 1 → Represents (cgptRepair .whole (newDrive.torn gpt (inOrder n))).2 newDisk) ∧
      (2 ≤ n → n ≤ 2 + index / 4 →
        (gptSanityCheck (newDrive.torn gpt (inOrder n)).image).1 ≠ none ∧
        (cgptRepair .whole (newDrive.torn gpt (inOrder n))).2 = newDrive.torn gpt (inOrder n)) ∧
      (2 + index / 4 < n → Represents (cgptRepair .whole (newDrive.torn gpt (inOrder n))).2
        (newDisk.setAttributes firstPriority).2) := by
  apply cgptSetAttributes_powerCut newDrive_represents (p := firstPriority)
  · rw [(cgptSetAttributes_refines newDrive_represents firstPriority).1]
    exact firstPriority_new.1
  · exact firstPriority_new.2

end A500cg.Gpt
