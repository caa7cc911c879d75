import A500cg.Gpt.Attributes
import A500cg.Gpt.Drive
import A500cg.Gpt.Label

/-! The commands that write the partition table of a drive (`cgpt_create.c`, `cgpt_add.c`,
`cgpt_repair.c`, `cgpt_legacy.c`). -/

namespace A500cg.Gpt

open Lib

/-- `memset` of a whole buffer to 0. -/
def zeroed {α : Type} (c : Codec α) (o : Overlay α) : Overlay α :=
  c.view (List.replicate (c.bytes o).length 0)

def erased (gpt : GptData) : GptData :=
  { gpt with
    primaryHeader := zeroed headerCodec gpt.primaryHeader
    secondaryHeader := zeroed headerCodec gpt.secondaryHeader
    primaryEntries := zeroed entriesCodec gpt.primaryEntries
    secondaryEntries := zeroed entriesCodec gpt.secondaryEntries
    modified := MODIFIED_ALL }

/-- The header `cgpt_create` fills in. -/
def createdHeader (h : GptHeader) (driveSectors : UInt64) (uuid : Guid) : GptHeader :=
  { h with
    signature := GPT_HEADER_SIGNATURE
    revision := GPT_HEADER_REVISION
    size := 92
    myLba := 1
    alternateLba := driveSectors - 1
    firstUsableLba := 1 + 1 + GPT_ENTRIES_SECTORS
    lastUsableLba := driveSectors - 1 - GPT_ENTRIES_SECTORS - 1
    diskUuid := uuid
    entriesLba := 2
    numberOfEntries := 128
    sizeOfEntry := 128 }

def initialized (gpt : GptData) (uuid : Guid) : GptData :=
  updateCrc (repairHeader { gpt with
    primaryHeader := { gpt.primaryHeader with
      value := createdHeader gpt.primaryHeader.value gpt.driveSectors uuid } } MASK_PRIMARY).2

/-- `cgpt_create`; the generator is the GUID it gives, or `none` when it is not set. -/
def cgptCreate (w : Writes) (zap : Bool) (uuidGenerator : Option Guid) (d : Drive) :
    Exit × Drive :=
  match driveOpen d with
  | none => (.failed, d)
  | some gpt =>
    if zap then driveClose w d (erased gpt)
    else match uuidGenerator with
      | none => (.failed, d)
      | some uuid => driveClose w d (initialized (erased gpt) uuid)

def cgptRepair (w : Writes) (d : Drive) : Exit × Drive :=
  match driveOpen d with
  | none => (.failed, d)
  | some gpt => driveClose w d (gptRepair (gptSanityCheck gpt).2)

def signHeaders (gpt : GptData) (signature : Vector UInt8 8) : GptData :=
  { gpt with
    primaryHeader := { gpt.primaryHeader with
      value := { gpt.primaryHeader.value with signature } }
    secondaryHeader := { gpt.secondaryHeader with
      value := { gpt.secondaryHeader.value with signature } } }

/-- What `cgpt_legacy` marks: all but the secondary entries. -/
def MODIFIED_LEGACY : Modified := ⟨true, true, true, false⟩

/-- Only the first sector is cleared, four entries when a sector is 512 bytes. -/
def clearedEntries (gpt : GptData) : Overlay Entries :=
  entriesCodec.view (List.replicate gpt.sectorBytes.toNat 0 ++
    (entriesCodec.bytes gpt.primaryEntries).drop gpt.sectorBytes.toNat)

def cgptLegacy (w : Writes) (efipart : Bool) (d : Drive) : Exit × Drive :=
  match driveOpen d with
  | none => (.failed, d)
  | some gpt =>
    if efipart then
      driveClose w d (updateCrc {
        (repairEntries (signHeaders gpt GPT_HEADER_SIGNATURE) MASK_SECONDARY).2 with
        modified := MODIFIED_LEGACY })
    else
      driveClose w d (updateCrc { signHeaders gpt GPT_HEADER_SIGNATURE2 with
        primaryEntries := clearedEntries gpt
        modified := MODIFIED_LEGACY })

/-- `DriveOpen` and the checks of the commands that want both copies good. -/
def openValid (d : Drive) : Option GptData :=
  (driveOpen d).bind fun gpt =>
    let checked := gptSanityCheck gpt
    if checked.1 ≠ none then none
    else if checked.2.validHeaders ≠ MASK_BOTH ∨ checked.2.validEntries ≠ MASK_BOTH then none
    else some checked.2

def getNumberOfEntries (gpt : GptData) : UInt32 :=
  if gpt.validHeaders.primary then gpt.primaryHeader.value.numberOfEntries
  else if gpt.validHeaders.secondary then gpt.secondaryHeader.value.numberOfEntries
  else 0

/-- The end of the commands that change the primary table: the copies, then the checksums. -/
def commit (gpt : GptData) : GptData :=
  updateCrc { (repairHeader (repairEntries gpt MASK_PRIMARY).2 MASK_PRIMARY).2 with
    modified := MODIFIED_ALL }

structure CgptAddParams where
  partition : UInt32
  begin : Option UInt64
  size : Option UInt64
  typeGuid : Option Guid
  uniqueGuid : Option Guid
  label : Option (List UInt8)
  successful : Option UInt32
  tries : Option UInt32
  priority : Option UInt32
  rawValue : Option UInt16

def ifSet (set : UInt32 → UInt16 → Option UInt16) (value : Option UInt32) (att : UInt16) :
    Option UInt16 :=
  match value with
  | none => some att
  | some value => set value att

/-- `set_entry_attributes`; `none` when a `require` ends the process. -/
def setEntryAttributes (p : CgptAddParams) (att : UInt16) : Option UInt16 :=
  match p.rawValue with
  | some raw => some raw
  | none => ((ifSet setSuccessful p.successful att).bind (ifSet setTries p.tries)).bind
      (ifSet setPriority p.priority)

def withAttributes (p : CgptAddParams) (e : GptEntry) : Except Exit GptEntry :=
  match setEntryAttributes p e.gptAtt with
  | none => .error .aborted
  | some gptAtt => .ok { e with gptAtt }

def newEntry (uuidGenerator : Option Guid) (p : CgptAddParams) (e : GptEntry) :
    Except Exit GptEntry :=
  if e.isUnused then
    if p.begin.isNone || p.size.isNone || p.typeGuid.isNone then .error .failed
    else if p.typeGuid = some guidUnused then .error .failed
    else match uuidGenerator with
      | none => .error (if p.uniqueGuid.isNone then .failed else .aborted)
      | some unique => .ok { e with unique }
  else .ok e

def placed (p : CgptAddParams) (e : GptEntry) : GptEntry :=
  let startingLba := p.begin.getD e.startingLba
  { e with
    startingLba
    endingLba := (p.size.map fun size => startingLba + size - 1).getD e.endingLba
    type := p.typeGuid.getD e.type
    unique := p.uniqueGuid.getD e.unique }

def labelled (p : CgptAddParams) (e : GptEntry) : Except Exit GptEntry :=
  match p.label with
  | none => .ok e
  | some label =>
    if (utf8ToUtf16 label 36).1 then
      .ok { e with name := writeName e.name (utf8ToUtf16 label 36).2 }
    else .error .failed

def editEntry (uuidGenerator : Option Guid) (p : CgptAddParams) (e : GptEntry) :
    Except Exit GptEntry :=
  (newEntry uuidGenerator p e).bind fun e => (labelled p (placed p e)).bind (withAttributes p)

def chooseIndex (gpt : GptData) (partition : UInt32) : Option Nat :=
  if partition ≠ 0 then
    if getNumberOfEntries gpt < partition then none else some (partition.toNat - 1)
  else (gpt.primaryEntries.value.toList.take (getNumberOfEntries gpt).toNat).findIdx?
    GptEntry.isUnused

/-- An entry changed in place; `GetEntry` ends the process beyond the entries. -/
def editPrimary (gpt : GptData) (index : Nat) (edit : GptEntry → Except Exit GptEntry) :
    Except Exit GptData :=
  if bound : index < 128 then
    (edit gpt.primaryEntries.value[index]).map fun entry =>
      { gpt with primaryEntries := { gpt.primaryEntries with
        value := gpt.primaryEntries.value.set index entry } }
  else .error .aborted

/-- The end of `cgpt_add`: a table that fails the check is not saved. -/
def saveChecked (w : Writes) (d : Drive) (edited : GptData) : Exit × Drive :=
  if (checkEntries (commit edited).primaryEntries (commit edited).primaryHeader.value).isSome then
    (.failed, d)
  else driveClose w d (commit edited)

def cgptAdd (w : Writes) (uuidGenerator : Option Guid) (p : CgptAddParams) (d : Drive) :
    Exit × Drive :=
  match openValid d with
  | none => (.failed, d)
  | some gpt =>
    match chooseIndex gpt p.partition with
    | none => (.failed, d)
    | some index =>
      match editPrimary gpt index (editEntry uuidGenerator p) with
      | .error exit => (exit, d)
      | .ok edited => saveChecked w d edited

def cgptSetAttributes (w : Writes) (p : CgptAddParams) (d : Drive) : Exit × Drive :=
  match openValid d with
  | none => (.failed, d)
  | some gpt =>
    if p.partition = 0 ∨ getNumberOfEntries gpt < p.partition then (.failed, d)
    else match editPrimary gpt (p.partition.toNat - 1) (withAttributes p) with
      | .error exit => (exit, d)
      | .ok edited => driveClose w d (commit edited)

/-- A header with both checksums as `UpdateCrc` leaves them. -/
def stamped (h : Overlay GptHeader) (entries : Overlay Entries) : Overlay GptHeader :=
  withRecordCrc (withEntriesCrc h entries)

/-- The primary header as `RepairHeader` copies it over the secondary one. -/
def copiedHeader (gpt : GptData) : Overlay GptHeader :=
  { gpt.secondaryHeader with value := { gpt.primaryHeader.value with
      myLba := gpt.driveSectors - 1
      alternateLba := gpt.primaryHeader.value.myLba
      entriesLba := gpt.driveSectors - 1 - GPT_ENTRIES_SECTORS } }

theorem not_startsWithSignature2 {v : GptHeader} (efi : v.signature = GPT_HEADER_SIGNATURE) :
    startsWithSignature2 v = false := by
  have other : (GPT_HEADER_SIGNATURE == GPT_HEADER_SIGNATURE2) = false := by decide
  rw [startsWithSignature2, efi, other, Bool.false_and]

def finished (gpt : GptData) : GptData :=
  { gpt with
    primaryHeader := stamped gpt.primaryHeader gpt.primaryEntries
    secondaryHeader := stamped (copiedHeader gpt) gpt.secondaryEntries
    modified := MODIFIED_ALL }

theorem updateCrc_repairHeader (gpt : GptData)
    (efi : gpt.primaryHeader.value.signature = GPT_HEADER_SIGNATURE) :
    updateCrc { (repairHeader gpt MASK_PRIMARY).2 with modified := MODIFIED_ALL } = finished gpt := by
  have copied : (repairHeader gpt MASK_PRIMARY).2 =
      { gpt with secondaryHeader := copiedHeader gpt } := by
    rw [repairHeader, if_neg (by decide), if_pos rfl]
    rfl
  rw [copied, updateCrc]
  simp only [Bool.true_and, if_true, MODIFIED_ALL, not_startsWithSignature2 efi, Bool.not_false]
  rfl

def copiedTable (gpt : GptData) : GptData :=
  { gpt with secondaryEntries := { gpt.secondaryEntries with value := gpt.primaryEntries.value } }

theorem commit_eq (gpt : GptData)
    (efi : gpt.primaryHeader.value.signature = GPT_HEADER_SIGNATURE) :
    commit gpt = finished (copiedTable gpt) := by
  have other : ¬ gpt.primaryHeader.value.signature = GPT_HEADER_SIGNATURE2 := by
    rw [efi]
    decide
  have copied : (repairEntries gpt MASK_PRIMARY).2 = copiedTable gpt := by
    rw [repairEntries, if_neg other, if_pos (Or.inr rfl)]
    rfl
  rw [commit, copied]
  exact updateCrc_repairHeader _ efi

theorem headerCrc_eq_recordCrc {h : Overlay GptHeader} (size : h.value.size = 92) :
    headerCrc h = recordCrc h.value := by
  have width : ∀ v : GptHeader, (headerCodec.encode v).length = (92 : UInt32).toNat :=
    headerCodec.encode_length
  rw [headerCrc, size, Codec.bytes, List.take_left' (width _)]
  rfl

theorem headerCrc_withRecordCrc {h : Overlay GptHeader} (size : h.value.size = 92) :
    headerCrc (withRecordCrc h) = (withRecordCrc h).value.headerCrc32 :=
  (headerCrc_eq_recordCrc (h := withRecordCrc h) size).trans rfl

/-- A drive on which everything a command may rely on holds: two good copies, of one table, with
the header and the signature that `cgpt_create` gives. -/
structure Sound (d : Drive) : Prop where
  whole : d.size % d.sectorBytes.toNat = 0
  paired : Paired d.image d.image.primaryHeader.value
  mirrored : d.image.secondaryEntries.value = d.image.primaryEntries.value
  size : d.image.primaryHeader.value.size = 92
  signature : d.image.primaryHeader.value.signature = GPT_HEADER_SIGNATURE

structure Committable (gpt : GptData) : Prop where
  parameters : checkParameters gpt = none
  fields : HeaderFields gpt.primaryHeader.value gpt.driveSectors
  placed : Placed gpt.primaryHeader.value false gpt.driveSectors
  size : gpt.primaryHeader.value.size = 92
  signature : gpt.primaryHeader.value.signature = GPT_HEADER_SIGNATURE
  mirrored : gpt.secondaryEntries.value = gpt.primaryEntries.value
  partitioned : Partitioned gpt.primaryHeader.value gpt.primaryEntries.value.toList

theorem Committable.paired {gpt : GptData} (ready : Committable gpt) :
    Paired (finished gpt) (finished gpt).primaryHeader.value := by
  have f := ready.fields
  have described : Describes (finished gpt).primaryHeader.value gpt.primaryEntries.value :=
    ⟨rfl, ready.partitioned.inside, ready.partitioned.apart⟩
  apply Paired.mk
  · exact ready.parameters
  · exact ⟨f.signature, f.revision, f.size_min, f.size_max, f.reservedZero, f.sizeOfEntry,
      f.numberOfEntries, f.first_usable, f.last_usable, f.usable⟩
  · rfl
  · change (stamped (copiedHeader gpt) gpt.secondaryEntries).value.shared = _
    rw [stamped, withEntriesCrc, ready.mirrored]
    rfl
  · exact headerCrc_withRecordCrc ready.size
  · exact headerCrc_withRecordCrc (h := withEntriesCrc (copiedHeader gpt) gpt.secondaryEntries)
      ready.size
  · exact ready.placed
  · exact ⟨rfl, rfl⟩
  · exact described
  · change Describes _ gpt.secondaryEntries.value
    rw [ready.mirrored]
    exact described

/-- The tables as a later `DriveOpen` finds them: nothing marked, nothing checked. -/
def GptData.fresh (gpt : GptData) : GptData :=
  { gpt with modified := UNMODIFIED, validHeaders := MASK_NONE, validEntries := MASK_NONE }

theorem Paired.fresh {gpt : GptData} {v : GptHeader} (paired : Paired gpt v) : Paired gpt.fresh v :=
  ⟨paired.parameters, paired.fields, paired.primary_shared, paired.secondary_shared,
    paired.primary_crc, paired.secondary_crc, paired.primary_placed, paired.secondary_placed,
    paired.primary_table, paired.secondary_table⟩

theorem Drive.Fits.of_rests {d : Drive} {gpt gpt' : GptData} (fits : d.Fits gpt)
    (sectorBytes : gpt'.sectorBytes = gpt.sectorBytes)
    (driveSectors : gpt'.driveSectors = gpt.driveSectors)
    (header1 : gpt'.primaryHeader.rest.length = gpt.primaryHeader.rest.length)
    (header2 : gpt'.secondaryHeader.rest.length = gpt.secondaryHeader.rest.length)
    (entries1 : gpt'.primaryEntries.rest.length = gpt.primaryEntries.rest.length)
    (entries2 : gpt'.secondaryEntries.rest.length = gpt.secondaryEntries.rest.length) :
    d.Fits gpt' where
  sectorBytes := sectorBytes.trans fits.sectorBytes
  driveSectors := driveSectors.trans fits.driveSectors
  length p := by
    rw [← fits.length p]
    cases p with
    | header1 => simp [GptData.buffer, header1]
    | header2 => simp [GptData.buffer, header2]
    | entries1 => simp [GptData.buffer, entries1]
    | entries2 => simp [GptData.buffer, entries2]

theorem Drive.Fits.finished {d : Drive} {gpt : GptData} (fits : d.Fits gpt) :
    d.Fits (finished gpt) :=
  fits.of_rests rfl rfl rfl rfl rfl rfl

theorem Part.mem_all (p : Part) : p ∈ Part.all := by
  cases p with
  | header1 => decide
  | header2 => decide
  | entries1 => decide
  | entries2 => decide

theorem closed_image_of_kept {d : Drive} {gpt : GptData} (fits : d.Fits gpt)
    (room : 67 ≤ d.count)
    (kept : ∀ p, gpt.modified.has p = false → gpt.buffer p = d.load p) :
    (d.closed gpt).image = gpt.fresh := by
  have loads : ∀ p, (d.closed gpt).load p = gpt.buffer p := by
    intro p
    rw [Drive.closed, saved_load fits room]
    split_ifs with marked
    · rfl
    · symm
      apply kept
      cases has : gpt.modified.has p with
      | false => rfl
      | true => exact absurd (List.mem_filter.mpr ⟨Part.mem_all p, has⟩) marked
  have header1 : (d.closed gpt).image.primaryHeader = gpt.primaryHeader :=
    (congrArg headerCodec.view (loads .header1)).trans (headerCodec.view_bytes _)
  have header2 : (d.closed gpt).image.secondaryHeader = gpt.secondaryHeader :=
    (congrArg headerCodec.view (loads .header2)).trans (headerCodec.view_bytes _)
  have entries1 : (d.closed gpt).image.primaryEntries = gpt.primaryEntries :=
    (congrArg entriesCodec.view (loads .entries1)).trans (entriesCodec.view_bytes _)
  have entries2 : (d.closed gpt).image.secondaryEntries = gpt.secondaryEntries :=
    (congrArg entriesCodec.view (loads .entries2)).trans (entriesCodec.view_bytes _)
  rw [GptData.fresh, ← header1, ← header2, ← entries1, ← entries2, fits.sectorBytes,
    fits.driveSectors]
  rfl

theorem closed_image {d : Drive} {gpt : GptData} (fits : d.Fits gpt) (room : 67 ≤ d.count)
    (all : gpt.modified = MODIFIED_ALL) : (d.closed gpt).image = gpt.fresh := by
  apply closed_image_of_kept fits room
  intro p unmarked
  rw [all] at unmarked
  cases p with
  | header1 => cases unmarked
  | header2 => cases unmarked
  | entries1 => cases unmarked
  | entries2 => cases unmarked

theorem driveClose_unmodified {w : Writes} {d : Drive} {gpt : GptData}
    (none : gpt.modified = UNMODIFIED) : driveClose w d gpt = (.ok, d) := by
  have parts : Part.all.filter gpt.modified.has = [] := by
    rw [none]
    decide
  rw [driveClose, parts]
  rfl

theorem count_of_parameters {d : Drive} {gpt : GptData} (fits : d.Fits gpt)
    (parameters : checkParameters gpt = none) : d.sectorBytes = 512 ∧ 67 ≤ d.count := by
  unfold checkParameters at parameters
  split_ifs at parameters with sector few
  have standard : gpt.sectorBytes = 512 := not_not.mp sector
  rw [UInt64.lt_iff_toNat_lt, fits.driveSectors, d.sectors_toNat] at few
  rw [fits.sectorBytes] at standard
  exact ⟨standard, Nat.le_of_not_lt few⟩

theorem sound_of_finished {d : Drive} {gpt : GptData} (fits : d.Fits gpt)
    (whole : d.size % d.sectorBytes.toNat = 0) (ready : Committable gpt) :
    Sound (d.closed (finished gpt)) ∧
      (d.closed (finished gpt)).image = (finished gpt).fresh := by
  have room := (count_of_parameters fits ready.parameters).2
  have image := closed_image fits.finished room rfl
  have sound : Sound (d.closed (finished gpt)) := by
    apply Sound.mk
    · exact whole
    · rw [image]
      exact ready.paired.fresh
    · rw [image]
      exact ready.mirrored
    · rw [image]
      exact ready.size
    · rw [image]
      exact ready.signature
  exact ⟨sound, image⟩

theorem openValid_iff (d : Drive) (gpt : GptData) :
    openValid d = some gpt ↔ d.size % d.sectorBytes.toNat = 0 ∧
      Paired d.image d.image.primaryHeader.value ∧
      gpt = { d.image with validHeaders := MASK_BOTH, validEntries := MASK_BOTH } := by
  constructor
  · intro valid
    obtain ⟨loaded, opened, checked⟩ := Option.bind_eq_some_iff.mp valid
    obtain ⟨whole, -, rfl⟩ := (driveOpen_eq_some_iff d _).mp opened
    dsimp only at checked
    split_ifs at checked with failed partial_copies
    · obtain ⟨headers, entries⟩ := not_or.mp partial_copies
      rw [not_not] at failed headers entries
      have passed : gptSanityCheck d.image = (none, (gptSanityCheck d.image).2) :=
        Prod.ext failed rfl
      obtain ⟨state, accepted⟩ := gptSanityCheck_accepted passed
      rw [headers, entries] at state accepted
      have first := (checkHeader_iff ..).mp (accepted.primary_good rfl)
      have second := (checkHeader_iff ..).mp (accepted.secondary_good rfl)
      have same := (headerFieldsSame_iff _ _).mp (accepted.same rfl)
      have tables := accepted.primary_describes rfl
      have entries1 := congrArg Mask.primary tables
      have entries2 := congrArg Mask.secondary tables
      have paired : Paired d.image d.image.primaryHeader.value := by
        apply Paired.mk
        · exact accepted.parameters
        · exact first.1
        · rfl
        · exact same.symm
        · exact first.2.1
        · exact second.2.1
        · exact first.2.2
        · exact second.2.2
        · exact (checkEntries_iff_describes first.1 _).mp (Option.isNone_iff_eq_none.mp entries1.symm)
        · exact (checkEntries_iff_describes first.1 _).mp (Option.isNone_iff_eq_none.mp entries2.symm)
      exact ⟨whole, paired, (Option.some.inj checked).symm.trans state⟩
  · rintro ⟨whole, paired, rfl⟩
    have room := (count_of_parameters d.image_fits paired.parameters).2
    rw [openValid, driveOpen_of_room whole (by omega), Option.bind_some, paired.checks]
    rfl

theorem Sound.openValid {d : Drive} (sound : Sound d) :
    openValid d = some { d.image with validHeaders := MASK_BOTH, validEntries := MASK_BOTH } :=
  (openValid_iff d _).mpr ⟨sound.whole, sound.paired, rfl⟩

theorem zeroed_value {α : Type} (c : Codec α) (o : Overlay α) :
    (zeroed c o).value = c.decode (List.replicate c.width 0) := by
  rw [zeroed, Codec.view, List.take_replicate, Nat.min_eq_left]
  rw [Codec.bytes_length]
  exact Nat.le_add_right ..

theorem zeroed_rest_length {α : Type} (c : Codec α) (o : Overlay α) :
    (zeroed c o).rest.length = o.rest.length := by
  rw [zeroed, Codec.view_rest_length, List.length_replicate, Codec.bytes_length,
    Nat.add_sub_cancel_left]

theorem zeroHeader_reserved :
    (headerCodec.decode (List.replicate headerCodec.width 0)).reservedZero = 0 := by
  decide +kernel

theorem zeroEntries_unused (e : GptEntry)
    (member : e ∈ (entriesCodec.decode (List.replicate entriesCodec.width 0)).toList) :
    e.isUnused = true := by
  have entry : (entryCodec.decode (List.replicate entryCodec.width 0)).isUnused = true := by
    decide +kernel
  have table : (entriesCodec.decode (List.replicate entriesCodec.width 0)).toList =
      List.replicate 128 (entryCodec.decode (List.replicate entryCodec.width 0)) :=
    Codec.items_replicate entryCodec 128 0
  rw [table] at member
  rw [List.eq_of_mem_replicate member]
  exact entry

theorem partitioned_of_unused {v : GptHeader} {table : List GptEntry}
    (unused : ∀ e ∈ table, e.isUnused = true) : Partitioned v table where
  inside e member used := by
    rw [unused e member] at used
    cases used
  apart := by
    apply List.Pairwise.imp_of_mem (R := fun _ _ => True)
    · intro a b mem_a _ _ used
      rw [unused a mem_a] at used
      cases used
    · exact List.pairwise_of_forall (fun _ _ => trivial)

/-- The tables `cgpt_create` has in memory before the copies and the checksums. -/
def blank (gpt : GptData) (uuid : Guid) : GptData :=
  { erased gpt with
    primaryHeader := { (erased gpt).primaryHeader with
      value := createdHeader (erased gpt).primaryHeader.value gpt.driveSectors uuid } }

theorem initialized_eq (gpt : GptData) (uuid : Guid) :
    initialized (erased gpt) uuid = finished (blank gpt uuid) :=
  updateCrc_repairHeader (blank gpt uuid) rfl

theorem blank_fits {d : Drive} (uuid : Guid) : d.Fits (blank d.image uuid) :=
  d.image_fits.of_rests rfl rfl (zeroed_rest_length ..) (zeroed_rest_length ..)
    (zeroed_rest_length ..) (zeroed_rest_length ..)

theorem created_last {n : UInt64} (some : 67 ≤ n.toNat) :
    (n - 1 - GPT_ENTRIES_SECTORS - 1).toNat = n.toNat - 34 ∧
      (n - 1 - GPT_ENTRIES_SECTORS).toNat = n.toNat - 33 := by
  have bound := n.toNat_lt
  have one : (1 : UInt64).toNat = 1 := rfl
  have entries : GPT_ENTRIES_SECTORS.toNat = 32 := rfl
  rw [UInt64.toNat_sub, UInt64.toNat_sub, UInt64.toNat_sub, one, entries]
  omega

def blankHeader (sectors : UInt64) (uuid : Guid) : GptHeader :=
  createdHeader (headerCodec.decode (List.replicate headerCodec.width 0)) sectors uuid

theorem blankHeader_fields {sectors : UInt64} (uuid : Guid) (room : 68 ≤ sectors.toNat) :
    HeaderFields (blankHeader sectors uuid) sectors := by
  have ⟨last, top⟩ := created_last (n := sectors) (by omega)
  apply HeaderFields.mk
  · exact Or.inl rfl
  · rfl
  · exact (by decide : MIN_SIZE_OF_HEADER ≤ 92)
  · exact (by decide : (92 : UInt32) ≤ MAX_SIZE_OF_HEADER)
  · exact zeroHeader_reserved
  · rfl
  · rfl
  · exact (by decide : 2 + GPT_ENTRIES_SECTORS ≤ 1 + 1 + GPT_ENTRIES_SECTORS)
  · change sectors - 1 - GPT_ENTRIES_SECTORS - 1 < sectors - 1 - GPT_ENTRIES_SECTORS
    rw [UInt64.lt_iff_toNat_lt, last, top]
    omega
  · change 1 + 1 + GPT_ENTRIES_SECTORS ≤ sectors - 1 - GPT_ENTRIES_SECTORS - 1
    rw [UInt64.le_iff_toNat_le, last]
    change 34 ≤ sectors.toNat - 34
    omega

theorem blank_header (gpt : GptData) (uuid : Guid) :
    (blank gpt uuid).primaryHeader.value = blankHeader gpt.driveSectors uuid := by
  rw [blankHeader, ← zeroed_value headerCodec gpt.primaryHeader]
  rfl

theorem blank_entries (gpt : GptData) (uuid : Guid) :
    (blank gpt uuid).primaryEntries.value =
      entriesCodec.decode (List.replicate entriesCodec.width 0) :=
  zeroed_value ..

theorem blank_committable {d : Drive} (uuid : Guid) (sector : d.sectorBytes = 512)
    (room : 68 ≤ d.count) : Committable (blank d.image uuid) := by
  have sectors := d.sectors_toNat
  have few : ¬ d.sectors < 1 + 2 * (1 + GPT_ENTRIES_SECTORS) := by
    rw [UInt64.lt_iff_toNat_lt, sectors]
    change ¬ d.count < 67
    omega
  apply Committable.mk
  · have unit : ¬ (blank d.image uuid).sectorBytes ≠ 512 := not_not.mpr sector
    rw [checkParameters, if_neg unit]
    exact if_neg few
  · rw [blank_header]
    apply blankHeader_fields
    change 68 ≤ d.sectors.toNat
    rwa [sectors]
  · exact ⟨rfl, rfl⟩
  · rfl
  · rfl
  · rw [blank_entries]
    exact zeroed_value ..
  · apply partitioned_of_unused
    rw [blank_entries]
    exact zeroEntries_unused

end A500cg.Gpt
