import A500cg.Gpt.Sanity

/-! Making two good copies of one (`GptRepair`), and the copying the commands do by themselves
(`RepairHeader`, `RepairEntries`, `UpdateCrc`). -/

namespace A500cg.Gpt

open Lib

/-- The header with `HeaderCrc` in its checksum field. -/
def withHeaderCrc (h : Overlay GptHeader) : Overlay GptHeader :=
  { h with value := { h.value with headerCrc32 := headerCrc h } }

def atEnd (v : GptHeader) (driveSectors : UInt64) : GptHeader :=
  { v with
    myLba := driveSectors - 1
    alternateLba := 1
    entriesLba := driveSectors - 1 - GPT_ENTRIES_SECTORS }

def atFront (v : GptHeader) (driveSectors : UInt64) : GptHeader :=
  { v with myLba := 1, alternateLba := driveSectors - 1, entriesLba := 1 + 1 }

def repairHeaders (gpt : GptData) : GptData :=
  if gpt.validHeaders = MASK_PRIMARY then
    { gpt with
      secondaryHeader := withHeaderCrc
        { gpt.secondaryHeader with value := atEnd gpt.primaryHeader.value gpt.driveSectors }
      modified := { gpt.modified with header2 := true }
      validHeaders := MASK_BOTH }
  else if gpt.validHeaders = MASK_SECONDARY then
    { gpt with
      primaryHeader := withHeaderCrc
        { gpt.primaryHeader with value := atFront gpt.secondaryHeader.value gpt.driveSectors }
      modified := { gpt.modified with header1 := true }
      validHeaders := MASK_BOTH }
  else { gpt with validHeaders := MASK_BOTH }

/-- `entries_size` is the whole table under a header that passed `CheckHeader`. -/
def repairTables (gpt : GptData) : GptData :=
  if gpt.validEntries = MASK_PRIMARY then
    { gpt with
      secondaryEntries := { gpt.secondaryEntries with value := gpt.primaryEntries.value }
      modified := { gpt.modified with entries2 := true }
      validEntries := MASK_BOTH }
  else if gpt.validEntries = MASK_SECONDARY then
    { gpt with
      primaryEntries := { gpt.primaryEntries with value := gpt.secondaryEntries.value }
      modified := { gpt.modified with entries1 := true }
      validEntries := MASK_BOTH }
  else { gpt with validEntries := MASK_BOTH }

def gptRepair (gpt : GptData) : GptData :=
  if gpt.validHeaders = MASK_NONE ∨ gpt.validEntries = MASK_NONE then gpt
  else repairTables (repairHeaders gpt)

def isSynonymous (a b : GptHeader) : Bool :=
  a.firstUsableLba == b.firstUsableLba && a.lastUsableLba == b.lastUsableLba &&
  a.numberOfEntries == b.numberOfEntries && a.sizeOfEntry == b.sizeOfEntry &&
  a.diskUuid == b.diskUuid

def copySynonymousParts (target source : GptHeader) : GptHeader :=
  { target with
    firstUsableLba := source.firstUsableLba
    lastUsableLba := source.lastUsableLba
    numberOfEntries := source.numberOfEntries
    sizeOfEntry := source.sizeOfEntry
    diskUuid := source.diskUuid }

/-- `RepairHeader` for the masks its callers pass; the checksums are left to `UpdateCrc`. -/
def repairHeader (gpt : GptData) (validHeaders : Mask) : Modified × GptData :=
  if validHeaders = MASK_BOTH then
    if isSynonymous gpt.primaryHeader.value gpt.secondaryHeader.value then (UNMODIFIED, gpt)
    else ({ UNMODIFIED with header2 := true }, { gpt with
      secondaryHeader := { gpt.secondaryHeader with
        value := copySynonymousParts gpt.secondaryHeader.value gpt.primaryHeader.value } })
  else if validHeaders = MASK_PRIMARY then
    ({ UNMODIFIED with header2 := true }, { gpt with
      secondaryHeader := { gpt.secondaryHeader with value := { gpt.primaryHeader.value with
        myLba := gpt.driveSectors - 1
        alternateLba := gpt.primaryHeader.value.myLba
        entriesLba := gpt.driveSectors - 1 - GPT_ENTRIES_SECTORS } } })
  else if validHeaders = MASK_SECONDARY then
    ({ UNMODIFIED with header1 := true }, { gpt with
      primaryHeader := { gpt.primaryHeader with value := { gpt.secondaryHeader.value with
        myLba := GPT_PMBR_SECTOR
        alternateLba := gpt.secondaryHeader.value.myLba
        entriesLba := GPT_PMBR_SECTOR + GPT_HEADER_SECTOR } } })
  else (UNMODIFIED, gpt)

def repairEntries (gpt : GptData) (validEntries : Mask) : Modified × GptData :=
  if gpt.primaryHeader.value.signature = GPT_HEADER_SIGNATURE2 then (UNMODIFIED, gpt)
  else if validEntries = MASK_BOTH ∧ gpt.primaryEntries.value ≠ gpt.secondaryEntries.value ∨
      validEntries = MASK_PRIMARY then
    ({ UNMODIFIED with entries2 := true }, { gpt with
      secondaryEntries := { gpt.secondaryEntries with value := gpt.primaryEntries.value } })
  else if validEntries = MASK_SECONDARY then
    ({ UNMODIFIED with entries1 := true }, { gpt with
      primaryEntries := { gpt.primaryEntries with value := gpt.secondaryEntries.value } })
  else (UNMODIFIED, gpt)

/-- The checksum `UpdateCrc` gives a header: of the record alone, whatever its `size` says. -/
def recordCrc (v : GptHeader) : UInt32 := crc32 (headerCodec.encode { v with headerCrc32 := 0 })

def withEntriesCrc (h : Overlay GptHeader) (entries : Overlay Entries) : Overlay GptHeader :=
  { h with value := { h.value with entriesCrc32 := crc32 (entriesCodec.encode entries.value) } }

def withRecordCrc (h : Overlay GptHeader) : Overlay GptHeader :=
  { h with value := { h.value with headerCrc32 := recordCrc h.value } }

/-- The nine bytes `UpdateCrc` compares reach one byte into `revision`. -/
def startsWithSignature2 (v : GptHeader) : Bool :=
  v.signature == GPT_HEADER_SIGNATURE2 && v.revision &&& 0xff == 0

def updateCrc (gpt : GptData) : GptData :=
  let primary := if gpt.modified.entries1 && !startsWithSignature2 gpt.primaryHeader.value then
    withEntriesCrc gpt.primaryHeader gpt.primaryEntries else gpt.primaryHeader
  let secondary := if gpt.modified.entries2 then
    withEntriesCrc gpt.secondaryHeader gpt.secondaryEntries else gpt.secondaryHeader
  { gpt with
    primaryHeader := if gpt.modified.header1 then withRecordCrc primary else primary
    secondaryHeader := if gpt.modified.header2 then withRecordCrc secondary else secondary }

theorem checkHeader_rebuilt {v : GptHeader} {driveSectors : UInt64} (h : Overlay GptHeader)
    (isSecondary : Bool) (good : HeaderFields v driveSectors) (same : v.shared = h.value.shared)
    (placed : Placed h.value isSecondary driveSectors) :
    checkHeader (withHeaderCrc h) isSecondary driveSectors = true := by
  rw [checkHeader_iff]
  exact ⟨good.of_shared same, rfl, placed⟩

def trustedHeader (gpt : GptData) : GptHeader :=
  if gpt.validHeaders.primary then gpt.primaryHeader.value else gpt.secondaryHeader.value

def trustedTable (gpt : GptData) : Entries :=
  if gpt.validEntries.primary then gpt.primaryEntries.value else gpt.secondaryEntries.value

/-- Two good copies of one header, each over a table that it describes. -/
structure Paired (gpt : GptData) (v : GptHeader) : Prop where
  parameters : checkParameters gpt = none
  fields : HeaderFields v gpt.driveSectors
  primary_shared : gpt.primaryHeader.value.shared = v.shared
  secondary_shared : gpt.secondaryHeader.value.shared = v.shared
  primary_crc : headerCrc gpt.primaryHeader = gpt.primaryHeader.value.headerCrc32
  secondary_crc : headerCrc gpt.secondaryHeader = gpt.secondaryHeader.value.headerCrc32
  primary_placed : Placed gpt.primaryHeader.value false gpt.driveSectors
  secondary_placed : Placed gpt.secondaryHeader.value true gpt.driveSectors
  primary_table : Describes v gpt.primaryEntries.value
  secondary_table : Describes v gpt.secondaryEntries.value

theorem Paired.primary_good {gpt : GptData} {v : GptHeader} (paired : Paired gpt v) :
    checkHeader gpt.primaryHeader false gpt.driveSectors = true :=
  (checkHeader_iff ..).mpr ⟨paired.fields.of_shared paired.primary_shared.symm, paired.primary_crc,
    paired.primary_placed⟩

theorem Paired.secondary_good {gpt : GptData} {v : GptHeader} (paired : Paired gpt v) :
    checkHeader gpt.secondaryHeader true gpt.driveSectors = true :=
  (checkHeader_iff ..).mpr ⟨paired.fields.of_shared paired.secondary_shared.symm,
    paired.secondary_crc, paired.secondary_placed⟩

theorem Paired.under_primary {gpt : GptData} {v : GptHeader} (paired : Paired gpt v) :
    Paired gpt gpt.primaryHeader.value where
  parameters := paired.parameters
  fields := paired.fields.of_shared paired.primary_shared.symm
  primary_shared := rfl
  secondary_shared := paired.secondary_shared.trans paired.primary_shared.symm
  primary_crc := paired.primary_crc
  secondary_crc := paired.secondary_crc
  primary_placed := paired.primary_placed
  secondary_placed := paired.secondary_placed
  primary_table := paired.primary_table.of_shared paired.primary_shared.symm
  secondary_table := paired.secondary_table.of_shared paired.primary_shared.symm

theorem checkEntries_of_describes {v h : GptHeader} {driveSectors : UInt64} {entries : Overlay Entries}
    (fields : HeaderFields v driveSectors) (same : v.shared = h.shared)
    (described : Describes v entries.value) : checkEntries entries h = none :=
  (checkEntries_iff_describes (fields.of_shared same) entries).mpr (described.of_shared same)

theorem Paired.checks {gpt : GptData} {v : GptHeader} (paired : Paired gpt v) :
    gptSanityCheck gpt =
      (none, { gpt with validHeaders := MASK_BOTH, validEntries := MASK_BOTH }) := by
  have same := paired.primary_shared.symm
  apply gptSanityCheck_both paired.parameters paired.primary_good paired.secondary_good
  · rw [headerFieldsSame_iff, paired.primary_shared, paired.secondary_shared]
  · rw [entriesUnder, checkEntries_of_describes paired.fields same paired.primary_table,
      checkEntries_of_describes paired.fields same paired.secondary_table]
    rfl

theorem gptSanityCheck_state {gpt gpt' : GptData} (passed : gptSanityCheck gpt = (none, gpt')) :
    CheckPassed gpt' gpt'.validHeaders gpt'.validEntries := by
  obtain ⟨state, accepted⟩ := gptSanityCheck_accepted passed
  generalize gpt'.validHeaders = headers at *
  generalize gpt'.validEntries = entries at *
  subst state
  exact ⟨accepted.parameters, accepted.headers_some, accepted.entries_some, accepted.primary_good,
    accepted.secondary_good, accepted.primary_describes, accepted.secondary_describes, accepted.same⟩

theorem CheckPassed.fields {gpt : GptData} {headers entries : Mask} (accepted : CheckPassed gpt headers entries) :
    HeaderFields (if headers.primary then gpt.primaryHeader.value else gpt.secondaryHeader.value)
      gpt.driveSectors := by
  cases primary : headers.primary with
  | true => exact ((checkHeader_iff ..).mp (accepted.primary_good primary)).1
  | false =>
      have secondary : headers.secondary = true := by
        have any := accepted.headers_some
        rw [ne_eq, Mask.eq_none_iff, primary] at any
        simpa using any
      exact ((checkHeader_iff ..).mp (accepted.secondary_good secondary)).1

theorem CheckPassed.described {gpt : GptData} {headers entries : Mask}
    (accepted : CheckPassed gpt headers entries) :
    entries = entriesUnder gpt
      (if headers.primary then gpt.primaryHeader.value else gpt.secondaryHeader.value) := by
  cases primary : headers.primary with
  | true => exact accepted.primary_describes primary
  | false => exact accepted.secondary_describes primary

theorem repairHeaders_good {gpt : GptData}
    (accepted : CheckPassed gpt gpt.validHeaders gpt.validEntries) :
    (checkHeader (repairHeaders gpt).primaryHeader false gpt.driveSectors = true ∧
      (repairHeaders gpt).primaryHeader.value.shared = (trustedHeader gpt).shared) ∧
      checkHeader (repairHeaders gpt).secondaryHeader true gpt.driveSectors = true ∧
      (repairHeaders gpt).secondaryHeader.value.shared = (trustedHeader gpt).shared := by
  have fields : HeaderFields (trustedHeader gpt) gpt.driveSectors := accepted.fields
  obtain ⟨_, any, _, first, second, _, _, same⟩ := accepted
  unfold repairHeaders
  split_ifs with primary secondary
  · have trusted : trustedHeader gpt = gpt.primaryHeader.value := by
      rw [trustedHeader, primary]
      rfl
    rw [trusted] at fields ⊢
    exact ⟨⟨first (by rw [primary]; rfl), rfl⟩,
      checkHeader_rebuilt _ true fields rfl ⟨rfl, rfl⟩, rfl⟩
  · have trusted : trustedHeader gpt = gpt.secondaryHeader.value := by
      rw [trustedHeader, secondary]
      rfl
    rw [trusted] at fields ⊢
    exact ⟨⟨checkHeader_rebuilt _ false fields rfl ⟨rfl, rfl⟩, rfl⟩,
      second (by rw [secondary]; rfl), rfl⟩
  · have both : gpt.validHeaders = MASK_BOTH := by
      generalize gpt.validHeaders = headers at *
      obtain ⟨p, s⟩ := headers
      revert any primary secondary
      cases p <;> cases s <;> simp [MASK_BOTH, MASK_NONE, MASK_PRIMARY, MASK_SECONDARY]
    have trusted : trustedHeader gpt = gpt.primaryHeader.value := by
      rw [trustedHeader, both]
      rfl
    rw [trusted]
    have agree := (headerFieldsSame_iff _ _).mp (same both)
    exact ⟨⟨first (by rw [both]; rfl), rfl⟩, second (by rw [both]; rfl), agree.symm⟩

theorem repairHeaders_frame (gpt : GptData) :
    (repairHeaders gpt).primaryEntries = gpt.primaryEntries ∧
      (repairHeaders gpt).secondaryEntries = gpt.secondaryEntries ∧
      (repairHeaders gpt).validEntries = gpt.validEntries ∧
      (repairHeaders gpt).sectorBytes = gpt.sectorBytes ∧
      (repairHeaders gpt).driveSectors = gpt.driveSectors ∧
      (repairHeaders gpt).validHeaders = MASK_BOTH := by
  unfold repairHeaders
  split_ifs
  · exact ⟨rfl, rfl, rfl, rfl, rfl, rfl⟩
  · exact ⟨rfl, rfl, rfl, rfl, rfl, rfl⟩
  · exact ⟨rfl, rfl, rfl, rfl, rfl, rfl⟩

theorem repairTables_frame (gpt : GptData) :
    (repairTables gpt).primaryHeader = gpt.primaryHeader ∧
      (repairTables gpt).secondaryHeader = gpt.secondaryHeader ∧
      (repairTables gpt).validHeaders = gpt.validHeaders ∧
      (repairTables gpt).sectorBytes = gpt.sectorBytes ∧
      (repairTables gpt).driveSectors = gpt.driveSectors ∧
      (repairTables gpt).validEntries = MASK_BOTH := by
  unfold repairTables
  split_ifs
  · exact ⟨rfl, rfl, rfl, rfl, rfl, rfl⟩
  · exact ⟨rfl, rfl, rfl, rfl, rfl, rfl⟩
  · exact ⟨rfl, rfl, rfl, rfl, rfl, rfl⟩

theorem repairTables_tables (gpt : GptData) :
    (repairTables gpt).primaryEntries.value =
        (if gpt.validEntries = MASK_SECONDARY then gpt.secondaryEntries.value
          else gpt.primaryEntries.value) ∧
      (repairTables gpt).secondaryEntries.value =
        (if gpt.validEntries = MASK_PRIMARY then gpt.primaryEntries.value
          else gpt.secondaryEntries.value) := by
  unfold repairTables
  split_ifs with first second second
  · rw [first] at second
    cases second
  · exact ⟨rfl, rfl⟩
  · exact ⟨rfl, rfl⟩
  · exact ⟨rfl, rfl⟩

theorem gptRepair_paired {gpt : GptData}
    (accepted : CheckPassed gpt gpt.validHeaders gpt.validEntries) :
    Paired (gptRepair gpt) (trustedHeader gpt) := by
  have fields : HeaderFields (trustedHeader gpt) gpt.driveSectors := accepted.fields
  have described : gpt.validEntries = entriesUnder gpt (trustedHeader gpt) := accepted.described
  have first : gpt.validEntries.primary = true →
      Describes (trustedHeader gpt) gpt.primaryEntries.value := by
    intro valid
    rw [described] at valid
    exact (checkEntries_iff_describes fields _).mp (Option.isNone_iff_eq_none.mp valid)
  have second : gpt.validEntries.secondary = true →
      Describes (trustedHeader gpt) gpt.secondaryEntries.value := by
    intro valid
    rw [described] at valid
    exact (checkEntries_iff_describes fields _).mp (Option.isNone_iff_eq_none.mp valid)
  obtain ⟨⟨good1, same1⟩, good2, same2⟩ := repairHeaders_good accepted
  obtain ⟨entries1, entries2, valid, sector, sectors, _⟩ := repairHeaders_frame gpt
  obtain ⟨header1, header2, _, sector', sectors', _⟩ := repairTables_frame (repairHeaders gpt)
  obtain ⟨table1, table2⟩ := repairTables_tables (repairHeaders gpt)
  have repaired : gptRepair gpt = repairTables (repairHeaders gpt) :=
    if_neg (not_or.mpr ⟨accepted.headers_some, accepted.entries_some⟩)
  have parameters : checkParameters (repairTables (repairHeaders gpt)) = none := by
    rw [checkParameters, sector', sectors', sector, sectors]
    exact accepted.parameters
  have ⟨_, crc1, placed1⟩ := (checkHeader_iff ..).mp good1
  have ⟨_, crc2, placed2⟩ := (checkHeader_iff ..).mp good2
  rw [entries1, entries2, valid] at table1 table2
  have any := accepted.entries_some
  rw [ne_eq, Mask.eq_none_iff] at any
  rw [repaired]
  apply Paired.mk parameters
  · rwa [sectors', sectors]
  · rwa [header1]
  · rwa [header2]
  · rwa [header1]
  · rwa [header2]
  · rwa [header1, sectors', sectors]
  · rwa [header2, sectors', sectors]
  · rw [table1]
    split_ifs with only
    · exact second (by rw [only]; rfl)
    · apply first
      generalize gpt.validEntries = entries at *
      obtain ⟨p, q⟩ := entries
      revert any only
      cases p <;> cases q <;> simp [MASK_SECONDARY]
  · rw [table2]
    split_ifs with only
    · exact first (by rw [only]; rfl)
    · apply second
      generalize gpt.validEntries = entries at *
      obtain ⟨p, q⟩ := entries
      revert any only
      cases p <;> cases q <;> simp [MASK_PRIMARY]

end A500cg.Gpt
