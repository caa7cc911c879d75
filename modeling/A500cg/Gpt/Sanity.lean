import A500cg.Gpt.Format
import A500cg.Lib.Intervals

/-! Which headers and entries of a drive can be trusted (`cgptlib_internal.c`). -/

namespace A500cg.Gpt

open Lib

def checkParameters (gpt : GptData) : Option GptError :=
  if gpt.sectorBytes ≠ 512 then some .invalidSectorSize
  else if gpt.driveSectors < 1 + 2 * (1 + GPT_ENTRIES_SECTORS) then some .invalidSectorNumber
  else none

/-- The checksum of the first `size` bytes of the sector, with the checksum field 0. -/
def headerCrc (h : Overlay GptHeader) : UInt32 :=
  crc32 ((headerCodec.bytes { h with value := { h.value with headerCrc32 := 0 } }).take
    h.value.size.toNat)

def checkHeader (h : Overlay GptHeader) (isSecondary : Bool) (driveSectors : UInt64) : Bool :=
  let v := h.value
  (v.signature == GPT_HEADER_SIGNATURE || v.signature == GPT_HEADER_SIGNATURE2) &&
  v.revision == GPT_HEADER_REVISION &&
  decide (MIN_SIZE_OF_HEADER ≤ v.size ∧ v.size ≤ MAX_SIZE_OF_HEADER) &&
  headerCrc h == v.headerCrc32 &&
  v.reservedZero == 0 &&
  v.sizeOfEntry == 128 &&
  decide (MIN_NUMBER_OF_ENTRIES ≤ v.numberOfEntries ∧ v.numberOfEntries ≤ MAX_NUMBER_OF_ENTRIES) &&
  v.numberOfEntries * v.sizeOfEntry == TOTAL_ENTRIES_SIZE &&
  (if isSecondary then
    v.myLba == driveSectors - 1 && v.entriesLba == v.myLba - GPT_ENTRIES_SECTORS
  else
    v.myLba == 1 && v.entriesLba == v.myLba + 1) &&
  decide (2 + GPT_ENTRIES_SECTORS ≤ v.firstUsableLba) &&
  decide (v.lastUsableLba < driveSectors - 1 - GPT_ENTRIES_SECTORS) &&
  decide (v.firstUsableLba ≤ v.lastUsableLba)

/-- What `CheckEntries` finds wrong with an entry beside another one. -/
def pairError (e e2 : GptEntry) : Option GptError :=
  if e2.startingLba ≤ e.startingLba ∧ e.startingLba ≤ e2.endingLba then some .startLbaOverlap
  else if e2.startingLba ≤ e.endingLba ∧ e.endingLba ≤ e2.endingLba then some .endLbaOverlap
  else if e.unique = e2.unique then some .dupGuid
  else none

def entryError (h : GptHeader) (table : List (GptEntry × Nat)) (e : GptEntry × Nat) :
    Option GptError :=
  if e.1.isUnused then none
  else if e.1.startingLba < h.firstUsableLba ∨ h.lastUsableLba < e.1.endingLba ∨
      e.1.endingLba < e.1.startingLba then some .outOfRegion
  else table.findSome? fun e2 =>
    if e2.2 = e.2 ∨ e2.1.isUnused = true then none else pairError e.1 e2.1

def countedEntries (entries : Overlay Entries) (h : GptHeader) : List GptEntry :=
  entries.value.toList.take h.numberOfEntries.toNat

def entriesCrc (entries : Overlay Entries) (h : GptHeader) : UInt32 :=
  crc32 ((entriesCodec.bytes entries).take (h.sizeOfEntry * h.numberOfEntries).toNat)

def checkEntries (entries : Overlay Entries) (h : GptHeader) : Option GptError :=
  if entriesCrc entries h ≠ h.entriesCrc32 then some .crcCorrupted
  else (countedEntries entries h).zipIdx.findSome?
    (entryError h (countedEntries entries h).zipIdx)

def headerFieldsSame (h1 h2 : GptHeader) : Bool :=
  h1.signature == h2.signature && h1.revision == h2.revision && h1.size == h2.size &&
  h1.reservedZero == h2.reservedZero && h1.firstUsableLba == h2.firstUsableLba &&
  h1.lastUsableLba == h2.lastUsableLba && h1.diskUuid == h2.diskUuid &&
  h1.numberOfEntries == h2.numberOfEntries && h1.sizeOfEntry == h2.sizeOfEntry &&
  h1.entriesCrc32 == h2.entriesCrc32

def entriesUnder (gpt : GptData) (goodhdr : GptHeader) : Mask where
  primary := (checkEntries gpt.primaryEntries goodhdr).isNone
  secondary := (checkEntries gpt.secondaryEntries goodhdr).isNone

def headersFound (gpt : GptData) : Mask where
  primary := checkHeader gpt.primaryHeader false gpt.driveSectors
  secondary := checkHeader gpt.secondaryHeader true gpt.driveSectors

def goodHeader (gpt : GptData) : GptHeader :=
  if (headersFound gpt).primary then gpt.primaryHeader.value else gpt.secondaryHeader.value

/-- Both headers are good but neither table is under the first: they are tried under the second. -/
def triesSecond (gpt : GptData) : Bool :=
  headersFound gpt == MASK_BOTH && entriesUnder gpt (goodHeader gpt) == MASK_NONE

def entriesFound (gpt : GptData) : Mask :=
  if triesSecond gpt then entriesUnder gpt gpt.secondaryHeader.value
  else entriesUnder gpt (goodHeader gpt)

def headersKept (gpt : GptData) : Mask :=
  if triesSecond gpt && entriesFound gpt != MASK_NONE then MASK_SECONDARY else headersFound gpt

def gptSanityCheck (gpt : GptData) : Option GptError × GptData :=
  if (checkParameters gpt).isSome then
    (checkParameters gpt, { gpt with validHeaders := MASK_NONE, validEntries := MASK_NONE })
  else if headersFound gpt = MASK_NONE then
    (some .invalidHeaders, { gpt with validHeaders := MASK_NONE, validEntries := MASK_NONE })
  else if entriesFound gpt = MASK_NONE then
    (some .invalidEntries, { gpt with validHeaders := headersKept gpt, validEntries := MASK_NONE })
  else if headersKept gpt = MASK_BOTH ∧
      headerFieldsSame gpt.primaryHeader.value gpt.secondaryHeader.value = false then
    (none, { gpt with validHeaders := MASK_PRIMARY, validEntries := entriesFound gpt })
  else
    (none, { gpt with validHeaders := headersKept gpt, validEntries := entriesFound gpt })

/-- The fields that both copies of a header share, when `CheckHeader` accepts it. -/
structure HeaderFields (v : GptHeader) (driveSectors : UInt64) : Prop where
  signature : v.signature = GPT_HEADER_SIGNATURE ∨ v.signature = GPT_HEADER_SIGNATURE2
  revision : v.revision = GPT_HEADER_REVISION
  size_min : MIN_SIZE_OF_HEADER ≤ v.size
  size_max : v.size ≤ MAX_SIZE_OF_HEADER
  reservedZero : v.reservedZero = 0
  sizeOfEntry : v.sizeOfEntry = 128
  numberOfEntries : v.numberOfEntries = 128
  first_usable : 2 + GPT_ENTRIES_SECTORS ≤ v.firstUsableLba
  last_usable : v.lastUsableLba < driveSectors - 1 - GPT_ENTRIES_SECTORS
  usable : v.firstUsableLba ≤ v.lastUsableLba

def Placed (v : GptHeader) (isSecondary : Bool) (driveSectors : UInt64) : Prop :=
  if isSecondary then v.myLba = driveSectors - 1 ∧ v.entriesLba = v.myLba - GPT_ENTRIES_SECTORS
  else v.myLba = 1 ∧ v.entriesLba = v.myLba + 1

def GptHeader.shared (v : GptHeader) : GptHeader :=
  { v with headerCrc32 := 0, myLba := 0, alternateLba := 0, entriesLba := 0 }

theorem headerFieldsSame_iff (a b : GptHeader) :
    headerFieldsSame a b = true ↔ a.shared = b.shared := by
  simp only [headerFieldsSame, GptHeader.shared, Bool.and_eq_true, beq_iff_eq, GptHeader.mk.injEq,
    true_and, and_assoc]

theorem HeaderFields.shared_iff (v : GptHeader) (driveSectors : UInt64) :
    HeaderFields v.shared driveSectors ↔ HeaderFields v driveSectors := by
  constructor
  · intro f
    exact ⟨f.signature, f.revision, f.size_min, f.size_max, f.reservedZero, f.sizeOfEntry,
      f.numberOfEntries, f.first_usable, f.last_usable, f.usable⟩
  · intro f
    exact ⟨f.signature, f.revision, f.size_min, f.size_max, f.reservedZero, f.sizeOfEntry,
      f.numberOfEntries, f.first_usable, f.last_usable, f.usable⟩

theorem HeaderFields.of_shared {a b : GptHeader} {driveSectors : UInt64} (same : a.shared = b.shared)
    (fields : HeaderFields a driveSectors) : HeaderFields b driveSectors := by
  rwa [← shared_iff, ← same, shared_iff]

theorem numberOfEntries_iff (v : GptHeader) (sized : v.sizeOfEntry = 128) :
    (MIN_NUMBER_OF_ENTRIES ≤ v.numberOfEntries ∧ v.numberOfEntries ≤ MAX_NUMBER_OF_ENTRIES) ∧
      v.numberOfEntries * v.sizeOfEntry = TOTAL_ENTRIES_SIZE ↔ v.numberOfEntries = 128 := by
  rw [sized]
  constructor
  · rintro ⟨⟨-, most⟩, product⟩
    have most' : v.numberOfEntries.toNat ≤ 512 := UInt32.le_iff_toNat_le.mp most
    have product' : v.numberOfEntries.toNat * 128 % 2 ^ 32 = 16384 := congrArg UInt32.toNat product
    apply UInt32.toNat_inj.mp
    change v.numberOfEntries.toNat = 128
    omega
  · intro count
    rw [count]
    decide

theorem checkHeader_iff (h : Overlay GptHeader) (isSecondary : Bool) (driveSectors : UInt64) :
    checkHeader h isSecondary driveSectors = true ↔
      HeaderFields h.value driveSectors ∧ headerCrc h = h.value.headerCrc32 ∧
        Placed h.value isSecondary driveSectors := by
  have place : (if isSecondary then
      h.value.myLba == driveSectors - 1 && h.value.entriesLba == h.value.myLba - GPT_ENTRIES_SECTORS
    else h.value.myLba == 1 && h.value.entriesLba == h.value.myLba + 1) = true ↔
      Placed h.value isSecondary driveSectors := by
    cases isSecondary <;> simp [Placed]
  unfold checkHeader
  simp only [Bool.and_eq_true, Bool.or_eq_true, beq_iff_eq, decide_eq_true_eq, place]
  constructor
  · rintro ⟨⟨⟨⟨⟨⟨⟨⟨⟨⟨⟨sign, rev⟩, size⟩, crc⟩, zero⟩, entry⟩, number⟩, total⟩, placed⟩, first⟩, last⟩, usable⟩
    have count := (numberOfEntries_iff h.value entry).mp ⟨number, total⟩
    exact ⟨⟨sign, rev, size.1, size.2, zero, entry, count, first, last, usable⟩, crc, placed⟩
  · rintro ⟨fields, crc, placed⟩
    have ⟨number, total⟩ := (numberOfEntries_iff h.value fields.sizeOfEntry).mpr fields.numberOfEntries
    exact ⟨⟨⟨⟨⟨⟨⟨⟨⟨⟨⟨fields.signature, fields.revision⟩, fields.size_min, fields.size_max⟩, crc⟩,
      fields.reservedZero⟩, fields.sizeOfEntry⟩, number⟩, total⟩, placed⟩, fields.first_usable⟩,
      fields.last_usable⟩, fields.usable⟩

def GptEntry.sectors (e : GptEntry) : Set Nat := Set.Icc e.startingLba.toNat e.endingLba.toNat

/-- What a partition table is for: every used partition lies in the usable region, and no two
share a sector or a unique GUID. -/
structure Partitioned (h : GptHeader) (table : List GptEntry) : Prop where
  inside : ∀ e ∈ table, e.isUnused = false → e.startingLba ≤ e.endingLba ∧
    e.sectors ⊆ Set.Icc h.firstUsableLba.toNat h.lastUsableLba.toNat
  apart : table.Pairwise fun a b => a.isUnused = false → b.isUnused = false →
    Disjoint a.sectors b.sectors ∧ a.unique ≠ b.unique

theorem pairError_eq_none_iff (e e2 : GptEntry) :
    pairError e e2 = none ↔
      (¬ (e2.startingLba.toNat ≤ e.startingLba.toNat ∧ e.startingLba.toNat ≤ e2.endingLba.toNat) ∧
        ¬ (e2.startingLba.toNat ≤ e.endingLba.toNat ∧ e.endingLba.toNat ≤ e2.endingLba.toNat)) ∧
      e.unique ≠ e2.unique := by
  simp only [← UInt64.le_iff_toNat_le]
  unfold pairError
  split_ifs with start finish guid
  · simp [start]
  · simp [finish]
  · simp [guid]
  · simp only [start, finish, guid, not_false_eq_true, ne_eq, and_self]

theorem region_iff (e : GptEntry) (h : GptHeader) :
    ¬ (e.startingLba < h.firstUsableLba ∨ h.lastUsableLba < e.endingLba ∨
        e.endingLba < e.startingLba) ↔
      e.startingLba ≤ e.endingLba ∧
        e.sectors ⊆ Set.Icc h.firstUsableLba.toNat h.lastUsableLba.toNat := by
  simp only [UInt64.lt_iff_toNat_lt, UInt64.le_iff_toNat_le, GptEntry.sectors]
  constructor
  · intro region
    have ordered : e.startingLba.toNat ≤ e.endingLba.toNat := by omega
    exact ⟨ordered, Set.Icc_subset_Icc (by omega) (by omega)⟩
  · rintro ⟨ordered, inside⟩
    have bounds := (Set.Icc_subset_Icc_iff ordered).mp inside
    omega

theorem pairErrors_iff {a b : GptEntry} (first : a.startingLba ≤ a.endingLba)
    (second : b.startingLba ≤ b.endingLba) :
    pairError a b = none ∧ pairError b a = none ↔
      Disjoint a.sectors b.sectors ∧ a.unique ≠ b.unique := by
  rw [pairError_eq_none_iff, pairError_eq_none_iff, GptEntry.sectors, GptEntry.sectors,
    disjoint_Icc_iff_ends (UInt64.le_iff_toNat_le.mp first) (UInt64.le_iff_toNat_le.mp second)]
  constructor
  · rintro ⟨⟨ends, guid⟩, ends', -⟩
    exact ⟨⟨ends, ends'⟩, guid⟩
  · rintro ⟨⟨ends, ends'⟩, guid⟩
    exact ⟨⟨ends, guid⟩, ends', guid.symm⟩

theorem entryError_eq_none_iff (h : GptHeader) (table : List (GptEntry × Nat)) (e : GptEntry × Nat) :
    entryError h table e = none ↔ (e.1.isUnused = false →
      (e.1.startingLba ≤ e.1.endingLba ∧
        e.1.sectors ⊆ Set.Icc h.firstUsableLba.toNat h.lastUsableLba.toNat) ∧
      ∀ e2 ∈ table, e2.2 ≠ e.2 → e2.1.isUnused = false → pairError e.1 e2.1 = none) := by
  rw [← region_iff]
  unfold entryError
  split_ifs with unused region
  · simp [unused]
  · simp [unused, region]
  · simp [unused, region]

theorem checkEntries_eq_none_iff (entries : Overlay Entries) (h : GptHeader) :
    checkEntries entries h = none ↔
      entriesCrc entries h = h.entriesCrc32 ∧ Partitioned h (countedEntries entries h) := by
  let table := countedEntries entries h
  let clear : GptEntry → GptEntry → Prop := fun a b =>
    a.isUnused = false → b.isUnused = false → pairError a b = none
  have loop : table.zipIdx.findSome? (entryError h table.zipIdx) = none ↔
      (∀ e ∈ table, e.isUnused = false → e.startingLba ≤ e.endingLba ∧
        e.sectors ⊆ Set.Icc h.firstUsableLba.toNat h.lastUsableLba.toNat) ∧
      table.Pairwise fun a b => clear a b ∧ clear b a := by
    rw [List.findSome?_eq_none_iff, ← pairwise_zipIdx_iff, ← forall_zipIdx_iff (fun e : GptEntry =>
      e.isUnused = false → e.startingLba ≤ e.endingLba ∧
        e.sectors ⊆ Set.Icc h.firstUsableLba.toNat h.lastUsableLba.toNat) table]
    simp only [entryError_eq_none_iff]
    constructor
    · intro each
      exact ⟨fun x member used => (each x member used).1,
        fun x member y other apart used used' => (each x member used).2 y other apart used'⟩
    · rintro ⟨region, pairs⟩ x member used
      exact ⟨region x member used, fun y other apart used' => pairs x member y other apart used used'⟩
  have spec : table.zipIdx.findSome? (entryError h table.zipIdx) = none ↔ Partitioned h table := by
    rw [loop]
    have meaning : (∀ e ∈ table, e.isUnused = false → e.startingLba ≤ e.endingLba ∧
        e.sectors ⊆ Set.Icc h.firstUsableLba.toNat h.lastUsableLba.toNat) →
        ∀ a ∈ table, ∀ b ∈ table, ((clear a b ∧ clear b a) ↔ (a.isUnused = false →
          b.isUnused = false → Disjoint a.sectors b.sectors ∧ a.unique ≠ b.unique)) := by
      intro region a mem_a b mem_b
      constructor
      · rintro ⟨left, right⟩ used used'
        exact (pairErrors_iff (region a mem_a used).1 (region b mem_b used').1).mp
          ⟨left used used', right used' used⟩
      · intro apart
        have both : a.isUnused = false → b.isUnused = false →
            pairError a b = none ∧ pairError b a = none := fun used used' =>
          (pairErrors_iff (region a mem_a used).1 (region b mem_b used').1).mpr (apart used used')
        exact ⟨fun used used' => (both used used').1, fun used used' => (both used' used).2⟩
    constructor
    · rintro ⟨region, pairs⟩
      exact ⟨region, pairs.imp_of_mem fun {a b} mem_a mem_b =>
        (meaning region a mem_a b mem_b).mp⟩
    · rintro ⟨region, pairs⟩
      exact ⟨region, pairs.imp_of_mem fun {a b} mem_a mem_b =>
        (meaning region a mem_a b mem_b).mpr⟩
  rw [← spec, checkEntries]
  split_ifs with crc
  · simp [crc]
  · simp [not_not.mp crc, table]

/-- The table a header describes: its checksum and what it is for. -/
def Describes (h : GptHeader) (table : Entries) : Prop :=
  crc32 (entriesCodec.encode table) = h.entriesCrc32 ∧ Partitioned h table.toList

theorem describes_shared_iff (h : GptHeader) (table : Entries) :
    Describes h.shared table ↔ Describes h table := by
  constructor
  · intro d
    exact ⟨d.1, d.2.inside, d.2.apart⟩
  · intro d
    exact ⟨d.1, d.2.inside, d.2.apart⟩

theorem Describes.of_shared {a b : GptHeader} {table : Entries} (same : a.shared = b.shared)
    (describes : Describes a table) : Describes b table := by
  rwa [← describes_shared_iff, ← same, describes_shared_iff]

theorem checkEntries_iff_describes {h : GptHeader} {driveSectors : UInt64}
    (fields : HeaderFields h driveSectors) (entries : Overlay Entries) :
    checkEntries entries h = none ↔ Describes h entries.value := by
  have bytes : (entriesCodec.bytes entries).take (h.sizeOfEntry * h.numberOfEntries).toNat =
      entriesCodec.encode entries.value := by
    rw [fields.sizeOfEntry, fields.numberOfEntries, Codec.bytes]
    exact List.take_left' (entriesCodec.encode_length _)
  have all : countedEntries entries h = entries.value.toList := by
    rw [countedEntries, fields.numberOfEntries]
    exact List.take_of_length_le (by simp)
  rw [checkEntries_eq_none_iff, entriesCrc, bytes, all]
  rfl

structure CheckPassed (gpt : GptData) (headers entries : Mask) : Prop where
  parameters : checkParameters gpt = none
  headers_some : headers ≠ MASK_NONE
  entries_some : entries ≠ MASK_NONE
  primary_good : headers.primary = true → checkHeader gpt.primaryHeader false gpt.driveSectors = true
  secondary_good : headers.secondary = true →
    checkHeader gpt.secondaryHeader true gpt.driveSectors = true
  primary_describes : headers.primary = true → entries = entriesUnder gpt gpt.primaryHeader.value
  secondary_describes : headers.primary = false → entries = entriesUnder gpt gpt.secondaryHeader.value
  same : headers = MASK_BOTH →
    headerFieldsSame gpt.primaryHeader.value gpt.secondaryHeader.value = true

theorem Mask.eq_both_iff (m : Mask) : m = MASK_BOTH ↔ m.primary = true ∧ m.secondary = true := by
  obtain ⟨primary, secondary⟩ := m
  simp [MASK_BOTH]

theorem Mask.eq_none_iff (m : Mask) : m = MASK_NONE ↔ m.primary = false ∧ m.secondary = false := by
  obtain ⟨primary, secondary⟩ := m
  simp [MASK_NONE]

theorem headersKept_spec {gpt : GptData} (any : headersFound gpt ≠ MASK_NONE)
    (found : entriesFound gpt ≠ MASK_NONE) :
    headersKept gpt ≠ MASK_NONE ∧
      ((headersKept gpt).primary = true → (headersFound gpt).primary = true ∧
        entriesFound gpt = entriesUnder gpt gpt.primaryHeader.value) ∧
      ((headersKept gpt).secondary = true → (headersFound gpt).secondary = true) ∧
      ((headersKept gpt).primary = false →
        entriesFound gpt = entriesUnder gpt gpt.secondaryHeader.value) := by
  have kept : headersKept gpt = if triesSecond gpt then MASK_SECONDARY else headersFound gpt := by
    simp [headersKept, bne_iff_ne, found]
  rw [kept, entriesFound]
  cases tries : triesSecond gpt with
  | true =>
      have both : headersFound gpt = MASK_BOTH := by
        simp only [triesSecond, Bool.and_eq_true, beq_iff_eq] at tries
        exact tries.1
      simp [both, MASK_SECONDARY, MASK_NONE, MASK_BOTH]
  | false =>
      have good : goodHeader gpt = if (headersFound gpt).primary then gpt.primaryHeader.value
        else gpt.secondaryHeader.value := rfl
      simp only [Bool.false_eq_true, if_false]
      refine ⟨any, fun primary => ⟨primary, ?_⟩, id, fun primary => ?_⟩
      · rw [good, if_pos primary]
      · rw [good, if_neg (by simp [primary])]

theorem gptSanityCheck_accepted {gpt gpt' : GptData} (passed : gptSanityCheck gpt = (none, gpt')) :
    gpt' = { gpt with validHeaders := gpt'.validHeaders, validEntries := gpt'.validEntries } ∧
      CheckPassed gpt gpt'.validHeaders gpt'.validEntries := by
  unfold gptSanityCheck at passed
  split_ifs at passed with parameters headers entries different
  · have absent := (Prod.mk.inj passed).1
    simp [absent] at parameters
  · cases passed
  · cases passed
  all_goals
    have fine : checkParameters gpt = none := by simpa using parameters
    have ⟨any, primary, secondary, other⟩ := headersKept_spec headers entries
    obtain rfl := (Prod.mk.inj passed).2
    apply And.intro rfl
  · have both := (Mask.eq_both_iff _).mp different.1
    exact {
      parameters := fine
      headers_some := by simp [MASK_PRIMARY, MASK_NONE]
      entries_some := entries
      primary_good := fun _ => (primary both.1).1
      secondary_good := by simp [MASK_PRIMARY]
      primary_describes := fun _ => (primary both.1).2
      secondary_describes := by simp [MASK_PRIMARY]
      same := by simp [MASK_PRIMARY, MASK_BOTH] }
  · have same := not_and.mp different
    exact ⟨fine, any, entries, fun kept => (primary kept).1, secondary,
      fun kept => (primary kept).2, other, fun both => by simpa using same both⟩

theorem gptSanityCheck_found {gpt : GptData} {headers tables : Mask}
    (parameters : checkParameters gpt = none) (found : headersFound gpt = headers)
    (some_header : headers ≠ MASK_NONE)
    (same : headers = MASK_BOTH →
      headerFieldsSame gpt.primaryHeader.value gpt.secondaryHeader.value = true)
    (under : entriesUnder gpt (goodHeader gpt) = tables) (some_table : tables ≠ MASK_NONE) :
    gptSanityCheck gpt = (none, { gpt with validHeaders := headers, validEntries := tables }) := by
  have once : triesSecond gpt = false := by
    rw [triesSecond, under, beq_eq_false_iff_ne.mpr some_table, Bool.and_false]
  have entries : entriesFound gpt = tables := by
    rw [entriesFound, once, under]
    rfl
  have kept : headersKept gpt = headers := by
    rw [headersKept, once, found]
    rfl
  have agree : ¬ (headers = MASK_BOTH ∧
      headerFieldsSame gpt.primaryHeader.value gpt.secondaryHeader.value = false) := by
    rintro ⟨both, differ⟩
    rw [same both] at differ
    cases differ
  unfold gptSanityCheck
  rw [parameters, found, entries, kept, if_neg (by simp), if_neg some_header, if_neg some_table,
    if_neg agree]

theorem gptSanityCheck_both {gpt : GptData} (parameters : checkParameters gpt = none)
    (primary : checkHeader gpt.primaryHeader false gpt.driveSectors = true)
    (secondary : checkHeader gpt.secondaryHeader true gpt.driveSectors = true)
    (same : headerFieldsSame gpt.primaryHeader.value gpt.secondaryHeader.value = true)
    (entries : entriesUnder gpt gpt.primaryHeader.value = MASK_BOTH) :
    gptSanityCheck gpt =
      (none, { gpt with validHeaders := MASK_BOTH, validEntries := MASK_BOTH }) := by
  have headers : headersFound gpt = MASK_BOTH := by
    rw [headersFound, primary, secondary]
    rfl
  have good : goodHeader gpt = gpt.primaryHeader.value := by
    rw [goodHeader, headers]
    rfl
  apply gptSanityCheck_found parameters headers (by decide) (fun _ => same) _ (by decide)
  rw [good]
  exact entries

end A500cg.Gpt
