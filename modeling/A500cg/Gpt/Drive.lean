import A500cg.Gpt.Repair
import A500cg.Lib.Media

/-! Loading the partition table of a drive and saving it again (`DriveOpen`, `DriveClose`). -/

namespace A500cg.Gpt

open Lib

/-- A block device or an image file, with the sizes `fstat` or the two `ioctl` calls give. -/
structure Drive where
  content : Buffer
  size : Nat
  sectorBytes : UInt32
  size_lt : size < 2 ^ 63
  sector_min : 512 ≤ sectorBytes.toNat
  sector_max : sectorBytes.toNat ≤ 65536

/-- How a command ends: `CGPT_OK`, `CGPT_FAILED`, or with the process (a `require` that does not
hold, a call of a generator that is not set). -/
inductive Exit where
  | ok
  | failed
  | aborted
deriving DecidableEq

/-- What is loaded and saved, in the order of the `Load` and the `Save` calls. -/
inductive Part where
  | header1
  | header2
  | entries1
  | entries2
deriving DecidableEq

def Part.all : List Part := [.header1, .header2, .entries1, .entries2]

/-- The first sector of a part on a drive of `n` sectors. -/
def Part.sector (n : UInt64) : Part → UInt64
  | .header1 => GPT_PMBR_SECTOR
  | .header2 => n - GPT_PMBR_SECTOR
  | .entries1 => GPT_PMBR_SECTOR + GPT_HEADER_SECTOR
  | .entries2 => n - GPT_HEADER_SECTOR - GPT_ENTRIES_SECTORS

def Part.sectorCount : Part → UInt64
  | .header1 | .header2 => GPT_HEADER_SECTOR
  | .entries1 | .entries2 => GPT_ENTRIES_SECTORS

def Modified.has (modified : Modified) : Part → Bool
  | .header1 => modified.header1
  | .header2 => modified.header2
  | .entries1 => modified.entries1
  | .entries2 => modified.entries2

def GptData.buffer (gpt : GptData) : Part → List UInt8
  | .header1 => headerCodec.bytes gpt.primaryHeader
  | .header2 => headerCodec.bytes gpt.secondaryHeader
  | .entries1 => entriesCodec.bytes gpt.primaryEntries
  | .entries2 => entriesCodec.bytes gpt.secondaryEntries

namespace Drive

def sectors (d : Drive) : UInt64 := UInt64.ofNat (d.size / d.sectorBytes.toNat)

def start (d : Drive) (p : Part) : Nat := (p.sector d.sectors * d.sectorBytes.toUInt64).toNat

def length (d : Drive) (p : Part) : Nat := (d.sectorBytes.toUInt64 * p.sectorCount).toNat

/-- Whether `Load` finds the whole part on the drive. -/
def loads (d : Drive) (p : Part) : Bool :=
  decide (d.start p < 2 ^ 63 ∧ d.start p + d.length p ≤ d.size)

def load (d : Drive) (p : Part) : List UInt8 := span d.content (d.start p) (d.length p)

def image (d : Drive) : GptData where
  primaryHeader := headerCodec.view (d.load .header1)
  secondaryHeader := headerCodec.view (d.load .header2)
  primaryEntries := entriesCodec.view (d.load .entries1)
  secondaryEntries := entriesCodec.view (d.load .entries2)
  sectorBytes := d.sectorBytes
  driveSectors := d.sectors
  modified := UNMODIFIED
  validHeaders := MASK_NONE
  validEntries := MASK_NONE

/-- The drive after `Save` wrote a list of parts. -/
def saved (d : Drive) (gpt : GptData) (parts : List Part) : Drive :=
  { d with content := patches d.start gpt.buffer d.content parts }

end Drive

def driveOpen (d : Drive) : Option GptData :=
  if d.size % d.sectorBytes.toNat ≠ 0 then none
  else if Part.all.all d.loads then some d.image
  else none

/-- How many bytes the `write` of each `Save` takes, and that of `WritePMBR`: `none` when there is
no limit, 0 also when `lseek64` or `write` fails. -/
structure Writes where
  save : Part → Option Nat
  pmbr : Option Nat

def Writes.whole : Writes := ⟨fun _ => none, none⟩

/-- `DriveClose` with `update_as_needed`: after a `Save` that fails the other parts are still
saved. -/
def driveClose (w : Writes) (d : Drive) (gpt : GptData) : Exit × Drive :=
  let parts := Part.all.filter gpt.modified.has
  let errors := parts.filter fun p => isShort (w.save p) (gpt.buffer p).length
  (if errors = [] then .ok else .failed,
    { d with content := patches d.start (fun p => taken (w.save p) (gpt.buffer p)) d.content parts })

/-- The drive after `DriveClose` when no `Save` fails. -/
def Drive.closed (d : Drive) (gpt : GptData) : Drive :=
  d.saved gpt (Part.all.filter gpt.modified.has)

theorem driveClose_ok_iff (w : Writes) (d : Drive) (gpt : GptData) :
    (driveClose w d gpt).1 = .ok ↔ ∀ p, gpt.modified.has p = true →
      isShort (w.save p) (gpt.buffer p).length = false := by
  have errors : (Part.all.filter gpt.modified.has).filter
      (fun p => isShort (w.save p) (gpt.buffer p).length) = [] ↔ ∀ p,
      gpt.modified.has p = true → isShort (w.save p) (gpt.buffer p).length = false := by
    simp only [List.filter_eq_nil_iff, List.mem_filter, Bool.not_eq_true, and_imp]
    exact forall_congr' fun p => ⟨fun all => all (by cases p <;> decide), fun all _ => all⟩
  rw [← errors]
  unfold driveClose
  dsimp only
  split_ifs with none
  · exact iff_of_true rfl none
  · exact iff_of_false (by decide) none

/-- Then everything is saved. -/
theorem driveClose_of_ok {w : Writes} {d : Drive} {gpt : GptData}
    (ends : (driveClose w d gpt).1 = .ok) : driveClose w d gpt = (.ok, d.closed gpt) := by
  have enough := (driveClose_ok_iff w d gpt).mp ends
  have kept : patches d.start (fun p => taken (w.save p) (gpt.buffer p)) d.content
      (Part.all.filter gpt.modified.has) =
      patches d.start gpt.buffer d.content (Part.all.filter gpt.modified.has) := by
    apply patches_congr
    intro p member
    exact taken_of_not_short (enough p (List.mem_filter.mp member).2)
  apply Prod.ext ends
  rw [driveClose, kept]
  rfl

theorem driveClose_whole (d : Drive) (gpt : GptData) :
    driveClose .whole d gpt = (.ok, d.closed gpt) :=
  driveClose_of_ok ((driveClose_ok_iff ..).mpr fun _ _ => rfl)

namespace Drive

theorem sectors_toNat (d : Drive) : d.sectors.toNat = d.size / d.sectorBytes.toNat := by
  have small : d.size / d.sectorBytes.toNat ≤ d.size := Nat.div_le_self ..
  have bound := d.size_lt
  exact UInt64.toNat_ofNat_of_lt' (by change _ < 2 ^ 64; omega)

theorem length_header (d : Drive) {p : Part} (header : p = .header1 ∨ p = .header2) :
    d.length p = d.sectorBytes.toNat := by
  have most := d.sector_max
  have count : p.sectorCount.toNat = 1 := by
    cases header with
    | inl first => rw [first]; rfl
    | inr second => rw [second]; rfl
  rw [length, UInt64.toNat_mul, count, UInt32.toNat_toUInt64]
  omega

theorem length_entries (d : Drive) {p : Part} (entries : p = .entries1 ∨ p = .entries2) :
    d.length p = 32 * d.sectorBytes.toNat := by
  have most := d.sector_max
  have count : p.sectorCount.toNat = 32 := by
    cases entries with
    | inl first => rw [first]; rfl
    | inr second => rw [second]; rfl
  rw [length, UInt64.toNat_mul, count, UInt32.toNat_toUInt64]
  omega

def count (d : Drive) : Nat := d.size / d.sectorBytes.toNat

theorem count_mul_le (d : Drive) : d.count * d.sectorBytes.toNat ≤ d.size :=
  Nat.div_mul_le_self ..

theorem start_of_sector (d : Drive) {p : Part} {n : Nat} (sector : (p.sector d.sectors).toNat = n)
    (inside : n ≤ d.count ∨ n ≤ 2) : d.start p = n * d.sectorBytes.toNat := by
  have whole := d.count_mul_le
  have small := d.size_lt
  have most := d.sector_max
  have bound : n * d.sectorBytes.toNat < 2 ^ 64 := by
    cases inside with
    | inl counted =>
        have product := Nat.mul_le_mul_right d.sectorBytes.toNat counted
        omega
    | inr low =>
        have product := Nat.mul_le_mul_right d.sectorBytes.toNat low
        omega
  rw [start, UInt64.toNat_mul, sector, UInt32.toNat_toUInt64, Nat.mod_eq_of_lt bound]

theorem start_header1 (d : Drive) : d.start .header1 = d.sectorBytes.toNat :=
  (d.start_of_sector (n := 1) rfl (Or.inr (by decide))).trans (Nat.one_mul _)

theorem start_entries1 (d : Drive) : d.start .entries1 = 2 * d.sectorBytes.toNat :=
  d.start_of_sector (n := 2) rfl (Or.inr (by decide))

theorem start_header2 (d : Drive) (some : 1 ≤ d.count) :
    d.start .header2 = (d.count - 1) * d.sectorBytes.toNat := by
  apply d.start_of_sector
  · have one : GPT_PMBR_SECTOR ≤ d.sectors := by
      rw [UInt64.le_iff_toNat_le, sectors_toNat]
      exact some
    rw [Part.sector, UInt64.toNat_sub_of_le _ _ one, sectors_toNat]
    rfl
  · omega

theorem start_entries2 (d : Drive) (some : 33 ≤ d.count) :
    d.start .entries2 = (d.count - 33) * d.sectorBytes.toNat := by
  apply d.start_of_sector
  · have one : GPT_HEADER_SECTOR ≤ d.sectors := by
      rw [UInt64.le_iff_toNat_le, sectors_toNat]
      change 1 ≤ d.count
      omega
    have first : (d.sectors - GPT_HEADER_SECTOR).toNat = d.count - 1 := by
      rw [UInt64.toNat_sub_of_le _ _ one, sectors_toNat]
      rfl
    have more : GPT_ENTRIES_SECTORS ≤ d.sectors - GPT_HEADER_SECTOR := by
      rw [UInt64.le_iff_toNat_le, first]
      change 32 ≤ d.count - 1
      omega
    rw [Part.sector, UInt64.toNat_sub_of_le _ _ more, first]
    change d.count - 1 - 32 = d.count - 33
    omega
  · omega

theorem image_header1 (d : Drive) : d.image.buffer .header1 = d.load .header1 := by
  apply headerCodec.bytes_view
  rw [load, span_length, d.length_header (Or.inl rfl), headerCodec_width]
  exact le_trans (by decide) d.sector_min

theorem image_header2 (d : Drive) : d.image.buffer .header2 = d.load .header2 := by
  apply headerCodec.bytes_view
  rw [load, span_length, d.length_header (Or.inr rfl), headerCodec_width]
  exact le_trans (by decide) d.sector_min

theorem image_entries1 (d : Drive) : d.image.buffer .entries1 = d.load .entries1 := by
  have least := d.sector_min
  apply entriesCodec.bytes_view
  rw [load, span_length, d.length_entries (Or.inl rfl), entriesCodec_width]
  omega

theorem image_entries2 (d : Drive) : d.image.buffer .entries2 = d.load .entries2 := by
  have least := d.sector_min
  apply entriesCodec.bytes_view
  rw [load, span_length, d.length_entries (Or.inr rfl), entriesCodec_width]
  omega

theorem image_buffer (d : Drive) (p : Part) : d.image.buffer p = d.load p := by
  cases p with
  | header1 => exact d.image_header1
  | header2 => exact d.image_header2
  | entries1 => exact d.image_entries1
  | entries2 => exact d.image_entries2

/-- Tables in memory whose buffers are as long as the parts of the drive. -/
structure Fits (d : Drive) (gpt : GptData) : Prop where
  sectorBytes : gpt.sectorBytes = d.sectorBytes
  driveSectors : gpt.driveSectors = d.sectors
  length : ∀ p, (gpt.buffer p).length = d.length p

theorem image_fits (d : Drive) : d.Fits d.image where
  sectorBytes := rfl
  driveSectors := rfl
  length p := by rw [image_buffer, load, span_length]

theorem apart {d : Drive} {gpt : GptData} (fits : d.Fits gpt) (room : 67 ≤ d.count) :
    Apart d.start gpt.buffer := by
  have h1 := d.start_header1
  have e1 := d.start_entries1
  have h2 := d.start_header2 (by omega)
  have e2 := d.start_entries2 (by omega)
  have lh1 := d.length_header (p := .header1) (Or.inl rfl)
  have lh2 := d.length_header (p := .header2) (Or.inr rfl)
  have le1 := d.length_entries (p := .entries1) (Or.inl rfl)
  have le2 := d.length_entries (p := .entries2) (Or.inr rfl)
  generalize unit : d.sectorBytes.toNat = sector at *
  obtain ⟨k, total⟩ := Nat.exists_eq_add_of_le room
  have first : (d.count - 1) * sector = 66 * sector + k * sector := by
    rw [total, ← Nat.add_mul]
    congr 1
    omega
  have last : (d.count - 33) * sector = 34 * sector + k * sector := by
    rw [total, ← Nat.add_mul]
    congr 1
    omega
  rw [first] at h2
  rw [last] at e2
  intro i j other
  rw [fits.length, fits.length]
  cases i <;> cases j <;> first | exact absurd rfl other | omega

theorem loads_iff (d : Drive) : Part.all.all d.loads = true ↔ 34 ≤ d.count := by
  have positive : 0 < d.sectorBytes.toNat := lt_of_lt_of_le (by decide) d.sector_min
  have most := d.sector_max
  have small := d.size_lt
  have whole := d.count_mul_le
  have h1 := d.start_header1
  have e1 := d.start_entries1
  have lh1 := d.length_header (p := .header1) (Or.inl rfl)
  have lh2 := d.length_header (p := .header2) (Or.inr rfl)
  have le1 := d.length_entries (p := .entries1) (Or.inl rfl)
  have le2 := d.length_entries (p := .entries2) (Or.inr rfl)
  simp only [Part.all, List.all_cons, List.all_nil, Bool.and_true, Bool.and_eq_true, loads,
    decide_eq_true_eq]
  constructor
  · rintro ⟨-, -, ⟨-, inside⟩, -⟩
    rw [count, Nat.le_div_iff_mul_le positive]
    omega
  · intro room
    have h2 := d.start_header2 (by omega)
    have e2 := d.start_entries2 (by omega)
    have last : (d.count - 1) * d.sectorBytes.toNat + d.sectorBytes.toNat =
        d.count * d.sectorBytes.toNat := by
      rw [← Nat.succ_mul]
      congr 1
      omega
    have final : (d.count - 33) * d.sectorBytes.toNat + 33 * d.sectorBytes.toNat =
        d.count * d.sectorBytes.toNat := by
      rw [← Nat.add_mul]
      congr 1
      omega
    have least := Nat.mul_le_mul_right d.sectorBytes.toNat room
    omega

end Drive

theorem driveOpen_eq_some_iff (d : Drive) (gpt : GptData) :
    driveOpen d = some gpt ↔ d.size % d.sectorBytes.toNat = 0 ∧ 34 ≤ d.count ∧ gpt = d.image := by
  rw [← Drive.loads_iff]
  unfold driveOpen
  split_ifs with ragged room
  · simp [ragged]
  · simp only [not_not.mp ragged, room, true_and, Option.some.injEq]
    exact eq_comm
  · simp [room]

theorem driveOpen_of_room {d : Drive} (whole : d.size % d.sectorBytes.toNat = 0)
    (room : 34 ≤ d.count) : driveOpen d = some d.image :=
  (driveOpen_eq_some_iff d _).mpr ⟨whole, room, rfl⟩

theorem saved_load {d : Drive} {gpt : GptData} (fits : d.Fits gpt) (room : 67 ≤ d.count)
    (parts : List Part) (p : Part) :
    (d.saved gpt parts).load p = if p ∈ parts then gpt.buffer p else d.load p := by
  have region := span_patches (Drive.apart fits room) d.content parts p
  rw [fits.length] at region
  exact region

/-- A byte of the drive in none of the four parts. -/
def Drive.Outside (d : Drive) (a : Nat) : Prop := ∀ p, a < d.start p ∨ d.start p + d.length p ≤ a

theorem saved_outside {d : Drive} {gpt : GptData} (fits : d.Fits gpt) (parts : List Part) {a : Nat}
    (outside : d.Outside a) : (d.saved gpt parts).content a = d.content a := by
  apply patches_outside
  intro p _
  rw [fits.length]
  exact outside p

theorem driveClose_outside {w : Writes} {d : Drive} {gpt : GptData} (fits : d.Fits gpt) {a : Nat}
    (outside : d.Outside a) : (driveClose w d gpt).2.content a = d.content a := by
  apply patches_outside
  intro p _
  have most := taken_length_le (w.save p) (gpt.buffer p)
  have here := outside p
  rw [fits.length] at most
  omega

theorem Drive.eq_of_loads {d d' : Drive} (size : d'.size = d.size)
    (sectorBytes : d'.sectorBytes = d.sectorBytes) (loads : ∀ p, d'.load p = d.load p)
    (outside : ∀ a, d.Outside a → d'.content a = d.content a) : d' = d := by
  obtain ⟨content, size', sector, bound, least, most⟩ := d'
  dsimp only at size sectorBytes
  subst size sectorBytes
  have same : content = d.content := eq_of_spans d.length loads outside
  subst same
  rfl

theorem saved_image {d : Drive} {gpt : GptData} (fits : d.Fits gpt) (room : 67 ≤ d.count)
    (parts : List Part) :
    (d.saved gpt parts).image = { d.image with
      primaryHeader := if .header1 ∈ parts then gpt.primaryHeader else d.image.primaryHeader
      secondaryHeader := if .header2 ∈ parts then gpt.secondaryHeader else d.image.secondaryHeader
      primaryEntries := if .entries1 ∈ parts then gpt.primaryEntries else d.image.primaryEntries
      secondaryEntries :=
        if .entries2 ∈ parts then gpt.secondaryEntries else d.image.secondaryEntries } := by
  have h1 := saved_load fits room parts .header1
  have h2 := saved_load fits room parts .header2
  have e1 := saved_load fits room parts .entries1
  have e2 := saved_load fits room parts .entries2
  have header1 : headerCodec.view ((d.saved gpt parts).load .header1) =
      if .header1 ∈ parts then gpt.primaryHeader else d.image.primaryHeader := by
    rw [h1]
    split_ifs
    · exact headerCodec.view_bytes _
    · rfl
  have header2 : headerCodec.view ((d.saved gpt parts).load .header2) =
      if .header2 ∈ parts then gpt.secondaryHeader else d.image.secondaryHeader := by
    rw [h2]
    split_ifs
    · exact headerCodec.view_bytes _
    · rfl
  have entries1 : entriesCodec.view ((d.saved gpt parts).load .entries1) =
      if .entries1 ∈ parts then gpt.primaryEntries else d.image.primaryEntries := by
    rw [e1]
    split_ifs
    · exact entriesCodec.view_bytes _
    · rfl
  have entries2 : entriesCodec.view ((d.saved gpt parts).load .entries2) =
      if .entries2 ∈ parts then gpt.secondaryEntries else d.image.secondaryEntries := by
    rw [e2]
    split_ifs
    · exact entriesCodec.view_bytes _
    · rfl
  rw [← header1, ← header2, ← entries1, ← entries2]
  rfl

end A500cg.Gpt
