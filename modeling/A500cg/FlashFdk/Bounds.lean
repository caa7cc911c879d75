import A500cg.FlashFdk.Capsule

/-! `check_capsule` on the addresses of the machine: the pointers are sums modulo the size of the
address space, and nothing compares them with the size of the file. -/

namespace A500cg.FlashFdk

open Lib

/-- Where a file was read to: an address space, 32 or 64 bits wide, and a buffer in it that is
behind the first page and has an address behind its last byte. -/
structure Placement (bytes : List UInt8) where
  space : Nat
  base : Nat
  fits : base + bytes.length < space
  notNull : 4096 ≤ base

namespace Placement

variable {bytes : List UInt8} (m : Placement bytes)

def load (p : Nat) : Outcome Empty UInt8 :=
  if m.base ≤ p then FlashFdk.load bytes (p - m.base) else .stray p

def plus (p n : Nat) : Nat := (p + n) % m.space

/-- The loop of `get_fw_version_tag_offset`; the pointer stays below `stop`, so that a step does
not wrap. -/
def tagLoop (stop : Nat) (patt : UInt32) (data : Nat) : Outcome Empty (Option Nat) :=
  if data < stop then
    match m.load data with
    | .ok byte =>
        if shiftIn patt byte = CAPSULE_FW_VERSION_TAG then
          .ok (some (m.plus data CAPSULE_FW_VERSION_OFFSET))
        else tagLoop stop (shiftIn patt byte) (data + 1)
    | .error cause => nomatch cause
    | .stray index => .stray index
  else .ok none
termination_by stop - data

def getFwVersionTagOffset (data stop : Nat) : Outcome Empty (Option Nat) := m.tagLoop stop 0 data

/-- Reads the `count` bytes from `data` on. -/
def loadBytes (data : Nat) : Nat → Outcome Empty Buffer
  | 0 => .ok fun _ => 0
  | count + 1 => do
      let buf ← loadBytes data count
      let byte ← m.load (m.plus data count)
      pure (Function.update buf count byte)

theorem load_inv {p : Nat} {byte : UInt8} (loaded : m.load p = .ok byte) :
    m.base ≤ p ∧ p < m.base + bytes.length := by
  rw [load] at loaded
  split at loaded
  · rename_i behind
    simp only [FlashFdk.load] at loaded
    split at loaded
    · rename_i found
      have bound := (List.getElem?_eq_some_iff.mp found).1
      omega
    · cases loaded
  · cases loaded

theorem tagLoop_inv {stop data next : Nat} {patt : UInt32}
    (found : m.tagLoop stop patt data = .ok (some next)) :
    ∃ last, data ≤ last ∧ last < stop ∧ last < m.base + bytes.length ∧
      next = m.plus last CAPSULE_FW_VERSION_OFFSET := by
  fun_induction m.tagLoop stop patt data with
  | case1 patt data inside byte here tag =>
      cases found
      exact ⟨data, Nat.le_refl _, inside, (m.load_inv here).2, rfl⟩
  | case2 patt data inside byte here other ih =>
      rcases ih found with ⟨last, ahead, rest⟩
      exact ⟨last, by omega, rest⟩
  | case3 patt data inside index failed => cases found
  | case4 patt data outside => cases found

theorem loadBytes_inv {data count : Nat} {buf : Buffer} (positive : 0 < count)
    (loaded : m.loadBytes data count = .ok buf) : ∃ byte, m.load (m.plus data 0) = .ok byte := by
  induction count generalizing buf with
  | zero => omega
  | succ count ih =>
      rw [loadBytes] at loaded
      rcases Outcome.bind_ok_inv loaded with ⟨front, first, rest⟩
      by_cases none : count = 0
      · rw [none] at rest
        rcases Outcome.bind_ok_inv rest with ⟨byte, here, _⟩
        exact ⟨byte, here⟩
      · exact ih (by omega) first

theorem next_ahead {stop data next count : Nat} {buf : Buffer} (positive : 0 < count)
    (found : m.getFwVersionTagOffset data stop = .ok (some next))
    (loaded : m.loadBytes next count = .ok buf) : data < next ∧ data < stop := by
  rcases m.tagLoop_inv found with ⟨last, ahead, below, inside, rfl⟩
  rcases m.loadBytes_inv positive loaded with ⟨byte, here⟩
  have bounds := m.load_inv here
  have notNull := m.notNull
  have fits := m.fits
  simp only [plus, CAPSULE_FW_VERSION_OFFSET, Nat.add_zero, Nat.mod_mod] at bounds ⊢
  by_cases wraps : last + 5 < m.space
  · rw [Nat.mod_eq_of_lt wraps]
    omega
  · have wrapped : (last + 5) % m.space = last + 5 - m.space := by
      rw [Nat.mod_eq_sub_mod (by omega), Nat.mod_eq_of_lt (by omega)]
    omega

end Placement

section Check

variable {c : Capsule} (m : Placement c.bytes)

def regionStart (offset : UInt32) : Nat := m.plus (m.plus m.base offset.toNat) signatureBytes

def checkRegionAt (offset size current : UInt32) : Outcome Empty (Option Bool) :=
  if size ≠ 0 then do
    let start := regionStart m offset
    match ← m.getFwVersionTagOffset start (m.plus start size.toNat) with
    | none => pure none
    | some data => do
        let version ← m.loadBytes data 4
        pure (some (mn2VerBytesreorder version == current))
  else pure none

def secLoopAt (stop : Nat) (current : SecVersion) (secData : Nat) (matched : Bool) :
    Outcome Empty Bool :=
  match _found : m.getFwVersionTagOffset secData stop with
  | .ok none => .ok (!matched)
  | .ok (some data) =>
      match _loaded : m.loadBytes data 8 with
      | .ok version =>
          if secVersion version ≠ current then .ok true
          else secLoopAt stop current data true
      | .error cause => nomatch cause
      | .stray index => .stray index
  | .error cause => nomatch cause
  | .stray index => .stray index
termination_by stop - secData
decreasing_by
  have ahead := m.next_ahead (by decide) _found _loaded
  omega

/-- `check_capsule` on the addresses. -/
def checkCapsuleAt (current : CurrentVersions) : Outcome Empty Bool := do
  let pdr ← checkRegionAt m c.pdrOffset c.pdrSize current.pdr
  if pdr = some false then pure true
  else do
    let iafw ← checkRegionAt m c.iafwStage2Offset c.iafwStage2Size current.iafw
    if iafw = some false then pure true
    else
      let matched := pdr.isSome || iafw.isSome
      if c.secSize ≠ 0 then
        secLoopAt m (m.plus m.base c.secSize.toNat) current.sec (regionStart m c.secOffset) matched
      else pure (!matched)

end Check

/-! The search in the part of its range that is in the file. -/

theorem tagLoop_clipped {bytes : List UInt8} {stop data : Nat} {patt : UInt32}
    (beyond : bytes.length < stop) (ahead : data < stop) :
    tagLoop bytes stop patt data =
      match tagLoop bytes bytes.length patt data with
      | .ok (some next) => .ok (some next)
      | _ => .stray (max data bytes.length) := by
  fun_induction tagLoop bytes bytes.length patt data with
  | case1 patt data inside byte here tag =>
      rw [tagLoop, if_pos ahead]
      simp only [here, tag, if_true]
  | case2 patt data inside byte here other ih =>
      have later : max (data + 1) bytes.length = max data bytes.length := by omega
      rw [tagLoop, if_pos ahead]
      simp only [here, other, if_false]
      rw [ih (by omega), later]
  | case3 patt data inside index failed =>
      rw [load_inside inside] at failed
      cases failed
  | case4 patt data outside =>
      have missing : bytes[data]? = none := List.getElem?_eq_none (by omega)
      have last : max data bytes.length = data := by omega
      rw [tagLoop, if_pos ahead]
      simp only [load, missing, last]

namespace Placement

variable {bytes : List UInt8} (m : Placement bytes)

theorem tagLoop_relative {stop data : Nat} (patt : UInt32) (behind : m.base ≤ data) :
    m.tagLoop stop patt data =
      (FlashFdk.tagLoop bytes (stop - m.base) patt (data - m.base) >>= fun found =>
        pure (found.map (m.plus m.base))) := by
  fun_induction m.tagLoop stop patt data with
  | case1 patt data inside byte here tag =>
      rw [load, if_pos behind] at here
      have place : m.base + (data - m.base + CAPSULE_FW_VERSION_OFFSET) =
          data + CAPSULE_FW_VERSION_OFFSET := by omega
      rw [FlashFdk.tagLoop, if_pos (by omega)]
      simp only [here, tag, if_true, Outcome.ok_bind, Option.map_some, plus, place]
      rfl
  | case2 patt data inside byte here other ih =>
      rw [load, if_pos behind] at here
      have step : data + 1 - m.base = data - m.base + 1 := by omega
      have turn : FlashFdk.tagLoop bytes (stop - m.base) patt (data - m.base) =
          FlashFdk.tagLoop bytes (stop - m.base) (shiftIn patt byte) (data - m.base + 1) := by
        rw [FlashFdk.tagLoop, if_pos (by omega)]
        simp only [here, other, if_false]
      rw [ih (by omega), step, turn]
  | case3 patt data inside index failed =>
      rw [load, if_pos behind] at failed
      rw [FlashFdk.tagLoop, if_pos (by omega)]
      simp only [failed]
      rfl
  | case4 patt data outside =>
      rw [FlashFdk.tagLoop, if_neg (by omega)]
      rfl

def firstTag (start stop : Nat) : Option Nat :=
  if start < stop ∧ m.base ≤ start then
    FlashFdk.firstTag bytes (start - m.base) (min (stop - m.base) bytes.length)
  else none

/-- A search between the two addresses stays in the file: it starts in it, and ends in it or
finds a tag before it leaves it. -/
def SearchInside (start stop : Nat) : Prop :=
  start < stop →
    m.base ≤ start ∧ (stop ≤ m.base + bytes.length ∨ (m.firstTag start stop).isSome = true)

theorem search_inside {start stop : Nat} (inside : m.SearchInside start stop) :
    m.getFwVersionTagOffset start stop =
      .ok ((m.firstTag start stop).map fun q => m.plus m.base (q + 8)) := by
  rw [getFwVersionTagOffset, firstTag]
  by_cases ahead : start < stop
  · rcases inside ahead with ⟨behind, ends⟩
    rw [if_pos ⟨ahead, behind⟩, m.tagLoop_relative 0 behind]
    rw [firstTag, if_pos ⟨ahead, behind⟩] at ends
    by_cases within : stop ≤ m.base + bytes.length
    · have search := getFwVersionTagOffset_eq (start - m.base)
        (show stop - m.base ≤ bytes.length by omega)
      rw [FlashFdk.getFwVersionTagOffset] at search
      rw [search, Nat.min_eq_left (by omega)]
      cases FlashFdk.firstTag bytes (start - m.base) (stop - m.base) <;> rfl
    · have search := getFwVersionTagOffset_eq (start - m.base) (Nat.le_refl bytes.length)
      rw [FlashFdk.getFwVersionTagOffset] at search
      rw [Nat.min_eq_right (by omega)] at ends ⊢
      rcases Option.isSome_iff_exists.mp (ends.resolve_left within) with ⟨q, found⟩
      rw [tagLoop_clipped (by omega) (by omega), search, found]
      rfl
  · rw [if_neg (fun both => ahead both.1), tagLoop, if_neg ahead]
    rfl

theorem search_outside {start stop : Nat} (outside : ¬ m.SearchInside start stop) :
    ∃ index, m.getFwVersionTagOffset start stop = .stray index := by
  rw [SearchInside, Classical.not_imp] at outside
  rcases outside with ⟨ahead, outside⟩
  rw [getFwVersionTagOffset]
  by_cases behind : m.base ≤ start
  · rcases not_or.mp (not_and.mp outside behind) with ⟨beyond, missed⟩
    have search := getFwVersionTagOffset_eq (start - m.base) (Nat.le_refl bytes.length)
    rw [FlashFdk.getFwVersionTagOffset] at search
    rw [firstTag, if_pos ⟨ahead, behind⟩, Nat.min_eq_right (by omega),
      Option.not_isSome_iff_eq_none] at missed
    rw [m.tagLoop_relative 0 behind, tagLoop_clipped (by omega) (by omega), search, missed]
    exact ⟨_, rfl⟩
  · rw [tagLoop, if_pos ahead, load, if_neg behind]
    exact ⟨_, rfl⟩

theorem load_relative {k : Nat} (inside : k < bytes.length) :
    m.load (m.base + k) = .ok (bytesOf bytes k) := by
  have behind : m.base ≤ m.base + k := by omega
  rw [load, if_pos behind, Nat.add_sub_cancel_left, load_inside inside]

theorem load_beyond {k : Nat} (outside : bytes.length ≤ k) (near : k < bytes.length + 4096) :
    ∃ index, m.load ((m.base + k) % m.space) = .stray index := by
  have fits := m.fits
  have notNull := m.notNull
  rw [load]
  split
  · rename_i behind
    have beyond : bytes.length ≤ (m.base + k) % m.space - m.base := by
      by_cases wraps : m.base + k < m.space
      · rw [Nat.mod_eq_of_lt wraps]
        omega
      · -- an address that wrapped is in the first page, before the buffer
        rw [Nat.mod_eq_sub_mod (by omega), Nat.mod_eq_of_lt (by omega)] at behind
        omega
    rw [FlashFdk.load, List.getElem?_eq_none beyond]
    exact ⟨_, rfl⟩
  · exact ⟨_, rfl⟩

theorem plus_base (k n : Nat) : m.plus (m.plus m.base k) n = (m.base + (k + n)) % m.space := by
  rw [plus, plus, Nat.mod_add_mod, Nat.add_assoc]

theorem version_inside {q count : Nat} (inside : q + count ≤ bytes.length) :
    ∃ buf, m.loadBytes (m.plus m.base q) count = .ok buf ∧
      ∀ k < count, buf k = bytesOf bytes (q + k) := by
  have fits := m.fits
  induction count with
  | zero => exact ⟨_, rfl, fun k none => absurd none (Nat.not_lt_zero k)⟩
  | succ count ih =>
      rcases ih (by omega) with ⟨buf, loaded, same⟩
      have place : m.plus (m.plus m.base q) count = m.base + (q + count) := by
        rw [m.plus_base, Nat.mod_eq_of_lt (by omega)]
      refine ⟨Function.update buf count (bytesOf bytes (q + count)), ?_, fun k bound => ?_⟩
      · rw [loadBytes, loaded, Outcome.ok_bind, place, m.load_relative (by omega)]
        rfl
      · by_cases last : k = count
        · rw [last, Function.update_self]
        · rw [Function.update_of_ne last, same k (by omega)]

theorem version_outside {q count : Nat} (positive : 0 < count)
    (outside : ¬ q + count ≤ bytes.length) (near : q + count < bytes.length + 4096) :
    ∃ index, m.loadBytes (m.plus m.base q) count = .stray index := by
  induction count with
  | zero => omega
  | succ count ih =>
      rw [loadBytes]
      by_cases before : count = 0 ∨ q + count ≤ bytes.length
      · have front : ∃ buf, m.loadBytes (m.plus m.base q) count = .ok buf := by
          rcases before with rfl | inside
          · exact ⟨_, rfl⟩
          · rcases m.version_inside inside with ⟨buf, loaded, _⟩
            exact ⟨buf, loaded⟩
        rcases front with ⟨buf, loaded⟩
        rcases m.load_beyond (show bytes.length ≤ q + count by omega) (by omega) with ⟨index, stray⟩
        rw [loaded, Outcome.ok_bind, m.plus_base, stray]
        exact ⟨index, rfl⟩
      · rcases ih (by omega) (by omega) (by omega) with ⟨index, stray⟩
        rw [stray]
        exact ⟨index, rfl⟩

end Placement

theorem mn2VerBytesreorder_congr {left right : Buffer} (same : ∀ k < 4, left k = right k) :
    mn2VerBytesreorder left = mn2VerBytesreorder right := by
  simp only [mn2VerBytesreorder, same 0 (by decide), same 1 (by decide), same 2 (by decide),
    same 3 (by decide)]

theorem secVersion_congr {left right : Buffer} (same : ∀ k < 8, left k = right k) :
    secVersion left = secVersion right := by
  have front := mn2VerBytesreorder_congr fun k bound => same k (by omega)
  simp only [secVersion, front, same 4 (by decide), same 5 (by decide), same 6 (by decide),
    same 7 (by decide)]

section Inside

variable {c : Capsule} (m : Placement c.bytes)

def firstTagAt (offset size : UInt32) : Option Nat :=
  if size ≠ 0 then m.firstTag (regionStart m offset) (m.plus (regionStart m offset) size.toNat)
  else none

/-- The search of a region and the version behind its first tag stay in the file. -/
def RegionInside (offset size : UInt32) : Prop :=
  (size ≠ 0 → m.SearchInside (regionStart m offset) (m.plus (regionStart m offset) size.toNat)) ∧
    ∀ q, firstTagAt m offset size = some q → q + 8 + 4 ≤ c.bytes.length

def firstReadingAt (offset size current : UInt32) : Option Bool :=
  (firstTagAt m offset size).map fun q => mn2VerBytesreorder (versionAt c.bytes q) == current

theorem firstTag_fits {start stop q : Nat} (found : m.firstTag start stop = some q) :
    m.base ≤ start ∧ start - m.base ≤ q ∧ q + 4 ≤ c.bytes.length ∧ q + 4 ≤ stop - m.base := by
  rw [Placement.firstTag] at found
  split at found
  · rename_i range
    have bounds := scan_one_eq_some.mp found
    omega
  · cases found

theorem checkRegionAt_inside {offset size : UInt32} (current : UInt32)
    (inside : RegionInside m offset size) :
    checkRegionAt m offset size current = .ok (firstReadingAt m offset size current) := by
  rcases inside with ⟨search, versions⟩
  rw [checkRegionAt, firstReadingAt]
  rw [firstTagAt] at versions ⊢
  by_cases present : size ≠ 0
  · rw [if_pos present] at versions ⊢
    rw [if_pos present]
    simp only [m.search_inside (search present), Outcome.ok_bind]
    cases found : m.firstTag (regionStart m offset)
        (m.plus (regionStart m offset) size.toNat) with
    | none => rfl
    | some q =>
        rcases m.version_inside (versions q found) with ⟨buf, loaded, same⟩
        simp only [Option.map_some, loaded, Outcome.ok_bind]
        rw [mn2VerBytesreorder_congr same]
        rfl
  · rw [if_neg present, if_neg present]
    rfl

theorem checkRegionAt_outside {offset size : UInt32} (current : UInt32)
    (outside : ¬ RegionInside m offset size) :
    ∃ index, checkRegionAt m offset size current = .stray index := by
  rw [checkRegionAt]
  rw [RegionInside, firstTagAt] at outside
  by_cases present : size ≠ 0
  · rw [if_pos present] at outside ⊢
    by_cases search :
        m.SearchInside (regionStart m offset) (m.plus (regionStart m offset) size.toNat)
    · simp only [search, implies_true, true_and, not_forall] at outside
      rcases outside with ⟨q, found, long⟩
      have fits := firstTag_fits m found
      rcases m.version_outside (by decide) long (by omega) with
        ⟨index, stray⟩
      simp only [m.search_inside search, Outcome.ok_bind, found, Option.map_some, stray]
      exact ⟨index, rfl⟩
    · rcases m.search_outside search with ⟨index, stray⟩
      simp only [stray]
      exact ⟨index, rfl⟩
  · rw [if_neg present] at outside
    exact absurd ⟨fun some => absurd some present, fun q none => nomatch none⟩ outside

/-- The tags of a SEC search in turn: each one's version is in the file, up to one that is not
the current version; a search that gets through them all ends in the file. -/
def TagsInside (c : Capsule) (current : SecVersion) (ends : Prop) : List Nat → Prop
  | [] => ends
  | q :: rest =>
      q + 8 + 8 ≤ c.bytes.length ∧ (secReading c current q = false ∨ TagsInside c current ends rest)

/-- The SEC search between two addresses stays in the file. -/
def SecInside (current : SecVersion) (start stop : Nat) : Prop :=
  start < stop → m.base ≤ start ∧
    TagsInside c current (stop ≤ m.base + c.bytes.length)
      (successiveTags c.bytes (min (stop - m.base) c.bytes.length) (start - m.base))

theorem search_ok {start stop : Nat} {found : Option Nat}
    (ran : m.getFwVersionTagOffset start stop = .ok found) :
    m.SearchInside start stop ∧
      found = (m.firstTag start stop).map fun q => m.plus m.base (q + 8) := by
  by_cases inside : m.SearchInside start stop
  · rw [m.search_inside inside] at ran
    exact ⟨inside, (Outcome.ok.inj ran).symm⟩
  · rcases m.search_outside inside with ⟨index, stray⟩
    rw [stray] at ran
    cases ran

theorem next_tag_at {start stop data : Nat}
    (found : m.getFwVersionTagOffset start stop = .ok (some data)) :
    ∃ q, data = m.plus m.base (q + 8) ∧ start < stop ∧ m.base ≤ start ∧ q + 4 ≤ c.bytes.length ∧
      q + 4 ≤ stop - m.base ∧
      successiveTags c.bytes (min (stop - m.base) c.bytes.length) (start - m.base) =
        q :: successiveTags c.bytes (min (stop - m.base) c.bytes.length) (q + 8) := by
  rcases search_ok m found with ⟨_, value⟩
  cases first : m.firstTag start stop with
  | none =>
      rw [first] at value
      cases value
  | some q =>
      rw [first] at value
      cases value
      have fits := firstTag_fits m first
      rw [Placement.firstTag] at first
      split at first
      · rename_i range
        exact ⟨q, rfl, range.1, range.2, fits.2.2.1, fits.2.2.2,
          searchAll_of_some (by decide) first⟩
      · cases first

theorem sec_version_ok {q : Nat} {version : Buffer} (fits : q + 4 ≤ c.bytes.length)
    (loaded : m.loadBytes (m.plus m.base (q + 8)) 8 = .ok version) :
    q + 8 + 8 ≤ c.bytes.length ∧ secVersion version = secVersion (versionAt c.bytes q) := by
  by_cases inside : q + 8 + 8 ≤ c.bytes.length
  · rcases m.version_inside inside with ⟨buf, read, same⟩
    cases loaded.symm.trans read
    exact ⟨inside, secVersion_congr same⟩
  · rcases m.version_outside (by decide) inside (by omega) with ⟨index, stray⟩
    rw [stray] at loaded
    cases loaded

theorem successiveTags_empty {start stop : Nat} (ahead : start < stop) (behind : m.base ≤ start)
    (none : m.firstTag start stop = none) :
    successiveTags c.bytes (min (stop - m.base) c.bytes.length) (start - m.base) = [] := by
  rw [Placement.firstTag, if_pos ⟨ahead, behind⟩] at none
  exact searchAll_of_none none

theorem secInside_search {start stop : Nat} {current : SecVersion}
    (inside : SecInside m current start stop) : m.SearchInside start stop := by
  intro ahead
  rcases inside ahead with ⟨behind, tags⟩
  refine ⟨behind, ?_⟩
  cases first : m.firstTag start stop with
  | some q => exact Or.inr rfl
  | none =>
      rw [successiveTags_empty m ahead behind first] at tags
      exact Or.inl tags

theorem secInside_next {start stop q : Nat} {current : SecVersion} (ahead : start < stop)
    (behind : m.base ≤ start) (inside : q + 8 + 8 ≤ c.bytes.length)
    (equal : secReading c current q = true)
    (tags : successiveTags c.bytes (min (stop - m.base) c.bytes.length) (start - m.base) =
      q :: successiveTags c.bytes (min (stop - m.base) c.bytes.length) (q + 8)) :
    SecInside m current (m.base + (q + 8)) stop ↔ SecInside m current start stop := by
  rw [SecInside, SecInside, Nat.add_sub_cancel_left, tags]
  constructor
  · intro later _
    refine ⟨behind, inside, Or.inr ?_⟩
    by_cases more : m.base + (q + 8) < stop
    · exact (later more).2
    · have empty : successiveTags c.bytes (min (stop - m.base) c.bytes.length) (q + 8) = [] :=
        searchAll_of_none (scan_one_eq_none.mpr fun p after room => by omega)
      rw [empty]
      show stop ≤ m.base + c.bytes.length
      omega
  · intro here _
    refine ⟨by omega, (here ahead).2.2.resolve_left ?_⟩
    rw [equal]
    decide

theorem secLoopAt_iff (stop : Nat) (current : SecVersion) (start : Nat) (matched : Bool) :
    (∃ result, secLoopAt m stop current start matched = .ok result) ↔
      SecInside m current start stop := by
  fun_induction secLoopAt m stop current start matched with
  | case1 start matched missed =>
      rcases search_ok m missed with ⟨inside, value⟩
      refine iff_of_true ⟨_, rfl⟩ fun ahead => ?_
      rcases inside ahead with ⟨behind, ends⟩
      have none : m.firstTag start stop = none := by simpa using value.symm
      rw [none] at ends
      rw [successiveTags_empty m ahead behind none]
      exact ⟨behind, ends.resolve_right (by decide)⟩
  | case2 start matched data found version loaded other =>
      rcases next_tag_at m found with ⟨q, rfl, ahead, behind, fits, _, tags⟩
      rcases sec_version_ok m fits loaded with ⟨inside, value⟩
      refine iff_of_true ⟨_, rfl⟩ fun _ => ?_
      have different : secReading c current q = false := by
        rw [secReading, beq_eq_false_iff_ne, ← value]
        exact other
      rw [tags]
      exact ⟨behind, inside, Or.inl different⟩
  | case3 start matched data found version loaded same ih =>
      rcases next_tag_at m found with ⟨q, rfl, ahead, behind, fits, before, tags⟩
      rcases sec_version_ok m fits loaded with ⟨inside, value⟩
      have bound := m.fits
      have equal : secReading c current q = true := by
        rw [secReading, beq_iff_eq, ← value]
        exact not_not.mp same
      have place : m.plus m.base (q + 8) = m.base + (q + 8) := Nat.mod_eq_of_lt (by omega)
      rw [ih, place]
      exact secInside_next m ahead behind inside equal tags
  | case4 start matched data found index failed =>
      rcases next_tag_at m found with ⟨q, rfl, ahead, behind, fits, _, tags⟩
      refine iff_of_false (fun done => nomatch done) fun inside => ?_
      have first := (inside ahead).2
      rw [tags] at first
      rcases m.version_inside first.1 with ⟨buf, loaded, _⟩
      rw [loaded] at failed
      cases failed
  | case5 start matched index failed =>
      refine iff_of_false (fun done => nomatch done) fun inside => ?_
      rw [m.search_inside (secInside_search m inside)] at failed
      cases failed

theorem secLoop_done {bytes : List UInt8} {stop secData : Nat} {current : SecVersion}
    {matched : Bool} (missed : getFwVersionTagOffset bytes secData stop = .ok none) :
    secLoop bytes stop current secData matched = .ok (!matched) := by
  rw [secLoop]
  split <;> simp_all

theorem secLoop_next {bytes : List UInt8} {stop secData data : Nat} {current : SecVersion}
    {matched : Bool} {version : Buffer}
    (found : getFwVersionTagOffset bytes secData stop = .ok (some data))
    (loaded : loadBytes bytes data 8 = .ok version) :
    secLoop bytes stop current secData matched =
      if secVersion version ≠ current then .ok true else secLoop bytes stop current data true := by
  rw [secLoop]
  split <;> simp_all

/-- The reads of `check_capsule` stay in the file: those of the PDR region, then, unless its
version asks for the update at once, those of the IAFW region, and in the same way those of the
SEC region. -/
def CapsuleInside (current : CurrentVersions) : Prop :=
  RegionInside m c.pdrOffset c.pdrSize ∧
    (firstReadingAt m c.pdrOffset c.pdrSize current.pdr = some false ∨
      RegionInside m c.iafwStage2Offset c.iafwStage2Size ∧
        (firstReadingAt m c.iafwStage2Offset c.iafwStage2Size current.iafw = some false ∨
          c.secSize = 0 ∨
          SecInside m current.sec (regionStart m c.secOffset) (m.plus m.base c.secSize.toNat)))

theorem checkCapsuleAt_iff (current : CurrentVersions) :
    (∃ result, checkCapsuleAt m current = .ok result) ↔ CapsuleInside m current := by
  rw [checkCapsuleAt, CapsuleInside]
  by_cases pdr : RegionInside m c.pdrOffset c.pdrSize
  · rw [checkRegionAt_inside m current.pdr pdr, Outcome.ok_bind]
    by_cases pdrOther : firstReadingAt m c.pdrOffset c.pdrSize current.pdr = some false
    · rw [if_pos pdrOther]
      exact iff_of_true ⟨_, rfl⟩ ⟨pdr, Or.inl pdrOther⟩
    rw [if_neg pdrOther, and_iff_right pdr, or_iff_right pdrOther]
    by_cases iafw : RegionInside m c.iafwStage2Offset c.iafwStage2Size
    · rw [checkRegionAt_inside m current.iafw iafw, Outcome.ok_bind, and_iff_right iafw]
      by_cases iafwOther :
          firstReadingAt m c.iafwStage2Offset c.iafwStage2Size current.iafw = some false
      · rw [if_pos iafwOther]
        exact iff_of_true ⟨_, rfl⟩ (Or.inl iafwOther)
      rw [if_neg iafwOther, or_iff_right iafwOther]
      by_cases present : c.secSize ≠ 0
      · simp only [if_pos present]
        rw [secLoopAt_iff, or_iff_right present]
      · simp only [if_neg present]
        exact iff_of_true ⟨_, rfl⟩ (Or.inl (not_not.mp present))
    · rcases checkRegionAt_outside m current.iafw iafw with ⟨index, stray⟩
      rw [stray]
      exact iff_of_false (fun done => nomatch done) fun inside => iafw inside.1
  · rcases checkRegionAt_outside m current.pdr pdr with ⟨index, stray⟩
    rw [stray]
    exact iff_of_false (fun done => nomatch done) fun inside => pdr inside.1

/-- Every byte that `check_capsule` reads is in the file exactly when the searches and the versions
behind the tags they find are. -/
theorem capsule_reads_inside_iff (current : CurrentVersions) :
    (∀ index, checkCapsuleAt m current ≠ .stray index) ↔ CapsuleInside m current := by
  rw [← checkCapsuleAt_iff]
  cases checkCapsuleAt m current with
  | ok result => exact iff_of_true (fun index => nofun) ⟨result, rfl⟩
  | error cause => exact nomatch cause
  | stray index => exact iff_of_false (fun never => never index rfl) (fun done => nomatch done)

end Inside

section InFile

variable {c : Capsule} (m : Placement c.bytes)

theorem regionStart_inFile {offset size : UInt32} {count : Nat} (present : size ≠ 0)
    (inFile : RegionInFile c offset size count) :
    regionStart m offset = m.base + (signatureBytes + offset.toNat) ∧
      m.plus (regionStart m offset) size.toNat =
        m.base + (signatureBytes + offset.toNat + size.toNat) := by
  have fits := m.fits
  have inside := (inFile present).1
  have start : regionStart m offset = m.base + (signatureBytes + offset.toNat) := by
    rw [regionStart, m.plus_base, Nat.mod_eq_of_lt (by omega), Nat.add_comm offset.toNat]
  refine ⟨start, ?_⟩
  rw [start, Placement.plus, Nat.mod_eq_of_lt (by omega)]
  omega

theorem checkRegionAt_inFile {offset size : UInt32} (current : UInt32)
    (inFile : RegionInFile c offset size 4) :
    checkRegionAt m offset size current = checkRegion c offset size current := by
  have same : firstTagAt m offset size = if size ≠ 0 then
      firstTag c.bytes (signatureBytes + offset.toNat)
        (signatureBytes + offset.toNat + size.toNat) else none := by
    rw [firstTagAt]
    by_cases present : size ≠ 0
    · rcases regionStart_inFile m present inFile with ⟨start, stop⟩
      have inside := (inFile present).1
      have positive : 0 < size.toNat :=
        Nat.pos_of_ne_zero fun zero => present (UInt32.toNat_inj.mp zero)
      rw [if_pos present, if_pos present, Placement.firstTag, stop, start,
        if_pos ⟨by omega, by omega⟩, Nat.add_sub_cancel_left, Nat.add_sub_cancel_left,
        Nat.min_eq_left inside]
    · rw [if_neg present, if_neg present]
  have region : RegionInside m offset size := by
    refine ⟨fun present ahead => ?_, fun q found => ?_⟩
    · rcases regionStart_inFile m present inFile with ⟨start, stop⟩
      have inside := (inFile present).1
      rw [stop, start]
      exact ⟨by omega, Or.inl (by omega)⟩
    · rw [same] at found
      by_cases present : size ≠ 0
      · rw [if_pos present] at found
        rcases scan_one_eq_some.mp found with ⟨after, fits, tag, _⟩
        exact (inFile present).2 q after fits tag
      · rw [if_neg present] at found
        cases found
  rw [checkRegionAt_inside m current region, checkRegion_eq current inFile, firstReadingAt, same,
    firstReading]
  by_cases present : size ≠ 0
  · rw [if_pos present, if_pos present]
  · rw [if_neg present, if_neg present]
    rfl

theorem search_relative {start stop : Nat} (behind : m.base ≤ start)
    (inside : stop ≤ m.base + c.bytes.length) :
    m.getFwVersionTagOffset start stop =
      .ok ((firstTag c.bytes (start - m.base) (stop - m.base)).map
        fun q => m.plus m.base (q + 8)) := by
  have search := getFwVersionTagOffset_eq (start - m.base)
    (show stop - m.base ≤ c.bytes.length by omega)
  rw [getFwVersionTagOffset] at search
  rw [Placement.getFwVersionTagOffset, m.tagLoop_relative 0 behind, search]
  cases firstTag c.bytes (start - m.base) (stop - m.base) <;> rfl

theorem found_relative {start stop data : Nat} (behind : m.base ≤ start)
    (inside : stop ≤ m.base + c.bytes.length)
    (found : m.getFwVersionTagOffset start stop = .ok (some data)) :
    ∃ q, data = m.plus m.base (q + 8) ∧ start - m.base ≤ q ∧ q + 4 ≤ stop - m.base ∧
      isTag c.bytes q = true ∧
      getFwVersionTagOffset c.bytes (start - m.base) (stop - m.base) = .ok (some (q + 8)) := by
  have search := getFwVersionTagOffset_eq (start - m.base)
    (show stop - m.base ≤ c.bytes.length by omega)
  rw [search_relative m behind inside] at found
  cases first : firstTag c.bytes (start - m.base) (stop - m.base) with
  | none =>
      rw [first] at found
      cases found
  | some q =>
      rw [first] at found search
      cases found
      rcases scan_one_eq_some.mp first with ⟨after, fits, tag, _⟩
      exact ⟨q, rfl, after, fits, tag, search⟩

theorem secLoopAt_inFile (start stop : Nat) (current : SecVersion) (matched : Bool)
    (behind : m.base ≤ start) (inside : stop ≤ m.base + c.bytes.length)
    (versions : ∀ q, start ≤ m.base + q → q + 4 ≤ stop - m.base → isTag c.bytes q = true →
      q + 8 + 8 ≤ c.bytes.length) :
    secLoopAt m stop current start matched =
      secLoop c.bytes (stop - m.base) current (start - m.base) matched := by
  fun_induction secLoopAt m stop current start matched with
  | case1 start matched missed =>
      have search := getFwVersionTagOffset_eq (start - m.base)
        (show stop - m.base ≤ c.bytes.length by omega)
      rw [search_relative m behind inside] at missed
      have none : firstTag c.bytes (start - m.base) (stop - m.base) = none := by simpa using missed
      rw [none] at search
      rw [secLoop_done search]
  | case2 start matched data found version loaded other =>
      rcases found_relative m behind inside found with ⟨q, rfl, after, fits, tag, search⟩
      have whole := versions q (by omega) fits tag
      rw [(sec_version_ok m (by omega) loaded).2, versionAt] at other
      rw [secLoop_next search (loadBytes_inside whole), if_pos other]
  | case3 start matched data found version loaded same ih =>
      rcases found_relative m behind inside found with ⟨q, rfl, after, fits, tag, search⟩
      have whole := versions q (by omega) fits tag
      have bound := m.fits
      have place : m.plus m.base (q + 8) = m.base + (q + 8) := Nat.mod_eq_of_lt (by omega)
      rw [(sec_version_ok m (by omega) loaded).2, versionAt] at same
      rw [place] at ih
      rw [secLoop_next search (loadBytes_inside whole), if_neg same, place,
        ih (by omega) fun r after => versions r (by omega), Nat.add_sub_cancel_left]
  | case4 start matched data found index failed =>
      rcases found_relative m behind inside found with ⟨q, rfl, after, fits, tag, search⟩
      rcases m.version_inside (versions q (by omega) fits tag) with ⟨buf, loaded, _⟩
      rw [loaded] at failed
      cases failed
  | case5 start matched index failed =>
      rw [search_relative m behind inside] at failed
      cases failed

theorem checkCapsuleAt_inFile (current : CurrentVersions) (inFile : InFile c) :
    checkCapsuleAt m current = checkCapsule c current := by
  rw [checkCapsuleAt, checkCapsule, checkRegionAt_inFile m current.pdr inFile.pdr,
    checkRegionAt_inFile m current.iafw inFile.iafw]
  by_cases present : c.secSize ≠ 0
  · rcases regionStart_inFile m present inFile.sec with ⟨start, _⟩
    rcases inFile.sec present with ⟨inside, versions⟩
    have fits := m.fits
    have stop : m.plus m.base c.secSize.toNat = m.base + c.secSize.toNat :=
      Nat.mod_eq_of_lt (by omega)
    have loop := fun matched => secLoopAt_inFile m (m.base + (signatureBytes + c.secOffset.toNat))
      (m.base + c.secSize.toNat) current.sec matched (by omega) (by omega)
      fun q after room tag => versions q (by omega) (by omega) tag
    simp only [if_pos present, start, stop, loop, Nat.add_sub_cancel_left,
      Nat.add_comm c.secOffset.toNat]
  · simp only [if_neg present]

end InFile

def cutPdr : Capsule where
  bytes := List.replicate 592 0 ++ [56, 0, 0, 0, 12, 0, 0, 0] ++ List.replicate 9 0
  whole := by decide +kernel

def cutPdrPlacement : Placement cutPdr.bytes where
  space := 2 ^ 32
  base := 2 ^ 20
  fits := by decide +kernel
  notNull := by decide

/-- The search for a tag goes on behind the end of the file. -/
theorem cut_pdr_read_outside :
    ∃ index, checkCapsuleAt cutPdrPlacement ⟨0, ⟨0, 0, 0⟩, 0⟩ = .stray index := by
  have offset : cutPdr.pdrOffset = 56 := by decide +kernel
  have size : cutPdr.pdrSize = 12 := by decide +kernel
  have length : cutPdr.bytes.length = 609 := by decide +kernel
  have start : regionStart cutPdrPlacement cutPdr.pdrOffset = 2 ^ 20 + 608 := by
    rw [offset]
    rfl
  have stop : cutPdrPlacement.plus (2 ^ 20 + 608) cutPdr.pdrSize.toNat = 2 ^ 20 + 620 := by
    rw [size]
    rfl
  have outside : ¬ RegionInside cutPdrPlacement cutPdr.pdrOffset cutPdr.pdrSize := by
    rintro ⟨search, _⟩
    have range := search (by rw [size]; decide)
    rw [start, stop] at range
    rcases (range (by decide)).2 with ends | found
    · rw [length] at ends
      exact absurd ends (by decide)
    · rcases Option.isSome_iff_exists.mp found with ⟨q, first⟩
      have fits := firstTag_fits cutPdrPlacement first
      rw [length] at fits
      have base : cutPdrPlacement.base = 2 ^ 20 := rfl
      omega
  rcases checkRegionAt_outside cutPdrPlacement 0 outside with ⟨index, stray⟩
  rw [checkCapsuleAt, stray]
  exact ⟨index, rfl⟩

end A500cg.FlashFdk
