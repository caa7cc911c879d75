import A500cg.Lib.Flash
import A500cg.Lib.Window

/-! `check_capsule` of `capsule.c`: the versions behind the `$MN2` tags of a capsule against the
current ones.

The regions are taken relative to the end of the signature block, except for the end of the SEC
region, which is taken relative to the start of the capsule. -/

namespace A500cg.FlashFdk

open Lib

def CAPSULE_FW_VERSION_TAG : UInt32 := 0x244d4e32
def CAPSULE_FW_VERSION_OFFSET : Nat := 5

def signatureBytes : Nat := 552

/-- A capsule file. `flash_capsule_fdk` refuses one that is not longer than its header. -/
structure Capsule where
  bytes : List UInt8
  whole : 608 < bytes.length

namespace Capsule

variable (c : Capsule)

def ref (offset : Nat) : UInt32 := le32 (bytesOf c.bytes) offset

def iafwStage2Offset : UInt32 := c.ref 584
def iafwStage2Size : UInt32 := c.ref 588
def pdrOffset : UInt32 := c.ref 592
def pdrSize : UInt32 := c.ref 596
def secOffset : UInt32 := c.ref 600
def secSize : UInt32 := c.ref 604

end Capsule

structure SecVersion where
  val0 : UInt32
  val1 : UInt32
  val2 : UInt32
  deriving DecidableEq, Repr

structure CurrentVersions where
  iafw : UInt32
  sec : SecVersion
  pdr : UInt32

def load (bytes : List UInt8) (i : Nat) : Outcome Empty UInt8 :=
  match bytes[i]? with
  | some byte => .ok byte
  | none => .stray i

/-- The loop of `get_fw_version_tag_offset`. -/
def tagLoop (bytes : List UInt8) (stop : Nat) (patt : UInt32) (data : Nat) :
    Outcome Empty (Option Nat) :=
  if data < stop then
    match load bytes data with
    | .ok byte =>
        if shiftIn patt byte = CAPSULE_FW_VERSION_TAG then
          .ok (some (data + CAPSULE_FW_VERSION_OFFSET))
        else tagLoop bytes stop (shiftIn patt byte) (data + 1)
    | .error cause => nomatch cause
    | .stray index => .stray index
  else .ok none
termination_by stop - data

/-- `get_fw_version_tag_offset`: where the data pointer is behind the tag, if one was found. -/
def getFwVersionTagOffset (bytes : List UInt8) (data stop : Nat) : Outcome Empty (Option Nat) :=
  tagLoop bytes stop 0 data

theorem tagLoop_ahead {bytes : List UInt8} {stop data next : Nat} {patt : UInt32}
    (found : tagLoop bytes stop patt data = .ok (some next)) : data < next ∧ data < stop := by
  fun_induction tagLoop bytes stop patt data with
  | case1 patt data inside byte here tag =>
      cases found
      exact ⟨Nat.lt_add_of_pos_right (by decide), inside⟩
  | case2 patt data inside byte here other ih =>
      have ahead := ih found
      exact ⟨by omega, inside⟩
  | case3 patt data inside index failed => cases found
  | case4 patt data outside => cases found

def mn2VerBytesreorder (data : Buffer) : UInt32 :=
  (data 1).toUInt32 <<< 24 ||| (data 0).toUInt32 <<< 16 ||| (data 3).toUInt32 <<< 8 |||
    (data 2).toUInt32

def secVersion (data : Buffer) : SecVersion where
  val2 := mn2VerBytesreorder data
  val1 := (data 5).toUInt32 <<< 8 ||| (data 4).toUInt32
  val0 := (data 7).toUInt32 <<< 8 ||| (data 6).toUInt32

/-- The bytes from `data` on. -/
def bytesAt (bytes : List UInt8) (data : Nat) : Buffer := fun k => bytesOf bytes (data + k)

/-- Reads the `count` bytes from `data` on. -/
def loadBytes (bytes : List UInt8) (data : Nat) : Nat → Outcome Empty Buffer
  | 0 => .ok (bytesAt bytes data)
  | count + 1 => do
      let buf ← loadBytes bytes data count
      let _ ← load bytes (data + count)
      pure buf

def checkRegion (c : Capsule) (offset size current : UInt32) : Outcome Empty (Option Bool) :=
  if size ≠ 0 then do
    let start := offset.toNat + signatureBytes
    match ← getFwVersionTagOffset c.bytes start (start + size.toNat) with
    | none => pure none
    | some data => do
        let version ← loadBytes c.bytes data 4
        pure (some (mn2VerBytesreorder version == current))
  else pure none

/-- The loop over the tags of the SEC region, with the flag `match` in front of it. -/
def secLoop (bytes : List UInt8) (stop : Nat) (current : SecVersion) (secData : Nat)
    (matched : Bool) : Outcome Empty Bool :=
  match _found : getFwVersionTagOffset bytes secData stop with
  | .ok none => .ok (!matched)
  | .ok (some data) =>
      match loadBytes bytes data 8 with
      | .ok version =>
          if secVersion version ≠ current then .ok true
          else secLoop bytes stop current data true
      | .error cause => nomatch cause
      | .stray index => .stray index
  | .error cause => nomatch cause
  | .stray index => .stray index
termination_by stop - secData
decreasing_by
  have ahead := tagLoop_ahead _found
  omega

def checkCapsule (c : Capsule) (current : CurrentVersions) : Outcome Empty Bool := do
  let pdr ← checkRegion c c.pdrOffset c.pdrSize current.pdr
  if pdr = some false then pure true
  else do
    let iafw ← checkRegion c c.iafwStage2Offset c.iafwStage2Size current.iafw
    if iafw = some false then pure true
    else
      let matched := pdr.isSome || iafw.isSome
      if c.secSize ≠ 0 then
        -- the end is `cdata + refs->sec_size`, not `sec_data + refs->sec_size`
        secLoop c.bytes c.secSize.toNat current.sec (c.secOffset.toNat + signatureBytes) matched
      else pure (!matched)

/-! The search by the window finds the first tag, and the loads stay inside the file. -/

def isTag (bytes : List UInt8) (q : Nat) : Bool :=
  be32 (bytesOf bytes) q == CAPSULE_FW_VERSION_TAG

def firstTag (bytes : List UInt8) (start stop : Nat) : Option Nat :=
  scan (isTag bytes) 1 4 stop start

theorem load_inside {bytes : List UInt8} {i : Nat} (inside : i < bytes.length) :
    load bytes i = .ok (bytesOf bytes i) := by
  simp [load, bytesOf, List.getD_eq_getElem?_getD, inside]

theorem loadBytes_inside {bytes : List UInt8} {data count : Nat}
    (inside : data + count ≤ bytes.length) : loadBytes bytes data count = .ok (bytesAt bytes data) := by
  induction count with
  | zero => rfl
  | succ count ih =>
      rw [loadBytes, ih (by omega), Outcome.ok_bind, load_inside (by omega)]
      rfl

theorem isTag_eq_true {bytes : List UInt8} {q : Nat} :
    isTag bytes q = true ↔ be32 (bytesOf bytes) q = CAPSULE_FW_VERSION_TAG := beq_iff_eq

theorem window_shows {bytes : List UInt8} {start data : Nat} {patt : UInt32} (behind : start ≤ data)
    (taken : patt.toNat = beNumber (bytesOf bytes) start (data - start) % 2 ^ 32) :
    shiftIn patt (bytesOf bytes data) = CAPSULE_FW_VERSION_TAG ↔
      start + 3 ≤ data ∧ isTag bytes (data - 3) = true := by
  have here : start + (data - start) = data := by omega
  have last : start + (data - start + 1) - 4 = data - 3 := by omega
  have wide : 2 ^ 24 ≤ CAPSULE_FW_VERSION_TAG.toNat := by decide
  have next := shiftIn_taken taken
  rw [here] at next
  rw [window_eq_iff next wide, last, isTag_eq_true]
  exact and_congr_left' (by omega)

theorem tagLoop_eq {bytes : List UInt8} {start stop data : Nat} {patt : UInt32}
    (inside : stop ≤ bytes.length) (behind : start ≤ data)
    (taken : patt.toNat = beNumber (bytesOf bytes) start (data - start) % 2 ^ 32)
    (missed : ∀ q, start ≤ q → q + 4 ≤ data → isTag bytes q = false) :
    tagLoop bytes stop patt data = .ok ((firstTag bytes start stop).map (· + 8)) := by
  induction h : stop - data generalizing patt data with
  | zero =>
      have none : firstTag bytes start stop = none := by
        apply scan_one_eq_none.mpr
        intro q after fits
        exact missed q after (by omega)
      rw [tagLoop, if_neg (by omega), none]
      rfl
  | succ left ih =>
      have shows := window_shows behind taken
      rw [tagLoop, if_pos (by omega), load_inside (by omega)]
      by_cases tag : shiftIn patt (bytesOf bytes data) = CAPSULE_FW_VERSION_TAG
      · rcases shows.mp tag with ⟨enough, complete⟩
        have first : firstTag bytes start stop = some (data - 3) := by
          apply scan_one_eq_some.mpr
          refine ⟨by omega, by omega, complete, fun q after before => ?_⟩
          exact missed q after (by omega)
        have place : data + CAPSULE_FW_VERSION_OFFSET = data - 3 + 8 := by
          rw [CAPSULE_FW_VERSION_OFFSET]
          omega
        simp only [tag, if_true]
        rw [first, place]
        rfl
      · have here : start + (data - start) = data := by omega
        have count : data + 1 - start = data - start + 1 := by omega
        have next := shiftIn_taken taken
        rw [here, ← count] at next
        simp only [tag, if_false]
        refine ih (by omega) next (fun q after before => ?_) (by omega)
        by_cases earlier : q + 4 ≤ data
        · exact missed q after earlier
        · -- only the byte just taken in could complete a tag at `q`
          apply Bool.eq_false_iff.mpr
          intro complete
          have same : q = data - 3 := by omega
          rw [same] at complete
          exact tag (shows.mpr ⟨by omega, complete⟩)

theorem getFwVersionTagOffset_eq {bytes : List UInt8} {stop : Nat} (start : Nat)
    (inside : stop ≤ bytes.length) :
    getFwVersionTagOffset bytes start stop = .ok ((firstTag bytes start stop).map (· + 8)) := by
  refine tagLoop_eq inside (Nat.le_refl start) ?_ fun q after before => by omega
  simp [beNumber]

/-! What the check should read: the first tag of the PDR and of the IAFW region, and the
successive tags of the SEC region, each search going on at the version behind the tag before. -/

/-- The version behind the tag at `q` starts 8 bytes behind the start of the tag. -/
def versionAt (bytes : List UInt8) (q : Nat) : Buffer := bytesAt bytes (q + 8)

def successiveTags (bytes : List UInt8) (stop start : Nat) : List Nat :=
  searchAll (isTag bytes) 4 8 stop start

/-- A region of the capsule is inside the file, and so are the `count` version bytes of its tags. -/
def RegionInFile (c : Capsule) (offset size : UInt32) (count : Nat) : Prop :=
  size ≠ 0 →
    signatureBytes + offset.toNat + size.toNat ≤ c.bytes.length ∧
    ∀ q, signatureBytes + offset.toNat ≤ q → q + 4 ≤ signatureBytes + offset.toNat + size.toNat →
      isTag c.bytes q = true → q + 8 + count ≤ c.bytes.length

structure InFile (c : Capsule) : Prop where
  pdr : RegionInFile c c.pdrOffset c.pdrSize 4
  iafw : RegionInFile c c.iafwStage2Offset c.iafwStage2Size 4
  sec : RegionInFile c c.secOffset c.secSize 8

def firstReading (c : Capsule) (offset size current : UInt32) : Option Bool :=
  if size ≠ 0 then
    (firstTag c.bytes (signatureBytes + offset.toNat)
      (signatureBytes + offset.toNat + size.toNat)).map
      fun q => mn2VerBytesreorder (versionAt c.bytes q) == current
  else none

/-- The successive tags of the SEC region that end at `stop` or before. -/
def secTags (c : Capsule) (stop : Nat) : List Nat :=
  if c.secSize ≠ 0 then successiveTags c.bytes stop (signatureBytes + c.secOffset.toNat) else []

def secReading (c : Capsule) (current : SecVersion) (q : Nat) : Bool :=
  secVersion (versionAt c.bytes q) == current

def readings (c : Capsule) (current : CurrentVersions) (stop : Nat) : List Bool :=
  (firstReading c c.pdrOffset c.pdrSize current.pdr).toList ++
    (firstReading c c.iafwStage2Offset c.iafwStage2Size current.iafw).toList ++
    (secTags c stop).map (secReading c current.sec)

/-- There is a tag, and every version read is the current one. -/
def UpToDate (read : List Bool) : Prop := read ≠ [] ∧ ∀ same ∈ read, same = true

theorem checkRegion_eq {c : Capsule} {offset size : UInt32} (current : UInt32)
    (inFile : RegionInFile c offset size 4) :
    checkRegion c offset size current = .ok (firstReading c offset size current) := by
  rw [checkRegion, firstReading]
  by_cases present : size ≠ 0
  · rcases inFile present with ⟨inside, versions⟩
    rw [if_pos present, if_pos present, Nat.add_comm offset.toNat]
    simp only [getFwVersionTagOffset_eq _ inside, Outcome.ok_bind]
    cases found : firstTag c.bytes (signatureBytes + offset.toNat)
        (signatureBytes + offset.toNat + size.toNat) with
    | none => rfl
    | some q =>
        rcases scan_one_eq_some.mp found with ⟨behind, fits, tag, _⟩
        simp only [Option.map_some]
        rw [loadBytes_inside (versions q behind fits tag)]
        rfl
  · rw [if_neg present, if_neg present]
    rfl

theorem next_tag {bytes : List UInt8} {stop start data : Nat} (inside : stop ≤ bytes.length)
    (found : getFwVersionTagOffset bytes start stop = .ok (some data)) :
    ∃ q, data = q + 8 ∧ start ≤ q ∧ q + 4 ≤ stop ∧ isTag bytes q = true ∧
      successiveTags bytes stop start = q :: successiveTags bytes stop data := by
  rw [getFwVersionTagOffset_eq start inside] at found
  cases first : firstTag bytes start stop with
  | none =>
      rw [first] at found
      cases found
  | some q =>
      rw [first] at found
      cases found
      rcases scan_one_eq_some.mp first with ⟨behind, fits, tag, _⟩
      exact ⟨q, rfl, behind, fits, tag, searchAll_of_some (by decide) first⟩

theorem secLoop_eq {c : Capsule} {stop start : Nat} (current : SecVersion) (matched : Bool)
    (inside : stop ≤ c.bytes.length)
    (versions : ∀ q, start ≤ q → q + 4 ≤ stop → isTag c.bytes q = true →
      q + 8 + 8 ≤ c.bytes.length) :
    ∃ result, secLoop c.bytes stop current start matched = .ok result ∧
      (result = false ↔ (matched = true ∨ successiveTags c.bytes stop start ≠ []) ∧
        ∀ q ∈ successiveTags c.bytes stop start, secReading c current q = true) := by
  fun_induction secLoop c.bytes stop current start matched with
  | case1 start matched missed =>
      rw [getFwVersionTagOffset_eq start inside] at missed
      have none : firstTag c.bytes start stop = none := by simpa using missed
      have empty : successiveTags c.bytes stop start = [] := searchAll_of_none none
      refine ⟨!matched, rfl, ?_⟩
      simp [empty]
  | case2 start matched data found version loaded other =>
      rcases next_tag inside found with ⟨q, rfl, behind, fits, tag, tags⟩
      rw [loadBytes_inside (versions q behind fits tag)] at loaded
      cases loaded
      refine ⟨true, rfl, iff_of_false (by decide) ?_⟩
      rintro ⟨_, same⟩
      have read : secReading c current q = true := same q (by simp [tags])
      exact other (beq_iff_eq.mp read)
  | case3 start matched data found version loaded same ih =>
      rcases next_tag inside found with ⟨q, rfl, behind, fits, tag, tags⟩
      rw [loadBytes_inside (versions q behind fits tag)] at loaded
      cases loaded
      have read : secReading c current q = true := beq_iff_eq.mpr (not_not.mp same)
      rcases ih fun r after => versions r (by omega) with ⟨result, ran, meaning⟩
      refine ⟨result, ran, meaning.trans ?_⟩
      simp [tags, read]
  | case4 start matched data found index failed =>
      rcases next_tag inside found with ⟨q, rfl, behind, fits, tag, tags⟩
      rw [loadBytes_inside (versions q behind fits tag)] at failed
      cases failed
  | case5 start matched index failed =>
      rw [getFwVersionTagOffset_eq start inside] at failed
      cases failed

theorem secCheck_eq {c : Capsule} (current : SecVersion) (matched : Bool)
    (inFile : RegionInFile c c.secOffset c.secSize 8) :
    ∃ result, (if c.secSize ≠ 0 then
        secLoop c.bytes c.secSize.toNat current (c.secOffset.toNat + signatureBytes) matched
      else pure (!matched)) = .ok result ∧
      (result = false ↔ (matched = true ∨ secTags c c.secSize.toNat ≠ []) ∧
        ∀ q ∈ secTags c c.secSize.toNat, secReading c current q = true) := by
  by_cases present : c.secSize ≠ 0
  · rcases inFile present with ⟨inside, versions⟩
    rw [if_pos present, secTags, if_pos present, Nat.add_comm c.secOffset.toNat]
    refine secLoop_eq current matched (by omega) fun q after fits tag => ?_
    exact versions q after (by omega) tag
  · rw [if_neg present, secTags, if_neg present]
    exact ⟨!matched, rfl, by simp⟩

theorem upToDate_iff (pdr iafw : Option Bool) (sec : List Bool) :
    UpToDate (pdr.toList ++ iafw.toList ++ sec) ↔
      pdr ≠ some false ∧ iafw ≠ some false ∧ ((pdr.isSome || iafw.isSome) = true ∨ sec ≠ []) ∧
        ∀ same ∈ sec, same = true := by
  rcases pdr with _ | _ | _ <;> rcases iafw with _ | _ | _ <;> simp [UpToDate]

theorem checkCapsule_eq {c : Capsule} (current : CurrentVersions) (inFile : InFile c) :
    ∃ result, checkCapsule c current = .ok result ∧
      (result = false ↔ UpToDate (readings c current c.secSize.toNat)) := by
  rw [checkCapsule, checkRegion_eq current.pdr inFile.pdr, Outcome.ok_bind, readings, upToDate_iff]
  by_cases pdr : firstReading c c.pdrOffset c.pdrSize current.pdr = some false
  · rw [if_pos pdr]
    exact ⟨true, rfl, iff_of_false (by decide) fun same => same.1 pdr⟩
  rw [if_neg pdr, checkRegion_eq current.iafw inFile.iafw, Outcome.ok_bind]
  by_cases iafw : firstReading c c.iafwStage2Offset c.iafwStage2Size current.iafw = some false
  · rw [if_pos iafw]
    exact ⟨true, rfl, iff_of_false (by decide) fun same => same.2.1 iafw⟩
  rw [if_neg iafw]
  rcases secCheck_eq current.sec _ inFile.sec with ⟨result, ran, meaning⟩
  refine ⟨result, ran, meaning.trans ?_⟩
  simp [pdr, iafw]

def secEnd (c : Capsule) : Nat := signatureBytes + c.secOffset.toNat + c.secSize.toNat

/-- The tags of the SEC region that end behind `sec_size`, counted from the start of the file. -/
def unseenTags (c : Capsule) : List Nat :=
  (secTags c (secEnd c)).filter fun q => c.secSize.toNat < q + 4

theorem secTags_seen (c : Capsule) :
    secTags c c.secSize.toNat =
      (secTags c (secEnd c)).filter fun q => q + 4 ≤ c.secSize.toNat := by
  rw [secTags, secTags]
  split
  · exact searchAll_shorter (by decide) (by rw [secEnd]; omega)
  · rfl

theorem mem_secTags {c : Capsule} {q : Nat} :
    q ∈ secTags c (secEnd c) ↔ q ∈ secTags c c.secSize.toNat ∨ q ∈ unseenTags c := by
  simp only [secTags_seen, unseenTags, List.mem_filter, decide_eq_true_eq, ← and_or_left]
  exact (and_iff_left (by omega)).symm

theorem mem_readings {c : Capsule} {current : CurrentVersions} {same : Bool} :
    same ∈ readings c current (secEnd c) ↔
      same ∈ readings c current c.secSize.toNat ∨
        ∃ q ∈ unseenTags c, secReading c current.sec q = same := by
  simp only [readings, List.mem_append, List.mem_map, mem_secTags, or_and_right, exists_or, or_assoc]

theorem readings_eq_nil {c : Capsule} {current : CurrentVersions} :
    readings c current (secEnd c) = [] ↔
      readings c current c.secSize.toNat = [] ∧ unseenTags c = [] := by
  simp only [List.eq_nil_iff_forall_not_mem, mem_readings, not_or, forall_and]
  refine and_congr Iff.rfl ⟨fun none q unseen => ?_, fun none same => ?_⟩
  · exact none _ ⟨q, unseen, rfl⟩
  · rintro ⟨q, unseen, _⟩
    exact none q unseen

theorem upToDate_secEnd (c : Capsule) (current : CurrentVersions) :
    UpToDate (readings c current (secEnd c)) ↔
      (readings c current c.secSize.toNat ≠ [] ∨ unseenTags c ≠ []) ∧
      (∀ same ∈ readings c current c.secSize.toNat, same = true) ∧
      ∀ q ∈ unseenTags c, secReading c current.sec q = true := by
  rw [UpToDate, ne_eq, readings_eq_nil, not_and_or]
  refine and_congr Iff.rfl ⟨fun all => ⟨?_, ?_⟩, fun both => ?_⟩
  · exact fun same seen => all same (mem_readings.mpr (Or.inl seen))
  · exact fun q unseen => all _ (mem_readings.mpr (Or.inr ⟨q, unseen, rfl⟩))
  · intro same member
    rcases mem_readings.mp member with seen | ⟨q, unseen, rfl⟩
    · exact both.1 same seen
    · exact both.2 q unseen

theorem unseen_matter {seen seenSame unseen unseenSame : Prop} (vacuous : ¬ unseen → unseenSame) :
    ((seen ∧ seenSame) ↔ ((seen ∨ unseen) ∧ seenSame ∧ unseenSame)) ↔
      (¬ seenSame ∨ ¬ unseen ∨ (unseenSame ↔ seen)) := by
  tauto

/-- The result is the right one exactly when a version that the check reads is another one, or no
tag of the SEC region ends behind `sec_size`, or the versions behind those tags are all the current
ones just when the check reads a version at all. -/
theorem check_capsule_iff (c : Capsule) (current : CurrentVersions) (inFile : InFile c) :
    (∃ result, checkCapsule c current = .ok result ∧
      (result = false ↔ UpToDate (readings c current (secEnd c)))) ↔
    (∃ same ∈ readings c current c.secSize.toNat, same = false) ∨ unseenTags c = [] ∨
      ((∀ q ∈ unseenTags c, secReading c current.sec q = true) ↔
        readings c current c.secSize.toNat ≠ []) := by
  rcases checkCapsule_eq current inFile with ⟨result, ran, meaning⟩
  have only : (∃ r, checkCapsule c current = .ok r ∧
      (r = false ↔ UpToDate (readings c current (secEnd c)))) ↔
      (UpToDate (readings c current c.secSize.toNat) ↔ UpToDate (readings c current (secEnd c))) := by
    rw [← meaning]
    constructor
    · rintro ⟨r, ran', right⟩
      cases ran.symm.trans ran'
      exact right
    · exact fun right => ⟨result, ran, right⟩
  rw [only, upToDate_secEnd, UpToDate]
  have other : (∃ same ∈ readings c current c.secSize.toNat, same = false) ↔
      ¬ ∀ same ∈ readings c current c.secSize.toNat, same = true := by simp
  have vacuous : ¬ unseenTags c ≠ [] → ∀ q ∈ unseenTags c, secReading c current.sec q = true := by
    intro none
    simp [not_not.mp none]
  rw [other, ← not_ne_iff]
  exact unseen_matter vacuous

def pdrAndSec : Capsule where
  bytes := List.replicate 584 0 ++
    [0, 0, 0, 0, 0, 0, 0, 0, 56, 0, 0, 0, 12, 0, 0, 0, 68, 0, 0, 0, 16, 0, 0, 0] ++
    [0x24, 0x4d, 0x4e, 0x32, 0, 0, 0, 0, 1, 0, 2, 0] ++
    [0x24, 0x4d, 0x4e, 0x32, 0, 0, 0, 0, 0, 0, 4, 0, 2, 0, 1, 0] ++ List.replicate 12 0
  whole := by decide +kernel

theorem pdrAndSec_refs : pdrAndSec.iafwStage2Size = 0 ∧ pdrAndSec.pdrOffset = 56 ∧
    pdrAndSec.pdrSize = 12 ∧ pdrAndSec.secOffset = 68 ∧ pdrAndSec.secSize = 16 := by
  decide +kernel

theorem pdrAndSec_inFile : InFile pdrAndSec := by
  rcases pdrAndSec_refs with ⟨iafwSize, pdrOffset, pdrSize, secOffset, secSize⟩
  have length : pdrAndSec.bytes.length = 648 := by decide +kernel
  constructor
  · intro _
    rw [pdrOffset, pdrSize, length]
    exact ⟨by decide, fun q _ fits _ => by simp [signatureBytes] at fits; omega⟩
  · intro present
    exact absurd iafwSize present
  · intro _
    rw [secOffset, secSize, length]
    exact ⟨by decide, fun q _ fits _ => by simp [signatureBytes] at fits; omega⟩

theorem pdrAndSec_pdr :
    firstReading pdrAndSec pdrAndSec.pdrOffset pdrAndSec.pdrSize 0x10002 = some true := by
  rcases pdrAndSec_refs with ⟨_, pdrOffset, pdrSize, _, _⟩
  have first : firstTag pdrAndSec.bytes 608 620 = some 608 :=
    scan_one_eq_some.mpr ⟨by decide, by decide, by decide +kernel, fun p _ _ => by omega⟩
  have start : signatureBytes + pdrAndSec.pdrOffset.toNat = 608 := by rw [pdrOffset]; rfl
  have stop : 608 + pdrAndSec.pdrSize.toNat = 620 := by rw [pdrSize]; rfl
  rw [firstReading, if_pos (by rw [pdrSize]; decide), start, stop, first]
  decide +kernel

theorem pdrAndSec_sec : secTags pdrAndSec (secEnd pdrAndSec) = [620] := by
  rcases pdrAndSec_refs with ⟨_, _, _, secOffset, secSize⟩
  have first : scan (isTag pdrAndSec.bytes) 1 4 636 620 = some 620 :=
    scan_one_eq_some.mpr ⟨by decide, by decide, by decide +kernel, fun p _ _ => by omega⟩
  have last : scan (isTag pdrAndSec.bytes) 1 4 636 628 = none := by
    apply scan_one_eq_none.mpr
    intro p after fits
    have upper : p ≤ 632 := by omega
    interval_cases p <;> decide +kernel
  have start : signatureBytes + pdrAndSec.secOffset.toNat = 620 := by rw [secOffset]; rfl
  have stop : secEnd pdrAndSec = 636 := by rw [secEnd, start, secSize]; rfl
  rw [secTags, if_pos (by rw [secSize]; decide), start, stop, successiveTags,
    searchAll_of_some (by decide) first, searchAll_of_none last]

theorem pdrAndSec_readings (sec : SecVersion) :
    readings pdrAndSec ⟨0, sec, 0x10002⟩ pdrAndSec.secSize.toNat = [true] ∧
      unseenTags pdrAndSec = [620] := by
  rcases pdrAndSec_refs with ⟨iafwSize, _, _, _, secSize⟩
  have unread : secTags pdrAndSec pdrAndSec.secSize.toNat = [] := by
    rw [secTags_seen, pdrAndSec_sec, secSize]
    rfl
  have iafw :
      firstReading pdrAndSec pdrAndSec.iafwStage2Offset pdrAndSec.iafwStage2Size 0 = none := by
    rw [firstReading, if_neg (by simp [iafwSize])]
  refine ⟨?_, ?_⟩
  · rw [readings, unread, pdrAndSec_pdr, iafw]
    rfl
  · rw [unseenTags, pdrAndSec_sec, secSize]
    rfl

theorem check_capsule_current :
    ∃ result, checkCapsule pdrAndSec ⟨0, ⟨1, 2, 4⟩, 0x10002⟩ = .ok result ∧
      (result = false ↔
        UpToDate (readings pdrAndSec ⟨0, ⟨1, 2, 4⟩, 0x10002⟩ (secEnd pdrAndSec))) := by
  rcases pdrAndSec_readings ⟨1, 2, 4⟩ with ⟨seen, unseen⟩
  refine (check_capsule_iff pdrAndSec _ pdrAndSec_inFile).mpr (Or.inr (Or.inr ?_))
  rw [seen, unseen]
  refine iff_of_true (fun q member => ?_) (by simp)
  cases List.mem_singleton.mp member
  decide +kernel

/-- The SEC image of the capsule is another one than the current one, but the capsule is not
flashed. -/
theorem sec_update_skipped :
    InFile pdrAndSec ∧ checkCapsule pdrAndSec ⟨0, ⟨1, 2, 3⟩, 0x10002⟩ = .ok false ∧
      ¬ UpToDate (readings pdrAndSec ⟨0, ⟨1, 2, 3⟩, 0x10002⟩ (secEnd pdrAndSec)) := by
  rcases pdrAndSec_readings ⟨1, 2, 3⟩ with ⟨seen, unseen⟩
  rcases checkCapsule_eq ⟨0, ⟨1, 2, 3⟩, 0x10002⟩ pdrAndSec_inFile with ⟨result, ran, meaning⟩
  refine ⟨pdrAndSec_inFile, ?_, fun same => ?_⟩
  · rw [ran, meaning.mpr]
    rw [seen]
    exact ⟨by simp, by simp⟩
  · have wrong := ((upToDate_secEnd ..).mp same).2.2 620 (by rw [unseen]; simp)
    revert wrong
    decide +kernel

end A500cg.FlashFdk
