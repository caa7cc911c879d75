import A500cg.Lib.CString
import Mathlib.Data.List.Infix

/-! `FlashIfwiOrBomFn` of `updater.c`: the entries of an archive whose name begins with `ifwi` are
checked and flashed, or the BOM token that belongs to each of them is written.

What the archive library and the calls answer is given; the calls for one entry are told apart
from those for another by the index of the entry. -/

namespace A500cg.Updater

open Lib

def IFWI_NAME : List UInt8 := [0x69, 0x66, 0x77, 0x69]
def BOM_TOKEN_NAME : List UInt8 := [0x62, 0x6f, 0x6d, 0x2d, 0x74, 0x6f, 0x6b, 0x65, 0x6e]

def nameBytes : Nat := 128

inductive FlashOptionType where
  | FLASH_IFWI_BINARY
  | FLASH_BOM_TOKEN_BINARY
  deriving DecidableEq, Repr

/-- An entry of an archive; what can be extracted of it is as long as its header says. -/
structure ZipEntry where
  fileName : List UInt8
  uncompLen : Int
  extracted : Option (List UInt8)
  whole : ∀ data ∈ extracted, (data.length : Int) = uncompLen

structure ZipArchive where
  entries : List ZipEntry
  mzFindZipEntry : List UInt8 → Option ZipEntry

/-- The build, the argument and the file it names, and the results of the calls that are made for
the entry of an index. -/
structure FlashEnv where
  teeFramework : Bool
  filename : Option String
  fileRead : String → Option (List UInt8)
  mzOpenZipArchive : List UInt8 → Option ZipArchive
  malloc : Nat → Bool
  mallocToken : Nat → Bool
  checkIfwiFile : Nat → Int
  updateIfwiFile : Nat → Int
  writeToken : Nat → Int

inductive FlashCall where
  | checkIfwiFile (data : List UInt8) (result : Int)
  | updateIfwiFile (data : List UInt8) (result : Int)
  | writeToken (data : List UInt8) (result : Int)
  | cancelUpdate
  deriving DecidableEq, Repr

inductive Ending where
  | next
  | error (ret : Option String)
  deriving DecidableEq, Repr

/-- `strcpy` and `strncat` into `bom_token_name`. -/
def bomTokenName (ifwiName : List UInt8) : List UInt8 :=
  BOM_TOKEN_NAME ++
    (ifwiName.drop IFWI_NAME.length).take (nameBytes - BOM_TOKEN_NAME.length - 1)

def flashBomToken (env : FlashEnv) (i : Nat) : Option ZipEntry → Ending × List FlashCall
  | none => (.next, [])
  | some token =>
      if token.uncompLen ≤ 0 then (.error none, [])
      else if !env.mallocToken i then (.error none, [])
      else
        match token.extracted with
        | none => (.error none, [])
        | some data =>
            if env.writeToken i = 0 then (.next, [.writeToken data 0])
            else (.error (some "fail"), [.writeToken data (env.writeToken i), .cancelUpdate])

def flashEntry (option : FlashOptionType) (env : FlashEnv) (za : ZipArchive) (i : Nat)
    (entry : ZipEntry) : Ending × List FlashCall :=
  if entry.fileName.length + 1 < nameBytes then
    let ifwiName := cText entry.fileName
    if strncmp ifwiName IFWI_NAME IFWI_NAME.length ≠ 0 then (.next, [])
    else if entry.uncompLen ≤ 0 then (.error none, [])
    else if !env.malloc i then (.error none, [])
    else
      match entry.extracted with
      | none => (.error none, [])
      | some data =>
          let checked := FlashCall.checkIfwiFile data (env.checkIfwiFile i)
          if env.checkIfwiFile i < 1 then (.next, [checked])
          else
            match option with
            | .FLASH_BOM_TOKEN_BINARY =>
                if env.teeFramework then
                  let (ending, calls) :=
                    flashBomToken env i (za.mzFindZipEntry (bomTokenName ifwiName))
                  (ending, checked :: calls)
                else (.next, [checked])
            | .FLASH_IFWI_BINARY =>
                -- the result of the update is not looked at
                (.next, [checked, .updateIfwiFile data (env.updateIfwiFile i)])
  else (.error none, [])

def flashEntries (option : FlashOptionType) (env : FlashEnv) (za : ZipArchive) :
    List (ZipEntry × Nat) → Option String × List (Nat × FlashCall)
  | [] => (some "t", [])
  | (entry, i) :: rest =>
      match flashEntry option env za i entry with
      | (.error ret, calls) => (ret, calls.map (i, ·))
      | (.next, calls) =>
          let (ret, later) := flashEntries option env za rest
          (ret, calls.map (i, ·) ++ later)

def openArchive (env : FlashEnv) : Option ZipArchive :=
  match env.filename with
  | none => none
  | some filename =>
      if filename = "" then none
      else (env.fileRead filename).bind env.mzOpenZipArchive

def flashIfwiOrBomFn (option : FlashOptionType) (env : FlashEnv) :
    Option String × List (Nat × FlashCall) :=
  match openArchive env with
  | none => (none, [])
  | some za => flashEntries option env za za.entries.zipIdx

/-- An entry that is to be flashed. -/
def Approved (env : FlashEnv) (i : Nat) (entry : ZipEntry) : Prop :=
  IFWI_NAME <+: entry.fileName ∧ 1 ≤ env.checkIfwiFile i

def FlashCall.flashes : FlashCall → Bool
  | .updateIfwiFile _ _ => true
  | .writeToken _ _ => true
  | _ => false

def tokenOf (za : ZipArchive) (entry : ZipEntry) : Option ZipEntry :=
  za.mzFindZipEntry (bomTokenName (cText entry.fileName))

/-- Among the calls is one that was given the whole contents and reported success. -/
def Flashed (option : FlashOptionType) (za : ZipArchive) (entry : ZipEntry)
    (calls : List FlashCall) : Prop :=
  match option with
  | .FLASH_IFWI_BINARY => ∃ data ∈ entry.extracted, FlashCall.updateIfwiFile data 0 ∈ calls
  | .FLASH_BOM_TOKEN_BINARY =>
      ∃ token ∈ tokenOf za entry, ∃ data ∈ token.extracted, FlashCall.writeToken data 0 ∈ calls

def callsFor (i : Nat) (log : List (Nat × FlashCall)) : List FlashCall :=
  log.filterMap fun item => if item.1 = i then some item.2 else none

/-- `"t"` stands for entries that were all flashed, and only what has passed its check is
flashed. -/
structure Truthful (option : FlashOptionType) (env : FlashEnv) : Prop where
  success : (flashIfwiOrBomFn option env).1 = some "t" →
    ∃ za, openArchive env = some za ∧ ∀ i entry, za.entries[i]? = some entry →
      Approved env i entry → Flashed option za entry (callsFor i (flashIfwiOrBomFn option env).2)
  checked : ∀ i, ∀ call ∈ callsFor i (flashIfwiOrBomFn option env).2, call.flashes = true →
    1 ≤ env.checkIfwiFile i ∧
      ∃ data, .checkIfwiFile data (env.checkIfwiFile i) ∈
        callsFor i (flashIfwiOrBomFn option env).2

/-- What keeps the token of an entry from being written. -/
def TokenStops (env : FlashEnv) (i : Nat) (token : ZipEntry) : Prop :=
  token.uncompLen ≤ 0 ∨ env.mallocToken i = false ∨ token.extracted = none ∨ env.writeToken i ≠ 0

/-- The loop does not get past the entry. -/
def Stops (option : FlashOptionType) (env : FlashEnv) (za : ZipArchive) (i : Nat)
    (entry : ZipEntry) : Prop :=
  nameBytes ≤ entry.fileName.length + 1 ∨
    IFWI_NAME <+: entry.fileName ∧
      (entry.uncompLen ≤ 0 ∨ env.malloc i = false ∨ entry.extracted = none ∨
        option = .FLASH_BOM_TOKEN_BINARY ∧ env.teeFramework = true ∧ 1 ≤ env.checkIfwiFile i ∧
          ∃ token ∈ tokenOf za entry, TokenStops env i token)

/-- The flashing of an approved entry does not fail silently. -/
def Heeded (option : FlashOptionType) (env : FlashEnv) (za : ZipArchive) (i : Nat)
    (entry : ZipEntry) : Prop :=
  match option with
  | .FLASH_IFWI_BINARY => env.updateIfwiFile i = 0
  | .FLASH_BOM_TOKEN_BINARY => env.teeFramework = true ∧ (tokenOf za entry).isSome = true

theorem named_iff (entry : ZipEntry) :
    strncmp (cText entry.fileName) IFWI_NAME IFWI_NAME.length = 0 ↔
      IFWI_NAME <+: entry.fileName :=
  strncmp_prefix_iff _ _ (by decide)

variable {option : FlashOptionType} {env : FlashEnv} {za : ZipArchive} {i : Nat} {entry : ZipEntry}

theorem flashBomToken_next (env : FlashEnv) (i : Nat) (found : Option ZipEntry) :
    (flashBomToken env i found).1 = .next ↔ ∀ token ∈ found, ¬ TokenStops env i token := by
  fun_cases flashBomToken env i found with
  | case1 => simp
  | case2 token empty => simp [TokenStops, Int.not_lt.mpr empty]
  | case3 token size memory => simp_all [TokenStops]
  | case4 token size memory broken => simp [TokenStops, broken]
  | case5 token size memory data extracted success => simp_all [TokenStops]
  | case6 token size memory data extracted failure => simp [TokenStops, failure]

theorem flashBomToken_written (env : FlashEnv) (i : Nat) (found : Option ZipEntry)
    (next : (flashBomToken env i found).1 = .next) :
    (∃ token ∈ found, ∃ data ∈ token.extracted,
        FlashCall.writeToken data 0 ∈ (flashBomToken env i found).2) ↔ found.isSome = true := by
  revert next
  fun_cases flashBomToken env i found with
  | case5 token size memory data extracted success => simp [extracted]
  | _ => simp

theorem flashEntry_next :
    (flashEntry option env za i entry).1 = .next ↔ ¬ Stops option env za i entry := by
  fun_cases flashEntry option env za i entry with
  | case1 option short name other =>
      have other := mt (named_iff entry).mpr other
      simp [Stops, short, other]
  | case2 option short name named empty =>
      have named := (named_iff entry).mp (not_not.mp named)
      simp [Stops, named, Int.not_lt.mpr empty]
  | case3 option short name named size memory =>
      have named := (named_iff entry).mp (not_not.mp named)
      simp_all [Stops]
  | case4 option short name named size memory broken =>
      have named := (named_iff entry).mp (not_not.mp named)
      simp [Stops, named, broken]
  | case5 option short name named size memory data extracted checked refused =>
      apply iff_of_true rfl
      rintro (long | ⟨-, empty | none | broken | ⟨-, -, approved, -⟩⟩)
      · omega
      · exact size empty
      · simp [none] at memory
      · simp [broken] at extracted
      · omega
  | case6 short name named size memory data extracted checked approved tee ending calls found =>
      have named := (named_iff entry).mp (not_not.mp named)
      have same : (flashBomToken env i (tokenOf za entry)).1 = ending := congrArg Prod.fst found
      have written := flashBomToken_next env i (tokenOf za entry)
      rw [same] at written
      simp_all [Stops]
  | case7 short name named size memory data extracted checked approved tee =>
      simp_all [Stops]
  | case8 short name named size memory data extracted checked approved =>
      simp_all [Stops]
  | case9 option long => simp_all [Stops]

theorem flashEntry_flashed (next : (flashEntry option env za i entry).1 = .next)
    (approved : Approved env i entry) :
    Flashed option za entry (flashEntry option env za i entry).2 ↔
      Heeded option env za i entry := by
  revert next
  fun_cases flashEntry option env za i entry with
  | case1 option short name other => exact absurd ((named_iff entry).mpr approved.1) other
  | case5 option short name named size memory data extracted checked refused =>
      have := approved.2
      omega
  | case6 short name named size memory data extracted checked approved tee ending calls found =>
      intro next
      have pair : flashBomToken env i (tokenOf za entry) = (ending, calls) := found
      have written := flashBomToken_written env i (tokenOf za entry)
        (by rw [pair]; exact next)
      rw [pair] at written
      simpa [Flashed, Heeded, tee, checked] using written
  | case7 short name named size memory data extracted checked approved tee =>
      simp [Flashed, Heeded, tee, checked]
  | case8 short name named size memory data extracted checked approved =>
      simp [Flashed, Heeded, extracted, checked, eq_comm]
  | _ => simp

theorem flashEntry_checked {call : FlashCall} (flashes : call.flashes = true)
    (made : call ∈ (flashEntry option env za i entry).2) :
    1 ≤ env.checkIfwiFile i ∧ ∃ data, .checkIfwiFile data (env.checkIfwiFile i) ∈
      (flashEntry option env za i entry).2 := by
  revert made
  fun_cases flashEntry option env za i entry with
  | case5 option short name named size memory data extracted checked refused =>
      intro made
      rw [List.mem_singleton.mp made] at flashes
      cases flashes
  | case6 short name named size memory data extracted checked approved tee ending calls found =>
      exact fun _ => ⟨by omega, data, List.mem_cons_self⟩
  | case7 short name named size memory data extracted checked approved tee =>
      exact fun _ => ⟨by omega, data, List.mem_cons_self⟩
  | case8 short name named size memory data extracted checked approved =>
      exact fun _ => ⟨by omega, data, List.mem_cons_self⟩
  | _ => exact fun made => absurd made List.not_mem_nil

theorem mem_callsFor {log : List (Nat × FlashCall)} {call : FlashCall} :
    call ∈ callsFor i log ↔ (i, call) ∈ log := by
  simp only [callsFor, List.mem_filterMap, Option.ite_none_right_eq_some, Option.some.injEq]
  constructor
  · rintro ⟨⟨k, call⟩, member, rfl, rfl⟩
    exact member
  · exact fun member => ⟨(i, call), member, rfl, rfl⟩

theorem flashBomToken_error (env : FlashEnv) (i : Nat) (found : Option ZipEntry) :
    (flashBomToken env i found).1 ≠ .error (some "t") := by
  fun_cases flashBomToken env i found <;> simp

theorem flashEntry_error (option : FlashOptionType) (env : FlashEnv) (za : ZipArchive) (i : Nat)
    (entry : ZipEntry) : (flashEntry option env za i entry).1 ≠ .error (some "t") := by
  fun_cases flashEntry option env za i entry with
  | case6 short name named size memory data extracted checked approved tee ending calls found =>
      have same := congrArg Prod.fst found
      exact same ▸ flashBomToken_error env i _
  | _ => simp

theorem flashEntries_success (entries : List (ZipEntry × Nat)) :
    (flashEntries option env za entries).1 = some "t" ↔
      ∀ item ∈ entries, ¬ Stops option env za item.2 item.1 := by
  induction entries with
  | nil => simp [flashEntries]
  | cons item rest ih =>
      rcases item with ⟨entry, i⟩
      rw [flashEntries, List.forall_mem_cons, ← flashEntry_next]
      split
      next ret calls stops =>
        have other := flashEntry_error option env za i entry
        simp_all
      next calls passes => simpa [passes] using ih

theorem flashEntries_calls {entries : List (ZipEntry × Nat)} {call : FlashCall}
    (made : (i, call) ∈ (flashEntries option env za entries).2) :
    ∃ entry, (entry, i) ∈ entries ∧ call ∈ (flashEntry option env za i entry).2 ∧
      ∀ other ∈ (flashEntry option env za i entry).2,
        (i, other) ∈ (flashEntries option env za entries).2 := by
  induction entries with
  | nil => exact absurd made List.not_mem_nil
  | cons item rest ih =>
      rcases item with ⟨entry, k⟩
      rw [flashEntries] at made ⊢
      split at made
      next ret calls stops =>
        rcases List.mem_map.mp made with ⟨call, member, pair⟩
        cases pair
        exact ⟨entry, List.mem_cons_self, by simpa [stops] using member,
          fun other member => by simpa [stops] using member⟩
      next calls passes =>
        rcases List.mem_append.mp made with here | later
        · rcases List.mem_map.mp here with ⟨call, member, pair⟩
          cases pair
          refine ⟨entry, List.mem_cons_self, by simpa [passes] using member, ?_⟩
          intro other member
          rw [passes] at member
          exact List.mem_append_left _ (List.mem_map.mpr ⟨other, member, rfl⟩)
        · rcases ih later with ⟨entry, inside, member, together⟩
          exact ⟨entry, List.mem_cons_of_mem _ inside, member,
            fun other member => List.mem_append_right _ (together other member)⟩

theorem flashEntries_all {entries : List (ZipEntry × Nat)}
    (passes : ∀ item ∈ entries, ¬ Stops option env za item.2 item.1)
    (inside : (entry, i) ∈ entries) {call : FlashCall}
    (made : call ∈ (flashEntry option env za i entry).2) :
    (i, call) ∈ (flashEntries option env za entries).2 := by
  induction entries with
  | nil => exact absurd inside List.not_mem_nil
  | cons item rest ih =>
      rcases item with ⟨head, k⟩
      rw [List.forall_mem_cons] at passes
      have next := flashEntry_next.mpr passes.1
      rw [flashEntries]
      split
      next ret calls stops => simp [stops] at next
      next calls goes =>
        rcases List.mem_cons.mp inside with here | later
        · cases here
          rw [goes] at made
          exact List.mem_append_left _ (List.mem_map.mpr ⟨call, made, rfl⟩)
        · exact List.mem_append_right _ (ih passes.2 later)

theorem flashed_congr {calls calls' : List FlashCall}
    (same : ∀ call, call ∈ calls ↔ call ∈ calls') :
    Flashed option za entry calls ↔ Flashed option za entry calls' := by
  simp only [Flashed, same]

theorem mem_callsFor_flashEntries
    (passes : ∀ item ∈ za.entries.zipIdx, ¬ Stops option env za item.2 item.1)
    (inside : za.entries[i]? = some entry) (call : FlashCall) :
    call ∈ callsFor i (flashEntries option env za za.entries.zipIdx).2 ↔
      call ∈ (flashEntry option env za i entry).2 := by
  rw [mem_callsFor]
  constructor
  · intro made
    rcases flashEntries_calls made with ⟨found, there, member, -⟩
    cases (List.mk_mem_zipIdx_iff_getElem?.mp there).symm.trans inside
    exact member
  · exact flashEntries_all passes (List.mk_mem_zipIdx_iff_getElem?.mpr inside)

theorem flashIfwiOrBomFn_checked (option : FlashOptionType) (env : FlashEnv) {call : FlashCall}
    (made : call ∈ callsFor i (flashIfwiOrBomFn option env).2) (flashes : call.flashes = true) :
    1 ≤ env.checkIfwiFile i ∧ ∃ data, .checkIfwiFile data (env.checkIfwiFile i) ∈
      callsFor i (flashIfwiOrBomFn option env).2 := by
  simp only [mem_callsFor] at made ⊢
  rw [flashIfwiOrBomFn] at made ⊢
  split at made
  next => exact absurd made List.not_mem_nil
  next za opened =>
    rcases flashEntries_calls made with ⟨entry, -, member, together⟩
    rcases flashEntry_checked flashes member with ⟨approved, data, check⟩
    exact ⟨approved, data, together _ check⟩

theorem passes_iff :
    (∀ item ∈ za.entries.zipIdx, ¬ Stops option env za item.2 item.1) ↔
      ¬ ∃ i entry, za.entries[i]? = some entry ∧ Stops option env za i entry := by
  constructor
  · rintro passes ⟨i, entry, inside, stops⟩
    exact passes (entry, i) (List.mk_mem_zipIdx_iff_getElem?.mpr inside) stops
  · rintro none ⟨entry, i⟩ inside stops
    exact none ⟨i, entry, List.mk_mem_zipIdx_iff_getElem?.mp inside, stops⟩

/-- `FlashIfwiOrBomFn` tells the truth exactly when some entry of the archive stops it, or no
approved entry fails silently: by an update whose result is ignored, or for want of a token. -/
theorem flash_ifwi_truthful_iff (option : FlashOptionType) (env : FlashEnv) :
    Truthful option env ↔ ∀ za, openArchive env = some za →
      (∃ i entry, za.entries[i]? = some entry ∧ Stops option env za i entry) ∨
        ∀ i entry, za.entries[i]? = some entry → Approved env i entry →
          Heeded option env za i entry := by
  -- in a run that nothing stops, an approved entry is flashed if and only if it is heeded
  have flashed : ∀ za, ∀ passes : ∀ item ∈ za.entries.zipIdx, ¬ Stops option env za item.2 item.1,
      ∀ i entry, za.entries[i]? = some entry → Approved env i entry →
        (Flashed option za entry (callsFor i (flashEntries option env za za.entries.zipIdx).2) ↔
          Heeded option env za i entry) := by
    intro za passes i entry inside approved
    have next := flashEntry_next.mpr
      (passes (entry, i) (List.mk_mem_zipIdx_iff_getElem?.mpr inside))
    rw [flashed_congr (mem_callsFor_flashEntries passes inside)]
    exact flashEntry_flashed next approved
  constructor
  · intro truthful za opened
    rw [or_iff_not_imp_left, ← passes_iff]
    intro passes i entry inside approved
    have run : flashIfwiOrBomFn option env = flashEntries option env za za.entries.zipIdx := by
      rw [flashIfwiOrBomFn, opened]
    rcases truthful.success (by rw [run]; exact (flashEntries_success _).mpr passes) with
      ⟨same, opened', all⟩
    cases opened.symm.trans opened'
    rw [run] at all
    exact (flashed za passes i entry inside approved).mp (all i entry inside approved)
  · intro condition
    refine ⟨?_, fun i call made flashes => flashIfwiOrBomFn_checked option env made flashes⟩
    rw [flashIfwiOrBomFn]
    split
    next => simp
    next za opened =>
      intro success
      have passes := (flashEntries_success _).mp success
      have heeded := (condition za opened).resolve_left (passes_iff.mp passes)
      exact ⟨za, opened, fun i entry inside approved =>
        (flashed za passes i entry inside approved).mpr (heeded i entry inside approved)⟩

/-- An archive of one stored file `ifwi.bin` of two bytes. -/
def ifwiZip : List UInt8 :=
  [0x50, 0x4b, 0x03, 0x04, 0x14, 0x00, 0x00, 0x00, 0x00, 0x00, 0x00, 0x00, 0x21, 0x00, 0x92,
    0x42, 0xcc, 0xb6, 0x02, 0x00, 0x00, 0x00, 0x02, 0x00, 0x00, 0x00, 0x08, 0x00, 0x00, 0x00,
    0x69, 0x66, 0x77, 0x69, 0x2e, 0x62, 0x69, 0x6e, 0x01, 0x02, 0x50, 0x4b, 0x01, 0x02, 0x14,
    0x00, 0x14, 0x00, 0x00, 0x00, 0x00, 0x00, 0x00, 0x00, 0x21, 0x00, 0x92, 0x42, 0xcc, 0xb6,
    0x02, 0x00, 0x00, 0x00, 0x02, 0x00, 0x00, 0x00, 0x08, 0x00, 0x00, 0x00, 0x00, 0x00, 0x00,
    0x00, 0x00, 0x00, 0x00, 0x00, 0x80, 0x01, 0x00, 0x00, 0x00, 0x00, 0x69, 0x66, 0x77, 0x69,
    0x2e, 0x62, 0x69, 0x6e, 0x50, 0x4b, 0x05, 0x06, 0x00, 0x00, 0x00, 0x00, 0x01, 0x00, 0x01,
    0x00, 0x36, 0x00, 0x00, 0x00, 0x28, 0x00, 0x00, 0x00, 0x00, 0x00]

def ifwiEntry : ZipEntry where
  fileName := [0x69, 0x66, 0x77, 0x69, 0x2e, 0x62, 0x69, 0x6e]
  uncompLen := 2
  extracted := some [1, 2]
  whole := by simp

def failingUpdate : FlashEnv where
  teeFramework := false
  filename := some "ifwi.zip"
  fileRead := fun _ => some ifwiZip
  mzOpenZipArchive := fun _ => some ⟨[ifwiEntry], fun _ => none⟩
  malloc := fun _ => true
  mallocToken := fun _ => true
  checkIfwiFile := fun _ => 1
  updateIfwiFile := fun _ => -1
  writeToken := fun _ => 0

theorem failing_update_reported : ¬ Truthful .FLASH_IFWI_BINARY failingUpdate := by
  intro truthful
  have run : flashIfwiOrBomFn .FLASH_IFWI_BINARY failingUpdate =
      (some "t", [(0, .checkIfwiFile [1, 2] 1), (0, .updateIfwiFile [1, 2] (-1))]) := by decide
  rcases truthful.success (by rw [run]) with ⟨za, opened, all⟩
  cases opened
  rcases all 0 ifwiEntry rfl ⟨by decide, by decide⟩ with ⟨data, contents, made⟩
  rw [run, mem_callsFor] at made
  simp at made

end A500cg.Updater
