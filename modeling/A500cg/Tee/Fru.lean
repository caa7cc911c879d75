import A500cg.Lib.CString
import A500cg.Tee.Tokens

/-! The FRU of the device: `oem_fru_handler` of `droidboot.c` with `pmdb_write_fru` of `pmdb.c`,
and `get_fru`. -/

namespace A500cg.Tee

open Lib Util

def PMDB_FRU_SIZE : Nat := 10
def PMDB_FRU_OFFSET : Nat := 0x00
def CHECKSUM_SIZE : Nat := 4

/-- What `pmdb.c` calls: with `TEE_FRAMEWORK` the token library, for which the bytes are put in
the value of a record, and otherwise the database `WM`, at an offset. -/
structure PmdbBuild where
  teeFramework : Bool
  fruValueSize : Nat
  teeTokenWriteTmp : (fruValue : List UInt8) → Int32
  pmdbAccessWrite : (buf : List UInt8) → (offset : Nat) → Int32

def isHex (c : UInt8) : Bool :=
  (0x30 ≤ c && c ≤ 0x39) || (0x41 ≤ c && c ≤ 0x46) || (0x61 ≤ c && c ≤ 0x66)

def twoscomplement (buf : List UInt8) : UInt8 := ~~~ buf.foldl (· + ·) 0 + 1

structure PmdbField where
  name : String
  offset : Nat
  size : Nat
  deriving DecidableEq

def pmdbFields : List PmdbField :=
  [⟨"fru", PMDB_FRU_OFFSET, PMDB_FRU_SIZE⟩,
    ⟨"fru+cs", PMDB_FRU_OFFSET, PMDB_FRU_SIZE + CHECKSUM_SIZE⟩]

def pmdbWriteField (build : PmdbBuild) (name : String) (buf : List UInt8) : Int32 :=
  match pmdbFields.find? fun field => field.name = name with
  | none => -4
  | some field => if buf.length ≠ field.size then -3 else build.pmdbAccessWrite buf field.offset

def fruValue (buf : List UInt8) (size room : Nat) : List UInt8 :=
  buf.take (min size room) ++ List.replicate (room - min size room) 0

def pmdbWriteFru (build : PmdbBuild) (buf : List UInt8) (size : Nat) : Int32 :=
  if build.teeFramework then
    if 0 ≠ build.teeTokenWriteTmp (fruValue buf size build.fruValueSize) then 1 else 0
  else
    let value := fruValue buf size PMDB_FRU_SIZE
    let withCs := value ++ twoscomplement value :: List.replicate (CHECKSUM_SIZE - 1) 0
    pmdbWriteField build "fru+cs" withCs

def scanByte (tmp : List UInt8) (value : UInt8) : UInt8 :=
  match scanHex (cText tmp) with
  | .value n => n.toUInt8
  | _ => value

/-- The characters of `tmp` in the pass `i`. -/
def fruTmp (str : List UInt8) (i : Nat) : List UInt8 :=
  [str.getD (2 * i + 1) 0, str.getD (2 * i) 0, 0]

/-- `fru[i]` behind the pass `i`, on a stack with the given bytes. -/
def fruByte (stack : Nat → UInt8) (str : List UInt8) (i : Nat) : UInt8 :=
  scanByte (fruTmp str i) (stack i)

/-- The messages of `fastboot_fail`, and the buffer that `pmdb_write_fru` is called with. -/
structure FruOutcome where
  ret : Int32
  failed : List String
  written : Option (List UInt8)
  deriving DecidableEq

def FRU_SET : List UInt8 := [0x73, 0x65, 0x74]

/-- `oem_fru_handler`, where `fastboot_fail` returns. -/
def oemFruHandler (build : PmdbBuild) (stack : Nat → UInt8) (argv : List CString) : FruOutcome :=
  if argv.length ≠ 3 then
    ⟨-1, ["oem fru must be called with \"set\" subcommand\n"], none⟩
  else if argv[1]?.map CString.bytes ≠ some FRU_SET then
    ⟨-1, ["unknown oem fru subcommand\n"], none⟩
  else
    let str := (argv[2]?.map CString.bytes).getD []
    if str.length ≠ PMDB_FRU_SIZE * 2 then
      ⟨-1, ["fru value must be 20 4-bits nibbles in hexa format. Ex: 123456...\n"], none⟩
    else
      let fru := (List.range PMDB_FRU_SIZE).map (fruByte stack str)
      -- a failed check does not leave the loop
      let failed := (List.range PMDB_FRU_SIZE).flatMap fun i =>
        if (fruTmp str i).take 2 |>.any (!isHex ·) then
          ["fru value have non hexadecimal characters\n"] else []
      ⟨pmdbWriteFru build fru PMDB_FRU_SIZE, failed, some fru⟩

def getFru (tee : TokenInterface) (outputFd : Int32) (text : List UInt8) : Option Parsed :=
  parseToken tee outputFd text FRU_DATAGROUP.toInt32 0

def FruDigits (str : List UInt8) : Prop := str.length = 20 ∧ ∀ c ∈ str, isHex c = true

def toLower (c : UInt8) : UInt8 := if 0x41 ≤ c ∧ c ≤ 0x5A then c + 0x20 else c

def lowerPairs : List UInt8 → List UInt8
  | first :: second :: rest => toLower first :: toLower second :: 0x20 :: lowerPairs rest
  | _ => []

/-- Only digits are written, and a store that gives back what was written for them shows them
again. -/
structure FruSetGet (build : PmdbBuild) (stack : Nat → UInt8) (str : CString) : Prop where
  guarded : ∀ argv, argv[2]? = some str →
    (oemFruHandler build stack argv).written ≠ none → FruDigits str.bytes
  shown : FruDigits str.bytes → ∃ fru : List UInt8, fru.length = PMDB_FRU_SIZE ∧
    (∀ name set : CString, set.bytes = FRU_SET →
      (oemFruHandler build stack [name, set, str]).written = some fru) ∧
    ∀ tee subgroups text, Holds tee FRU_DATAGROUP.toInt32 0 subgroups →
      subgroups.flatMap Subgroup.bytes = fru → text.length = BUFFER_TXT_SIZE →
      ∃ next, getFru tee (-1) text =
        some ⟨0, none, some (.rows [lowerPairs str.bytes ++ [0x0A]]), next⟩

theorem isHex_value {c : UInt8} (digit : isHex c = true) :
    ∃ n, hexDigit c = some n ∧ hexChar n = toLower c := by
  have all : ∀ c : UInt8, isHex c = true →
      (hexDigit c).isSome = true ∧ hexChar ((hexDigit c).getD 0) = toLower c :=
    forall_byte (by decide +kernel)
  obtain ⟨some, printed⟩ := all c digit
  obtain ⟨n, value⟩ := Option.isSome_iff_exists.mp some
  rw [value, Option.getD_some] at printed
  exact ⟨n, value, printed⟩

theorem swapNibbles_toNat (byte : UInt8) :
    (swapNibbles byte).toNat = byte.toNat % 16 * 16 + byte.toNat / 16 := by
  have all : ∀ byte : UInt8, (swapNibbles byte).toNat = byte.toNat % 16 * 16 + byte.toNat / 16 :=
    forall_byte (by decide +kernel)
  exact all byte

theorem hexByte_swapNibbles {first second : UInt8} (digit : isHex first = true)
    (digit' : isHex second = true) (value : UInt8) :
    hexByte (swapNibbles (scanByte [second, first, 0] value)) =
      [toLower first, toLower second, 0x20] := by
  obtain ⟨low, scanned, printed⟩ := isHex_value digit
  obtain ⟨high, scanned', printed'⟩ := isHex_value digit'
  have small := hexDigit_lt scanned
  have small' := hexDigit_lt scanned'
  have nonzero := (hexDigit_plain (Option.isSome_iff_exists.mpr ⟨_, scanned⟩)).1
  have nonzero' := (hexDigit_plain (Option.isSome_iff_exists.mpr ⟨_, scanned'⟩)).1
  have nul : 0 ∉ [second, first] := by simp [nonzero.symm, nonzero'.symm]
  have text : cText [second, first, 0] = [second, first] := cText_append_zero nul []
  have byte : (scanByte [second, first, 0] value).toNat = 16 * high + low := by
    rw [scanByte, text, scanHex_pair scanned' scanned]
    dsimp only
    rw [UInt32.toNat_toUInt8, UInt32.toNat_ofNat']
    omega
  have swapped := swapNibbles_toNat (scanByte [second, first, 0] value)
  rw [byte] at swapped
  have upper : (swapNibbles (scanByte [second, first, 0] value)).toNat / 16 = low := by omega
  have lower : (swapNibbles (scanByte [second, first, 0] value)).toNat % 16 = high := by omega
  rw [hexByte, upper, lower, printed, printed']

theorem swapped_text (n : Nat) (stack : Nat → UInt8) (str : List UInt8)
    (length : str.length = 2 * n) (digits : ∀ c ∈ str, isHex c = true) :
    (((List.range n).map (fruByte stack str)).map swapNibbles).flatMap hexByte =
      lowerPairs str := by
  induction n generalizing stack str with
  | zero =>
      rw [List.eq_nil_of_length_eq_zero length]
      rfl
  | succ n ih =>
      obtain ⟨first, rest, rfl⟩ : ∃ first rest, str = first :: rest :=
        List.exists_cons_of_length_pos (by omega)
      obtain ⟨second, str, rfl⟩ : ∃ second str, rest = second :: str :=
        List.exists_cons_of_length_pos (by rw [List.length_cons] at length; omega)
      have later : (fruByte stack (first :: second :: str)) ∘ Nat.succ =
          fruByte (stack ∘ Nat.succ) str := rfl
      rw [List.range_succ_eq_map, List.map_cons, List.map_map, later, List.map_cons,
        List.flatMap_cons, ih]
      · have shown := hexByte_swapNibbles (digits first (by simp)) (digits second (by simp))
          (stack 0)
        rw [lowerPairs]
        exact congrArg (· ++ lowerPairs str) shown
      · simp only [List.length_cons] at length
        omega
      · exact fun c member => digits c (List.mem_cons_of_mem _ (List.mem_cons_of_mem _ member))

section

variable (build : PmdbBuild) (stack : Nat → UInt8)

theorem fruValue_whole {fru : List UInt8} (length : fru.length = PMDB_FRU_SIZE) :
    fruValue fru PMDB_FRU_SIZE PMDB_FRU_SIZE = fru := by
  rw [fruValue, min_self, Nat.sub_self, ← length, List.take_length, List.replicate_zero,
    List.append_nil]

theorem pmdbWriteFru_whole {fru : List UInt8} (length : fru.length = PMDB_FRU_SIZE)
    (room : build.fruValueSize = PMDB_FRU_SIZE) :
    pmdbWriteFru build fru PMDB_FRU_SIZE =
      if build.teeFramework then if 0 ≠ build.teeTokenWriteTmp fru then 1 else 0
      else build.pmdbAccessWrite
        (fru ++ twoscomplement fru :: List.replicate (CHECKSUM_SIZE - 1) 0) PMDB_FRU_OFFSET := by
  have field : pmdbFields.find? (fun field => field.name = "fru+cs") =
      some ⟨"fru+cs", PMDB_FRU_OFFSET, PMDB_FRU_SIZE + CHECKSUM_SIZE⟩ := by decide
  have size : (fru ++ twoscomplement fru :: List.replicate (CHECKSUM_SIZE - 1) 0).length =
      PMDB_FRU_SIZE + CHECKSUM_SIZE := by
    rw [List.length_append, length, List.length_cons, List.length_replicate]
    rfl
  rw [pmdbWriteFru, room, fruValue_whole length]
  simp only [pmdbWriteField, field, size, ne_eq, not_true_eq_false, if_false]

theorem twoscomplement_sum (buf : List UInt8) :
    (buf ++ [twoscomplement buf]).foldl (· + ·) 0 = 0 := by
  rw [List.foldl_append, List.foldl_cons, List.foldl_nil, twoscomplement]
  generalize buf.foldl (· + ·) 0 = sum
  have all : ∀ sum : UInt8, sum + (~~~ sum + 1) = 0 := forall_byte (by decide +kernel)
  exact all sum

theorem oemFruHandler_written {argv : List CString} {str : CString} (given : argv[2]? = some str)
    (written : (oemFruHandler build stack argv).written ≠ none) :
    str.bytes.length = PMDB_FRU_SIZE * 2 := by
  rw [oemFruHandler, given] at written
  split_ifs at written with count subcommand
  · exact absurd rfl written
  · exact absurd rfl written
  · by_contra length
    apply written
    exact congrArg FruOutcome.written (if_pos length)

theorem oemFruHandler_set (name set : CString) (str : CString) (subcommand : set.bytes = FRU_SET)
    (length : str.bytes.length = PMDB_FRU_SIZE * 2) :
    (oemFruHandler build stack [name, set, str]).written =
      some ((List.range PMDB_FRU_SIZE).map (fruByte stack str.bytes)) := by
  have known : [name, set, str][1]?.map CString.bytes = some FRU_SET := congrArg some subcommand
  rw [oemFruHandler, if_neg (by simp), if_neg (not_not.mpr known)]
  exact congrArg FruOutcome.written (if_neg (not_not.mpr length))

theorem getFru_digits {str : List UInt8} (digits : FruDigits str) {tee : TokenInterface}
    {subgroups : List Subgroup} (holds : Holds tee FRU_DATAGROUP.toInt32 0 subgroups)
    (contents : subgroups.flatMap Subgroup.bytes =
      (List.range PMDB_FRU_SIZE).map (fruByte stack str))
    {text : List UInt8} (size : text.length = BUFFER_TXT_SIZE) :
    ∃ next, getFru tee (-1) text =
      some ⟨0, none, some (.rows [lowerPairs str ++ [0x0A]]), next⟩ := by
  have length : ((List.range PMDB_FRU_SIZE).map (fruByte stack str)).length = 10 := by
    rw [List.length_map, List.length_range]
    rfl
  have gathered := gatherToken_whole holds (by rw [contents, length]; decide)
  rw [contents] at gathered
  have data : tokenData tee FRU_DATAGROUP.toInt32 0 =
      ((List.range PMDB_FRU_SIZE).map (fruByte stack str)).map swapNibbles := by
    rw [tokenData, if_pos (by decide), gathered]
  have some : tokenData tee FRU_DATAGROUP.toInt32 0 ≠ [] := by
    intro none
    rw [data] at none
    have lengths := congrArg List.length none
    rw [List.length_map, length] at lengths
    cases lengths
  obtain ⟨next, printed⟩ := parseToken_row size some
  refine ⟨next, ?_⟩
  have short : (tokenData tee FRU_DATAGROUP.toInt32 0).length ≤ MAX_ROW := by
    rw [data, List.length_map, length]
    decide
  have row : rowText (tokenData tee FRU_DATAGROUP.toInt32 0) = lowerPairs str ++ [0x0A] := by
    calc
      _ = (tokenData tee FRU_DATAGROUP.toInt32 0).flatMap hexByte ++ [0x0A] := by
        rw [rowText, List.take_of_length_le short]
      _ = lowerPairs str ++ [0x0A] := by
        rw [data, swapped_text PMDB_FRU_SIZE stack str digits.1 digits.2]
  rw [getFru, printed, gathered, row]

/-- Setting and showing the FRU agree exactly if the characters of a string of the right length
are all digits: other characters are reported, but written. -/
theorem fru_set_get_iff (str : CString) :
    FruSetGet build stack str ↔ (str.bytes.length = 20 → ∀ c ∈ str.bytes, isHex c = true) := by
  constructor
  · intro setGet length
    let name : CString := ⟨[], List.not_mem_nil⟩
    let set : CString := ⟨FRU_SET, by decide⟩
    have written := oemFruHandler_set build stack name set str rfl length
    exact (setGet.guarded [name, set, str] rfl (by rw [written]; exact Option.some_ne_none _)).2
  · intro checked
    constructor
    · intro argv given written
      have length := oemFruHandler_written build stack given written
      exact ⟨length, checked length⟩
    · intro digits
      refine ⟨(List.range PMDB_FRU_SIZE).map (fruByte stack str.bytes), ?_, ?_, ?_⟩
      · rw [List.length_map, List.length_range]
      · intro name set subcommand
        exact oemFruHandler_set build stack name set str subcommand digits.1
      · intro tee subgroups text holds contents size
        exact getFru_digits stack digits holds contents size

end

def tokenBuild : PmdbBuild where
  teeFramework := true
  fruValueSize := PMDB_FRU_SIZE
  teeTokenWriteTmp := fun _ => 0
  pmdbAccessWrite := fun _ _ => 0

def letters : CString := ⟨List.replicate 20 0x7A, by decide⟩

/-- Twenty letters that are no digits: what the stack had is written. -/
theorem letters_written :
    (oemFruHandler tokenBuild (fun _ => 0xA5)
        [⟨[], by decide⟩, ⟨FRU_SET, by decide⟩, letters]).written =
      some (List.replicate 10 0xA5) ∧
    ¬ FruSetGet tokenBuild (fun _ => 0xA5) letters := by
  have written : (oemFruHandler tokenBuild (fun _ => 0xA5)
      [⟨[], by decide⟩, ⟨FRU_SET, by decide⟩, letters]).written =
        some (List.replicate 10 0xA5) := by
    decide
  refine ⟨written, fun setGet => ?_⟩
  have digits := setGet.guarded _ rfl (by rw [written]; exact Option.some_ne_none _)
  exact absurd (digits.2 0x7A (by decide)) (by decide)

end A500cg.Tee
