import A500cg.Ifwi.Agreement
import A500cg.Ifwi.Extraction
import A500cg.Lib.Stream

/-! `crack_update_fw` and `crack_update_fw_pti_field` as they move through the file: four bytes
forward with each `fread`, three back with each `fseek`.

Nothing in the loops bounds them, so they are given fuel; `none` is a run that has used it up. -/

namespace A500cg.Ifwi

open Lib

def SMIP_PATTERN : UInt32 := 0x50494D53
def PTI_FIELD_OFFSET : Int := 0x030C

/-- The word at `pos` is the pattern. -/
def wordAt (pattern : UInt32) (image : List UInt8) (pos : Nat) : Bool :=
  le32 (bytesOf image) pos == pattern

/-- The search for a pattern, with `some none` at the end of the file. Only the search for the
SMIP area looks at the indicator again after its `fseek`. -/
def findPattern (pattern : UInt32) (recheck : Bool) :
    Nat → UInt32 → Stream → Option (Option Stream)
  | 0, _, _ => none
  | fuel + 1, tmp, fd =>
      if tmp = pattern then some (some fd)
      else
        let (word, fd) := fd.fread 4
        if fd.eof then some none
        else
          let cur := asInt (fd.ftell - 4)
          let fd := fd.fseek (asInt (cur + 1))
          if recheck && fd.eof then some none
          else findPattern pattern recheck fuel (le32 (bytesOf word) 0) fd

/-- The outer loop of `crack_update_fw`. -/
def crackFileLoop : Nat → FwVersion → UInt32 → Stream → Option (Option FwVersion)
  | 0, _, _, _ => none
  | fuel + 1, ifwiVersion, tmp, fd =>
      if ifwiVersion.minor = 0 ∧ ifwiVersion.major = 0 then
        match findPattern FIP_PATTERN false fuel tmp fd with
        | none => none
        | some none => some none
        | some (some fd) =>
            let location := asInt (fd.ftell - 1)
            let (fip, fd) := (fd.fseek location).fread fipBytes
            if fd.eof then some none
            else crackFileLoop fuel (fipHeader fip 0).ifwi 0 fd
      else some (some ifwiVersion)

/-- `crack_update_fw`; `some none` is its -1. -/
def crackUpdateFwFile (fuel : Nat) (file : Option (List UInt8)) : Option (Option FwVersion) :=
  match Stream.fopen file with
  | none => some none
  | some fd => crackFileLoop fuel .zero 0 fd

/-- `crack_update_fw_pti_field`. -/
def crackUpdateFwPtiFieldFile (fuel : Nat) (file : Option (List UInt8)) : Option (Option UInt8) :=
  match Stream.fopen file with
  | none => some none
  | some fd =>
      match findPattern SMIP_PATTERN true fuel 0 fd with
      | none => none
      | some none => some none
      | some (some fd) =>
          let location := asInt (fd.ftell - 1)
          let fd := fd.fseek (asInt (location + PTI_FIELD_OFFSET))
          if fd.eof then some none
          else
            let (smipData, fd) := fd.fread 1
            if fd.eof then some none else some (some (bytesOf smipData 0))

theorem findPattern_turn {pattern tmp : UInt32} (recheck : Bool) {file : List UInt8} {fuel pos : Nat}
    (other : tmp ≠ pattern) (small : file.length < 2 ^ 31) (inside : pos + 4 ≤ file.length) :
    findPattern pattern recheck (fuel + 1) tmp ⟨file, pos, false⟩ =
      findPattern pattern recheck fuel (le32 (bytesOf file) pos) ⟨file, pos + 1, false⟩ := by
  have word : le32 (bytesOf ((file.drop pos).take 4)) 0 = le32 (bytesOf file) pos := by
    apply le32_congr
    intro k bound
    rw [Nat.zero_add, bytesOf_slice file bound]
  have back : Stream.fseek ⟨file, pos + 4, false⟩
      (asInt (asInt (Stream.ftell ⟨file, pos + 4, false⟩ - 4) + 1)) = ⟨file, pos + 1, false⟩ := by
    have cur : asInt (((pos + 4 : Nat) : Int) - 4) = (pos : Nat) := by
      rw [asInt_of_lt (by omega) (by omega)]
      omega
    rw [Stream.ftell, cur, asInt_of_lt (by omega) (by omega)]
    exact Stream.fseek_nat _ (pos + 1)
  rw [findPattern, if_neg other, Stream.fread_inside inside]
  simp only [back, word, Bool.false_eq_true, if_false, Bool.and_false]

theorem findPattern_eq {pattern tmp : UInt32} (recheck : Bool) {file : List UInt8} {fuel pos : Nat}
    (other : tmp ≠ pattern) (small : file.length < 2 ^ 31) (within : pos ≤ file.length)
    (enough : file.length + 2 ≤ fuel + pos) :
    findPattern pattern recheck fuel tmp ⟨file, pos, false⟩ =
      some ((scan (wordAt pattern file) 1 4 file.length pos).map fun q => ⟨file, q + 1, false⟩) := by
  induction fuel generalizing pos tmp with
  | zero => omega
  | succ fuel ih =>
      by_cases inside : pos + 4 ≤ file.length
      · rw [findPattern_turn recheck other small inside, scan, if_pos ⟨inside, by decide⟩]
        by_cases hit : le32 (bytesOf file) pos = pattern
        · have found : wordAt pattern file pos = true := beq_iff_eq.mpr hit
          obtain ⟨left, rfl⟩ : ∃ left, fuel = left + 1 := ⟨fuel - 1, by omega⟩
          rw [if_pos found, findPattern, if_pos hit]
          rfl
        · have missed : ¬ wordAt pattern file pos = true := fun found => hit (beq_iff_eq.mp found)
          rw [if_neg missed, ih hit (by omega) (by omega)]
      · have ended := Stream.fread_short (show file.length < pos + 4 by omega) (by decide)
        rw [findPattern, if_neg other, scan, if_neg (fun both => inside both.1)]
        simp only [ended, if_true]
        rfl

theorem crackFileLoop_versioned (fuel : Nat) {version : FwVersion} (tmp : UInt32) (fd : Stream)
    (versioned : version ≠ .zero) :
    crackFileLoop (fuel + 1) version tmp fd = some (some version) := by
  have stops : ¬ (version.minor = 0 ∧ version.major = 0) := by
    intro zero
    exact versioned (version_ext zero.2 zero.1)
  rw [crackFileLoop, if_neg stops]

theorem crackFileLoop_eq {file : List UInt8} {fuel pos : Nat} (small : file.length < 2 ^ 31)
    (within : pos ≤ file.length) (enough : file.length + 3 ≤ fuel + pos) :
    crackFileLoop fuel .zero 0 ⟨file, pos, false⟩ = some (crackLoop file pos) := by
  induction fuel generalizing pos with
  | zero => omega
  | succ fuel ih =>
      have search : findPattern FIP_PATTERN false fuel 0 ⟨file, pos, false⟩ =
          some ((findFipPattern file pos).map fun q => ⟨file, q + 1, false⟩) :=
        findPattern_eq false (by decide) small within (by omega)
      rw [crackFileLoop, if_pos ⟨rfl, rfl⟩, search, crackLoop]
      cases found : findFipPattern file pos with
      | none => rfl
      | some q =>
          have behind := (scan_eq_some found).1.1
          have word := (scan_eq_some found).1.2.2.1
          have back : Stream.fseek ⟨file, q + 1, false⟩
              (asInt (Stream.ftell ⟨file, q + 1, false⟩ - 1)) = ⟨file, q, false⟩ := by
            have location : asInt (((q + 1 : Nat) : Int) - 1) = (q : Nat) := by
              rw [asInt_of_lt (by omega) (by omega)]
              omega
            rw [Stream.ftell, location, Stream.fseek_nat]
          simp only [Option.map_some, back]
          by_cases fits : q + fipBytes ≤ file.length
          · simp only [Stream.fread_inside fits, fipHeader_slice, Bool.false_eq_true, if_false]
            rw [dif_pos fits]
            by_cases empty : (fipHeader file q).ifwi = .zero
            · have wide : 1 ≤ fipBytes := by decide
              rw [if_pos empty, empty, ih fits (by omega)]
            · obtain ⟨left, rfl⟩ : ∃ left, fuel = left + 1 := ⟨fuel - 1, by omega⟩
              rw [if_neg empty, crackFileLoop_versioned left 0 _ empty]
          · have ended := Stream.fread_short (show file.length < q + fipBytes by omega) (by decide)
            simp only [ended, if_true]
            rw [dif_neg fits]

/-- The scan reaches the end of the file: no further magic, or a header that is cut short,
past headers of version 0.0 only. -/
inductive ReachesEnd (image : List UInt8) : Nat → Prop
  | noMagic {pos : Nat} (none : ∀ q, ¬ FirstMagic image pos q) : ReachesEnd image pos
  | cutShort {pos q : Nat} (magic : FirstMagic image pos q)
      (short : image.length < q + fipBytes) : ReachesEnd image pos
  | past {pos q : Nat} (magic : FirstMagic image pos q) (fits : q + fipBytes ≤ image.length)
      (empty : (fipHeader image q).ifwi = .zero) (next : ReachesEnd image (q + fipBytes)) :
      ReachesEnd image pos

theorem crackLoop_eq_none (image : List UInt8) (pos : Nat) :
    crackLoop image pos = none ↔ ReachesEnd image pos := by
  constructor
  · intro result
    fun_induction crackLoop image pos with
    | case1 pos missed =>
        refine .noMagic fun q magic => ?_
        rw [find_of_firstMagic magic] at missed
        cases missed
    | case2 pos q found fits empty ih =>
        exact .past (firstMagic_of_find found) fits empty (ih result)
    | case3 pos q found fits versioned => cases result
    | case4 pos q found short => exact .cutShort (firstMagic_of_find found) (by omega)
  · intro ends
    induction ends with
    | noMagic none =>
        rename_i pos
        rw [crackLoop]
        cases found : findFipPattern image pos with
        | none => rfl
        | some q => exact absurd (firstMagic_of_find found) (none q)
    | cutShort magic short =>
        rw [crackLoop, find_of_firstMagic magic]
        simp only [Nat.not_le.mpr short, ↓reduceDIte]
    | past magic fits empty next ih =>
        rw [crackLoop, find_of_firstMagic magic]
        simp only [fits, empty, ih, ↓reduceIte, ↓reduceDIte]

theorem crackUpdateFwFile_eq {file : List UInt8} {fuel : Nat} (small : file.length < 2 ^ 31)
    (enough : file.length + 3 ≤ fuel) :
    crackUpdateFwFile fuel (some file) = some (crackUpdateFw file) := by
  rw [crackUpdateFwFile, Stream.fopen, if_pos small]
  exact crackFileLoop_eq small (Nat.zero_le _) enough

/-- On a file of less than 2 GiB `crack_update_fw` ends, with the version of the first versioned
header of the scan, or with -1 exactly when the scan reaches the end of the file. -/
theorem crack_update_fw_ends {file : List UInt8} (small : file.length < 2 ^ 31) :
    ∃ result, (∀ fuel, file.length + 3 ≤ fuel → crackUpdateFwFile fuel (some file) = some result) ∧
      (∀ version, result = some version ↔
        ∃ q, FirstVersioned file 0 q ∧ version = (fipHeader file q).ifwi) ∧
      (result = none ↔ ReachesEnd file 0) :=
  ⟨crackUpdateFw file, fun _ enough => crackUpdateFwFile_eq small enough,
    crackLoop_eq_some file 0, crackLoop_eq_none file 0⟩

theorem crack_update_fw_bare :
    ∃ fuel, crackUpdateFwFile fuel (some (0 :: bareFip 1 2)) = some (some ⟨1, 2⟩) := by
  rcases crack_update_fw_ends (show (0 :: bareFip 1 2).length < 2 ^ 31 by decide) with
    ⟨result, runs, found, _⟩
  have trace : FirstVersioned (0 :: bareFip 1 2) 0 1 := by
    refine .here ⟨by decide, by decide, by decide, fun p _ before => ?_⟩ (by decide) (by decide)
    obtain rfl : p = 0 := by omega
    decide
  have value : result = some ⟨1, 2⟩ := (found _).mpr ⟨1, trace, by decide⟩
  rw [value] at runs
  exact ⟨_, runs _ (le_refl _)⟩

def crackUpdateFwPtiField (image : List UInt8) : Option UInt8 :=
  (scan (wordAt SMIP_PATTERN image) 1 4 image.length 0).bind fun q =>
    if q + 0x30C < 2 ^ 31 then image[q + 0x30C]? else image[q + 1]?

theorem fread_byte (file : List UInt8) (pos : Nat) :
    (if (Stream.fread ⟨file, pos, false⟩ 1).2.eof = true then some none
      else some (some (bytesOf (Stream.fread ⟨file, pos, false⟩ 1).1 0))) = some file[pos]? := by
  by_cases inside : pos < file.length
  · have first : bytesOf ((file.drop pos).take 1) 0 = file[pos] := by
      calc
        bytesOf ((file.drop pos).take 1) 0 = bytesOf file pos := bytesOf_slice file (by decide)
        _ = file[pos]?.getD 0 := List.getD_eq_getElem?_getD
        _ = file[pos] := by rw [List.getElem?_eq_getElem inside, Option.getD_some]
    rw [Stream.fread_inside (by omega), first, List.getElem?_eq_getElem inside]
    rfl
  · rw [if_pos (Stream.fread_short (by omega) (by decide)), List.getElem?_eq_none (by omega)]

theorem crackUpdateFwPtiFieldFile_eq {file : List UInt8} {fuel : Nat} (small : file.length < 2 ^ 31)
    (enough : file.length + 2 ≤ fuel) :
    crackUpdateFwPtiFieldFile fuel (some file) = some (crackUpdateFwPtiField file) := by
  have search : findPattern SMIP_PATTERN true fuel 0 ⟨file, 0, false⟩ =
      some ((scan (wordAt SMIP_PATTERN file) 1 4 file.length 0).map fun q => ⟨file, q + 1, false⟩) :=
    findPattern_eq true (by decide) small (Nat.zero_le _) enough
  rw [crackUpdateFwPtiFieldFile, Stream.fopen, if_pos small]
  simp only [search, crackUpdateFwPtiField]
  cases found : scan (wordAt SMIP_PATTERN file) 1 4 file.length 0 with
  | none => rfl
  | some q =>
      have word := (scan_eq_some found).1.2.2.1
      have location : asInt (Stream.ftell ⟨file, q + 1, false⟩ - 1) = (q : Nat) := by
        rw [Stream.ftell, Nat.cast_succ, add_sub_cancel_right, asInt_of_lt (by omega) (by omega)]
      simp only [Option.map_some, Option.bind_some, location, PTI_FIELD_OFFSET]
      by_cases reached : q + 0x30C < 2 ^ 31
      · have seek : Stream.fseek ⟨file, q + 1, false⟩ (asInt ((q : Int) + 0x030C)) =
            ⟨file, q + 0x30C, false⟩ := by
          rw [asInt_of_lt (by omega) (by omega)]
          exact Stream.fseek_nat _ (q + 0x30C)
        rw [if_pos reached]
        simp only [seek, Bool.false_eq_true, if_false]
        exact fread_byte file (q + 0x30C)
      · have seek : Stream.fseek ⟨file, q + 1, false⟩ (asInt ((q : Int) + 0x030C)) =
            ⟨file, q + 1, false⟩ := if_pos (asInt_of_wrap (by omega) (by omega))
        rw [if_neg reached]
        simp only [seek, Bool.false_eq_true, if_false]
        exact fread_byte file (q + 1)

end A500cg.Ifwi
