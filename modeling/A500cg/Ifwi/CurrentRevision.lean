import A500cg.Ifwi.Extraction
import A500cg.Lib.HexScan

/-! `read_fw_revision` and the two readers of the device's versions on top of it.

One variable holds the length read, then what each `sscanf` returns, and in the end what the
function returns. A token that is no number ends the loop with the 0 of its `sscanf`. -/

namespace A500cg.Ifwi

open Lib

def SCU_IPC_VERSION_LEN : Nat := 16
def SCU_IPC_VERSION_LEN_LONG : Nat := 32
def READ_SZ : Nat := 256

/-- The `fw_version` file: it opens under neither of its names, its `read` fails, or gives text. -/
inductive FwInfo where
  | missing
  | unreadable
  | text (content : List UInt8)
  deriving DecidableEq, Repr

/-- The loop over the tokens: what is in `ret` behind it, and the entries stored. -/
def parseTokens : Nat → List (List UInt8) → Int × List UInt32
  | 0, _ => (0, [])
  | _ + 1, [] => (0, [])
  | len + 1, token :: rest =>
      match scanHex token with
      | .value n => ((parseTokens len rest).1, n :: (parseTokens len rest).2)
      | .noMatch => (0, [])
      | .eof => (-1, [])

/-- `read_fw_revision`: what it returns, and the entries of `fw_revision` it has stored. -/
def readFwRevision (info : FwInfo) (len : Nat) : Int × List UInt32 :=
  match info with
  | .missing => (-1, [])
  | .unreadable => (-1, [])
  | .text content => parseTokens len (strtokAll 0x20 (cText (content.take (READ_SZ - 1))))

def fwRev (major minor : UInt32) : FwVersion := ⟨major.toUInt8, minor.toUInt8⟩

/-- The components `get_current_fw_rev` takes from the revision bytes. -/
def currentVersions (fwRevision : Nat → UInt32) : FirmwareVersions where
  ifwi := fwRev (fwRevision 15) (fwRevision 14)
  scu := fwRev (fwRevision 1) (fwRevision 0)
  oem := fwRev (fwRevision 11) (fwRevision 10)
  punit := fwRev (fwRevision 5) (fwRevision 4)
  ia32 := fwRev (fwRevision 7) (fwRevision 6)
  suppIa32 := fwRev (fwRevision 9) (fwRevision 8)
  chaabiIcache := .zero
  chaabiRes := .zero
  chaabiExt := .zero

/-- Runs `read_fw_revision` on an array of zeros. -/
def queryRevision {V : Type} (len : Nat) (versions : (Nat → UInt32) → V) (info : FwInfo) : Option V :=
  if (readFwRevision info len).1 ≠ 0 then none
  else some (versions fun k => (readFwRevision info len).2.getD k 0)

/-- `get_current_fw_rev`; `none` is a result that is not 0. -/
def getCurrentFwRev : FwInfo → Option FirmwareVersions :=
  queryRevision SCU_IPC_VERSION_LEN currentVersions

def revLong (high low : UInt32) : UInt16 := (high <<< 8 ||| low).toUInt16

def currentVersionsLong (fwRevision : Nat → UInt32) : FirmwareVersionsLong where
  scubootstrap := ⟨revLong (fwRevision 3) (fwRevision 2), revLong (fwRevision 1) (fwRevision 0)⟩
  scu := ⟨revLong (fwRevision 7) (fwRevision 6), revLong (fwRevision 5) (fwRevision 4)⟩
  ia32 := ⟨revLong (fwRevision 11) (fwRevision 10), revLong (fwRevision 9) (fwRevision 8)⟩
  valhooks := ⟨revLong (fwRevision 15) (fwRevision 14), revLong (fwRevision 13) (fwRevision 12)⟩
  ifwi := ⟨revLong (fwRevision 19) (fwRevision 18), revLong (fwRevision 17) (fwRevision 16)⟩
  chaabi := ⟨revLong (fwRevision 23) (fwRevision 22), revLong (fwRevision 21) (fwRevision 20)⟩
  mia := ⟨revLong (fwRevision 27) (fwRevision 26), revLong (fwRevision 25) (fwRevision 24)⟩

def getCurrentFwRevLong : FwInfo → Option FirmwareVersionsLong :=
  queryRevision SCU_IPC_VERSION_LEN_LONG currentVersionsLong

def revisionTokens (content : List UInt8) : List (List UInt8) := strtokAll 0x20 (cText content)

/-- Token `i` is there and is the number `n`. -/
def TokenValue (tokens : List (List UInt8)) (i n : Nat) : Prop := tokens[i]?.bind hexValue = some n

/-- The bytes that the versions of `get_current_fw_rev` are made of, with the places of their
tokens. -/
def shortBytes (v : FirmwareVersions) : List (Nat × Nat) :=
  [(15, v.ifwi.major.toNat), (14, v.ifwi.minor.toNat), (1, v.scu.major.toNat),
    (0, v.scu.minor.toNat), (11, v.oem.major.toNat), (10, v.oem.minor.toNat),
    (5, v.punit.major.toNat), (4, v.punit.minor.toNat), (7, v.ia32.major.toNat),
    (6, v.ia32.minor.toNat), (9, v.suppIa32.major.toNat), (8, v.suppIa32.minor.toNat)]

def shortPlaces : List Nat := [15, 14, 1, 0, 11, 10, 5, 4, 7, 6, 9, 8]

def bytesAt (place : Nat) (number : UInt16) : List (Nat × Nat) :=
  [(place, number.toNat % 2 ^ 8), (place + 1, number.toNat / 2 ^ 8)]

def longBytes (v : FirmwareVersionsLong) : List (Nat × Nat) :=
  [v.scubootstrap, v.scu, v.ia32, v.valhooks, v.ifwi, v.chaabi, v.mia].zipIdx.flatMap
    fun (component, i) => bytesAt (4 * i) component.minor ++ bytesAt (4 * i + 2) component.major

def longPlaces : List Nat := List.range 28

/-- Each byte of the versions that a reader reports is the value of its token. -/
def ReportsText {V : Type} (reader : FwInfo → Option V) (bytes : V → List (Nat × Nat))
    (content : List UInt8) : Prop :=
  ∀ v, reader (.text content) = some v →
    ∀ entry ∈ bytes v, TokenValue (revisionTokens content) entry.1 entry.2

/-- `read_fw_revision` succeeds on the text only with the values of its first `len` tokens, and
so do the readers that ask for `len` revision bytes. -/
structure NeverInvented (content : List UInt8) (len : Nat) : Prop where
  parsed : (readFwRevision (.text content) len).1 = 0 →
    len ≤ (revisionTokens content).length ∧ ∀ i < len, ∃ n : UInt32,
      TokenValue (revisionTokens content) i n.toNat ∧
        (readFwRevision (.text content) len).2[i]? = some n
  short : len = SCU_IPC_VERSION_LEN → ReportsText getCurrentFwRev shortBytes content
  long : len = SCU_IPC_VERSION_LEN_LONG → ReportsText getCurrentFwRevLong longBytes content

/-- What token `i` has to be below: a reader keeps a byte of those that it uses. -/
def tokenLimit (len i : Nat) : Nat :=
  if len = SCU_IPC_VERSION_LEN ∧ i ∈ shortPlaces ∨ len = SCU_IPC_VERSION_LEN_LONG ∧ i ∈ longPlaces
  then 2 ^ 8 else 2 ^ 32

/-- `sscanf` reads `n` from token `i`. -/
def Scanned (tokens : List (List UInt8)) (i : Nat) (n : UInt32) : Prop :=
  ∃ token, tokens[i]? = some token ∧ scanHex token = .value n

/-- The first `n` tokens begin with a number. -/
def Scannable (tokens : List (List UInt8)) (n : Nat) : Prop := ∀ i < n, ∃ value, Scanned tokens i value

/-- All of the first `len` tokens are numbers that fit, or the first that `sscanf` does not take
is one of other white space. -/
def Detected (tokens : List (List UInt8)) (len : Nat) : Prop :=
  (∀ i < len, ∃ n < tokenLimit len i, TokenValue tokens i n) ∨ ∃ i < len, Scannable tokens i ∧
    ∃ token, tokens[i]? = some token ∧ ∀ c ∈ token, isBlank c = true

theorem scanned_zero {token : List UInt8} {rest : List (List UInt8)} {n : UInt32} :
    Scanned (token :: rest) 0 n ↔ scanHex token = .value n := by
  simp [Scanned]

theorem scanned_succ {token : List UInt8} {rest : List (List UInt8)} {i : Nat} {n : UInt32} :
    Scanned (token :: rest) (i + 1) n ↔ Scanned rest i n := by
  simp [Scanned]

theorem scannable_zero (tokens : List (List UInt8)) : Scannable tokens 0 :=
  fun i bound => absurd bound (Nat.not_lt_zero i)

theorem scannable_cons {token : List UInt8} {rest : List (List UInt8)} {n : UInt32} {count : Nat}
    (here : scanHex token = .value n) (later : Scannable rest count) :
    Scannable (token :: rest) (count + 1) := by
  intro i bound
  cases i with
  | zero => exact ⟨n, scanned_zero.mpr here⟩
  | succ i =>
      rcases later i (by omega) with ⟨value, found⟩
      exact ⟨value, scanned_succ.mpr found⟩

theorem parseTokens_stops {len : Nat} {token : List UInt8} {rest : List (List UInt8)}
    (stopped : ∀ n, scanHex token ≠ .value n) :
    (parseTokens (len + 1) (token :: rest)).1 ≠ 0 ↔ ∀ c ∈ token, isBlank c = true := by
  rw [← scanHex_eof_iff token]
  cases scanned : scanHex token with
  | eof =>
      rw [parseTokens, scanned]
      exact iff_of_true (show (-1 : Int) ≠ 0 by decide) rfl
  | noMatch =>
      rw [parseTokens, scanned]
      exact iff_of_false (show ¬ (0 : Int) ≠ 0 by decide) (fun blank => nomatch blank)
  | value n => exact absurd scanned (stopped n)

theorem parseTokens_cases (len : Nat) (tokens : List (List UInt8)) :
    ((parseTokens len tokens).1 = 0 ∧ ∀ i < len, ∃ n, Scanned tokens i n ∧
      (parseTokens len tokens).2[i]? = some n) ∨
    ∃ i < len, Scannable tokens i ∧ (∀ n, ¬ Scanned tokens i n) ∧
      ((parseTokens len tokens).1 ≠ 0 ↔
        ∃ token, tokens[i]? = some token ∧ ∀ c ∈ token, isBlank c = true) := by
  induction len generalizing tokens with
  | zero => exact .inl ⟨rfl, fun i bound => absurd bound (Nat.not_lt_zero i)⟩
  | succ len ih =>
      cases tokens with
      | nil =>
          refine .inr ⟨0, by omega, scannable_zero _, ?_, by simp [parseTokens]⟩
          rintro n ⟨token, found, _⟩
          cases found
      | cons token rest =>
          by_cases numeric : ∃ n, scanHex token = .value n
          · rcases numeric with ⟨n, scanned⟩
            have turn : parseTokens (len + 1) (token :: rest) =
                ((parseTokens len rest).1, n :: (parseTokens len rest).2) := by
              rw [parseTokens, scanned]
            rw [turn]
            rcases ih rest with ⟨ret, values⟩ | ⟨i, bound, before, stopped, ret⟩
            · left
              refine ⟨ret, fun i bound => ?_⟩
              cases i with
              | zero => exact ⟨n, scanned_zero.mpr scanned, rfl⟩
              | succ i =>
                  rcases values i (by omega) with ⟨value, found, stored⟩
                  exact ⟨value, scanned_succ.mpr found, stored⟩
            · right
              refine ⟨i + 1, by omega, scannable_cons scanned before, fun value found => ?_, ret⟩
              exact stopped value (scanned_succ.mp found)
          · have stopped := not_exists.mp numeric
            refine .inr ⟨0, by omega, scannable_zero _, ?_, ?_⟩
            · exact fun n found => stopped n (scanned_zero.mp found)
            · rw [parseTokens_stops stopped]
              simp

theorem TokenValue.scanned {tokens : List (List UInt8)} {i n : Nat} (value : TokenValue tokens i n)
    (small : n < 2 ^ 32) : Scanned tokens i (UInt32.ofNat n) := by
  obtain ⟨token, found, number⟩ := Option.bind_eq_some_iff.mp value
  exact ⟨token, found, scanHex_of_hexValue number small⟩

theorem Scanned.unique {tokens : List (List UInt8)} {i : Nat} {n n' : UInt32}
    (scanned : Scanned tokens i n) (scanned' : Scanned tokens i n') : n = n' := by
  obtain ⟨token, found, number⟩ := scanned
  obtain ⟨token', found', number'⟩ := scanned'
  cases found.symm.trans found'
  exact HexScan.value.inj (number.symm.trans number')

theorem Scannable.blank_stop {tokens : List (List UInt8)} {i j : Nat} {token : List UInt8}
    (before : Scannable tokens i) (stopped : ∀ n, ¬ Scanned tokens i n)
    (front : Scannable tokens j) (found : tokens[j]? = some token)
    (blank : ∀ c ∈ token, isBlank c = true) : j = i := by
  rcases Nat.lt_trichotomy i j with less | equal | more
  · obtain ⟨n, value⟩ := front i less
    exact absurd value (stopped n)
  · exact equal.symm
  · obtain ⟨n, other, found', value⟩ := before j more
    cases found.symm.trans found'
    rw [(scanHex_eof_iff token).mpr blank] at value
    cases value

theorem tokenLimit_le (len i : Nat) : tokenLimit len i ≤ 2 ^ 32 := by
  rw [tokenLimit]
  split <;> decide

theorem revLong_toNat {high low : UInt32} (small : high.toNat < 2 ^ 8) (small' : low.toNat < 2 ^ 8) :
    (revLong high low).toNat = 2 ^ 8 * high.toNat + low.toNat := by
  have shifted : (high <<< 8).toNat = high.toNat <<< 8 := by
    have eight : (8 : UInt32).toNat % 32 = 8 := by decide
    rw [UInt32.toNat_shiftLeft, eight]
    exact Nat.mod_eq_of_lt (by rw [Nat.shiftLeft_eq]; omega)
  rw [revLong, UInt32.toNat_toUInt16, UInt32.toNat_or, shifted,
    ← Nat.shiftLeft_add_eq_or_of_lt small', Nat.shiftLeft_eq]
  omega

theorem bytesAt_revLong (place : Nat) {high low : UInt32} (small : high.toNat < 2 ^ 8)
    (small' : low.toNat < 2 ^ 8) :
    bytesAt place (revLong high low) = [(place, low.toNat), (place + 1, high.toNat)] := by
  have back : (2 ^ 8 * high.toNat + low.toNat) % 2 ^ 8 = low.toNat ∧
      (2 ^ 8 * high.toNat + low.toNat) / 2 ^ 8 = high.toNat := by omega
  rw [bytesAt, revLong_toNat small small', back.1, back.2]

theorem shortBytes_current (f : Nat → UInt32) (small : ∀ k ∈ shortPlaces, (f k).toNat < 2 ^ 8) :
    shortBytes (currentVersions f) = shortPlaces.map fun k => (k, (f k).toNat) := by
  have whole : ∀ k ∈ shortPlaces, (k, (f k).toUInt8.toNat) = (k, (f k).toNat) := by
    intro k member
    rw [UInt32.toNat_toUInt8, Nat.mod_eq_of_lt (small k member)]
  exact List.map_congr_left whole

theorem longBytes_current (f : Nat → UInt32) (small : ∀ k ∈ longPlaces, (f k).toNat < 2 ^ 8) :
    longBytes (currentVersionsLong f) = longPlaces.map fun k => (k, (f k).toNat) := by
  have pair : ∀ place high low : Nat, high < 28 → low < 28 →
      bytesAt place (revLong (f high) (f low)) =
        [(place, (f low).toNat), (place + 1, (f high).toNat)] :=
    fun place _ _ bound bound' => bytesAt_revLong place (small _ (List.mem_range.mpr bound))
      (small _ (List.mem_range.mpr bound'))
  simp (disch := decide) only [longBytes, currentVersionsLong, List.zipIdx_cons, List.zipIdx_nil,
    List.flatMap_cons, List.flatMap_nil, pair]
  rfl

theorem shortBytes_places (v : FirmwareVersions) : (shortBytes v).map Prod.fst = shortPlaces := rfl

theorem longBytes_places (v : FirmwareVersionsLong) : (longBytes v).map Prod.fst = longPlaces := rfl

theorem shortBytes_small (v : FirmwareVersions) : ∀ entry ∈ shortBytes v, entry.2 < 2 ^ 8 := by
  simp only [shortBytes, List.forall_mem_cons, UInt8.toNat_lt, true_and, List.not_mem_nil,
    IsEmpty.forall_iff, implies_true]

theorem longBytes_small (v : FirmwareVersionsLong) : ∀ entry ∈ longBytes v, entry.2 < 2 ^ 8 := by
  have halves : ∀ (place : Nat) (number : UInt16), ∀ entry ∈ bytesAt place number,
      entry.2 < 2 ^ 8 := by
    intro place number entry member
    have width := number.toNat_lt
    simp only [bytesAt, List.mem_cons, List.not_mem_nil, or_false] at member
    rcases member with rfl | rfl
    · exact Nat.mod_lt _ (by decide)
    · simp only
      omega
  intro entry member
  obtain ⟨⟨component, i⟩, _, inside⟩ := List.mem_flatMap.mp member
  rcases List.mem_append.mp inside with minor | major
  · exact halves _ _ entry minor
  · exact halves _ _ entry major

section Text

variable {content : List UInt8} (fits : content.length ≤ 255)

include fits

theorem readFwRevision_text (len : Nat) :
    readFwRevision (.text content) len = parseTokens len (revisionTokens content) := by
  have whole : content.take (READ_SZ - 1) = content := List.take_of_length_le fits
  rw [readFwRevision, whole, revisionTokens]

theorem values_of_detected {len : Nat} (detected : Detected (revisionTokens content) len)
    (ret : (readFwRevision (.text content) len).1 = 0) :
    ∀ i < len, ∃ n : UInt32, n.toNat < tokenLimit len i ∧
      TokenValue (revisionTokens content) i n.toNat ∧
        (readFwRevision (.text content) len).2[i]? = some n := by
  rw [readFwRevision_text fits] at ret ⊢
  rcases parseTokens_cases len (revisionTokens content) with
    ⟨_, values⟩ | ⟨i, bound, before, stopped, failed⟩
  · rcases detected with numbers | ⟨j, bound, _, token, found, blank⟩
    · intro i bound
      obtain ⟨n, below, value⟩ := numbers i bound
      have small : n < 2 ^ 32 := lt_of_lt_of_le below (tokenLimit_le len i)
      obtain ⟨m, scanned, stored⟩ := values i bound
      have same : m.toNat = n := by
        rw [scanned.unique (value.scanned small)]
        exact UInt32.toNat_ofNat_of_lt' small
      refine ⟨m, ?_, ?_, stored⟩
      · rw [same]
        exact below
      · rw [same]
        exact value
    · obtain ⟨n, ⟨token', found', value⟩, _⟩ := values j bound
      cases found.symm.trans found'
      rw [(scanHex_eof_iff token).mpr blank] at value
      cases value
  · rcases detected with numbers | ⟨j, _, front, token, found, blank⟩
    · obtain ⟨n, below, value⟩ := numbers i bound
      exact absurd (value.scanned (lt_of_lt_of_le below (tokenLimit_le len i))) (stopped _)
    · cases before.blank_stop stopped front found blank
      exact absurd ret (failed.mpr ⟨token, found, blank⟩)

theorem reportsText_of_detected {V : Type} {len : Nat} {versions : (Nat → UInt32) → V}
    {bytes : V → List (Nat × Nat)} {places : List Nat}
    (used : ∀ k ∈ places, k < len ∧ tokenLimit len k = 2 ^ 8)
    (states : ∀ f : Nat → UInt32, (∀ k ∈ places, (f k).toNat < 2 ^ 8) →
      bytes (versions f) = places.map fun k => (k, (f k).toNat))
    (detected : Detected (revisionTokens content) len) :
    ReportsText (queryRevision len versions) bytes content := by
  intro v reported
  rw [queryRevision] at reported
  split at reported
  · cases reported
  · rename_i ret
    cases reported
    have values := values_of_detected fits detected (not_not.mp ret)
    have small : ∀ k ∈ places,
        ((readFwRevision (.text content) len).2.getD k 0).toNat < 2 ^ 8 ∧
          TokenValue (revisionTokens content) k
            ((readFwRevision (.text content) len).2.getD k 0).toNat := by
      intro k member
      obtain ⟨n, below, value, stored⟩ := values k (used k member).1
      rw [List.getD_eq_getElem?_getD, stored, Option.getD_some]
      rw [(used k member).2] at below
      exact ⟨below, value⟩
    rw [states _ fun k member => (small k member).1]
    intro entry member
    obtain ⟨k, place, rfl⟩ := List.mem_map.mp member
    exact (small k place).2

omit fits in
theorem bytes_of_reportsText {V : Type} {len : Nat} {versions : (Nat → UInt32) → V}
    {bytes : V → List (Nat × Nat)} {places : List Nat}
    (positions : ∀ v, (bytes v).map Prod.fst = places)
    (small : ∀ v, ∀ entry ∈ bytes v, entry.2 < 2 ^ 8)
    (reports : ReportsText (queryRevision len versions) bytes content)
    (ret : (readFwRevision (.text content) len).1 = 0) {k : Nat} (used : k ∈ places) :
    ∃ n < 2 ^ 8, TokenValue (revisionTokens content) k n := by
  have reported := reports _ (if_neg (not_not.mpr ret))
  rw [← positions (versions fun k => (readFwRevision (.text content) len).2.getD k 0)] at used
  obtain ⟨entry, member, rfl⟩ := List.mem_map.mp used
  exact ⟨entry.2, small _ entry member, reported entry member⟩

/-- Success is only reported with what the text says exactly when the text is detected: a text
that ends early, a token that only begins with a number or is none, and a number that does not
fit are taken for a success. -/
theorem never_invented_iff (len : Nat) :
    NeverInvented content len ↔ Detected (revisionTokens content) len := by
  constructor
  · intro never
    have cases := parseTokens_cases len (revisionTokens content)
    rw [← readFwRevision_text fits] at cases
    rcases cases with ⟨ret, _⟩ | ⟨i, bound, before, stopped, failed⟩
    · left
      intro i bound
      rw [tokenLimit]
      split
      · rename_i byte
        rcases byte with ⟨same, used⟩ | ⟨same, used⟩
        · subst same
          exact bytes_of_reportsText shortBytes_places shortBytes_small (never.short rfl) ret used
        · subst same
          exact bytes_of_reportsText longBytes_places longBytes_small (never.long rfl) ret used
      · obtain ⟨n, value, _⟩ := (never.parsed ret).2 i bound
        exact ⟨n.toNat, n.toNat_lt, value⟩
    · right
      refine ⟨i, bound, before, failed.mp fun ret => ?_⟩
      obtain ⟨n, value, _⟩ := (never.parsed ret).2 i bound
      exact stopped _ (value.scanned n.toNat_lt)
  · intro detected
    constructor
    · intro ret
      have values := values_of_detected fits detected ret
      refine ⟨?_, fun i bound => ?_⟩
      · by_contra short
        obtain ⟨n, _, value, _⟩ := values (len - 1) (by omega)
        obtain ⟨token, found, _⟩ := Option.bind_eq_some_iff.mp value
        have inside := (List.getElem?_eq_some_iff.mp found).1
        omega
      · obtain ⟨n, _, value, stored⟩ := values i bound
        exact ⟨n, value, stored⟩
    · intro same
      subst same
      exact reportsText_of_detected fits (by decide) shortBytes_current detected
    · intro same
      subst same
      exact reportsText_of_detected fits (by decide) longBytes_current detected

end Text

/-- Sixteen tokens `1`. -/
def sixteenOnes : List UInt8 := (List.replicate 16 [0x31, 0x20]).flatten

theorem never_invented_ones :
    (readFwRevision (.text sixteenOnes) 16).1 = 0 ∧ NeverInvented sixteenOnes 16 := by
  have tokens : revisionTokens sixteenOnes = List.replicate 16 [0x31] := by decide
  have one : hexValue [0x31] = some 1 := by decide
  have numbers : ∀ i < 16, ∃ n < tokenLimit 16 i, TokenValue (revisionTokens sixteenOnes) i n := by
    intro i bound
    refine ⟨1, ?_, ?_⟩
    · rw [tokenLimit]
      split <;> decide
    · rw [TokenValue, tokens, List.getElem?_replicate_of_lt bound]
      exact one
  exact ⟨by decide, (never_invented_iff (by decide) 16).mpr (.inl numbers)⟩

/-- On the text `1 2` the device is reported to have the IFWI 0.0. -/
theorem revision_invented :
    getCurrentFwRev (.text [0x31, 0x20, 0x32]) =
      some { FirmwareVersions.zero with scu := ⟨2, 1⟩ } ∧
    ¬ NeverInvented [0x31, 0x20, 0x32] 16 := by
  refine ⟨by decide, fun never => ?_⟩
  have enough := (never.parsed (by decide)).1
  exact absurd enough (by decide)

-- The token `1z` is no number, and `sscanf` takes it for 1.
example : hexValue [0x31, 0x7A] = none ∧ scanHex [0x31, 0x7A] = .value 1 := by decide

end A500cg.Ifwi
