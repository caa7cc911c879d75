import A500cg.Osip.Update
import Mathlib.Data.Nat.Count

/-! `fixup_osip`, which lays the entries of a directory out on the slots of their classes, and
`verify_osip_sizes`.

An entry is assigned its slot in place, so a call that fails at a later entry leaves the earlier
ones assigned. -/

namespace A500cg.Osip

open Lib

def ATTR_FILESYSTEM : UInt8 := 3

inductive FixupError where
  | tooManyImages (attr : UInt8)
  | multipleFilesystems
  | unhandledAttribute (attr : UInt8)
  | noEntries
  | badSize (index : Nat) (size maximum : UInt32)
  deriving DecidableEq, Repr

/-- `fixup_osii`: the entry on the next slot of its table, of which the last stays free. -/
def fixupOsii (osii : OSII) (slotIdx : Nat) (maxSlots : UInt32) (slots : List UInt32) :
    Outcome FixupError (OSII × Nat) :=
  if slotIdx ≥ (maxSlots - 1).toNat then .error (.tooManyImages osii.attr)
  else
    match slots[slotIdx]? with
    | none => .stray slotIdx
    | some slot => .ok ({ osii with logicalStartBlock := slot }, slotIdx + 1)

/-- The OS classes of `fixup_osip` and `verify_osip_sizes`; the splash screen is not among them. -/
def fixupOsClasses : List UInt8 :=
  [ATTR_SIGNED_KERNEL, ATTR_SIGNED_POS, ATTR_SIGNED_COS, ATTR_SIGNED_ROS, ATTR_SIGNED_COMB,
   ATTR_SIGNED_RAMDUMPOS, ATTR_UNSIGNED_KERNEL]

structure FixupCounters where
  fwCtr : Nat
  osCtr : Nat
  ptnCtr : Nat

def fixupEntry (ptnLba : UInt32) (osii : OSII) (ctr : FixupCounters) :
    Outcome FixupError (OSII × FixupCounters) :=
  if attrClass osii.attr ∈ fwClasses then do
    let (osii, fwCtr) ← fixupOsii osii ctr.fwCtr FW_SLOTS fwLbaSlots
    pure (osii, { ctr with fwCtr := fwCtr })
  else if attrClass osii.attr ∈ fixupOsClasses then do
    let (osii, osCtr) ← fixupOsii osii ctr.osCtr OS_SLOTS osLbaSlots
    pure (osii, { ctr with osCtr := osCtr })
  else if attrClass osii.attr = ATTR_FILESYSTEM then
    if ctr.ptnCtr > 0 then .error .multipleFilesystems
    else .ok ({ osii with logicalStartBlock := ptnLba }, { ctr with ptnCtr := ctr.ptnCtr + 1 })
  else .error (.unhandledAttribute osii.attr)

def fixupLoop (ptnLba : UInt32) :
    List Nat → FixupCounters → OSIPHeader → Outcome FixupError Unit × OSIPHeader
  | [], _, osip => (.ok (), osip)
  | i :: rest, ctr, osip =>
      if h : i < 8 then
        match fixupEntry ptnLba (osip.desc ⟨i, h⟩) ctr with
        | .ok (osii, ctr) =>
            fixupLoop ptnLba rest ctr { osip with desc := Function.update osip.desc ⟨i, h⟩ osii }
        | .error cause => (.error cause, osip)
        | .stray index => (.stray index, osip)
      else (.stray i, osip)

def fixupOsip (osip : OSIPHeader) (ptnLba : UInt32) : Outcome FixupError Unit × OSIPHeader :=
  match fixupLoop ptnLba (List.range osip.count) ⟨0, 0, 0⟩ osip with
  | (.ok (), osip') => (Outcome.require (osip.count ≠ 0) .noEntries, osip'.seal)
  | failed => failed

def maxSizeLba (attr : UInt8) : Option UInt32 :=
  if attrClass attr ∈ fwClasses then some FW_MAX_LBA
  else if attrClass attr ∈ fixupOsClasses then some OS_MAX_LBA
  else none

def verifySizesLoop (osip : OSIPHeader) : List Nat → Outcome FixupError Unit
  | [] => .ok ()
  | i :: rest =>
      if h : i < 8 then
        match maxSizeLba (osip.desc ⟨i, h⟩).attr with
        | none => verifySizesLoop osip rest
        | some maximum =>
            let imgSize := (osip.desc ⟨i, h⟩).sizeOfOsImage
            if imgSize > maximum then .error (.badSize i (imgSize * 512) (maximum * 512))
            else verifySizesLoop osip rest
      else .stray i

def verifyOsipSizes (osip : OSIPHeader) : Outcome FixupError Unit :=
  verifySizesLoop osip (List.range osip.count)

def OSII.IsFw (osii : OSII) : Prop := attrClass osii.attr ∈ fwClasses

def OSII.IsOs (osii : OSII) : Prop := attrClass osii.attr ∈ fixupOsClasses

instance (osii : OSII) : Decidable osii.IsFw :=
  inferInstanceAs (Decidable (attrClass osii.attr ∈ fwClasses))

instance (osii : OSII) : Decidable osii.IsOs :=
  inferInstanceAs (Decidable (attrClass osii.attr ∈ fixupOsClasses))

/-- How many of the first `n` entries are of a class. -/
def entriesBefore (osip : OSIPHeader) (ofClass : OSII → Prop) [DecidablePred ofClass] (n : Nat) :
    Nat :=
  Nat.count (fun k => ∃ h : k < 8, ofClass (osip.desc ⟨k, h⟩)) n

def slotFor (osip : OSIPHeader) (i : Fin 8) : UInt32 :=
  if (osip.desc i).IsFw then FW_START_OFFSET
  else OS_START_OFFSET + OS_MAX_LBA * UInt32.ofNat (entriesBefore osip OSII.IsOs i)

/-- There is a slot for the entry: it is of an OS class, or the first firmware. -/
def Placeable (osip : OSIPHeader) (i : Fin 8) : Prop :=
  ((osip.desc i).IsFw ∧ entriesBefore osip OSII.IsFw i = 0) ∨ (osip.desc i).IsOs

instance (osip : OSIPHeader) (i : Fin 8) : Decidable (Placeable osip i) :=
  inferInstanceAs (Decidable (_ ∨ _))

/-- The header with its first `n` entries on their slots. -/
def placedUpTo (osip : OSIPHeader) (n : Nat) : OSIPHeader :=
  { osip with
    desc := fun k =>
      if k.val < n then { osip.desc k with logicalStartBlock := slotFor osip k } else osip.desc k }

/-- The counters before entry `n`. -/
def countersAt (osip : OSIPHeader) (n : Nat) : FixupCounters where
  fwCtr := entriesBefore osip OSII.IsFw n
  osCtr := entriesBefore osip OSII.IsOs n
  ptnCtr := 0

theorem OSII.IsFw.not_isOs {osii : OSII} (fw : osii.IsFw) : ¬ osii.IsOs := by
  have apart : ∀ c ∈ fwClasses, c ∉ fixupOsClasses := by decide +kernel
  exact apart _ fw

theorem attrClass_ne_filesystem (attr : UInt8) : attrClass attr ≠ ATTR_FILESYSTEM := by
  intro same
  have even := attrClass_even attr
  rw [same] at even
  exact absurd even (by decide)

theorem entriesBefore_succ (osip : OSIPHeader) (ofClass : OSII → Prop) [DecidablePred ofClass]
    (i : Fin 8) :
    entriesBefore osip ofClass (i + 1) =
      entriesBefore osip ofClass i + if ofClass (osip.desc i) then 1 else 0 := by
  rw [entriesBefore, Nat.count_succ]
  congr 1
  by_cases member : ofClass (osip.desc i)
  · rw [if_pos ⟨i.isLt, member⟩, if_pos member]
  · rw [if_neg (fun found => member found.2), if_neg member]

theorem osLbaSlots_get {n : Nat} (inside : n < 9) :
    osLbaSlots[n]? = some (OS_START_OFFSET + OS_MAX_LBA * UInt32.ofNat n) := by
  interval_cases n <;> rfl

theorem entriesBefore_lt (osip : OSIPHeader) (ofClass : OSII → Prop) [DecidablePred ofClass]
    (i : Fin 8) : entriesBefore osip ofClass i < 8 := by
  have bound : entriesBefore osip ofClass i ≤ i := Nat.count_le _
  omega

theorem fixupEntry_fw {osii : OSII} (ptnLba : UInt32) (ctr : FixupCounters) (fw : osii.IsFw) :
    fixupEntry ptnLba osii ctr = (fixupOsii osii ctr.fwCtr FW_SLOTS fwLbaSlots >>= fun placed =>
      pure (placed.1, { ctr with fwCtr := placed.2 })) := if_pos fw

theorem fixupEntry_os {osii : OSII} (ptnLba : UInt32) (ctr : FixupCounters) (os : osii.IsOs) :
    fixupEntry ptnLba osii ctr = (fixupOsii osii ctr.osCtr OS_SLOTS osLbaSlots >>= fun placed =>
      pure (placed.1, { ctr with osCtr := placed.2 })) := by
  have fw : ¬ osii.IsFw := fun fw => fw.not_isOs os
  exact (if_neg fw).trans (if_pos os)

theorem fixupEntry_other {osii : OSII} (ptnLba : UInt32) (ctr : FixupCounters) (fw : ¬ osii.IsFw)
    (os : ¬ osii.IsOs) :
    fixupEntry ptnLba osii ctr = .error (.unhandledAttribute osii.attr) :=
  (if_neg fw).trans ((if_neg os).trans (if_neg (attrClass_ne_filesystem _)))

theorem fixupEntry_placeable (osip : OSIPHeader) (ptnLba : UInt32) (i : Fin 8)
    (placeable : Placeable osip i) :
    fixupEntry ptnLba (osip.desc i) (countersAt osip i) =
      .ok ({ osip.desc i with logicalStartBlock := slotFor osip i }, countersAt osip (i + 1)) := by
  rcases placeable with ⟨fw, first⟩ | os
  · have os := fw.not_isOs
    rw [fixupEntry_fw _ _ fw, countersAt, countersAt, entriesBefore_succ, entriesBefore_succ, slotFor,
      first, if_pos fw, if_neg os, if_pos fw]
    rfl
  · have fw : ¬ (osip.desc i).IsFw := fun fw => fw.not_isOs os
    have inside := entriesBefore_lt osip OSII.IsOs i
    have free : ¬ entriesBefore osip OSII.IsOs i ≥ (OS_SLOTS - 1).toNat := Nat.not_le.mpr inside
    have slot := osLbaSlots_get (Nat.lt_succ_of_lt inside)
    rw [fixupEntry_os _ _ os, countersAt, countersAt, entriesBefore_succ, entriesBefore_succ, slotFor,
      if_neg fw, if_neg fw, if_pos os, fixupOsii, if_neg free, slot]
    rfl

theorem fixupEntry_unplaceable (osip : OSIPHeader) (ptnLba : UInt32) (i : Fin 8)
    (refused : ¬ Placeable osip i) :
    ∃ cause, fixupEntry ptnLba (osip.desc i) (countersAt osip i) = .error cause := by
  by_cases fw : (osip.desc i).IsFw
  · have later : (countersAt osip i).fwCtr ≥ (FW_SLOTS - 1).toNat := by
      have counted : entriesBefore osip OSII.IsFw i ≠ 0 := fun zero => refused (.inl ⟨fw, zero⟩)
      exact Nat.one_le_iff_ne_zero.mpr counted
    rw [fixupEntry_fw _ _ fw, fixupOsii, if_pos later]
    exact ⟨_, rfl⟩
  · exact ⟨_, fixupEntry_other _ _ fw fun os => refused (.inr os)⟩

theorem placedUpTo_desc_self (osip : OSIPHeader) (i : Fin 8) :
    (placedUpTo osip i).desc i = osip.desc i := if_neg (lt_irrefl _)

theorem placedUpTo_zero (osip : OSIPHeader) : placedUpTo osip 0 = osip := rfl

theorem placedUpTo_succ (osip : OSIPHeader) (i : Fin 8) :
    { placedUpTo osip i with
      desc := Function.update (placedUpTo osip i).desc i
        { osip.desc i with logicalStartBlock := slotFor osip i } } = placedUpTo osip (i + 1) := by
  simp only [placedUpTo]
  congr 1
  funext k
  by_cases here : k = i
  · subst here
    rw [Function.update_self, if_pos (by omega)]
  · have apart : k.val ≠ i.val := fun same => here (Fin.ext same)
    rw [Function.update_of_ne here]
    by_cases below : k.val < i.val
    · rw [if_pos below, if_pos (by omega)]
    · rw [if_neg below, if_neg (by omega)]

theorem fixupLoop_cases (osip : OSIPHeader) (ptnLba : UInt32) (n i : Nat) (inside : i + n ≤ 8) :
    (∃ (j : Fin 8) (cause : FixupError), i ≤ j.val ∧ j.val < i + n ∧ ¬ Placeable osip j ∧
      (∀ k : Fin 8, i ≤ k.val → k < j → Placeable osip k) ∧
      fixupLoop ptnLba (List.range' i n) (countersAt osip i) (placedUpTo osip i) =
        (.error cause, placedUpTo osip j)) ∨
    ((∀ k : Fin 8, i ≤ k.val → k.val < i + n → Placeable osip k) ∧
      fixupLoop ptnLba (List.range' i n) (countersAt osip i) (placedUpTo osip i) =
        (.ok (), placedUpTo osip (i + n))) := by
  induction n generalizing i with
  | zero =>
      right
      refine ⟨fun k lower upper => absurd upper (by omega), rfl⟩
  | succ n ih =>
      have bound : i < 8 := by omega
      rw [List.range'_succ, fixupLoop, dif_pos bound]
      have here := placedUpTo_desc_self osip ⟨i, bound⟩
      by_cases placeable : Placeable osip ⟨i, bound⟩
      · have turn := fixupEntry_placeable osip ptnLba ⟨i, bound⟩ placeable
        have stored := placedUpTo_succ osip ⟨i, bound⟩
        simp only at here turn stored
        rw [here, turn]
        simp only
        rw [stored]
        rcases ih (i + 1) (by omega) with ⟨j, cause, lower, upper, refused, before, ran⟩ | ⟨all, ran⟩
        · left
          refine ⟨j, cause, by omega, by omega, refused, fun k low high => ?_, ran⟩
          by_cases first : k.val = i
          · have index : k = ⟨i, bound⟩ := Fin.ext first
            rwa [index]
          · exact before k (by omega) high
        · right
          have behind : i + 1 + n = i + (n + 1) := by omega
          rw [behind] at ran all
          refine ⟨fun k low high => ?_, ran⟩
          by_cases first : k.val = i
          · have index : k = ⟨i, bound⟩ := Fin.ext first
            rwa [index]
          · exact all k (by omega) high
      · rcases fixupEntry_unplaceable osip ptnLba ⟨i, bound⟩ placeable with ⟨cause, turn⟩
        simp only at here turn
        left
        refine ⟨⟨i, bound⟩, cause, by simp, by simp, placeable, fun k low high => ?_, ?_⟩
        · have impossible : k.val < i := high
          omega
        · rw [here, turn]

theorem fixupOsip_cases {osip : OSIPHeader} (ptnLba : UInt32) (some : 1 ≤ osip.count)
    (few : osip.count ≤ 8) :
    (∃ (j : Fin 8) (cause : FixupError), j.val < osip.count ∧ ¬ Placeable osip j ∧
      (∀ k < j, Placeable osip k) ∧
      fixupOsip osip ptnLba = (.error cause, placedUpTo osip j)) ∨
    ((∀ k : Fin 8, k.val < osip.count → Placeable osip k) ∧
      fixupOsip osip ptnLba = (.ok (), (placedUpTo osip osip.count).seal)) := by
  have begins : countersAt osip 0 = ⟨0, 0, 0⟩ := by
    simp [countersAt, entriesBefore]
  have loop := fixupLoop_cases osip ptnLba osip.count 0 (by omega)
  rw [begins, placedUpTo_zero, ← List.range_eq_range', Nat.zero_add] at loop
  rw [fixupOsip]
  rcases loop with ⟨j, cause, _, upper, refused, before, ran⟩ | ⟨all, ran⟩
  · left
    refine ⟨j, cause, upper, refused, fun k => before k (Nat.zero_le _), ?_⟩
    rw [ran]
  · right
    refine ⟨fun k => all k (Nat.zero_le _), ?_⟩
    rw [ran]
    simp only
    rw [Outcome.require_pos _ (by omega)]

theorem fixupOsip_of_placeable {osip : OSIPHeader} (ptnLba : UInt32) (some : 1 ≤ osip.count)
    (few : osip.count ≤ 8) (all : ∀ k : Fin 8, k.val < osip.count → Placeable osip k) :
    fixupOsip osip ptnLba = (.ok (), (placedUpTo osip osip.count).seal) := by
  rcases fixupOsip_cases ptnLba some few with ⟨j, _, live, refused, _⟩ | ⟨_, done⟩
  · exact absurd (all j live) refused
  · exact done

theorem OSII.byte_start (osii : OSII) (start : UInt32) (k : Nat) (outside : k < 4 ∨ 8 ≤ k) :
    { osii with logicalStartBlock := start }.byte k = osii.byte k := by
  unfold OSII.byte
  by_cases field : k < 4
  · by_cases first : k < 2
    · rw [if_pos first, if_pos first]
    · rw [if_neg first, if_neg first, if_pos field, if_pos field]
  · have past : ¬ k < 2 ∧ ¬ k < 4 ∧ ¬ k < 8 := by omega
    rw [if_neg past.1, if_neg past.1, if_neg past.2.1, if_neg past.2.1, if_neg past.2.2,
      if_neg past.2.2]

theorem OSIPHeader.byte_front (osip : OSIPHeader) (desc : Fin 8 → OSII) (k : Nat)
    (front : k < 32) : { osip with desc := desc }.byte k = osip.byte k := by
  unfold OSIPHeader.byte
  by_cases words : (k - 12) / 4 < 5
  · simp only [words, dif_pos]
  · omega

/-- The byte is not part of the start block of one of the first `n` entries. -/
def OutsideStarts (n k : Nat) : Prop :=
  ∀ i : Fin 8, i.val < n → ¬ (32 + 24 * i.val + 4 ≤ k ∧ k < 32 + 24 * i.val + 8)

theorem placedUpTo_byte (osip : OSIPHeader) (n k : Nat) (inside : k < headerBytes)
    (outside : OutsideStarts n k) : (placedUpTo osip n).byte k = osip.byte k := by
  simp only [headerBytes] at inside
  by_cases front : k < 32
  · exact OSIPHeader.byte_front _ _ k front
  · have entry : (k - 32) / 24 < 8 := by omega
    obtain ⟨i, offset, bound, rfl⟩ : ∃ (i : Fin 8) (offset : Nat), offset < 24 ∧
        k = 32 + 24 * i + offset :=
      ⟨⟨(k - 32) / 24, entry⟩, (k - 32) % 24, Nat.mod_lt _ (by decide), by simp only; omega⟩
    rw [OSIPHeader.byte_desc _ _ _ bound, OSIPHeader.byte_desc _ _ _ bound]
    simp only [placedUpTo]
    by_cases live : i.val < n
    · rw [if_pos live]
      apply OSII.byte_start
      have apart := outside i live
      omega
    · rw [if_neg live]

theorem seal_byte (osip : OSIPHeader) (k : Nat) (other : k ≠ 7) : osip.seal.byte k = osip.byte k := by
  rw [OSIPHeader.seal, OSIPHeader.byte_checksum, Function.update_of_ne other]

def SizesFit (osip : OSIPHeader) (i : Fin 8) : Prop :=
  ((osip.desc i).IsFw → (osip.desc i).blocks ≤ 2000) ∧
    ((osip.desc i).IsOs → (osip.desc i).blocks ≤ 32000)

theorem maxSizeLba_fits {osip : OSIPHeader} {i : Fin 8}
    (fits : ∀ maximum, maxSizeLba (osip.desc i).attr = some maximum →
      ¬ (osip.desc i).sizeOfOsImage > maximum) : SizesFit osip i := by
  constructor
  · intro fw
    have checked := fits FW_MAX_LBA (if_pos fw)
    exact UInt32.not_lt.mp checked
  · intro os
    have fw : ¬ (osip.desc i).IsFw := fun fw => fw.not_isOs os
    have checked := fits OS_MAX_LBA ((if_neg fw).trans (if_pos os))
    exact UInt32.not_lt.mp checked

theorem verifySizesLoop_fits {osip : OSIPHeader} {indices : List Nat}
    (verified : verifySizesLoop osip indices = .ok ()) :
    ∀ i : Fin 8, i.val ∈ indices → SizesFit osip i := by
  induction indices with
  | nil => exact fun i member => absurd member List.not_mem_nil
  | cons k rest ih =>
      rw [verifySizesLoop] at verified
      by_cases bound : k < 8
      · rw [dif_pos bound] at verified
        have turn : (∀ maximum, maxSizeLba (osip.desc ⟨k, bound⟩).attr = some maximum →
            ¬ (osip.desc ⟨k, bound⟩).sizeOfOsImage > maximum) ∧
            verifySizesLoop osip rest = .ok () := by
          cases limit : maxSizeLba (osip.desc ⟨k, bound⟩).attr with
          | none =>
              rw [limit] at verified
              refine ⟨fun maximum found => ?_, verified⟩
              cases found
          | some maximum =>
              rw [limit] at verified
              simp only at verified
              by_cases large : (osip.desc ⟨k, bound⟩).sizeOfOsImage > maximum
              · rw [if_pos large] at verified
                cases verified
              · rw [if_neg large] at verified
                refine ⟨fun found same => ?_, verified⟩
                rwa [← Option.some.inj same]
        intro i member
        rcases List.mem_cons.mp member with here | later
        · have index : i = ⟨k, bound⟩ := Fin.ext here
          rw [index]
          exact maxSizeLba_fits turn.1
        · exact ih turn.2 i later
      · rw [dif_neg bound] at verified
        cases verified

theorem slotFor_fw {osip : OSIPHeader} {i : Fin 8} (fw : (osip.desc i).IsFw) :
    (slotFor osip i).toNat = 50 := by
  rw [slotFor, if_pos fw]
  rfl

theorem slotFor_os {osip : OSIPHeader} {i : Fin 8} (os : (osip.desc i).IsOs) :
    (slotFor osip i).toNat = 4050 + 32000 * entriesBefore osip OSII.IsOs i := by
  have fw : ¬ (osip.desc i).IsFw := fun fw => fw.not_isOs os
  have inside := entriesBefore_lt osip OSII.IsOs i
  rw [slotFor, if_neg fw]
  generalize entriesBefore osip OSII.IsOs i = n at inside ⊢
  interval_cases n <;> rfl

theorem entriesBefore_inj {osip : OSIPHeader} {ofClass : OSII → Prop} [DecidablePred ofClass]
    {i j : Fin 8} (first : ofClass (osip.desc i)) (second : ofClass (osip.desc j))
    (same : entriesBefore osip ofClass i = entriesBefore osip ofClass j) : i = j :=
  Fin.ext (Nat.count_injective ⟨i.isLt, first⟩ ⟨j.isLt, second⟩ same)

/-- The entry takes part in the layout. -/
def OSII.IsPlaced (osii : OSII) : Prop := osii.IsFw ∨ osii.IsOs

instance (osii : OSII) : Decidable osii.IsPlaced :=
  inferInstanceAs (Decidable (osii.IsFw ∨ osii.IsOs))

def OSII.IsFilesystem (osii : OSII) : Prop := osii.attr = ATTR_FILESYSTEM

instance (osii : OSII) : Decidable osii.IsFilesystem :=
  inferInstanceAs (Decidable (osii.attr = ATTR_FILESYSTEM))

/-- The blocks of the entry. -/
def OSII.Covers (osii : OSII) (block : Nat) : Prop :=
  osii.start ≤ block ∧ block < osii.start + osii.blocks

theorem placed_apart {osip : OSIPHeader} {i j : Fin 8} (distinct : i ≠ j)
    (first : Placeable osip i) (second : Placeable osip j) (fits : SizesFit osip i)
    (fits' : SizesFit osip j) :
    (slotFor osip i).toNat + (osip.desc i).blocks ≤ (slotFor osip j).toNat ∨
      (slotFor osip j).toNat + (osip.desc j).blocks ≤ (slotFor osip i).toNat := by
  rcases first with ⟨fw, none⟩ | os
  · have size := fits.1 fw
    rw [slotFor_fw fw]
    rcases second with ⟨fw', none'⟩ | os'
    · exact absurd (entriesBefore_inj fw fw' (none.trans none'.symm)) distinct
    · rw [slotFor_os os']
      omega
  · have size := fits.2 os
    rw [slotFor_os os]
    rcases second with ⟨fw', none'⟩ | os'
    · have size' := fits'.1 fw'
      rw [slotFor_fw fw']
      omega
    · have size' := fits'.2 os'
      have apart : entriesBefore osip OSII.IsOs i ≠ entriesBefore osip OSII.IsOs j :=
        fun same => distinct (entriesBefore_inj os os' same)
      rw [slotFor_os os']
      omega

theorem placed_inside {osip : OSIPHeader} {i : Fin 8} (placeable : Placeable osip i)
    (fits : SizesFit osip i) :
    50 ≤ (slotFor osip i).toNat ∧
      (slotFor osip i).toNat + (osip.desc i).blocks ≤ 4050 + 9 * 32000 := by
  rcases placeable with ⟨fw, _⟩ | os
  · have size := fits.1 fw
    rw [slotFor_fw fw]
    omega
  · have size := fits.2 os
    have inside := entriesBefore_lt osip OSII.IsOs i
    rw [slotFor_os os]
    omega

theorem fixup_lays_out_table {osip osip' : OSIPHeader} {ptnLba : UInt32} (some : 1 ≤ osip.count)
    (few : osip.count ≤ 8) (fixed : fixupOsip osip ptnLba = (.ok (), osip'))
    (verified : verifyOsipSizes osip' = .ok ()) :
    (∀ i j : Fin 8, i.val < osip.count → j.val < osip.count → i ≠ j →
      (osip'.desc i).IsPlaced → (osip'.desc j).IsPlaced →
      ∀ block, (osip'.desc i).Covers block → ¬ (osip'.desc j).Covers block) ∧
    (∀ i : Fin 8, i.val < osip.count → (osip'.desc i).IsPlaced →
      50 ≤ (osip'.desc i).start ∧
        (osip'.desc i).start + (osip'.desc i).blocks ≤ 4050 + 9 * 32000) ∧
    xorRange osip'.byte headerBytes = 0 ∧
    ∀ k < headerBytes, k ≠ 7 → OutsideStarts osip.count k → osip'.byte k = osip.byte k := by
  rcases fixupOsip_cases ptnLba some few with ⟨_, _, _, _, _, failed⟩ | ⟨all, done⟩
  · rw [failed] at fixed
    cases fixed
  rw [done] at fixed
  cases fixed
  have entry : ∀ i : Fin 8, i.val < osip.count → (placedUpTo osip osip.count).seal.desc i =
      { osip.desc i with logicalStartBlock := slotFor osip i } := fun i live => if_pos live
  have fits : ∀ i : Fin 8, i.val < osip.count → SizesFit osip i := by
    intro i live
    have checked := verifySizesLoop_fits verified i (List.mem_range.mpr live)
    rw [SizesFit, entry i live] at checked
    exact checked
  refine ⟨?_, ?_, ?_, ?_⟩
  · intro i j live live' distinct _ _ block covered covered'
    rw [entry i live] at covered
    rw [entry j live'] at covered'
    have apart := placed_apart distinct (all i live) (all j live') (fits i live) (fits j live')
    have range : (slotFor osip i).toNat ≤ block ∧
        block < (slotFor osip i).toNat + (osip.desc i).blocks := covered
    have range' : (slotFor osip j).toNat ≤ block ∧
        block < (slotFor osip j).toNat + (osip.desc j).blocks := covered'
    omega
  · intro i live _
    rw [entry i live]
    exact placed_inside (all i live) (fits i live)
  · rw [← getOsipCrc_eq]
    exact getOsipCrc_seal _
  · intro k inside other outside
    rw [seal_byte _ k other, placedUpTo_byte _ _ k inside outside]

def unplacedOsip : OSIPHeader :=
  { defaultOsip with
    numPointers := 2
    desc := fun i =>
      if i.val = 0 then { OSII.zero with sizeOfOsImage := 10 }
      else if i.val = 1 then { OSII.zero with sizeOfOsImage := 5, attr := ATTR_UNSIGNED_FW }
      else OSII.zero }

theorem fixup_lays_out_kernel_firmware :
    ∃ osip', fixupOsip unplacedOsip 0 = (.ok (), osip') ∧ verifyOsipSizes osip' = .ok () ∧
      ∀ block, (osip'.desc 0).Covers block → ¬ (osip'.desc 1).Covers block := by
  have fixed : fixupOsip unplacedOsip 0 = (.ok (), (placedUpTo unplacedOsip 2).seal) :=
    fixupOsip_of_placeable 0 (by decide) (by decide) (by decide)
  have verified : verifyOsipSizes (placedUpTo unplacedOsip 2).seal = .ok () := by decide
  refine ⟨_, fixed, verified, ?_⟩
  exact (fixup_lays_out_table (by decide) (by decide) fixed verified).1 0 1 (by decide) (by decide)
    (by decide) (.inr (by decide)) (.inl (by decide))

theorem placeable_iff (osip : OSIPHeader) :
    (∀ i : Fin 8, i.val < osip.count → Placeable osip i) ↔
      (∀ i : Fin 8, i.val < osip.count → (osip.desc i).IsPlaced) ∧
        ∀ i j : Fin 8, i.val < osip.count → j.val < osip.count →
          (osip.desc i).IsFw → (osip.desc j).IsFw → i = j := by
  constructor
  · intro all
    refine ⟨fun i live => ?_, fun i j live live' fw fw' => ?_⟩
    · rcases all i live with ⟨fw, _⟩ | os
      · exact .inl fw
      · exact .inr os
    · have first : ∀ k : Fin 8, k.val < osip.count → (osip.desc k).IsFw →
          entriesBefore osip OSII.IsFw k = 0 := by
        intro k live fw
        rcases all k live with ⟨_, none⟩ | os
        · exact none
        · exact absurd os fw.not_isOs
      exact entriesBefore_inj fw fw' ((first i live fw).trans (first j live' fw').symm)
  · rintro ⟨placed, single⟩ i live
    rcases placed i live with fw | os
    · left
      refine ⟨fw, Nat.count_of_forall_not ?_⟩
      rintro k below ⟨bound, other⟩
      have same := single ⟨k, bound⟩ i (show k < osip.count by omega) live other fw
      rw [← same] at below
      exact lt_irrefl k below
    · exact .inr os

/-- Without file systems, `fixup_osip` accepts exactly the layouts it can place. What it rejects
keeps the slots given to the entries before the one that has none, and is otherwise unchanged. -/
theorem fixup_accepts_placeable {osip : OSIPHeader} (ptnLba : UInt32) (some : 1 ≤ osip.count)
    (few : osip.count ≤ 8)
    (noFilesystem : ∀ i : Fin 8, i.val < osip.count → ¬ (osip.desc i).IsFilesystem) :
    ((fixupOsip osip ptnLba).1 = .ok () ↔
      (∀ i : Fin 8, i.val < osip.count →
        (osip.desc i).IsPlaced ∨ (osip.desc i).IsFilesystem) ∧
      ∀ i j : Fin 8, i.val < osip.count → j.val < osip.count →
        (osip.desc i).IsFw → (osip.desc j).IsFw → i = j) ∧
    ((fixupOsip osip ptnLba).1 ≠ .ok () →
      ∃ (j : Fin 8) (cause : FixupError), j.val < osip.count ∧ ¬ Placeable osip j ∧
        fixupOsip osip ptnLba = (.error cause, placedUpTo osip j) ∧
        ∀ k < headerBytes, OutsideStarts j k → (fixupOsip osip ptnLba).2.byte k = osip.byte k) := by
  have placed : (∀ i : Fin 8, i.val < osip.count →
      (osip.desc i).IsPlaced ∨ (osip.desc i).IsFilesystem) ↔
      ∀ i : Fin 8, i.val < osip.count → (osip.desc i).IsPlaced := by
    constructor
    · intro classes i live
      exact (classes i live).resolve_right (noFilesystem i live)
    · intro classes i live
      exact .inl (classes i live)
  rw [placed, ← placeable_iff osip]
  rcases fixupOsip_cases ptnLba some few with ⟨j, cause, live, refused, _, ran⟩ | ⟨all, ran⟩
  · rw [ran]
    refine ⟨⟨fun done => ?_, fun all => absurd (all j live) refused⟩, fun _ => ?_⟩
    · cases done
    · exact ⟨j, cause, live, refused, rfl, fun k inside => placedUpTo_byte osip j k inside⟩
  · rw [ran]
    exact ⟨⟨fun _ => all, fun _ => rfl⟩, fun failed => absurd rfl failed⟩

theorem fixup_accepts_kernel_firmware : (fixupOsip unplacedOsip 0).1 = .ok () :=
  (fixup_accepts_placeable 0 (by decide) (by decide) (by decide)).1.mpr ⟨by decide, by decide⟩

def splashOsip : OSIPHeader :=
  { unplacedOsip with
    desc := Function.update unplacedOsip.desc 1
      { OSII.zero with attr := ATTR_SIGNED_SPLASHSCREEN } }

/-- The kernel has moved to its slot when the splash screen is refused. -/
theorem fixup_rejects_with_changes :
    1 ≤ splashOsip.count ∧ splashOsip.count ≤ 8 ∧
    ∃ cause, (fixupOsip splashOsip 0).1 = .error cause ∧
      (fixupOsip splashOsip 0).2.byte 36 ≠ splashOsip.byte 36 := by
  refine ⟨by decide, by decide, ?_⟩
  have splash : ∀ j : Fin 8, j.val < splashOsip.count → ¬ Placeable splashOsip j → j = 1 := by decide
  have moved : (placedUpTo splashOsip (1 : Fin 8)).byte 36 ≠ splashOsip.byte 36 := by decide
  rcases fixupOsip_cases 0 (by decide : 1 ≤ splashOsip.count) (by decide) with
    ⟨j, cause, live, refused, _, ran⟩ | ⟨all, _⟩
  · rw [ran]
    refine ⟨cause, rfl, ?_⟩
    rw [splash j live refused]
    exact moved
  · exact absurd (all 1 (by decide)) (by decide)

end A500cg.Osip
