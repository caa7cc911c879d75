import A500cg.Lib.Flash
import A500cg.Lib.Files

/-! `flash_bootloader` of `bootloader.c`: five walks over the components of a container.

A pointer into the container is its distance from the container's start; addresses are 32 bits
wide, so the distances are numbers modulo `2 ^ 32`. Nothing bounds the walks, so they are given
fuel; `none` is a run that has used it up. -/

namespace A500cg.Bootloader

open Lib

def BOOTLOADER_MAGIC : List UInt8 := [0x42, 0x4f, 0x4f, 0x54, 0x4c, 0x44, 0x52, 0x21]
def FLAG_FLASH : UInt8 := 1
def EPERM : Int := 1

def bootloaderHdrBytes : Nat := 16

def componentHdrBytes : Nat := 16

inductive Kind where
  | droidboot
  | ifwi
  | splashscreen
  | capsule
  | esp
  deriving DecidableEq, Repr

def Kind.all : List Kind := [.droidboot, .ifwi, .splashscreen, .capsule, .esp]

def Kind.magic : Kind → List UInt8
  | .droidboot => [0x44, 0x52, 0x4f, 0x49, 0x44, 0x42, 0x54, 0x21]
  | .ifwi => [0x49, 0x46, 0x57, 0x49, 0x21, 0x21, 0x21, 0x21]
  | .splashscreen => [0x53, 0x50, 0x4c, 0x41, 0x53, 0x48, 0x53, 0x21]
  | .capsule => [0x43, 0x41, 0x50, 0x53, 0x55, 0x4c, 0x45, 0x21]
  | .esp => [0x45, 0x53, 0x50, 0x21, 0x21, 0x21, 0x21, 0x21]

def Kind.name : Kind → String
  | .droidboot => "fastboot"
  | .ifwi => "ifwi"
  | .splashscreen => "splashscreen"
  | .capsule => "capsule"
  | .esp => "esp_update"

def FASTBOOT_OS_NAME : String := "fastboot"

structure ComponentHdr where
  magic : List UInt8
  size : UInt32
  flags : UInt8
  deriving DecidableEq, Repr

def headerAt (bytes : List UInt8) (p : Nat) : ComponentHdr where
  magic := (bytes.drop p).take 8
  size := le32 (bytesOf bytes) (p + 8)
  flags := bytesOf bytes (p + 12)

/-- Reads the header at `p`; one that is not wholly in the container is stray. -/
def readHeader (bytes : List UInt8) (p : Nat) : Outcome Empty ComponentHdr :=
  if p + componentHdrBytes ≤ bytes.length then .ok (headerAt bytes p) else .stray p

def following (bytes : List UInt8) (p : Nat) : Nat :=
  (p + componentHdrBytes + (headerAt bytes p).size.toNat) % 2 ^ 32

/-- `next_component`: the position that `c_hdr` is moved to, unless that is not accepted. -/
def nextComponent (bytes : List UInt8) : Option Nat → Outcome Empty (Option Nat)
  | none => .ok (some bootloaderHdrBytes)
  | some p => do
      let _ ← readHeader bytes p
      pure (if following bytes p < bytes.length then some (following bytes p) else none)

/-- The component is to be flashed as one of the kind. -/
def Wanted (kind : Kind) (hdr : ComponentHdr) : Prop :=
  hdr.magic = kind.magic ∧ hdr.flags &&& FLAG_FLASH ≠ 0

instance (kind : Kind) (hdr : ComponentHdr) : Decidable (Wanted kind hdr) :=
  inferInstanceAs (Decidable (_ ∧ _))

def nextComponentFilter (bytes : List UInt8) (kind : Kind) :
    Nat → Option Nat → Option (Outcome Empty (Option Nat))
  | 0, _ => none
  | fuel + 1, c =>
      match nextComponent bytes c with
      | .ok none => some (.ok none)
      | .ok (some p) =>
          match readHeader bytes p with
          | .ok hdr =>
              if Wanted kind hdr then some (.ok (some p))
              else nextComponentFilter bytes kind fuel (some p)
          | .error cause => nomatch cause
          | .stray index => some (.stray index)
      | .error cause => nomatch cause
      | .stray index => some (.stray index)

/-- A call of `aboot_flash`: the name, and where the data starts and how much of it there is. -/
structure Call where
  name : String
  start : Nat
  size : Nat
  deriving DecidableEq, Repr

def callAt (bytes : List UInt8) (kind : Kind) (p : Nat) : Call :=
  ⟨kind.name, p + componentHdrBytes, (headerAt bytes p).size.toNat⟩

/-- What `aboot_flash` answers a call that comes after others. -/
abbrev Aboot := List Call → Call → Int

inductive WalkEnd where
  | returned (ret : Int)
  | finished (present flashed : Bool) (ret : Int)
  deriving DecidableEq, Repr

def flashKind (aboot : Aboot) (bytes : List UInt8) (kind : Kind) :
    Nat → Option Nat → Bool → Bool → Int → List Call → Option (Outcome Empty WalkEnd × List Call)
  | 0, _, _, _, _, _ => none
  | fuel + 1, c, present, flashed, ret, calls =>
      match nextComponentFilter bytes kind (fuel + 1) c with
      | none => none
      | some (.stray index) => some (.stray index, calls)
      | some (.error cause) => nomatch cause
      | some (.ok none) => some (.ok (.finished present flashed ret), calls)
      | some (.ok (some p)) =>
          let call := callAt bytes kind p
          let ret := aboot calls call
          if ret ≠ 0 ∧ ret ≠ -EPERM then some (.ok (.returned ret), calls ++ [call])
          else
            flashKind aboot bytes kind fuel (some p) true (flashed || ret = 0) ret (calls ++ [call])

def flashKinds (aboot : Aboot) (bytes : List UInt8) (fuel : Nat) :
    List Kind → Int → List Call → Option (Outcome Empty Int × List Call)
  | [], _, calls => some (.ok 0, calls)
  | kind :: rest, ret, calls =>
      match flashKind aboot bytes kind fuel none false false ret calls with
      | none => none
      | some (.stray index, calls) => some (.stray index, calls)
      | some (.error cause, _) => nomatch cause
      | some (.ok (.returned ret), calls) => some (.ok ret, calls)
      | some (.ok (.finished present flashed ret), calls) =>
          if (present ∧ ¬ flashed) ∧ kind.name = FASTBOOT_OS_NAME then some (.ok ret, calls)
          else flashKinds aboot bytes fuel rest ret calls

/-- `flash_bootloader`, with the calls of `aboot_flash` it makes. -/
def flashBootloader (aboot : Aboot) (fuel : Nat) (bytes : List UInt8) :
    Option (Outcome Empty Int × List Call) :=
  if bytes.length < bootloaderHdrBytes then some (.ok (-1), [])
  else if bytes.take 8 ≠ BOOTLOADER_MAGIC then some (.ok (-1), [])
  else flashKinds aboot bytes fuel Kind.all (-1) []

/-- The positions of a walk from `p` on that leaves the container, each with room for a header. -/
inductive Chain (bytes : List UInt8) : Nat → List Nat → Prop where
  | last {p : Nat} (header : p + componentHdrBytes ≤ bytes.length)
      (leaves : bytes.length ≤ following bytes p) : Chain bytes p [p]
  | more {p : Nat} {rest : List Nat} (header : p + componentHdrBytes ≤ bytes.length)
      (stays : following bytes p < bytes.length) (later : Chain bytes (following bytes p) rest) :
      Chain bytes p (p :: rest)

inductive Ahead (bytes : List UInt8) : Option Nat → List Nat → Prop where
  | done {c : Option Nat} (ended : nextComponent bytes c = .ok none) : Ahead bytes c []
  | next {c : Option Nat} {p : Nat} {rest : List Nat}
      (moved : nextComponent bytes c = .ok (some p))
      (header : p + componentHdrBytes ≤ bytes.length) (later : Ahead bytes (some p) rest) :
      Ahead bytes c (p :: rest)

theorem readHeader_inside {bytes : List UInt8} {p : Nat}
    (header : p + componentHdrBytes ≤ bytes.length) :
    readHeader bytes p = .ok (headerAt bytes p) := if_pos header

theorem nextComponent_some {bytes : List UInt8} {p : Nat}
    (header : p + componentHdrBytes ≤ bytes.length) :
    nextComponent bytes (some p) =
      .ok (if following bytes p < bytes.length then some (following bytes p) else none) := by
  rw [nextComponent, readHeader_inside header]
  rfl

theorem Chain.ahead {bytes : List UInt8} {c : Option Nat} {p : Nat} {positions : List Nat}
    (chain : Chain bytes p positions) (moved : nextComponent bytes c = .ok (some p)) :
    Ahead bytes c positions := by
  induction chain generalizing c with
  | last header leaves =>
      refine .next moved header (.done ?_)
      rw [nextComponent_some header, if_neg (by omega)]
  | more header stays later ih =>
      refine .next moved header (ih ?_)
      rw [nextComponent_some header, if_pos stays]

theorem Ahead.chain {bytes : List UInt8} {p : Nat} {rest : List Nat}
    (header : p + componentHdrBytes ≤ bytes.length) (ahead : Ahead bytes (some p) rest) :
    Chain bytes p (p :: rest) := by
  generalize same : some p = c at ahead
  induction ahead generalizing p with
  | done ended =>
      rw [← same, nextComponent_some header] at ended
      split at ended
      · cases ended
      · rename_i leaves
        exact .last header (by omega)
  | next moved room later ih =>
      rw [← same, nextComponent_some header] at moved
      split at moved
      · rename_i stays
        cases moved
        exact .more header stays (ih room rfl)
      · cases moved

theorem chain_iff_ahead {bytes : List UInt8} {positions : List Nat} :
    Chain bytes bootloaderHdrBytes positions ↔ Ahead bytes none positions := by
  constructor
  · intro chain
    exact chain.ahead rfl
  · intro ahead
    cases ahead with
    | done ended => cases ended
    | next moved header later =>
        cases moved
        exact later.chain header

def WantedAt (bytes : List UInt8) (kind : Kind) (p : Nat) : Bool := Wanted kind (headerAt bytes p)

theorem nextComponentFilter_eq {bytes : List UInt8} {kind : Kind} {c : Option Nat}
    {positions : List Nat} {fuel : Nat} (ahead : Ahead bytes c positions)
    (enough : positions.length < fuel) :
    (positions.filter (WantedAt bytes kind) = [] ∧
      nextComponentFilter bytes kind fuel c = some (.ok none)) ∨
    ∃ p rest, positions.filter (WantedAt bytes kind) = p :: rest.filter (WantedAt bytes kind) ∧
      Ahead bytes (some p) rest ∧ rest.length < positions.length ∧
      nextComponentFilter bytes kind fuel c = some (.ok (some p)) := by
  induction ahead generalizing fuel with
  | done ended =>
      cases fuel with
      | zero => omega
      | succ fuel =>
          left
          rw [nextComponentFilter, ended]
          exact ⟨rfl, rfl⟩
  | @next c p rest moved header later ih =>
      cases fuel with
      | zero => omega
      | succ fuel =>
          rw [nextComponentFilter, moved]
          simp only [readHeader_inside header]
          by_cases wanted : Wanted kind (headerAt bytes p)
          · right
            refine ⟨p, rest, List.filter_cons_of_pos (decide_eq_true wanted), later, by simp, ?_⟩
            rw [if_pos wanted]
          · have skipped : (p :: rest).filter (WantedAt bytes kind) =
                rest.filter (WantedAt bytes kind) := List.filter_cons_of_neg (by simpa [WantedAt])
            rw [if_neg wanted, skipped]
            rcases ih (by simpa using enough) with missed | ⟨q, others, found, ahead, shorter, ran⟩
            · exact Or.inl missed
            · exact Or.inr ⟨q, others, found, ahead, by simp; omega, ran⟩

def perform (aboot : Aboot) : List Call → Bool → Bool → Int → List Call → WalkEnd × List Call
  | [], present, flashed, ret, calls => (.finished present flashed ret, calls)
  | call :: rest, _, flashed, _, calls =>
      let ret := aboot calls call
      if ret ≠ 0 ∧ ret ≠ -EPERM then (.returned ret, calls ++ [call])
      else perform aboot rest true (flashed || ret = 0) ret (calls ++ [call])

def callsFor (bytes : List UInt8) (positions : List Nat) (kind : Kind) : List Call :=
  (positions.filter (WantedAt bytes kind)).map (callAt bytes kind)

theorem flashKind_eq (aboot : Aboot) {bytes : List UInt8} {kind : Kind} {c : Option Nat}
    {positions : List Nat} {fuel : Nat} (present flashed : Bool) (ret : Int) (calls : List Call)
    (ahead : Ahead bytes c positions) (enough : positions.length < fuel) :
    flashKind aboot bytes kind fuel c present flashed ret calls =
      some (.ok (perform aboot (callsFor bytes positions kind) present flashed ret calls).1,
        (perform aboot (callsFor bytes positions kind) present flashed ret calls).2) := by
  induction fuel generalizing c positions present flashed ret calls with
  | zero => omega
  | succ fuel ih =>
      rw [flashKind, callsFor]
      rcases nextComponentFilter_eq ahead enough with
        ⟨none, ran⟩ | ⟨p, rest, first, later, shorter, ran⟩
      · rw [ran, none]
        rfl
      · rw [ran, first, List.map_cons, perform]
        dsimp only
        by_cases bad : aboot calls (callAt bytes kind p) ≠ 0 ∧
            aboot calls (callAt bytes kind p) ≠ -EPERM
        · rw [if_pos bad, if_pos bad]
        · rw [if_neg bad, if_neg bad]
          exact ih _ _ _ _ later (by omega)

def performKinds (aboot : Aboot) (bytes : List UInt8) (positions : List Nat) :
    List Kind → Int → List Call → Int × List Call
  | [], _, calls => (0, calls)
  | kind :: rest, ret, calls =>
      match perform aboot (callsFor bytes positions kind) false false ret calls with
      | (.returned ret, calls) => (ret, calls)
      | (.finished present flashed ret, calls) =>
          if (present ∧ ¬ flashed) ∧ kind.name = FASTBOOT_OS_NAME then (ret, calls)
          else performKinds aboot bytes positions rest ret calls

theorem flashKinds_eq (aboot : Aboot) {bytes : List UInt8} {positions : List Nat} {fuel : Nat}
    (kinds : List Kind) (ret : Int) (calls : List Call) (ahead : Ahead bytes none positions)
    (enough : positions.length < fuel) :
    flashKinds aboot bytes fuel kinds ret calls =
      some (.ok (performKinds aboot bytes positions kinds ret calls).1,
        (performKinds aboot bytes positions kinds ret calls).2) := by
  induction kinds generalizing ret calls with
  | nil => rfl
  | cons kind rest ih =>
      rw [flashKinds, performKinds, flashKind_eq aboot false false ret calls ahead enough]
      rcases perform aboot (callsFor bytes positions kind) false false ret calls with
        ⟨walkEnd, made⟩
      cases walkEnd with
      | returned ret => rfl
      | finished present flashed ret =>
          dsimp only
          split
          · rfl
          · exact ih ret made

theorem perform_mem {aboot : Aboot} {wanted : List Call} {present flashed : Bool} {ret : Int}
    {calls : List Call} {call : Call}
    (made : call ∈ (perform aboot wanted present flashed ret calls).2) :
    call ∈ calls ∨ call ∈ wanted := by
  induction wanted generalizing present flashed ret calls with
  | nil => exact Or.inl made
  | cons first rest ih =>
      rw [perform] at made
      split at made
      · rcases List.mem_append.mp made with before | here
        · exact Or.inl before
        · exact Or.inr (List.mem_cons.mpr (Or.inl (List.mem_singleton.mp here)))
      · rcases ih made with before | later
        · rcases List.mem_append.mp before with before | here
          · exact Or.inl before
          · exact Or.inr (List.mem_cons.mpr (Or.inl (List.mem_singleton.mp here)))
        · exact Or.inr (List.mem_cons_of_mem _ later)

theorem performKinds_mem {aboot : Aboot} {bytes : List UInt8} {positions : List Nat}
    {kinds : List Kind} {ret : Int} {calls : List Call} {call : Call}
    (made : call ∈ (performKinds aboot bytes positions kinds ret calls).2) :
    call ∈ calls ∨ ∃ kind ∈ kinds, call ∈ callsFor bytes positions kind := by
  induction kinds generalizing ret calls with
  | nil => exact Or.inl made
  | cons kind rest ih =>
      have walk := @perform_mem aboot (callsFor bytes positions kind) false false ret calls call
      rw [performKinds] at made
      rcases ran : perform aboot (callsFor bytes positions kind) false false ret calls with
        ⟨walkEnd, after⟩
      rw [ran] at made walk
      have here : call ∈ after → call ∈ calls ∨
          ∃ kind' ∈ kind :: rest, call ∈ callsFor bytes positions kind' := by
        intro member
        rcases walk member with before | wanted
        · exact Or.inl before
        · exact Or.inr ⟨kind, List.mem_cons_self, wanted⟩
      cases walkEnd with
      | returned ret => exact here made
      | finished present flashed ret =>
          dsimp only at made
          split at made
          · exact here made
          · rcases ih made with before | ⟨other, member, wanted⟩
            · exact here before
            · exact Or.inr ⟨other, List.mem_cons_of_mem _ member, wanted⟩

/-! A walk that ends, in turn, shows the positions it went through. -/

def Ends (bytes : List UInt8) (c : Option Nat) : Prop := ∃ positions, Ahead bytes c positions

theorem readHeader_inv {bytes : List UInt8} {p : Nat} {hdr : ComponentHdr}
    (read : readHeader bytes p = .ok hdr) : p + componentHdrBytes ≤ bytes.length := by
  rw [readHeader] at read
  split at read
  · assumption
  · cases read

theorem ends_of_filter {bytes : List UInt8} {kind : Kind} {fuel : Nat} {c found : Option Nat}
    (ran : nextComponentFilter bytes kind fuel c = some (.ok found))
    (later : ∀ p, found = some p → Ends bytes (some p)) : Ends bytes c := by
  induction fuel generalizing c with
  | zero => cases ran
  | succ fuel ih =>
      rw [nextComponentFilter] at ran
      cases moved : nextComponent bytes c with
      | error cause => exact nomatch cause
      | stray index =>
          rw [moved] at ran
          cases ran
      | ok next =>
          rw [moved] at ran
          cases next with
          | none => exact ⟨[], .done moved⟩
          | some p =>
              cases read : readHeader bytes p with
              | error cause => exact nomatch cause
              | stray index =>
                  simp only [read] at ran
                  cases ran
              | ok hdr =>
                  simp only [read] at ran
                  have rest : Ends bytes (some p) := by
                    split at ran
                    · cases ran
                      exact later p rfl
                    · exact ih ran
                  rcases rest with ⟨positions, ahead⟩
                  exact ⟨p :: positions, .next moved (readHeader_inv read) ahead⟩

theorem ends_of_flashKind {bytes : List UInt8} {kind : Kind} {fuel : Nat} {c : Option Nat}
    {present flashed : Bool} {ret : Int} {calls made : List Call} {walkEnd : WalkEnd}
    (ran : flashKind (fun _ _ => 0) bytes kind fuel c present flashed ret calls =
      some (.ok walkEnd, made)) : Ends bytes c := by
  induction fuel generalizing c present flashed ret calls with
  | zero => cases ran
  | succ fuel ih =>
      rw [flashKind] at ran
      split at ran
      · cases ran
      · cases ran
      · rename_i cause _
        exact nomatch cause
      · rename_i filtered
        exact ends_of_filter filtered fun p none => nomatch none
      · rename_i p filtered
        refine ends_of_filter filtered fun q same => ?_
        cases same
        simp only [ne_eq, not_true_eq_false, false_and, if_false] at ran
        exact ih ran

theorem ends_of_flashKinds {bytes : List UInt8} {fuel : Nat} {ret ret' : Int}
    {calls made : List Call}
    (ran : flashKinds (fun _ _ => 0) bytes fuel Kind.all ret calls = some (.ok ret', made)) :
    Ends bytes none := by
  rw [Kind.all, flashKinds] at ran
  split at ran
  · cases ran
  · cases ran
  · rename_i cause _ _
    exact nomatch cause
  · rename_i walked
    exact ends_of_flashKind walked
  · rename_i walked
    exact ends_of_flashKind walked

theorem perform_zero (wanted : List Call) (present flashed : Bool) (ret : Int) (calls : List Call) :
    ∃ ret', perform (fun _ _ => 0) wanted present flashed ret calls =
      (.finished (present || !wanted.isEmpty) (flashed || !wanted.isEmpty) ret',
        calls ++ wanted) := by
  induction wanted generalizing present flashed ret calls with
  | nil => exact ⟨ret, by simp [perform]⟩
  | cons call rest ih =>
      rcases ih true true 0 (calls ++ [call]) with ⟨ret', later⟩
      refine ⟨ret', ?_⟩
      simp [perform, later]

theorem performKinds_zero (bytes : List UInt8) (positions : List Nat) (kinds : List Kind)
    (ret : Int) (calls : List Call) :
    (performKinds (fun _ _ => 0) bytes positions kinds ret calls).2 =
      calls ++ kinds.flatMap (callsFor bytes positions) := by
  induction kinds generalizing ret calls with
  | nil => simp [performKinds]
  | cons kind rest ih =>
      rcases perform_zero (callsFor bytes positions kind) false false ret calls with ⟨ret', ran⟩
      rw [performKinds, ran]
      simp [ih]

/-- For all answers of `aboot_flash` the function ends, every header it reads is in the container,
and so is everything it hands to `aboot_flash`. -/
def Bounded (bytes : List UInt8) : Prop :=
  ∀ aboot, ∃ ret calls bound,
    (∀ fuel, bound ≤ fuel → flashBootloader aboot fuel bytes = some (.ok ret, calls)) ∧
    ∀ call ∈ calls, call.start + call.size ≤ bytes.length

/-- The components form a chain that leaves the container, and those to be flashed are in it. -/
def Contained (bytes : List UInt8) : Prop :=
  ∃ positions, Chain bytes bootloaderHdrBytes positions ∧
    ∀ p ∈ positions, ∀ kind, Wanted kind (headerAt bytes p) →
      p + componentHdrBytes + (headerAt bytes p).size.toNat ≤ bytes.length

theorem mem_callsFor {bytes : List UInt8} {positions : List Nat} {kind : Kind} {call : Call} :
    call ∈ callsFor bytes positions kind ↔
      ∃ p ∈ positions, Wanted kind (headerAt bytes p) ∧ callAt bytes kind p = call := by
  simp [callsFor, WantedAt, and_assoc]

theorem Bounded.contained {bytes : List UInt8} (bounded : Bounded bytes)
    (whole : ¬ bytes.length < bootloaderHdrBytes) (magic : ¬ bytes.take 8 ≠ BOOTLOADER_MAGIC) :
    Contained bytes := by
  rcases bounded fun _ _ => 0 with ⟨ret, calls, bound, runs, inside⟩
  have started := runs bound (Nat.le_refl _)
  rw [flashBootloader, if_neg whole, if_neg magic] at started
  rcases ends_of_flashKinds started with ⟨positions, ahead⟩
  have ran := runs (max bound (positions.length + 1)) (Nat.le_max_left ..)
  rw [flashBootloader, if_neg whole, if_neg magic,
    flashKinds_eq _ _ _ _ ahead (Nat.le_max_right ..), performKinds_zero] at ran
  cases ran
  refine ⟨positions, chain_iff_ahead.mpr ahead, fun p member kind flash => ?_⟩
  have listed : kind ∈ Kind.all := by cases kind <;> decide
  exact inside (callAt bytes kind p)
    (List.mem_flatMap.mpr ⟨kind, listed, mem_callsFor.mpr ⟨p, member, flash, rfl⟩⟩)

theorem Contained.bounded {bytes : List UInt8} (contained : Contained bytes)
    (whole : ¬ bytes.length < bootloaderHdrBytes) (magic : ¬ bytes.take 8 ≠ BOOTLOADER_MAGIC) :
    Bounded bytes := by
  rcases contained with ⟨positions, chain, inside⟩
  intro aboot
  let run := performKinds aboot bytes positions Kind.all (-1) []
  refine ⟨run.1, run.2, positions.length + 1, fun fuel enough => ?_, fun call made => ?_⟩
  · rw [flashBootloader, if_neg whole, if_neg magic]
    exact flashKinds_eq aboot Kind.all (-1) [] (chain_iff_ahead.mp chain) enough
  · rcases performKinds_mem made with none | ⟨kind, _, wanted⟩
    · cases none
    · rcases mem_callsFor.mp wanted with ⟨p, member, flash, rfl⟩
      exact inside p member kind flash

/-- The walks are bounded exactly when there are none, or the components form such a chain. -/
theorem container_bounded_iff (bytes : List UInt8) :
    Bounded bytes ↔
      bytes.length < bootloaderHdrBytes ∨ bytes.take 8 ≠ BOOTLOADER_MAGIC ∨ Contained bytes := by
  by_cases short : bytes.length < bootloaderHdrBytes
  · refine iff_of_true (fun aboot => ⟨-1, [], 0, fun fuel _ => ?_, by simp⟩) (Or.inl short)
    rw [flashBootloader, if_pos short]
  by_cases magic : bytes.take 8 ≠ BOOTLOADER_MAGIC
  · refine iff_of_true (fun aboot => ⟨-1, [], 0, fun fuel _ => ?_, by simp⟩) (Or.inr (Or.inl magic))
    rw [flashBootloader, if_neg short, if_pos magic]
  rw [or_iff_right short, or_iff_right magic]
  exact ⟨fun bounded => bounded.contained short magic, fun inside => inside.bounded short magic⟩

def looping : List UInt8 :=
  BOOTLOADER_MAGIC ++ List.replicate 8 0 ++ List.replicate 8 0 ++ [0xf0, 0xff, 0xff, 0xff] ++
    List.replicate 4 0

/-- The walk stays at the first component for ever. -/
theorem looping_unbounded : looping.take 8 = BOOTLOADER_MAGIC ∧ ¬ Bounded looping := by
  refine ⟨by decide, fun bounded => ?_⟩
  rcases bounded.contained (by decide) (by decide) with ⟨positions, chain, -⟩
  have same : following looping bootloaderHdrBytes = bootloaderHdrBytes := by decide
  generalize start : bootloaderHdrBytes = p at chain
  induction chain with
  | last header leaves =>
      rw [← start, same] at leaves
      exact absurd leaves (by decide)
  | more header stays later ih =>
      rw [← start, same] at ih
      exact ih rfl

end A500cg.Bootloader
