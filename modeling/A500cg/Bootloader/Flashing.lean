import A500cg.Bootloader.Container

/-! What `flash_bootloader` flashes of a well-formed container, and when it stops. -/

namespace A500cg.Bootloader

open Lib

/-- Components one behind the other, each a header and its size in bytes, up to the end. -/
inductive Tiled (bytes : List UInt8) : Nat → List Nat → Prop where
  | last {p : Nat}
      (ends : p + componentHdrBytes + (headerAt bytes p).size.toNat = bytes.length) :
      Tiled bytes p [p]
  | more {p : Nat} {rest : List Nat}
      (later : Tiled bytes (p + componentHdrBytes + (headerAt bytes p).size.toNat) rest) :
      Tiled bytes p (p :: rest)

structure WellFormed (bytes : List UInt8) (positions : List Nat) : Prop where
  small : bytes.length < 2 ^ 32
  magic : bytes.take 8 = BOOTLOADER_MAGIC
  tiled : Tiled bytes bootloaderHdrBytes positions

/-- The answer to the `k`-th of the calls, when those before it were made. -/
def answer (aboot : Aboot) (order : List Call) (k : Nat) : Option Int :=
  order[k]?.map (aboot (order.take k))

def Tolerated (ret : Int) : Prop := ret = 0 ∨ ret = -EPERM

/-- There are droidboot images, and all of them are refused. -/
def Refused (aboot : Aboot) (droidboot : List Call) : Prop :=
  droidboot ≠ [] ∧ ∀ k ret, answer aboot droidboot k = some ret → ret = -EPERM

/-- Which of the calls are made, and what is returned: up to the first answer that is not
tolerated, or only those for droidboot if they are all refused, or all of them. -/
inductive Lawful (aboot : Aboot) (droidboot others : List Call) : Int → List Call → Prop where
  | failed {k : Nat} {ret : Int}
      (before : ∀ j < k, ∀ r, answer aboot (droidboot ++ others) j = some r → Tolerated r)
      (here : answer aboot (droidboot ++ others) k = some ret) (bad : ¬ Tolerated ret)
      (reached : k < droidboot.length ∨ ¬ Refused aboot droidboot) :
      Lawful aboot droidboot others ret ((droidboot ++ others).take (k + 1))
  | refused (all : Refused aboot droidboot) : Lawful aboot droidboot others (-EPERM) droidboot
  | completed (all : ∀ k r, answer aboot (droidboot ++ others) k = some r → Tolerated r)
      (accepted : ¬ Refused aboot droidboot) :
      Lawful aboot droidboot others 0 (droidboot ++ others)

theorem Tiled.bound {bytes : List UInt8} {p : Nat} {positions : List Nat}
    (tiled : Tiled bytes p positions) :
    p + componentHdrBytes + (headerAt bytes p).size.toNat ≤ bytes.length := by
  induction tiled with
  | last ends => omega
  | more later ih => omega

theorem Tiled.chain {bytes : List UInt8} {p : Nat} {positions : List Nat}
    (tiled : Tiled bytes p positions) (small : bytes.length < 2 ^ 32) :
    Chain bytes p positions := by
  induction tiled with
  | @last p ends =>
      have next : following bytes p = bytes.length := by
        rw [following, ends, Nat.mod_eq_of_lt small]
      exact .last (by omega) next.ge
  | @more p rest later ih =>
      have bound := later.bound
      have next : following bytes p =
          p + componentHdrBytes + (headerAt bytes p).size.toNat := Nat.mod_eq_of_lt (by omega)
      have header : 0 < componentHdrBytes := by decide
      refine .more (by omega) (by omega) ?_
      rw [next]
      exact ih

def firstBad (aboot : Aboot) : List Call → List Call → Option (Int × List Call)
  | _, [] => none
  | calls, call :: rest =>
      let ret := aboot calls call
      if ret ≠ 0 ∧ ret ≠ -EPERM then some (ret, calls ++ [call])
      else firstBad aboot (calls ++ [call]) rest

theorem firstBad_append (aboot : Aboot) (calls front back : List Call) :
    firstBad aboot calls (front ++ back) =
      (firstBad aboot calls front).or (firstBad aboot (calls ++ front) back) := by
  induction front generalizing calls with
  | nil => simp [firstBad]
  | cons call rest ih =>
      simp only [List.cons_append, firstBad]
      split
      · rfl
      · rw [ih, List.append_assoc]
        rfl

theorem not_tolerated {ret : Int} : ¬ Tolerated ret ↔ ret ≠ 0 ∧ ret ≠ -EPERM := by
  rw [Tolerated, not_or]

/-- The answer to the `k`-th of the calls when others were made before them all. -/
def answerAfter (aboot : Aboot) (calls order : List Call) (k : Nat) : Option Int :=
  order[k]?.map (aboot (calls ++ order.take k))

theorem answerAfter_zero (aboot : Aboot) (calls rest : List Call) (call : Call) :
    answerAfter aboot calls (call :: rest) 0 = some (aboot calls call) := by
  simp [answerAfter]

theorem answerAfter_succ (aboot : Aboot) (calls rest : List Call) (call : Call) (k : Nat) :
    answerAfter aboot calls (call :: rest) (k + 1) =
      answerAfter aboot (calls ++ [call]) rest k := by
  simp [answerAfter]

theorem exists_answer_cons (aboot : Aboot) (calls rest : List Call) (call : Call) (ret : Int) :
    (∃ k, answerAfter aboot calls (call :: rest) k = some ret) ↔
      aboot calls call = ret ∨ ∃ k, answerAfter aboot (calls ++ [call]) rest k = some ret := by
  constructor
  · rintro ⟨k, value⟩
    cases k with
    | zero =>
        rw [answerAfter_zero] at value
        exact Or.inl (Option.some.inj value)
    | succ k =>
        rw [answerAfter_succ] at value
        exact Or.inr ⟨k, value⟩
  · rintro (here | ⟨k, value⟩)
    · exact ⟨0, by rw [answerAfter_zero, here]⟩
    · exact ⟨k + 1, by rw [answerAfter_succ, value]⟩

theorem firstBad_some {aboot : Aboot} {calls order made : List Call} {ret : Int}
    (found : firstBad aboot calls order = some (ret, made)) :
    ∃ k, made = calls ++ order.take (k + 1) ∧ answerAfter aboot calls order k = some ret ∧
      ¬ Tolerated ret ∧ ∀ j < k, ∀ r, answerAfter aboot calls order j = some r → Tolerated r := by
  induction order generalizing calls with
  | nil => cases found
  | cons call rest ih =>
      rw [firstBad] at found
      split at found
      · rename_i bad
        cases found
        refine ⟨0, by simp, answerAfter_zero .., not_tolerated.mpr bad, fun j none => ?_⟩
        exact absurd none (Nat.not_lt_zero j)
      · rename_i fine
        rcases ih found with ⟨k, shape, here, bad, before⟩
        have next : answerAfter aboot calls (call :: rest) (k + 1) = some ret := by
          rw [answerAfter_succ, here]
        refine ⟨k + 1, by simp [shape], next, bad, fun j less r value => ?_⟩
        cases j with
        | zero =>
            rw [answerAfter_zero] at value
            cases value
            exact not_not.mp fun worse => fine (not_tolerated.mp worse)
        | succ j =>
            rw [answerAfter_succ] at value
            exact before j (by omega) r value

theorem firstBad_none {aboot : Aboot} {calls order : List Call}
    (none : firstBad aboot calls order = none) (k : Nat) (r : Int)
    (value : answerAfter aboot calls order k = some r) : Tolerated r := by
  induction order generalizing calls k with
  | nil => cases value
  | cons call rest ih =>
      rw [firstBad] at none
      split at none
      · cases none
      · rename_i fine
        cases k with
        | zero =>
            rw [answerAfter_zero] at value
            cases value
            exact not_not.mp fun worse => fine (not_tolerated.mp worse)
        | succ k =>
            rw [answerAfter_succ] at value
            exact ih none k value

theorem perform_of_bad {aboot : Aboot} {wanted calls made : List Call} {ret : Int}
    (found : firstBad aboot calls wanted = some (ret, made)) (present flashed : Bool) (old : Int) :
    perform aboot wanted present flashed old calls = (.returned ret, made) := by
  induction wanted generalizing present flashed old calls with
  | nil => cases found
  | cons call rest ih =>
      rw [firstBad] at found
      rw [perform]
      split at found
      · rename_i bad
        cases found
        rw [if_pos bad]
      · rename_i fine
        rw [if_neg fine]
        exact ih found ..

structure Walked (aboot : Aboot) (wanted calls : List Call) (flashed flashed' : Bool)
    (old ret : Int) : Prop where
  flashed : flashed' = true ↔ flashed = true ∨ ∃ k, answerAfter aboot calls wanted k = some 0
  last : (wanted = [] ∧ ret = old) ∨ ∃ k, answerAfter aboot calls wanted k = some ret

theorem perform_of_none {aboot : Aboot} {wanted calls : List Call}
    (none : firstBad aboot calls wanted = none) (present flashed : Bool) (old : Int) :
    ∃ flashed' ret, perform aboot wanted present flashed old calls =
      (.finished (present || !wanted.isEmpty) flashed' ret, calls ++ wanted) ∧
      Walked aboot wanted calls flashed flashed' old ret := by
  induction wanted generalizing present flashed old calls with
  | nil =>
      refine ⟨flashed, old, by simp [perform], ?_, Or.inl ⟨rfl, rfl⟩⟩
      simp [answerAfter]
  | cons call rest ih =>
      rw [firstBad] at none
      split at none
      · cases none
      · rename_i fine
        rcases ih none true (flashed || aboot calls call = 0) (aboot calls call) with
          ⟨flashed', ret, ran, walked⟩
        refine ⟨flashed', ret, ?_, ?_, Or.inr ?_⟩
        · rw [perform, if_neg fine, ran]
          simp
        · rw [walked.flashed, exists_answer_cons, Bool.or_eq_true, decide_eq_true_eq, or_assoc]
        · rcases walked.last with ⟨_, same⟩ | ⟨k, value⟩
          · exact ⟨0, by rw [answerAfter_zero, same]⟩
          · exact ⟨k + 1, by rw [answerAfter_succ, value]⟩

theorem performKinds_others {aboot : Aboot} {bytes : List UInt8} {positions : List Nat}
    {kinds : List Kind} (apart : ∀ kind ∈ kinds, kind.name ≠ FASTBOOT_OS_NAME) (ret : Int)
    (calls : List Call) :
    performKinds aboot bytes positions kinds ret calls =
      (firstBad aboot calls (kinds.flatMap (callsFor bytes positions))).getD
        (0, calls ++ kinds.flatMap (callsFor bytes positions)) := by
  induction kinds generalizing ret calls with
  | nil => simp [performKinds, firstBad]
  | cons kind rest ih =>
      have other := apart kind List.mem_cons_self
      have later := ih fun kind member => apart kind (List.mem_cons_of_mem _ member)
      rw [performKinds, List.flatMap_cons, firstBad_append]
      cases found : firstBad aboot calls (callsFor bytes positions kind) with
      | some bad =>
          rcases bad with ⟨r, made⟩
          rw [perform_of_bad found]
          rfl
      | none =>
          rcases perform_of_none found false false ret with ⟨flashed, ret', ran, _⟩
          rw [ran]
          simp only [other, and_false, if_false, Option.none_or]
          rw [later, List.append_assoc]

theorem answerAfter_nil (aboot : Aboot) (order : List Call) (k : Nat) :
    answerAfter aboot [] order k = answer aboot order k := rfl

theorem refused_iff {aboot : Aboot} {droidboot : List Call} {flashed : Bool} {ret : Int}
    (none : firstBad aboot [] droidboot = none)
    (walked : Walked aboot droidboot [] false flashed (-1) ret) :
    Refused aboot droidboot ↔ droidboot ≠ [] ∧ flashed = false := by
  have flag : flashed = false ↔ ∀ k, answer aboot droidboot k ≠ some 0 := by
    have value := walked.flashed
    simp only [Bool.false_eq_true, false_or, answerAfter_nil] at value
    rw [← Bool.not_eq_true, value, not_exists]
  rw [Refused, flag]
  refine and_congr_right fun _ => ⟨fun all k zero => ?_, fun never k r value => ?_⟩
  · exact absurd (all k 0 zero) (by decide)
  · rcases firstBad_none none k r value with rfl | same
    · exact absurd value (never k)
    · exact same

def otherKinds : List Kind := [.ifwi, .splashscreen, .capsule, .esp]

theorem Lawful.of_bad {aboot : Aboot} {droidboot others made : List Call} {ret : Int}
    (found : firstBad aboot [] (droidboot ++ others) = some (ret, made))
    (reached : made.length ≤ droidboot.length ∨ ¬ Refused aboot droidboot) :
    Lawful aboot droidboot others ret made := by
  rcases firstBad_some found with ⟨k, shape, here, bad, before⟩
  have inside : k < (droidboot ++ others).length := by
    rw [answerAfter_nil, answer] at here
    rcases Option.map_eq_some_iff.mp here with ⟨call, at_k, _⟩
    exact (List.getElem?_eq_some_iff.mp at_k).1
  rw [shape, List.nil_append] at reached ⊢
  refine .failed before here bad (reached.imp_left fun short => ?_)
  rw [List.length_take] at short
  omega

theorem performKinds_lawful (aboot : Aboot) (bytes : List UInt8) (positions : List Nat) :
    Lawful aboot (callsFor bytes positions .droidboot)
      (otherKinds.flatMap (callsFor bytes positions))
      (performKinds aboot bytes positions Kind.all (-1) []).1
      (performKinds aboot bytes positions Kind.all (-1) []).2 := by
  have apart : ∀ kind ∈ otherKinds, kind.name ≠ FASTBOOT_OS_NAME := by decide
  have kinds : Kind.all = .droidboot :: otherKinds := rfl
  have name : Kind.droidboot.name = FASTBOOT_OS_NAME := rfl
  rw [kinds, performKinds]
  generalize callsFor bytes positions .droidboot = droidboot
  cases found : firstBad aboot [] droidboot with
  | some bad =>
      rcases bad with ⟨ret, made⟩
      have whole : firstBad aboot [] (droidboot ++ otherKinds.flatMap (callsFor bytes positions)) =
          some (ret, made) := by
        rw [firstBad_append, found]
        rfl
      rcases firstBad_some found with ⟨k, shape, _, _, _⟩
      rw [perform_of_bad found]
      refine .of_bad whole (Or.inl ?_)
      rw [shape, List.nil_append, List.length_take]
      omega
  | none =>
      rcases perform_of_none found false false (-1) with ⟨flashed, ret, ran, walked⟩
      have refused := refused_iff found walked
      rw [ran]
      dsimp only
      by_cases stops : Refused aboot droidboot
      · rcases refused.mp stops with ⟨present, none⟩
        have last : ret = -EPERM := by
          rcases walked.last with ⟨empty, _⟩ | ⟨k, value⟩
          · exact absurd empty present
          · exact stops.2 k ret value
        rw [if_pos ⟨⟨by simpa using present, by simp [none]⟩, name⟩, last]
        exact .refused stops
      · have goes : ¬ ((((false || !droidboot.isEmpty) = true) ∧ ¬ flashed = true) ∧
            Kind.droidboot.name = FASTBOOT_OS_NAME) := by
          rintro ⟨⟨present, none⟩, _⟩
          exact stops (refused.mpr ⟨by simpa using present, by simpa using none⟩)
        rw [if_neg goes, performKinds_others apart, List.nil_append]
        have whole := firstBad_append aboot [] droidboot
          (otherKinds.flatMap (callsFor bytes positions))
        rw [found, Option.none_or, List.nil_append] at whole
        rw [← whole]
        cases bad : firstBad aboot []
            (droidboot ++ otherKinds.flatMap (callsFor bytes positions)) with
        | some stopped => exact .of_bad bad (Or.inr stops)
        | none => exact .completed (fun k r value => firstBad_none bad k r value) stops

/-- `flash_bootloader` makes the calls for the components of a well-formed container in the order
of their kinds and positions, and stops and returns as the law says. -/
theorem flash_bootloader_lawful {bytes : List UInt8} {positions : List Nat}
    (wellFormed : WellFormed bytes positions) (aboot : Aboot) :
    ∃ ret calls,
      (∀ fuel, positions.length < fuel →
        flashBootloader aboot fuel bytes = some (.ok ret, calls)) ∧
      Lawful aboot (callsFor bytes positions .droidboot)
        (otherKinds.flatMap (callsFor bytes positions)) ret calls := by
  have chain := wellFormed.tiled.chain wellFormed.small
  have long : ¬ bytes.length < bootloaderHdrBytes := by
    have bound := wellFormed.tiled.bound
    omega
  refine ⟨_, _, fun fuel enough => ?_, performKinds_lawful aboot bytes positions⟩
  rw [flashBootloader, if_neg long, if_neg (not_not.mpr wellFormed.magic)]
  exact flashKinds_eq aboot Kind.all (-1) [] (chain_iff_ahead.mp chain) enough

def twoImages : List UInt8 :=
  BOOTLOADER_MAGIC ++ List.replicate 8 0 ++
    (Kind.droidboot.magic ++ [1, 0, 0, 0, 1, 0, 0, 0, 0xaa]) ++
    (Kind.ifwi.magic ++ [0, 0, 0, 0, 1, 0, 0, 0])

theorem twoImages_wellFormed : WellFormed twoImages [16, 33] where
  small := by decide
  magic := by decide
  tiled := .more (.last (by decide))

theorem flash_bootloader_lawful_refused :
    ∃ ret calls,
      (∀ fuel, 2 < fuel →
        flashBootloader (fun _ _ => -EPERM) fuel twoImages = some (.ok ret, calls)) ∧
      Lawful (fun _ _ => -EPERM) (callsFor twoImages [16, 33] .droidboot)
        (otherKinds.flatMap (callsFor twoImages [16, 33])) ret calls :=
  flash_bootloader_lawful twoImages_wellFormed _

example : callsFor twoImages [16, 33] .droidboot = [⟨"fastboot", 32, 1⟩] := by decide

end A500cg.Bootloader
