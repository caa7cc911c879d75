import A500cg.Osip.Lookup

/-! An entry that was invalidated stays so when its image is flashed again, until it is
restored. A header that is torn while it is written leaves the other entries as they are. -/

namespace A500cg.Osip

open Lib Flash

def Invalidated (d : OSII) : Prop := d.ddrLoadAddress = 0 ∧ d.entryPoint = 0

instance (d : OSII) : Decidable (Invalidated d) :=
  inferInstanceAs (Decidable (d.ddrLoadAddress = 0 ∧ d.entryPoint = 0))

instance (osip : OSIPHeader) (name : String) (operation : OsipOperation) (k : Int) :
    Decidable (ResolvesTo osip name operation k) :=
  match named : getNamedOsiiAttr name with
  | none => isFalse (by
      rintro ⟨_, _, known, _⟩
      rw [named] at known
      cases known)
  | some (attr, wanted) =>
      decidable_of_iff (resolveIndex osip attr wanted operation = .ok k) (by
        constructor
        · intro value
          exact ⟨attr, wanted, named, value⟩
        · rintro ⟨_, _, known, value⟩
          rw [named] at known
          cases known
          exact value)

namespace DirectoryOp

instance (osip : OSIPHeader) (i : Fin 8) (op : DirectoryOp) : Decidable (op.Targets osip i) :=
  match op with
  | flash _ _ name _ => inferInstanceAs (Decidable (ResolvesTo osip name .writeOsipHeader i))
  | invalidate name => inferInstanceAs (Decidable (ResolvesTo osip name .readOsipHeader i))
  | restore name => inferInstanceAs (Decidable (ResolvesTo osip name .readOsipHeader i))

def Loadable : DirectoryOp → Prop
  | flash data _ _ _ => ¬ Invalidated ((OSIPHeader.ofBytes data).desc 0)
  | _ => True

def invalidates : DirectoryOp → Option Bool
  | flash _ _ _ _ => none
  | invalidate _ => some true
  | restore _ => some false

end DirectoryOp

def Torn (w : World) (result : Outcome OsipError Unit) (w' : World) : Prop :=
  result = .error .writeFailed ∧ directory w' ≠ directory w

instance (w w' : World) (result : Outcome OsipError Unit) : Decidable (Torn w result w') :=
  inferInstanceAs (Decidable (_ ∧ _))

/-- What decides about the pointers of an entry: nothing yet, the last successful
`invalidate_osii` or `restore_osii` on it, or a header torn by an operation on it since then. -/
inductive LastChange where
  | untouched
  | pointed (invalidated : Bool)
  | torn
  deriving DecidableEq, Repr

def DirectoryOp.lastOn (op : DirectoryOp) (i : Fin 8) (w : World)
    (result : Outcome OsipError Unit) (w' : World) (last : LastChange) : LastChange :=
  if op.Targets (directory w) i then
    if result = .ok () then op.invalidates.elim last .pointed
    else if Torn w result w' then .torn else last
  else last

/-- How the pointers are that were `start` in the beginning. -/
def FollowsLast (start d : OSII) : LastChange → Prop
  | .untouched => Invalidated d ↔ Invalidated start
  | .pointed invalidated => Invalidated d ↔ invalidated = true
  | .torn => True

structure Between (old new torn : OSIPHeader) : Prop where
  count : (torn.count = old.count ∧ torn.desc = old.desc) ∨ torn.count = new.count
  others : ∀ i, new.desc i = old.desc i → torn.desc i = old.desc i
  attr : ∀ i, (torn.desc i).attr = (old.desc i).attr ∨ (torn.desc i).attr = (new.desc i).attr

theorem desc_overlay_outside (content : Buffer) {done : Nat} (new : OSIPHeader) (i : Fin 8)
    (before : done ≤ 32) :
    (OSIPHeader.ofBytes (overlay content 0 done new.byte)).desc i =
      (OSIPHeader.ofBytes content).desc i := by
  apply OSII.ofBytes_of_byte
  intro k bound
  rw [overlay_outside _ _ _ _ _ (.inr (by omega))]
  exact (OSII.byte_ofBytes (fun k => content (32 + 24 * i.val + k)) k bound).symm

theorem between_overlay (content : Buffer) (done : Nat) (new : OSIPHeader) :
    Between (OSIPHeader.ofBytes content) new
      (OSIPHeader.ofBytes (overlay content 0 done new.byte)) where
  count := by
    by_cases counted : 8 < done
    · right
      have stored := overlay_inside content 0 done new.byte 8 counted
      rw [Nat.zero_add] at stored
      exact congrArg UInt8.toNat stored
    · left
      refine ⟨?_, funext fun i => desc_overlay_outside content new i (by omega)⟩
      exact congrArg UInt8.toNat (overlay_outside content 0 done new.byte 8 (.inr (by omega)))
  others := by
    intro i same
    apply OSII.ofBytes_of_byte
    intro k bound
    by_cases stored : 32 + 24 * i.val + k < done
    · have inside := overlay_inside content 0 done new.byte _ stored
      rw [Nat.zero_add] at inside
      rw [inside, OSIPHeader.byte_desc _ _ _ bound, same]
    · rw [overlay_outside _ _ _ _ _ (.inr (by omega))]
      exact (OSII.byte_ofBytes (fun k => content (32 + 24 * i.val + k)) k bound).symm
  attr := by
    intro i
    by_cases stored : 32 + 24 * i.val + 20 < done
    · right
      have inside := overlay_inside content 0 done new.byte _ stored
      rw [Nat.zero_add, OSIPHeader.byte_desc _ _ _ (by decide)] at inside
      exact inside
    · left
      exact overlay_outside content 0 done new.byte _ (.inr (by omega))

theorem writeOSIP_cases {osip : OSIPHeader} {w w' : World} {result : Outcome OsipError Unit}
    (ran : writeOSIP osip w = (result, w')) :
    (result = .ok () ∧ directory w' = osip.seal) ∨
      (result = .error .writeFailed ∧ Between (directory w) osip.seal (directory w')) ∨
      ∃ cause, result = .error cause ∧ directory w' = directory w := by
  rcases call_spec OsipError.openFailed w with ⟨opened, same, opens | opens⟩
  · rcases writeAt_spec OsipError.writeFailed 0 headerBytes osip.seal.byte opened with
      ⟨done, middle, _, initial, log, ⟨writes, _⟩ | writes⟩
    · have whole : writeOSIP osip w = (.ok (), middle) := by
        rw [writeOSIP, bind_of_ok opens, writes]
      cases ran.symm.trans whole
      exact .inl ⟨rfl, directory_committed whole⟩
    · rw [writeOSIP, bind_of_ok opens, writes] at ran
      cases ran
      refine .inr (.inl ⟨rfl, ?_⟩)
      rw [directory, directory, World.content_of_log initial log, same.content_eq]
      exact between_overlay w.content done osip.seal
  · rw [writeOSIP, bind_of_error opens] at ran
    cases ran
    exact .inr (.inr ⟨.openFailed, rfl, directory_same same⟩)

/-- What an operation on entry `k` does to a directory, also where its header is torn. -/
structure TouchesEntry (old new : OSIPHeader) (k : Fin 8) : Prop where
  others : ∀ j, j ≠ k → new.desc j = old.desc j
  count : new.count = old.count ∨ (k.val = old.count ∧ new.count = old.count + 1)
  sameClass : k.val < old.count → attrClass (new.desc k).attr = attrClass (old.desc k).attr
  unused : new.count = old.count → old.count ≤ k.val → new.desc k = old.desc k

namespace TouchesEntry

variable {old new torn : OSIPHeader} {k : Fin 8}

theorem between (touched : TouchesEntry old new k) (between : Between old new torn) :
    TouchesEntry old torn k where
  others := fun j other => between.others j (touched.others j other)
  count := by
    rcases between.count with ⟨same, _⟩ | grown
    · exact .inl same
    · rw [grown]
      exact touched.count
  sameClass := by
    intro live
    rcases between.attr k with same | changed
    · rw [same]
    · rw [changed]
      exact touched.sameClass live
  unused := by
    intro same past
    rcases between.count with ⟨_, all⟩ | grown
    · rw [all]
    · exact between.others k (touched.unused (grown.symm.trans same) past)

theorem tidy (touched : TouchesEntry old new k) (before : Tidy old) : Tidy new := by
  have few := before.few
  refine ⟨?_, fun i past => ?_⟩
  · rcases touched.count with same | ⟨last, grown⟩
    · omega
    · omega
  · by_cases same : i = k
    · subst same
      rcases touched.count with kept | ⟨last, grown⟩
      · rw [touched.unused kept (by omega)]
        exact before.unused i (by omega)
      · omega
    · rw [touched.others i same]
      exact before.unused i (by rcases touched.count with kept | ⟨_, grown⟩ <;> omega)

theorem overwritten {placed : OSII} {name : String} {own : UInt8} (tidy : Tidy old)
    (attr : placed.attr = renamedAttribute name own)
    (resolved : ResolvesTo old name .writeOsipHeader k) :
    TouchesEntry old (overwritten old placed k).seal k := by
  have count : (Osip.overwritten old placed k).seal.count = max old.count (k + 1) :=
    grow_count old k
  have next := (tidy.replaces attr resolved).1
  refine ⟨fun j other => Function.update_of_ne other _ _, ?_, fun live => ?_, fun same past => ?_⟩
  · rw [count]
    omega
  · rcases resolvesTo_cases tidy.few resolved with ⟨named, wanted, known, ⟨_, same⟩ | last⟩
    · change attrClass (Function.update old.desc k (storedEntry old placed k) k).attr = _
      rw [Function.update_self, storedEntry_attr, attr, attrClass_renamedAttribute known, same]
    · omega
  · omega

theorem repointed (live : k.val < old.count) (ddrLoadAddress entryPoint : UInt32) :
    TouchesEntry old (repointed old k ddrLoadAddress entryPoint).seal k := by
  refine ⟨fun j other => Function.update_of_ne other _ _, .inl rfl, fun _ => ?_, fun _ past => ?_⟩
  · change attrClass (Function.update old.desc k _ k).attr = _
    rw [Function.update_self]
    rfl
  · exact absurd live (Nat.not_lt.mpr past)

end TouchesEntry

/-- How an operation changes the directory: not at all where it fails before the header, by a
part of a header where that is torn, and else by one entry that its name stands for. -/
inductive OpEffect (op : DirectoryOp) (w : World) : Outcome OsipError Unit → World → Prop where
  | failed {w' : World} (cause : OsipError) (same : directory w' = directory w) :
      OpEffect op w (.error cause) w'
  | torn {w' : World} (k : Fin 8) (target : op.Targets (directory w) k)
      (touched : TouchesEntry (directory w) (directory w') k) :
      OpEffect op w (.error .writeFailed) w'
  | flashed {w' : World} {data : Buffer} {sz : UInt32} {name : String} {osii placed : OSII}
      {ordinary : name ≠ "testos"} (kind : op = .flash data sz name ordinary) (k : Fin 8)
      (resolved : ResolvesTo (directory w) name .writeOsipHeader k)
      (record : crackStitchedImage (renamed data name) = .ok osii)
      (place : placeImage (directory w) osii false = .ok placed)
      (committed : directory w' = (overwritten (directory w) placed k).seal) :
      OpEffect op w (.ok ()) w'
  | repointed {w' : World} {name : String} (ddrLoadAddress entryPoint : UInt32)
      (kind : op = .invalidate name ∧ ddrLoadAddress = 0 ∧ entryPoint = 0 ∨
        op = .restore name ∧ ddrLoadAddress = DDR_LOAD_ADDX ∧ entryPoint = ENTRY_POINT)
      (k : Fin 8) (live : k.val < (directory w).count)
      (resolved : ResolvesTo (directory w) name .readOsipHeader k)
      (committed : directory w' =
        (Osip.repointed (directory w) k ddrLoadAddress entryPoint).seal) :
      OpEffect op w (.ok ()) w'

private theorem updateOsii_effect {op : DirectoryOp} {name : String}
    {ddrLoadAddress entryPoint : UInt32} {w w' : World} {result : Outcome OsipError Unit}
    (kind : op = .invalidate name ∧ ddrLoadAddress = 0 ∧ entryPoint = 0 ∨
      op = .restore name ∧ ddrLoadAddress = DDR_LOAD_ADDX ∧ entryPoint = ENTRY_POINT)
    (few : (directory w).count ≤ 8)
    (ran : updateOsii name ddrLoadAddress entryPoint w = (result, w')) :
    OpEffect op w result w' := by
  rcases updateOsii_cases few ran with ⟨cause, rfl, same⟩ |
    ⟨k, middle, live, resolved, same, commit⟩
  · exact .failed cause (directory_same same)
  · have read := directory_same same
    rcases writeOSIP_cases commit with ⟨rfl, committed⟩ | ⟨rfl, torn⟩ | ⟨cause, rfl, unchanged⟩
    · exact .repointed ddrLoadAddress entryPoint kind k live resolved committed
    · rw [read] at torn
      refine .torn k ?_ ((TouchesEntry.repointed live ddrLoadAddress entryPoint).between torn)
      rcases kind with ⟨rfl, _⟩ | ⟨rfl, _⟩
      · exact resolved
      · exact resolved
    · exact .failed cause (unchanged.trans read)

theorem DirectoryOp.effect {op : DirectoryOp} {w w' : World} {result : Outcome OsipError Unit}
    (tidy : Tidy (directory w)) (ran : op.run w = (result, w')) : OpEffect op w result w' := by
  cases op with
  | invalidate name => exact updateOsii_effect (.inl ⟨rfl, rfl, rfl⟩) tidy.few ran
  | restore name => exact updateOsii_effect (.inr ⟨rfl, rfl, rfl⟩) tidy.few ran
  | flash data sz name ordinary =>
      rcases flashImageOsip_tidy ordinary tidy ran with ⟨cause, rfl, unchanged⟩ |
        ⟨k, osii, placed, middle, resolved, _, record, place, same, commit⟩
      · exact .failed cause unchanged
      · rcases writeOSIP_cases commit with ⟨rfl, committed⟩ | ⟨rfl, torn⟩ | ⟨cause, rfl, unchanged⟩
        · exact .flashed rfl k resolved record place committed
        · rw [same] at torn
          have touched := TouchesEntry.overwritten tidy (placed_attr record place) resolved
          exact .torn k resolved (touched.between torn)
        · exact .failed cause (unchanged.trans same)

theorem invalidated_preserved (old osii : OSII) :
    Invalidated (preserveInvalidation old osii) ↔ Invalidated old ∨ Invalidated osii := by
  rw [preserveInvalidation]
  split
  · rename_i both
    exact iff_of_true both (.inl both)
  · rename_i notBoth
    exact (or_iff_right notBoth).symm

namespace OpEffect

variable {op : DirectoryOp} {w w' : World} {result : Outcome OsipError Unit}

theorem touches (effect : OpEffect op w result w') (before : Tidy (directory w)) :
    directory w' = directory w ∨ ∃ k, op.Targets (directory w) k ∧
      TouchesEntry (directory w) (directory w') k := by
  cases effect with
  | failed cause same => exact .inl same
  | torn k target touched => exact .inr ⟨k, target, touched⟩
  | flashed kind k resolved record place committed =>
      subst kind
      rw [committed]
      exact .inr ⟨k, resolved, .overwritten before (placed_attr record place) resolved⟩
  | repointed ddrLoadAddress entryPoint kind k live resolved committed =>
      rw [committed]
      refine .inr ⟨k, ?_, .repointed live ddrLoadAddress entryPoint⟩
      rcases kind with ⟨rfl, _⟩ | ⟨rfl, _⟩
      · exact resolved
      · exact resolved

theorem tidy (effect : OpEffect op w result w') (before : Tidy (directory w)) :
    Tidy (directory w') := by
  rcases effect.touches before with same | ⟨k, _, touched⟩
  · rw [same]
    exact before
  · exact touched.tidy before

theorem others (effect : OpEffect op w result w') (before : Tidy (directory w)) {j : Fin 8}
    (other : ¬ op.Targets (directory w) j) :
    (directory w').desc j = (directory w).desc j := by
  rcases effect.touches before with same | ⟨k, target, touched⟩
  · rw [same]
  · exact touched.others j fun same => other (same ▸ target)

theorem flash_status {osip : OSIPHeader} {data : Buffer} {name : String} {osii placed : OSII}
    {i k : Fin 8} (loadable : ¬ Invalidated ((OSIPHeader.ofBytes data).desc 0))
    (record : crackStitchedImage (renamed data name) = .ok osii)
    (place : placeImage osip osii false = .ok placed) (live : i.val < osip.count) :
    Invalidated ((overwritten osip placed k).desc i) ↔ Invalidated (osip.desc i) := by
  change Invalidated (Function.update osip.desc k (storedEntry osip placed k) i) ↔ _
  by_cases same : i = k
  · have own : ¬ Invalidated placed := by
      rcases placeImage_ok place with ⟨lba, _, _, _, _, rfl⟩
      rw [crackStitchedImage_record record]
      exact loadable
    rw [← same, Function.update_self, storedEntry, if_neg (Nat.not_le.mpr live),
      invalidated_preserved, or_iff_left own]
  · rw [Function.update_of_ne same]

theorem follows (effect : OpEffect op w result w') (before : Tidy (directory w))
    (loadable : op.Loadable) {i : Fin 8} (live : i.val < (directory w).count) {start : OSII}
    {last : LastChange} (followed : FollowsLast start ((directory w).desc i) last) :
    FollowsLast start ((directory w').desc i) (op.lastOn i w result w' last) := by
  by_cases target : op.Targets (directory w) i
  · rw [DirectoryOp.lastOn, if_pos target]
    cases effect with
    | failed cause same =>
        have whole : ¬ Torn w (.error cause) w' := fun torn => torn.2 same
        rw [if_neg (fun ok => nomatch ok), if_neg whole, same]
        exact followed
    | torn k target touched =>
        rw [if_neg (fun ok => nomatch ok)]
        split
        · trivial
        · rename_i whole
          have same : directory w' = directory w :=
            not_not.mp fun changed => whole ⟨rfl, changed⟩
          rw [same]
          exact followed
    | flashed kind k resolved record place committed =>
        subst kind
        rw [if_pos rfl, committed]
        have status := flash_status (k := k) loadable record place live
        cases last with
        | untouched => exact status.trans followed
        | pointed invalidated => exact status.trans followed
        | torn => trivial
    | repointed ddrLoadAddress entryPoint kind k _ resolved committed =>
        rw [if_pos rfl, committed]
        rcases kind with ⟨rfl, rfl, rfl⟩ | ⟨rfl, rfl, rfl⟩
        · cases resolvesTo_unique resolved target
          change Invalidated (Function.update (directory w).desc i _ i) ↔ true = true
          rw [Function.update_self]
          exact iff_of_true ⟨rfl, rfl⟩ rfl
        · cases resolvesTo_unique resolved target
          change Invalidated (Function.update (directory w).desc i _ i) ↔ false = true
          rw [Function.update_self]
          refine iff_of_false (fun both => ?_) Bool.false_ne_true
          have zero : DDR_LOAD_ADDX = 0 := both.1
          exact absurd zero (by decide)
  · rw [DirectoryOp.lastOn, if_neg target, effect.others before target]
    exact followed

end OpEffect

end A500cg.Osip
