import A500cg.Osip.PowerCut

/-! The spare OS slot that the table of nine slots is meant to provide.

The end of an entry is computed one block too far, so an entry of 31999 or 32000
blocks also marks the slot above its own, and five such entries use up all nine. -/

namespace A500cg.Osip

open Lib Flash

/-- The entry starts between the first OS slot and the end of the last one. -/
def InOsArea (d : OSII) : Prop := 4050 ≤ d.start ∧ d.start < 4050 + 9 * 32000

instance (d : OSII) : Decidable (InOsArea d) := by
  simp only [InOsArea]
  infer_instance

/-- At most eight entries, each alone on an OS slot it fits in or below the OS area. -/
structure OnOsSlots (osip : OSIPHeader) : Prop where
  few : osip.count ≤ 8
  placed : ∀ i : Fin 8, i.val < osip.count → InOsArea (osip.desc i) →
    (osip.desc i).logicalStartBlock ∈ osLbaSlots ∧ (osip.desc i).blocks ≤ 32000
  distinct : ∀ i j : Fin 8, i.val < osip.count → j.val < osip.count →
    InOsArea (osip.desc i) → InOsArea (osip.desc j) →
    (osip.desc i).start = (osip.desc j).start → i = j
  below : ∀ i : Fin 8, i.val < osip.count → ¬ InOsArea (osip.desc i) →
    (osip.desc i).start + (osip.desc i).blocks ≤ 4050

/-- A non-zero slot is found, none of its blocks belongs to an entry, and no OS
image is turned away for want of a place. -/
def SpareOsSlot (osip : OSIPHeader) : Prop :=
  (∃ slot, getFreeOsLba osip = .ok slot ∧ slot ≠ 0 ∧
    ∀ i : Fin 8, i.val < osip.count → ∀ block,
      slot.toNat ≤ block ∧ block < slot.toNat + 32000 →
      ¬ ((osip.desc i).start ≤ block ∧ block < (osip.desc i).start + (osip.desc i).blocks)) ∧
  ∀ w data size osiiIndex largeImage, directory w = osip →
    attrClass (data attributeOffset) ∈ osClasses →
    (writeStitchImageEx data size osiiIndex largeImage w).1 ≠ .error .noPlace

/-- Some slot is nobody's start, and every entry that starts below it ends at least
one block short of it. -/
def ClearOsSlot (osip : OSIPHeader) : Prop :=
  ∃ slot ∈ osLbaSlots, ∀ i : Fin 8, i.val < osip.count →
    (osip.desc i).start ≠ slot.toNat ∧
    ((osip.desc i).start < slot.toNat →
      (osip.desc i).start + (osip.desc i).blocks + 1 < slot.toNat)

private theorem os_max : OS_MAX_LBA.toNat = 32000 := by decide

private theorem entry_position {osip : OSIPHeader} (slots : OnOsSlots osip) {slot : UInt32}
    (member : slot ∈ osLbaSlots) (i : Fin 8) (live : i.val < osip.count) :
    (osip.desc i).start + (osip.desc i).blocks + 1 < 2 ^ 32 ∧ slot.toNat + 32000 < 2 ^ 32 ∧
    ((osip.desc i).start = slot.toNat ∨ slot.toNat + 32000 ≤ (osip.desc i).start ∨
      ((osip.desc i).start < slot.toNat ∧
        (osip.desc i).start + (osip.desc i).blocks ≤ slot.toNat)) := by
  rcases osLbaSlots_bounds slot member with ⟨k, bound, place⟩
  by_cases area : InOsArea (osip.desc i)
  · rcases slots.placed i live area with ⟨onSlot, size⟩
    rcases osLbaSlots_bounds _ onSlot with ⟨j, bound', place'⟩
    change (osip.desc i).start = _ at place'
    rcases Nat.lt_trichotomy j k with lower | same | upper
    · omega
    · subst same
      omega
    · omega
  · have low := slots.below i live area
    omega

theorem slotFree_iff {osip : OSIPHeader} (slots : OnOsSlots osip) {slot : UInt32}
    (member : slot ∈ osLbaSlots) :
    SlotFree osip OS_MAX_LBA slot ↔ ∀ i : Fin 8, i.val < osip.count →
      (osip.desc i).start ≠ slot.toNat ∧
      ((osip.desc i).start < slot.toNat →
        (osip.desc i).start + (osip.desc i).blocks + 1 < slot.toNat) := by
  constructor
  · intro free i live
    rcases entry_position slots member i live with ⟨small, fits, position⟩
    have unused : ¬ slotUsed slot OS_MAX_LBA (osip.desc i) = true := by
      rw [free i live]
      exact Bool.false_ne_true
    rw [slotUsed_iff _ _ _ (by rw [os_max]; exact fits), os_max] at unused
    rw [Nat.mod_eq_of_lt (by omega)] at unused
    omega
  · intro clear i live
    rcases entry_position slots member i live with ⟨small, fits, position⟩
    rcases clear i live with ⟨apart, short⟩
    rw [← Bool.not_eq_true, slotUsed_iff _ _ _ (by rw [os_max]; exact fits), os_max]
    rw [Nat.mod_eq_of_lt (by omega)]
    omega

theorem slotFree_disjoint {osip : OSIPHeader} (slots : OnOsSlots osip) {slot : UInt32}
    (member : slot ∈ osLbaSlots) (free : SlotFree osip OS_MAX_LBA slot) (i : Fin 8)
    (live : i.val < osip.count) (block : Nat)
    (inSlot : slot.toNat ≤ block ∧ block < slot.toNat + 32000) :
    ¬ ((osip.desc i).start ≤ block ∧ block < (osip.desc i).start + (osip.desc i).blocks) := by
  intro inEntry
  rcases entry_position slots member i live with ⟨small, fits, position⟩
  have spans := spans_of_overlap block (by rw [os_max]; exact fits) live free
    (by rw [os_max]; exact inSlot) inEntry
  rw [Spans, os_max] at spans
  omega

private theorem noPlace_of_choice {osip : OSIPHeader} {osii : OSII} {largeImage : Bool}
    {lba limit : UInt32} (chosen : chooseSlot osip osii.attr largeImage = .ok (lba, limit))
    (place : placeImage osip osii largeImage = .error .noPlace) : lba = 0 := by
  by_contra nonzero
  rw [placeImage_chosen chosen, if_neg nonzero] at place
  split at place <;> cases place

private theorem noPlace_of_placeImage {osip : OSIPHeader} {osii : OSII} {largeImage : Bool}
    (few : osip.count ≤ 8) (os : attrClass osii.attr ∈ osClasses)
    (place : placeImage osip osii largeImage = .error .noPlace) : getFreeOsLba osip = .ok 0 := by
  cases largeImage with
  | true =>
      have chosen : chooseSlot osip osii.attr true =
          .ok (OS_START_OFFSET, OS_MAX_LBA * OS_SLOTS) := by
        rw [chooseSlot, if_pos os, if_pos rfl]
      exact absurd (noPlace_of_choice chosen place) (by decide)
  | false =>
      have search := getFreeLba_eq OS_MAX_LBA osip osLbaSlots few
      change getFreeOsLba osip = _ at search
      have chosen : chooseSlot osip osii.attr false = .ok ((osLbaSlots.find? fun slot =>
          decide (SlotFree osip OS_MAX_LBA slot)).getD 0, OS_MAX_LBA) := by
        rw [chooseSlot, if_pos os, if_neg Bool.false_ne_true, search]
        rfl
      rw [search, noPlace_of_choice chosen place]

theorem noPlace_of_writeStitchImageEx {w : World} {data : Buffer} {size : UInt32}
    {osiiIndex : Int} {largeImage : Bool} (few : (directory w).count ≤ 8)
    (os : attrClass (data attributeOffset) ∈ osClasses)
    (failed : (writeStitchImageEx data size osiiIndex largeImage w).1 = .error .noPlace) :
    getFreeOsLba (directory w) = .ok 0 := by
  have ran : writeStitchImageEx data size osiiIndex largeImage w =
      (.error .noPlace, (writeStitchImageEx data size osiiIndex largeImage w).2) :=
    Prod.ext failed rfl
  rcases writeStitchImageEx_cases ran with ⟨_, same, stitch⟩ | ⟨_, same, _⟩ |
    ⟨table, middle, _, commit⟩
  · cases same
    cases stitch with
    | refused _ _ same early => exact absurd rfl early.1
    | rejected osii _ _ checked destroyed plan =>
        have inside : osiiIndex.toNat < 8 := by
          have lower := checked.lower
          have upper := checked.upper
          omega
        rw [← crackStitchedImage_attr checked.record] at os
        exact noPlace_of_placeImage few os (stitchPlan_error_inv inside plan)
    | stopped _ _ _ _ _ _ _ _ _ _ _ _ _ failure => cases failure.1
  · cases same
  · have settled : Settled (.error .noPlace) := by
      intro cause taken
      rcases taken with ⟨rfl⟩
      rfl
    cases (writeOSIP_settled commit settled).1

/-- On a directory of slotted entries there is a spare OS slot exactly when some slot
is clear of all entries by one block. -/
theorem spare_os_slot_iff (osip : OSIPHeader) (slots : OnOsSlots osip) :
    SpareOsSlot osip ↔ ClearOsSlot osip := by
  constructor
  · intro parts
    rcases parts with ⟨⟨slot, found, nonzero, _⟩, _⟩
    rcases getFreeLba_mem slots.few found nonzero with ⟨member, free⟩
    exact ⟨slot, member, (slotFree_iff slots member).mp free⟩
  · intro parts
    rcases parts with ⟨clear, member, apart⟩
    have free := (slotFree_iff slots member).mpr apart
    have hit : ∃ slot, osLbaSlots.find? (fun slot =>
        decide (SlotFree osip OS_MAX_LBA slot)) = some slot := by
      rw [← Option.isSome_iff_exists, List.find?_isSome]
      exact ⟨clear, member, decide_eq_true free⟩
    rcases hit with ⟨slot, first⟩
    have member' := List.mem_of_find?_eq_some first
    have found : getFreeOsLba osip = .ok slot := by
      rw [getFreeOsLba, getFreeLba_eq _ _ _ slots.few, first]
      rfl
    have nonzero : slot ≠ 0 := by
      intro same
      rcases same with rfl
      exact absurd member' (by decide)
    refine ⟨⟨slot, found, nonzero, ?_⟩, ?_⟩
    · intro i live block inside
      exact slotFree_disjoint slots member' (getFreeLba_mem slots.few found nonzero).2 i live
        block inside
    · intro w data size osiiIndex largeImage same os failed
      rcases same with rfl
      rw [noPlace_of_writeStitchImageEx slots.few os failed] at found
      exact nonzero (Outcome.ok.inj found).symm

def twoEntryOsip : OSIPHeader :=
  { defaultOsip with
    numPointers := 2
    desc := fun i => if i.val < 2 then
      { OSII.zero with logicalStartBlock := 4050 + 32000 * UInt32.ofNat i, sizeOfOsImage := 1 }
      else OSII.zero }

private theorem twoEntryOsip_slots : OnOsSlots twoEntryOsip where
  few := by decide
  placed := by decide
  distinct := by decide
  below := by decide

theorem spare_os_slot_of_two_entries :
    OnOsSlots twoEntryOsip ∧ (SpareOsSlot twoEntryOsip ↔ ClearOsSlot twoEntryOsip) :=
  ⟨twoEntryOsip_slots, spare_os_slot_iff twoEntryOsip twoEntryOsip_slots⟩

def fiveFullOsip : OSIPHeader :=
  { defaultOsip with
    numPointers := 5
    desc := fun i => if i.val < 5 then
      { OSII.zero with
        logicalStartBlock := 4050 + 64000 * UInt32.ofNat i
        sizeOfOsImage := 32000 }
      else OSII.zero }

/-- Four of the nine slots hold nothing, yet none is offered. -/
theorem no_spare_slot_beside_full_images :
    OnOsSlots fiveFullOsip ∧ getFreeOsLba fiveFullOsip = .ok 0 ∧ ¬ SpareOsSlot fiveFullOsip := by
  have none : getFreeOsLba fiveFullOsip = .ok 0 := by decide
  refine ⟨⟨by decide, by decide, by decide, by decide⟩, none, ?_⟩
  intro parts
  rcases parts with ⟨⟨slot, found, nonzero, _⟩, _⟩
  rw [none] at found
  exact nonzero (Outcome.ok.inj found).symm

end A500cg.Osip
