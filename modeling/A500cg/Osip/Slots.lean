import A500cg.Osip.Header

/-! The slot tables of `update_osip.c` and the search for a free slot.

An entry counts as using a slot when its first block, or the block one past its
last one, lies in the slot; the sums are 32-bit and wrap. -/

namespace A500cg.Osip

open Lib

def FW_START_OFFSET : UInt32 := 50
def FW_MAX_LBA : UInt32 := 2000
def OS_MAX_LBA : UInt32 := 32000

def fwLbaSlots : List UInt32 :=
  [FW_START_OFFSET + FW_MAX_LBA * 0, FW_START_OFFSET + FW_MAX_LBA * 1]

def FW_SLOTS : UInt32 := 2

def OS_START_OFFSET : UInt32 := FW_START_OFFSET + FW_MAX_LBA * FW_SLOTS

def osLbaSlots : List UInt32 :=
  [OS_START_OFFSET + OS_MAX_LBA * 0, OS_START_OFFSET + OS_MAX_LBA * 1,
   OS_START_OFFSET + OS_MAX_LBA * 2, OS_START_OFFSET + OS_MAX_LBA * 3,
   OS_START_OFFSET + OS_MAX_LBA * 4, OS_START_OFFSET + OS_MAX_LBA * 5,
   OS_START_OFFSET + OS_MAX_LBA * 6, OS_START_OFFSET + OS_MAX_LBA * 7,
   OS_START_OFFSET + OS_MAX_LBA * 8]

def OS_SLOTS : UInt32 := 9

/-- The overlap test in the inner loop of `get_free_lba`. -/
def slotUsed (slot slotSize : UInt32) (d : OSII) : Bool :=
  let lba := d.logicalStartBlock
  let endlba := lba + 1 + d.sizeOfOsImage
  (lba ≥ slot && lba < slot + slotSize) || (endlba ≥ slot && endlba < slot + slotSize)

def scanSlot (osip : OSIPHeader) (slot slotSize : UInt32) : List Nat → Outcome OsipError Bool
  | [] => .ok true
  | i :: rest => do
      let d ← osip.getDesc i
      if slotUsed slot slotSize d then .ok false else scanSlot osip slot slotSize rest

def getFreeLba (slotSize : UInt32) (osip : OSIPHeader) : List UInt32 → Outcome OsipError UInt32
  | [] => .ok 0
  | slot :: rest => do
      let free ← scanSlot osip slot slotSize (List.range osip.count)
      if free then .ok slot else getFreeLba slotSize osip rest

def getFreeFwLba (osip : OSIPHeader) : Outcome OsipError UInt32 :=
  getFreeLba FW_MAX_LBA osip fwLbaSlots

def getFreeOsLba (osip : OSIPHeader) : Outcome OsipError UInt32 :=
  getFreeLba OS_MAX_LBA osip osLbaSlots

def SlotFree (osip : OSIPHeader) (slotSize slot : UInt32) : Prop :=
  ∀ i : Fin 8, i.val < osip.count → slotUsed slot slotSize (osip.desc i) = false

instance (osip : OSIPHeader) (slotSize slot : UInt32) :
    Decidable (SlotFree osip slotSize slot) := by
  simp only [SlotFree]
  infer_instance

private theorem scanSlot_list (osip : OSIPHeader) (slot slotSize : UInt32) (indices : List Nat)
    (inside : ∀ i ∈ indices, i < 8) :
    scanSlot osip slot slotSize indices = .ok (decide
      (∀ i : Fin 8, i.val ∈ indices → slotUsed slot slotSize (osip.desc i) = false)) := by
  induction indices with
  | nil => simp [scanSlot]
  | cons k rest ih =>
      have bound : k < 8 := inside k (by simp)
      have tail := ih (fun i member => inside i (by simp [member]))
      have here : osip.getDesc k = .ok (osip.desc ⟨k, bound⟩) := dif_pos bound
      rw [scanSlot, here, Outcome.ok_bind, tail]
      by_cases used : slotUsed slot slotSize (osip.desc ⟨k, bound⟩) = true
      · rw [if_pos used]
        congr 1
        symm
        apply decide_eq_false
        intro all
        rw [all ⟨k, bound⟩ (by simp)] at used
        cases used
      · rw [if_neg used]
        congr 1
        apply decide_eq_decide.mpr
        constructor
        · intro all i member
          rcases List.mem_cons.mp member with same | later
          · have index : i = ⟨k, bound⟩ := Fin.ext same
            rw [index]
            simpa using used
          · exact all i later
        · intro all i member
          exact all i (by simp [member])

theorem scanSlot_eq (osip : OSIPHeader) (slot slotSize : UInt32) (few : osip.count ≤ 8) :
    scanSlot osip slot slotSize (List.range osip.count) =
      .ok (decide (SlotFree osip slotSize slot)) := by
  rw [scanSlot_list _ _ _ _ (fun i member => by
    have bound := List.mem_range.mp member
    omega)]
  simp only [List.mem_range, SlotFree]

theorem getFreeLba_eq (slotSize : UInt32) (osip : OSIPHeader) (slots : List UInt32)
    (few : osip.count ≤ 8) :
    getFreeLba slotSize osip slots =
      .ok ((slots.find? (fun slot => decide (SlotFree osip slotSize slot))).getD 0) := by
  induction slots with
  | nil => rfl
  | cons slot rest ih =>
      rw [getFreeLba, scanSlot_eq _ _ _ few, Outcome.ok_bind, List.find?_cons]
      by_cases free : SlotFree osip slotSize slot
      · simp [free]
      · simp [free, ih]

theorem getFreeLba_mem {slotSize : UInt32} {osip : OSIPHeader} {slots : List UInt32}
    {slot : UInt32} (few : osip.count ≤ 8) (found : getFreeLba slotSize osip slots = .ok slot)
    (some : slot ≠ 0) : slot ∈ slots ∧ SlotFree osip slotSize slot := by
  rw [getFreeLba_eq _ _ _ few] at found
  cases search : slots.find? (fun slot => decide (SlotFree osip slotSize slot)) with
  | none =>
      rw [search] at found
      exact absurd (Outcome.ok.inj found).symm some
  | some first =>
      rw [search] at found
      have same : first = slot := Outcome.ok.inj found
      subst same
      exact ⟨List.mem_of_find?_eq_some search, by simpa using List.find?_some search⟩

theorem getFreeLba_ok_mem {slotSize : UInt32} {osip : OSIPHeader} {slots : List UInt32}
    {slot : UInt32} (found : getFreeLba slotSize osip slots = .ok slot) (some : slot ≠ 0) :
    slot ∈ slots := by
  induction slots with
  | nil => exact absurd (Outcome.ok.inj found).symm some
  | cons first rest ih =>
      rw [getFreeLba] at found
      rcases Outcome.bind_ok_inv found with ⟨free, _, found⟩
      split at found
      · cases found
        exact List.mem_cons_self
      · exact List.mem_cons_of_mem _ (ih found)

theorem slotUsed_iff (slot slotSize : UInt32) (d : OSII)
    (fits : slot.toNat + slotSize.toNat < 2 ^ 32) :
    slotUsed slot slotSize d = true ↔
      (slot.toNat ≤ d.start ∧ d.start < slot.toNat + slotSize.toNat) ∨
      (slot.toNat ≤ (d.start + 1 + d.blocks) % 2 ^ 32 ∧
        (d.start + 1 + d.blocks) % 2 ^ 32 < slot.toNat + slotSize.toNat) := by
  have edge : (slot + slotSize).toNat = slot.toNat + slotSize.toNat := by
    rw [UInt32.toNat_add, Nat.mod_eq_of_lt fits]
  have last : (d.logicalStartBlock + 1 + d.sizeOfOsImage).toNat =
      (d.start + 1 + d.blocks) % 2 ^ 32 := by
    rw [UInt32.toNat_add, UInt32.toNat_add, Nat.mod_add_mod]
    rfl
  simp only [slotUsed, Bool.or_eq_true, Bool.and_eq_true, decide_eq_true_eq, ge_iff_le,
    UInt32.le_iff_toNat_le, UInt32.lt_iff_toNat_lt, edge, last]
  rfl

theorem osLbaSlots_bounds (slot : UInt32) (member : slot ∈ osLbaSlots) :
    ∃ k < 9, slot.toNat = 4050 + 32000 * k := by
  simp only [osLbaSlots, List.mem_cons, List.not_mem_nil, or_false] at member
  rcases member with rfl | rfl | rfl | rfl | rfl | rfl | rfl | rfl | rfl
  exacts [⟨0, by decide⟩, ⟨1, by decide⟩, ⟨2, by decide⟩, ⟨3, by decide⟩, ⟨4, by decide⟩,
    ⟨5, by decide⟩, ⟨6, by decide⟩, ⟨7, by decide⟩, ⟨8, by decide⟩]

theorem fwLbaSlots_bounds (slot : UInt32) (member : slot ∈ fwLbaSlots) :
    ∃ k < 2, slot.toNat = 50 + 2000 * k := by
  simp only [fwLbaSlots, List.mem_cons, List.not_mem_nil, or_false] at member
  rcases member with rfl | rfl
  exacts [⟨0, by decide⟩, ⟨1, by decide⟩]

end A500cg.Osip
