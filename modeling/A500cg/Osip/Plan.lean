import A500cg.Osip.Stitch

/-! The decisions `write_stitch_image_ex` makes in memory, in closed form: the
slot an image gets and the table that results. -/

namespace A500cg.Osip

open Lib

def slotTable (attr : UInt8) : Option (List UInt32 × UInt32) :=
  if attrClass attr ∈ osClasses then some (osLbaSlots, OS_MAX_LBA)
  else if attrClass attr ∈ fwClasses then some (fwLbaSlots, FW_MAX_LBA)
  else none

theorem chooseSlot_small (osip : OSIPHeader) (attr : UInt8) :
    chooseSlot osip attr false = match slotTable attr with
      | some (slots, limit) => (getFreeLba limit osip slots).bind fun lba => .ok (lba, limit)
      | none => .error (.unhandledAttribute attr) := by
  simp only [chooseSlot, slotTable]
  by_cases os : attrClass attr ∈ osClasses
  · rw [if_pos os, if_pos os]
    rfl
  · rw [if_neg os, if_neg os]
    by_cases fw : attrClass attr ∈ fwClasses
    · rw [if_pos fw, if_pos fw]
      rfl
    · rw [if_neg fw, if_neg fw]

theorem slotTable_cases {attr : UInt8} {slots : List UInt32} {limit : UInt32}
    (table : slotTable attr = some (slots, limit)) :
    (slots = osLbaSlots ∧ limit = OS_MAX_LBA) ∨ (slots = fwLbaSlots ∧ limit = FW_MAX_LBA) := by
  simp only [slotTable] at table
  split at table
  · cases table
    exact .inl ⟨rfl, rfl⟩
  · split at table
    · cases table
      exact .inr ⟨rfl, rfl⟩
    · cases table

theorem slot_bounds {attr : UInt8} {slots : List UInt32} {limit slot : UInt32}
    (table : slotTable attr = some (slots, limit)) (member : slot ∈ slots) :
    50 ≤ slot.toNat ∧ 2 ≤ limit.toNat ∧ limit.toNat ≤ 32000 ∧ slot.toNat + limit.toNat ≤ 292050 := by
  rcases slotTable_cases table with ⟨rfl, rfl⟩ | ⟨rfl, rfl⟩
  · rcases osLbaSlots_bounds slot member with ⟨k, bound, place⟩
    have size : OS_MAX_LBA.toNat = 32000 := by decide
    omega
  · rcases fwLbaSlots_bounds slot member with ⟨k, bound, place⟩
    have size : FW_MAX_LBA.toNat = 2000 := by decide
    omega

theorem slot_byte_offset {attr : UInt8} {slots : List UInt32} {limit slot : UInt32}
    (table : slotTable attr = some (slots, limit)) (member : slot ∈ slots) :
    (slot * 512).toNat = 512 * slot.toNat := by
  have bounds := slot_bounds table member
  rw [UInt32.toNat_mul]
  change slot.toNat * 512 % 2 ^ 32 = _
  omega

@[simp] theorem placedAt_start (osii : OSII) (lba : UInt32) :
    (osii.placedAt lba).logicalStartBlock = lba := rfl

@[simp] theorem placedAt_size (osii : OSII) (lba : UInt32) :
    (osii.placedAt lba).sizeOfOsImage = osii.sizeOfOsImage := rfl

@[simp] theorem placedAt_attr (osii : OSII) (lba : UInt32) :
    (osii.placedAt lba).attr = osii.attr := rfl

theorem placeImage_ok {osip : OSIPHeader} {osii placed : OSII} {largeImage : Bool}
    (place : placeImage osip osii largeImage = .ok placed) :
    ∃ lba limit, chooseSlot osip osii.attr largeImage = .ok (lba, limit) ∧ lba ≠ 0 ∧
      osii.sizeOfOsImage ≤ limit ∧ placed = osii.placedAt lba := by
  rcases Outcome.bind_ok_inv place with ⟨⟨lba, limit⟩, chosen, rest⟩
  rcases Outcome.bind_ok_inv rest with ⟨_, found, rest⟩
  rcases Outcome.bind_ok_inv rest with ⟨_, small, rest⟩
  exact ⟨lba, limit, chosen, Outcome.require_ok found, Outcome.require_ok small,
    (Outcome.ok.inj rest).symm⟩

theorem chooseSlot_stray {osip : OSIPHeader} {attr : UInt8} {largeImage : Bool} {k : Nat}
    (few : osip.count ≤ 8) (chosen : chooseSlot osip attr largeImage = .stray k) : False := by
  simp only [chooseSlot, getFreeOsLba, getFreeFwLba] at chosen
  simp only [getFreeLba_eq _ _ _ few, Outcome.ok_bind, Outcome.pure_eq] at chosen
  split_ifs at chosen

theorem placeImage_chosen {osip : OSIPHeader} {osii : OSII} {largeImage : Bool}
    {choice : UInt32 × UInt32} (chosen : chooseSlot osip osii.attr largeImage = .ok choice) :
    placeImage osip osii largeImage =
      if choice.1 = 0 then .error .noPlace
      else if osii.sizeOfOsImage ≤ choice.2 then .ok (osii.placedAt choice.1)
      else .error (.tooLarge osii.sizeOfOsImage choice.2) := by
  rcases choice with ⟨lba, limit⟩
  rw [placeImage, chosen, Outcome.ok_bind]
  simp only
  by_cases zero : lba = 0
  · rw [if_pos zero, Outcome.require_neg _ (not_not_intro zero)]
    rfl
  · rw [if_neg zero, Outcome.require_pos _ zero, Outcome.ok_bind]
    by_cases small : osii.sizeOfOsImage ≤ limit
    · rw [if_pos small, Outcome.require_pos _ small]
      rfl
    · rw [if_neg small, Outcome.require_neg _ small]
      rfl

theorem placeImage_stray {osip : OSIPHeader} {osii : OSII} {largeImage : Bool} {k : Nat}
    (few : osip.count ≤ 8) (place : placeImage osip osii largeImage = .stray k) : False := by
  cases chosen : chooseSlot osip osii.attr largeImage with
  | error cause =>
      rw [placeImage, chosen] at place
      cases place
  | stray k' => exact chooseSlot_stray few chosen
  | ok choice =>
      rw [placeImage_chosen chosen] at place
      split_ifs at place

theorem placeImage_of_choice {osip : OSIPHeader} {osii : OSII} {largeImage : Bool}
    {lba limit : UInt32} (chosen : chooseSlot osip osii.attr largeImage = .ok (lba, limit))
    (found : lba ≠ 0) (small : osii.sizeOfOsImage ≤ limit) :
    placeImage osip osii largeImage = .ok (osii.placedAt lba) := by
  rw [placeImage_chosen chosen, if_neg found, if_pos small]

theorem placeImage_slot {osip : OSIPHeader} {osii placed : OSII} (few : osip.count ≤ 8)
    (place : placeImage osip osii false = .ok placed) :
    ∃ slots limit, slotTable osii.attr = some (slots, limit) ∧
      placed.logicalStartBlock ∈ slots ∧ SlotFree osip limit placed.logicalStartBlock ∧
      slots.find? (fun slot => decide (SlotFree osip limit slot)) =
        some placed.logicalStartBlock ∧
      osii.blocks ≤ limit.toNat ∧
      placed = osii.placedAt placed.logicalStartBlock := by
  rcases placeImage_ok place with ⟨lba, limit, chosen, found, small, rfl⟩
  rw [chooseSlot_small] at chosen
  cases table : slotTable osii.attr with
  | none =>
      rw [table] at chosen
      cases chosen
  | some pair =>
      rcases pair with ⟨slots, limit⟩
      rw [table] at chosen
      rcases Outcome.bind_ok_inv chosen with ⟨first, search, same⟩
      cases same
      have place := getFreeLba_mem few search found
      refine ⟨slots, limit, rfl, place.1, place.2, ?_, UInt32.le_iff_toNat_le.mp small, rfl⟩
      rw [getFreeLba_eq _ _ _ few] at search
      have value := Outcome.ok.inj search
      cases hit : slots.find? (fun slot => decide (SlotFree osip limit slot)) with
      | none =>
          rw [hit] at value
          exact absurd value.symm found
      | some slot =>
          rw [hit] at value
          exact congrArg some value

def OSIPHeader.grow (osip : OSIPHeader) (index : Fin 8) : OSIPHeader :=
  if index.val ≥ osip.count then osip.resize (UInt8.ofNat (index + 1)) else osip

/-- What is stored at the index: the image's record, still invalidated if the
live entry it replaces was. -/
def storedEntry (osip : OSIPHeader) (osii : OSII) (index : Fin 8) : OSII :=
  if index.val ≥ osip.count then osii else preserveInvalidation (osip.desc index) osii

/-- The descriptor at the index is overwritten rather than moved. -/
def Replaces (osip : OSIPHeader) (osii : OSII) (index : Fin 8) : Prop :=
  attrClass (osip.desc index).attr ∈ overwrittenClasses ∨
    attrClass (osip.desc index).attr = attrClass osii.attr

instance (osip : OSIPHeader) (osii : OSII) (index : Fin 8) :
    Decidable (Replaces osip osii index) := by
  simp only [Replaces]
  infer_instance

theorem grow_desc (osip : OSIPHeader) (index : Fin 8) :
    (osip.grow index).desc = osip.desc := by
  simp only [OSIPHeader.grow]
  split <;> rfl

theorem grow_count (osip : OSIPHeader) (index : Fin 8) :
    (osip.grow index).count = max osip.count (index + 1) := by
  simp only [OSIPHeader.grow]
  split
  · have small : (UInt8.ofNat (index.val + 1)).toNat = index + 1 := by
      rw [UInt8.toNat_ofNat']
      omega
    change (UInt8.ofNat (index.val + 1)).toNat = _
    omega
  · omega

theorem storedEntry_attr (osip : OSIPHeader) (osii : OSII) (index : Fin 8) :
    (storedEntry osip osii index).attr = osii.attr := by
  simp only [storedEntry, preserveInvalidation]
  split
  · rfl
  · split <;> rfl

theorem storedEntry_fields (osip : OSIPHeader) (osii : OSII) (index : Fin 8) :
    (storedEntry osip osii index).logicalStartBlock = osii.logicalStartBlock ∧
    (storedEntry osip osii index).sizeOfOsImage = osii.sizeOfOsImage ∧
    (storedEntry osip osii index).osRevMinor = osii.osRevMinor ∧
    (storedEntry osip osii index).osRevMajor = osii.osRevMajor := by
  simp only [storedEntry, preserveInvalidation]
  split
  · exact ⟨rfl, rfl, rfl, rfl⟩
  · split <;> exact ⟨rfl, rfl, rfl, rfl⟩

def overwritten (osip : OSIPHeader) (osii : OSII) (index : Fin 8) : OSIPHeader :=
  { osip.grow index with
    desc := Function.update osip.desc index (storedEntry osip osii index) }

/-- The table when the old descriptor moves behind the last entry, to `last`. -/
def displaced (osip : OSIPHeader) (osii : OSII) (index last : Fin 8) : OSIPHeader :=
  { osip.grow index with
    desc := Function.update (Function.update osip.desc last (osip.desc index)) index
      (storedEntry osip osii index) }.resize ((osip.grow index).numPointers + 1)

private theorem storeEntry_eq (osip : OSIPHeader) (osii : OSII) (index : Fin 8) :
    storeEntry osip osii index =
      if Replaces osip osii index then
        .ok { osip with desc := Function.update osip.desc index osii }
      else if h : osip.count < 8 then
        .ok ({ osip with desc := Function.update (Function.update osip.desc ⟨osip.count, h⟩
          (osip.desc index)) index osii }.resize (osip.numPointers + 1))
      else .stray osip.count := by
  rw [storeEntry, OSIPHeader.getDesc_fin, Outcome.ok_bind]
  by_cases listed : attrClass (osip.desc index).attr ∈ overwrittenClasses
  · have replaces : Replaces osip osii index := Or.inl listed
    rw [if_pos listed, if_pos replaces, OSIPHeader.setDesc_fin]
  · rw [if_neg listed]
    by_cases same : attrClass (osip.desc index).attr = attrClass osii.attr
    · have replaces : Replaces osip osii index := Or.inr same
      rw [if_pos same, if_pos replaces, OSIPHeader.setDesc_fin]
    · have moved : ¬ Replaces osip osii index := by
        intro either
        rcases either with found | found
        · exact listed found
        · exact same found
      rw [if_neg same, if_neg moved]
      by_cases room : osip.count < 8
      · rw [dif_pos room, OSIPHeader.setDesc, dif_pos room, Outcome.ok_bind,
          OSIPHeader.setDesc_fin, Outcome.ok_bind]
        rfl
      · rw [dif_neg room, OSIPHeader.setDesc, dif_neg room]
        rfl

theorem updateTable_eq (osip : OSIPHeader) (osii : OSII) (index : Fin 8) :
    updateTable osip osii index =
      if Replaces osip osii index then .ok (overwritten osip osii index)
      else if h : (osip.grow index).count < 8 then
        .ok (displaced osip osii index ⟨(osip.grow index).count, h⟩)
      else .stray (osip.grow index).count := by
  have shape : updateTable osip osii index =
      storeEntry (osip.grow index) (storedEntry osip osii index) index := by
    simp only [updateTable, OSIPHeader.grow, storedEntry]
    by_cases past : index.val ≥ osip.count
    · simp only [if_pos past]
    · simp only [if_neg past, OSIPHeader.getDesc_fin, Outcome.ok_bind]
  have same : Replaces (osip.grow index) (storedEntry osip osii index) index ↔
      Replaces osip osii index := by
    simp only [Replaces]
    rw [grow_desc, storedEntry_attr]
  rw [shape, storeEntry_eq]
  simp only [same, grow_desc]
  rfl

theorem updateTable_no_error {osip : OSIPHeader} {osii : OSII} {index : Nat} (inside : index < 8)
    {cause : OsipError} (update : updateTable osip osii index = .error cause) : False := by
  have shape := updateTable_eq osip osii ⟨index, inside⟩
  rw [update] at shape
  split at shape
  · cases shape
  · split at shape <;> cases shape

theorem stitchPlan_error_inv {osip : OSIPHeader} {osii : OSII} {osiiIndex : Int}
    {largeImage : Bool} {cause : OsipError} (inside : osiiIndex.toNat < 8)
    (plan : stitchPlan osip osii osiiIndex largeImage = .error cause) :
    placeImage osip osii largeImage = .error cause := by
  cases place : placeImage osip osii largeImage with
  | error cause' =>
      rw [stitchPlan, place] at plan
      cases plan
      rfl
  | stray k =>
      rw [stitchPlan, place] at plan
      cases plan
  | ok placed =>
      rw [stitchPlan, place, Outcome.ok_bind] at plan
      cases update : updateTable osip placed osiiIndex.toNat with
      | error cause => exact (updateTable_no_error inside update).elim
      | _ =>
          rw [update] at plan
          cases plan

theorem stitchPlan_stray_inv {osip : OSIPHeader} {osii : OSII} {osiiIndex : Int}
    {largeImage : Bool} {k : Nat} (few : osip.count ≤ 8)
    (plan : stitchPlan osip osii osiiIndex largeImage = .stray k) :
    ∃ placed, placeImage osip osii largeImage = .ok placed ∧
      updateTable osip placed osiiIndex.toNat = .stray k := by
  cases place : placeImage osip osii largeImage with
  | error cause =>
      rw [stitchPlan, place] at plan
      cases plan
  | stray k => exact (placeImage_stray few place).elim
  | ok placed =>
      refine ⟨placed, rfl, ?_⟩
      rw [stitchPlan, place, Outcome.ok_bind] at plan
      cases update : updateTable osip placed osiiIndex.toNat with
      | stray k' =>
          rw [update] at plan
          cases plan
          rfl
      | _ =>
          rw [update] at plan
          cases plan

end A500cg.Osip
