import A500cg.Osip.SpareSlot

/-! The operations that take an image's name: how the name resolves to an entry,
and every way such an operation can go. -/

namespace A500cg.Osip

open Lib Flash

private theorem findInstance_spec (osip : OSIPHeader) (attr : UInt8) (wanted : Nat)
    (indices : List Nat) (inside : ∀ i ∈ indices, i < 8) (current : Nat) :
    ∃ found stop, findInstance osip attr wanted indices current = .ok (found, stop) ∧
      ∀ i, found = some i → i ∈ indices ∧ ∃ h : i < 8, attrClass (osip.desc ⟨i, h⟩).attr = attr := by
  induction indices generalizing current with
  | nil => exact ⟨none, current, rfl, by simp⟩
  | cons k rest ih =>
      have bound : k < 8 := inside k (by simp)
      have later := fun next => ih (fun i member => inside i (by simp [member])) next
      have here : osip.getDesc k = .ok (osip.desc ⟨k, bound⟩) := dif_pos bound
      rw [findInstance, here, Outcome.ok_bind]
      by_cases same : attrClass (osip.desc ⟨k, bound⟩).attr = attr
      · rw [if_pos same]
        by_cases reached : current = wanted
        · rw [if_pos reached]
          refine ⟨some k, current, rfl, ?_⟩
          intro i taken
          rcases taken with ⟨rfl⟩
          exact ⟨by simp, bound, same⟩
        · rw [if_neg reached]
          rcases later (current + 1) with ⟨found, stop, search, shape⟩
          refine ⟨found, stop, search, fun i hit => ?_⟩
          exact ⟨by simp [(shape i hit).1], (shape i hit).2⟩
      · rw [if_neg same]
        rcases later current with ⟨found, stop, search, shape⟩
        refine ⟨found, stop, search, fun i hit => ?_⟩
        exact ⟨by simp [(shape i hit).1], (shape i hit).2⟩

theorem resolveIndex_spec (osip : OSIPHeader) (attr : UInt8) (wanted : Nat)
    (operation : OsipOperation) (few : osip.count ≤ 8) :
    ∃ k, resolveIndex osip attr wanted operation = .ok k ∧
      (k = -1 ∨ (∃ i : Fin 8, k = i ∧ i.val < osip.count ∧ attrClass (osip.desc i).attr = attr) ∨
        (k = osip.count ∧ operation = .writeOsipHeader)) := by
  obtain ⟨found, stop, search, shape⟩ := findInstance_spec osip attr wanted
    (List.range osip.count) (fun i member => by
      have bound := List.mem_range.mp member
      omega) 1
  rw [resolveIndex, search, Outcome.ok_bind]
  cases found with
  | some i =>
      rcases shape i rfl with ⟨member, bound, same⟩
      exact ⟨i, rfl, .inr (.inl ⟨⟨i, bound⟩, rfl, List.mem_range.mp member, same⟩)⟩
  | none =>
      refine ⟨_, rfl, ?_⟩
      by_cases append : stop = wanted ∧ operation = .writeOsipHeader
      · rw [if_pos append]
        exact .inr (.inr ⟨rfl, append.2⟩)
      · rw [if_neg append]
        exact .inl rfl

/-- The name stands for the entry with this index, on this directory. -/
def ResolvesTo (osip : OSIPHeader) (name : String) (operation : OsipOperation) (k : Int) : Prop :=
  ∃ attr wanted, getNamedOsiiAttr name = some (attr, wanted) ∧
    resolveIndex osip attr wanted operation = .ok k

theorem getNamedOsiiIndex_spec (name : String) (operation : OsipOperation) (w : World)
    (few : (directory w).count ≤ 8) :
    ∃ k middle, getNamedOsiiIndex name operation w = (.ok k, middle) ∧ w.Same middle ∧
      (k = -1 ∨ ResolvesTo (directory w) name operation k) := by
  simp only [getNamedOsiiIndex]
  cases named : getNamedOsiiAttr name with
  | none => exact ⟨-1, w, rfl, World.Same.refl w, .inl rfl⟩
  | some pair =>
      rcases pair with ⟨attr, wanted⟩
      rcases readOSIP_spec w with ⟨middle, same, ⟨accepted, reads⟩ | ⟨cause, _, _, reads⟩⟩
      · rcases resolveIndex_spec (directory w) attr wanted operation few with ⟨k, resolved, _⟩
        refine ⟨k, middle, ?_, same, .inr ⟨attr, wanted, named, resolved⟩⟩
        change getAttributeOsiiIndex attr wanted operation w = _
        rw [getAttributeOsiiIndex, bind_of_ok (attempt_of_ok reads)]
        change lift (resolveIndex (directory w) attr wanted operation) middle = _
        rw [resolved, lift_apply]
      · refine ⟨-1, middle, ?_, same, .inl rfl⟩
        change getAttributeOsiiIndex attr wanted operation w = _
        rw [getAttributeOsiiIndex, bind_of_ok (attempt_of_error reads)]
        rfl

def OSII.pointTo (d : OSII) (ddrLoadAddress entryPoint : UInt32) : OSII :=
  { d with ddrLoadAddress := ddrLoadAddress, entryPoint := entryPoint }

/-- The table `update_osii` commits. -/
def repointed (osip : OSIPHeader) (i : Fin 8) (ddrLoadAddress entryPoint : UInt32) : OSIPHeader :=
  { osip with
    desc := Function.update osip.desc i ((osip.desc i).pointTo ddrLoadAddress entryPoint) }

theorem setPointers_eq (osip : OSIPHeader) (i : Fin 8) (ddrLoadAddress entryPoint : UInt32) :
    setPointers osip i ddrLoadAddress entryPoint =
      .ok (repointed osip i ddrLoadAddress entryPoint) := by
  rw [setPointers, OSIPHeader.getDesc_fin, Outcome.ok_bind, OSIPHeader.setDesc_fin]
  rfl

theorem updateOsii_cases {name : String} {ddrLoadAddress entryPoint : UInt32} {w w' : World}
    {result : Outcome OsipError Unit} (few : (directory w).count ≤ 8)
    (ran : updateOsii name ddrLoadAddress entryPoint w = (result, w')) :
    (∃ cause, result = .error cause ∧ w.Same w') ∨
    ∃ (i : Fin 8) (middle : World), i.val < (directory w).count ∧
      ResolvesTo (directory w) name .readOsipHeader i ∧ w.Same middle ∧
      writeOSIP (repointed (directory w) i ddrLoadAddress entryPoint) middle = (result, w') := by
  rcases getNamedOsiiIndex_spec name .readOsipHeader w few with ⟨k, looked, lookup, same, resolved⟩
  rw [updateOsii, bind_of_ok lookup] at ran
  rcases bind_lift_cases ran with ⟨_, inside, ran⟩ | ⟨cause, _, rfl, rfl⟩ | ⟨_, bad, _, _⟩
  rotate_left
  · exact .inl ⟨cause, rfl, same⟩
  · exact (Outcome.require_stray bad).elim
  rcases checkIndexOutofbound_ok inside with ⟨lower, upper⟩
  rcases resolved with rfl | resolved
  · omega
  have entry : ∃ i : Fin 8, k = i ∧ i.val < (directory w).count := by
    rcases resolved with ⟨attr, wanted, named, value⟩
    obtain ⟨k', value', missing | ⟨i, index, live, _⟩ | ⟨_, writing⟩⟩ :=
      resolveIndex_spec (directory w) attr wanted .readOsipHeader few
    · rw [value] at value'
      have same := Outcome.ok.inj value'
      omega
    · rw [value] at value'
      exact ⟨i, (Outcome.ok.inj value').trans index, live⟩
    · cases writing
  rcases entry with ⟨i, rfl, live⟩
  have unchanged := directory_same same
  rcases readOSIP_spec looked with ⟨read, same', ⟨_, reads⟩ | ⟨cause, _, _, reads⟩⟩
  · rw [bind_of_ok reads, unchanged, Int.toNat_natCast, setPointers_eq] at ran
    exact .inr ⟨i, read, live, resolved, same.trans same', ran⟩
  · rw [bind_of_error reads] at ran
    cases ran
    exact .inl ⟨cause, rfl, same.trans same'⟩

theorem getNamedOsiiIndex_healthy {name : String} {operation : OsipOperation} {w : World}
    {k : Int} (healthy : Healthy w) (accepted : Accepted w)
    (resolved : ResolvesTo (directory w) name operation k) :
    getNamedOsiiIndex name operation w = (.ok k, w) := by
  rcases resolved with ⟨attr, wanted, named, value⟩
  rw [getNamedOsiiIndex, named]
  change getAttributeOsiiIndex attr wanted operation w = _
  rw [getAttributeOsiiIndex, bind_of_ok (attempt_of_ok (readOSIP_healthy w healthy accepted))]
  change lift (resolveIndex (directory w) attr wanted operation) w = _
  rw [value, lift_apply]

theorem updateOsii_healthy {name : String} (ddrLoadAddress entryPoint : UInt32) {w : World}
    {i : Fin 8} (healthy : Healthy w) (accepted : Accepted w)
    (resolved : ResolvesTo (directory w) name .readOsipHeader i) :
    ∃ w', updateOsii name ddrLoadAddress entryPoint w = (.ok (), w') ∧ Healthy w' ∧
      directory w' = (repointed (directory w) i ddrLoadAddress entryPoint).seal ∧ Accepted w' := by
  have inside : checkIndexOutofbound i = .ok () :=
    checkIndexOutofbound_inside (by omega) (by omega)
  rw [updateOsii, bind_of_ok (getNamedOsiiIndex_healthy healthy accepted resolved), inside,
    lift_ok_bind, bind_of_ok (readOSIP_healthy w healthy accepted), Int.toNat_natCast,
    setPointers_eq, lift_ok_bind]
  exact writeOSIP_commits _ w healthy

private theorem eq_or_of_ite_some {α : Type} {condition : Prop} [Decidable condition] {a b : α}
    {rest : Option α} (found : (if condition then some a else rest) = some b) :
    b = a ∨ rest = some b := by
  split at found
  · exact .inl (Option.some.inj found).symm
  · exact .inr found

def namedClasses : List (UInt8 × Nat) :=
  [(ATTR_SIGNED_KERNEL, 1), (ATTR_SIGNED_ROS, 1), (ATTR_SIGNED_POS, 1),
    (ATTR_SIGNED_SPLASHSCREEN, 1), (ATTR_SIGNED_SPLASHSCREEN, 2), (ATTR_SIGNED_SPLASHSCREEN, 3),
    (ATTR_SIGNED_SPLASHSCREEN, 4), (ATTR_SIGNED_FW, 1), (ATTR_SIGNED_RAMDUMPOS, 1)]

theorem getNamedOsiiAttr_mem {name : String} {entry : UInt8 × Nat}
    (named : getNamedOsiiAttr name = some entry) : entry ∈ namedClasses := by
  rw [getNamedOsiiAttr] at named
  iterate 10
    rcases eq_or_of_ite_some named with rfl | named
    · decide
  cases named

private theorem low_bit (attr : UInt8) : attr &&& 1 = 0 ∨ attr &&& 1 = 1 := by
  have value : (attr &&& 1).toNat = attr.toNat % 2 := by
    rw [UInt8.toNat_and]
    exact Nat.and_one_is_mod _
  rcases Nat.mod_two_eq_zero_or_one attr.toNat with even | odd
  · exact .inl (UInt8.toNat_inj.mp (value.trans even))
  · exact .inr (UInt8.toNat_inj.mp (value.trans odd))

theorem attrClass_renamedAttribute {name : String} {attr : UInt8} {wanted : Nat}
    (named : getNamedOsiiAttr name = some (attr, wanted)) (own : UInt8) :
    attrClass (renamedAttribute name own) = attr := by
  have classes : ∀ entry ∈ namedClasses,
      attrClass (entry.1 + 0) = entry.1 ∧ attrClass (entry.1 + 1) = entry.1 := by decide
  have both := classes _ (getNamedOsiiAttr_mem named)
  have shape : renamedAttribute name own = attr + (own &&& 1) := by
    rw [renamedAttribute, named]
    rfl
  rw [shape]
  rcases low_bit own with zero | one
  · rw [zero]
    exact both.1
  · rw [one]
    exact both.2

/-- The image `flash_image_osip` hands on, with its attribute replaced. -/
def renamed (data : Buffer) (name : String) : Buffer :=
  Function.update data attributeOffset (renamedAttribute name (data attributeOffset))

/-- Every way `flash_image_osip` can go for an image other than `testos`: it stores
nothing, or it flashes the renamed image at the index the name stands for. -/
theorem flashImageOsip_cases {data : Buffer} {sz : UInt32} {name : String} {w w' : World}
    {result : Outcome OsipError Unit} (ordinary : name ≠ "testos")
    (few : (directory w).count ≤ 8) (ran : flashImageOsip data sz name w = (result, w')) :
    (∃ cause, result = .error cause ∧ w.Same w') ∨
    ∃ (k : Fin 8) (middle : World), w.Same middle ∧
      ResolvesTo (directory w) name .writeOsipHeader k ∧
      writeStitchImageEx (renamed data name) sz k false middle = (result, w') := by
  rcases getNamedOsiiIndex_spec name .writeOsipHeader w few with ⟨k, looked, lookup, same, resolved⟩
  rw [flashImageOsip, if_neg ordinary, bind_of_ok lookup] at ran
  rcases bind_lift_cases ran with ⟨_, inside, ran⟩ | ⟨cause, _, rfl, rfl⟩ | ⟨_, bad, _, _⟩
  · rcases checkIndexOutofbound_ok inside with ⟨lower, upper⟩
    rcases resolved with rfl | resolved
    · omega
    · have index : k = (⟨k.toNat, by omega⟩ : Fin 8).val := (Int.toNat_of_nonneg lower).symm
      rw [index] at resolved ran
      exact .inr ⟨_, looked, same, resolved, ran⟩
  · exact .inl ⟨cause, rfl, same⟩
  · exact (Outcome.require_stray bad).elim

theorem resolvesTo_cases {osip : OSIPHeader} {name : String} {operation : OsipOperation}
    {k : Fin 8} (few : osip.count ≤ 8) (resolved : ResolvesTo osip name operation k) :
    ∃ attr wanted, getNamedOsiiAttr name = some (attr, wanted) ∧
      ((k.val < osip.count ∧ attrClass (osip.desc k).attr = attr) ∨ k.val = osip.count) := by
  rcases resolved with ⟨attr, wanted, named, value⟩
  refine ⟨attr, wanted, named, ?_⟩
  obtain ⟨k', value', missing | ⟨i, index, live, same⟩ | ⟨index, _⟩⟩ :=
    resolveIndex_spec osip attr wanted operation few
  · rw [value] at value'
    have equal := Outcome.ok.inj value'
    omega
  · rw [value] at value'
    have equal : k = i := by
      apply Fin.ext
      have values := (Outcome.ok.inj value').trans index
      exact_mod_cast values
    rw [equal]
    exact .inl ⟨live, same⟩
  · rw [value] at value'
    have values := (Outcome.ok.inj value').trans index
    exact .inr (by exact_mod_cast values)

structure Tidy (osip : OSIPHeader) : Prop where
  few : osip.count ≤ 8
  unused : ∀ i : Fin 8, osip.count ≤ i.val → osip.desc i = OSII.zero

theorem Tidy.seal {osip : OSIPHeader} (tidy : Tidy osip) : Tidy osip.seal :=
  ⟨tidy.few, tidy.unused⟩

theorem Tidy.replaces {osip : OSIPHeader} (tidy : Tidy osip) {name : String} {osii : OSII}
    {own : UInt8} {k : Fin 8} (attr : osii.attr = renamedAttribute name own)
    (resolved : ResolvesTo osip name .writeOsipHeader k) :
    k.val ≤ osip.count ∧ Replaces osip osii k := by
  rcases resolvesTo_cases tidy.few resolved with ⟨named, wanted, name, ⟨live, same⟩ | unused⟩
  · refine ⟨Nat.le_of_lt live, .inr ?_⟩
    rw [same, attr, attrClass_renamedAttribute name]
  · refine ⟨Nat.le_of_eq unused, .inl ?_⟩
    rw [tidy.unused k (Nat.le_of_eq unused.symm)]
    decide

theorem directory_of_blob {osip : OSIPHeader} {osii placed : OSII} {middle w' : World}
    {done : Nat} {buf : Buffer} (few : osip.count ≤ 8)
    (place : placeImage osip osii false = .ok placed) (initial : w'.initial = middle.initial)
    (log : w'.writes = middle.writes ++
      writesAt (placed.logicalStartBlock * 512).toNat done buf) :
    directory w' = directory middle := by
  rcases placeImage_slot few place with ⟨slots, limit, table, member, _⟩
  have bounds := slot_bounds table member
  have offset := slot_byte_offset table member
  apply directory_of_content
  intro a header
  rw [World.content_of_log initial log]
  apply overlay_outside
  simp only [headerBytes] at header
  omega

theorem placed_attr {osip : OSIPHeader} {data : Buffer} {name : String} {osii placed : OSII}
    (record : crackStitchedImage (renamed data name) = .ok osii)
    (place : placeImage osip osii false = .ok placed) :
    placed.attr = renamedAttribute name (data attributeOffset) := by
  rcases placeImage_ok place with ⟨lba, _, _, _, _, shape⟩
  rw [shape, placedAt_attr, crackStitchedImage_attr record]
  exact Function.update_self ..

/-- Every way a flash can go on a tidy directory: it leaves the directory alone, or it gets as
far as to commit the table with the image's record at the index the name stands for. -/
theorem flashImageOsip_tidy {data : Buffer} {sz : UInt32} {name : String} {w w' : World}
    {result : Outcome OsipError Unit} (ordinary : name ≠ "testos") (tidy : Tidy (directory w))
    (ran : flashImageOsip data sz name w = (result, w')) :
    (∃ cause, result = .error cause ∧ directory w' = directory w) ∨
    ∃ (k : Fin 8) (osii placed : OSII) (middle : World),
      ResolvesTo (directory w) name .writeOsipHeader k ∧ k.val ≤ (directory w).count ∧
      crackStitchedImage (renamed data name) = .ok osii ∧
      placeImage (directory w) osii false = .ok placed ∧ directory middle = directory w ∧
      writeOSIP (overwritten (directory w) placed k) middle = (result, w') := by
  rcases flashImageOsip_cases ordinary tidy.few ran with ⟨cause, rfl, same⟩ |
    ⟨k, looked, same, resolved, ran⟩
  · exact .inl ⟨cause, rfl, directory_same same⟩
  have read := directory_same same
  -- The only way to leave the array is to move an entry, and no entry is moved.
  have updates : ∀ osii placed, crackStitchedImage (renamed data name) = .ok osii →
      placeImage (directory w) osii false = .ok placed →
      updateTable (directory w) placed k = .ok (overwritten (directory w) placed k) := by
    intro osii placed record place
    rw [updateTable_eq, if_pos (tidy.replaces (placed_attr record place) resolved).2]
  rcases writeStitchImageEx_cases ran with ⟨cause, rfl, stitch⟩ | ⟨_, rfl, stitch⟩ |
    ⟨table, middle, stitch, commit⟩
  · refine .inl ⟨cause, rfl, ?_⟩
    cases stitch with
    | refused _ _ unchanged _ => exact (directory_same unchanged).trans read
    | rejected _ _ _ _ destroyed _ => exact destroyed.directory_eq.trans read
    | stopped osii placed _ middle _ _ _ _ plan destroyed _ initial log _ =>
        rw [read] at plan
        have place := (stitchPlan_inv plan).1
        rw [directory_of_blob tidy.few place initial log, destroyed.directory_eq, read]
  · cases stitch with
    | strayed osii _ _ checked _ plan =>
        rw [read] at plan
        rcases stitchPlan_stray_inv tidy.few plan with ⟨placed, place, update⟩
        rw [Int.toNat_natCast, updates osii placed checked.record place] at update
        cases update
  · cases stitch with
    | written osii placed _ backup _ checked plan destroyed initial log =>
        rw [read] at plan
        rcases stitchPlan_inv plan with ⟨place, update⟩
        rw [Int.toNat_natCast, updates osii placed checked.record place] at update
        cases update
        refine .inr ⟨k, osii, placed, middle, resolved,
          (tidy.replaces (placed_attr checked.record place) resolved).1, checked.record, place, ?_,
          commit⟩
        rw [directory_of_blob tidy.few place initial log, destroyed.directory_eq, read]

end A500cg.Osip
