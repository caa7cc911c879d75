import A500cg.Osip.RoundTrip

/-! Which entry a class and an instance number stand for, and that a flashed image is found
again under its name. -/

namespace A500cg.Osip

open Lib Flash

/-- The descriptor at `k` is of the class. -/
def OfClass (osip : OSIPHeader) (attr : UInt8) (k : Nat) : Prop :=
  ∃ h : k < 8, attrClass (osip.desc ⟨k, h⟩).attr = attr

instance (osip : OSIPHeader) (attr : UInt8) (k : Nat) : Decidable (OfClass osip attr k) :=
  inferInstanceAs (Decidable (∃ h : k < 8, attrClass (osip.desc ⟨k, h⟩).attr = attr))

def liveOfClass (osip : OSIPHeader) (attr : UInt8) : List Nat :=
  (List.range osip.count).filter fun k => OfClass osip attr k

/-- What a lookup is to return: the `wanted`-th entry in use of the class, the end of the
directory for a writer that wants the next one, and -1 otherwise. -/
def instanceIndex (osip : OSIPHeader) (attr : UInt8) (wanted : Nat) (operation : OsipOperation) :
    Int :=
  match (liveOfClass osip attr)[wanted - 1]? with
  | some k => k
  | none =>
      if (liveOfClass osip attr).length + 1 = wanted ∧ operation = .writeOsipHeader then osip.count
      else -1

theorem findInstance_eq (osip : OSIPHeader) (attr : UInt8) (wanted : Nat) (indices : List Nat)
    (inside : ∀ k ∈ indices, k < 8) (current : Nat) (low : current ≤ wanted) :
    ∃ stop, findInstance osip attr wanted indices current =
        .ok ((indices.filter fun k => OfClass osip attr k)[wanted - current]?, stop) ∧
      ((indices.filter fun k => OfClass osip attr k)[wanted - current]? = none →
        stop = current + (indices.filter fun k => OfClass osip attr k).length) := by
  induction indices generalizing current with
  | nil => exact ⟨current, rfl, fun _ => rfl⟩
  | cons k rest ih =>
      have bound : k < 8 := inside k List.mem_cons_self
      have later := ih fun i member => inside i (List.mem_cons_of_mem _ member)
      have here : osip.getDesc k = .ok (osip.desc ⟨k, bound⟩) := dif_pos bound
      rw [findInstance, here, Outcome.ok_bind]
      by_cases same : attrClass (osip.desc ⟨k, bound⟩).attr = attr
      · have listed : decide (OfClass osip attr k) = true := decide_eq_true ⟨bound, same⟩
        rw [if_pos same, List.filter_cons, if_pos listed]
        by_cases reached : current = wanted
        · rw [if_pos reached, reached, Nat.sub_self]
          refine ⟨wanted, rfl, fun missing => ?_⟩
          cases missing
        · rw [if_neg reached]
          rcases later (current + 1) (by omega) with ⟨stop, search, last⟩
          have shift : wanted - current = wanted - (current + 1) + 1 := by omega
          rw [shift, List.getElem?_cons_succ, List.length_cons]
          refine ⟨stop, search, fun missing => ?_⟩
          rw [last missing]
          omega
      · have unlisted : ¬ decide (OfClass osip attr k) = true := by
          intro listed
          rcases of_decide_eq_true listed with ⟨_, found⟩
          exact same found
        rw [if_neg same, List.filter_cons, if_neg unlisted]
        exact later current low

theorem resolveIndex_eq (osip : OSIPHeader) (attr : UInt8) (wanted : Nat)
    (operation : OsipOperation) (few : osip.count ≤ 8) (first : 1 ≤ wanted) :
    resolveIndex osip attr wanted operation = .ok (instanceIndex osip attr wanted operation) := by
  have inside : ∀ k ∈ List.range osip.count, k < 8 := by
    intro k member
    have bound := List.mem_range.mp member
    omega
  rcases findInstance_eq osip attr wanted (List.range osip.count) inside 1 first with
    ⟨stop, search, last⟩
  rw [resolveIndex, search, Outcome.ok_bind, instanceIndex, liveOfClass]
  cases found : ((List.range osip.count).filter fun k => OfClass osip attr k)[wanted - 1]? with
  | some k => rfl
  | none =>
      rw [last found, Nat.add_comm 1]
      rfl

theorem getNamedOsiiAttr_positive {name : String} {attr : UInt8} {wanted : Nat}
    (named : getNamedOsiiAttr name = some (attr, wanted)) : 1 ≤ wanted := by
  have positive : ∀ entry ∈ namedClasses, 1 ≤ entry.2 := by decide
  exact positive _ (getNamedOsiiAttr_mem named)

theorem resolvesTo_iff {osip : OSIPHeader} {name : String} {operation : OsipOperation} {k : Int}
    (few : osip.count ≤ 8) :
    ResolvesTo osip name operation k ↔ ∃ attr wanted, getNamedOsiiAttr name = some (attr, wanted) ∧
      instanceIndex osip attr wanted operation = k := by
  constructor
  · rintro ⟨attr, wanted, named, value⟩
    rw [resolveIndex_eq osip attr wanted operation few (getNamedOsiiAttr_positive named)] at value
    exact ⟨attr, wanted, named, Outcome.ok.inj value⟩
  · rintro ⟨attr, wanted, named, value⟩
    refine ⟨attr, wanted, named, ?_⟩
    rw [resolveIndex_eq osip attr wanted operation few (getNamedOsiiAttr_positive named), value]

theorem resolvesTo_seal {osip : OSIPHeader} {name : String} {operation : OsipOperation} {k : Int}
    (few : osip.count ≤ 8) :
    ResolvesTo osip.seal name operation k ↔ ResolvesTo osip name operation k := by
  have few' : osip.seal.count ≤ 8 := few
  rw [resolvesTo_iff few, resolvesTo_iff few']
  exact Iff.rfl

theorem liveOfClass_lt {osip : OSIPHeader} {attr : UInt8} {n k : Nat}
    (found : (liveOfClass osip attr)[n]? = some k) : k < osip.count := by
  have member := List.mem_of_getElem? found
  exact List.mem_range.mp (List.mem_filter.mp member).1

theorem liveOfClass_congr {osip table : OSIPHeader} (attr : UInt8) (count : table.count = osip.count)
    (classes : ∀ i : Fin 8, i.val < osip.count →
      attrClass (table.desc i).attr = attrClass (osip.desc i).attr) :
    liveOfClass table attr = liveOfClass osip attr := by
  rw [liveOfClass, liveOfClass, count]
  apply List.filter_congr
  intro k member
  have live := List.mem_range.mp member
  apply decide_eq_decide.mpr
  constructor
  · rintro ⟨bound, same⟩
    refine ⟨bound, ?_⟩
    rw [← classes ⟨k, bound⟩ live]
    exact same
  · rintro ⟨bound, same⟩
    refine ⟨bound, ?_⟩
    rw [classes ⟨k, bound⟩ live]
    exact same

theorem liveOfClass_append {osip table : OSIPHeader} (attr : UInt8) {k : Fin 8}
    (last : k.val = osip.count) (count : table.count = osip.count + 1)
    (kept : ∀ i : Fin 8, i.val < osip.count → table.desc i = osip.desc i) :
    liveOfClass table attr =
      liveOfClass osip attr ++ if attrClass (table.desc k).attr = attr then [osip.count] else [] := by
  have front : (List.range osip.count).filter (fun i => OfClass table attr i) =
      liveOfClass osip attr := by
    apply List.filter_congr
    intro i member
    have live := List.mem_range.mp member
    apply decide_eq_decide.mpr
    constructor
    · rintro ⟨bound, same⟩
      rw [kept ⟨i, bound⟩ live] at same
      exact ⟨bound, same⟩
    · rintro ⟨bound, same⟩
      rw [← kept ⟨i, bound⟩ live] at same
      exact ⟨bound, same⟩
  have back : OfClass table attr osip.count ↔ attrClass (table.desc k).attr = attr := by
    constructor
    · rintro ⟨bound, same⟩
      have index : (⟨osip.count, bound⟩ : Fin 8) = k := Fin.ext last.symm
      rw [index] at same
      exact same
    · intro same
      refine ⟨by omega, ?_⟩
      have index : (⟨osip.count, by omega⟩ : Fin 8) = k := Fin.ext last.symm
      rw [index]
      exact same
  rw [liveOfClass, count, List.range_succ, List.filter_append, front]
  congr 1
  by_cases same : attrClass (table.desc k).attr = attr
  · rw [if_pos same, List.filter_cons, if_pos (decide_eq_true (back.mpr same)), List.filter_nil]
  · have other : ¬ decide (OfClass table attr osip.count) = true := by
      intro listed
      exact same (back.mp (of_decide_eq_true listed))
    rw [if_neg same, List.filter_cons, if_neg other, List.filter_nil]

theorem resolvesTo_read_iff {osip : OSIPHeader} {name : String} {i : Fin 8}
    (few : osip.count ≤ 8) :
    ResolvesTo osip name .readOsipHeader i ↔ ∃ attr wanted,
      getNamedOsiiAttr name = some (attr, wanted) ∧
      (liveOfClass osip attr)[wanted - 1]? = some i.val := by
  rw [resolvesTo_iff few]
  apply exists₂_congr
  intro attr wanted
  apply and_congr_right
  intro _
  rw [instanceIndex]
  cases (liveOfClass osip attr)[wanted - 1]? with
  | none => simp
  | some k => simp

theorem resolvesTo_write_cases {osip : OSIPHeader} {name : String} {k : Fin 8}
    (few : osip.count ≤ 8) (resolved : ResolvesTo osip name .writeOsipHeader k) :
    ∃ attr wanted, getNamedOsiiAttr name = some (attr, wanted) ∧
      ((liveOfClass osip attr)[wanted - 1]? = some k.val ∨
        ((liveOfClass osip attr).length + 1 = wanted ∧ k.val = osip.count)) := by
  rcases (resolvesTo_iff few).mp resolved with ⟨attr, wanted, named, index⟩
  refine ⟨attr, wanted, named, ?_⟩
  rw [instanceIndex] at index
  cases found : (liveOfClass osip attr)[wanted - 1]? with
  | some i =>
      rw [found] at index
      have same : i = k.val := Int.ofNat.inj index
      rw [same]
      exact .inl rfl
  | none =>
      rw [found] at index
      dsimp only at index
      split at index
      · rename_i next
        exact .inr ⟨next.1, by exact_mod_cast index.symm⟩
      · omega

theorem Tidy.overwritten {osip : OSIPHeader} (tidy : Tidy osip) {k : Fin 8} (placed : OSII)
    (next : k.val ≤ osip.count) : Tidy (overwritten osip placed k) := by
  have few := tidy.few
  have count : (Osip.overwritten osip placed k).count = max osip.count (k + 1) := grow_count osip k
  refine ⟨by omega, fun i past => ?_⟩
  have different : i ≠ k := by
    intro same
    rcases same with rfl
    omega
  exact (Function.update_of_ne different _ _).trans (tidy.unused i (by omega))

theorem liveOfClass_overwritten {osip : OSIPHeader} (tidy : Tidy osip) {name : String}
    {placed : OSII} {own : UInt8} {k : Fin 8} (attr : placed.attr = renamedAttribute name own)
    (resolved : ResolvesTo osip name .writeOsipHeader k) (class_ : UInt8) :
    liveOfClass (overwritten osip placed k) class_ = liveOfClass osip class_ ++
      if k.val = osip.count ∧ attrClass placed.attr = class_ then [osip.count] else [] := by
  have count : (overwritten osip placed k).count = max osip.count (k + 1) := grow_count osip k
  have here : ((overwritten osip placed k).desc k).attr = placed.attr := by
    change (Function.update osip.desc k (storedEntry osip placed k) k).attr = _
    rw [Function.update_self, storedEntry_attr]
  have other : ∀ i, i ≠ k → (overwritten osip placed k).desc i = osip.desc i := by
    intro i different
    exact Function.update_of_ne different _ _
  rcases resolvesTo_cases tidy.few resolved with ⟨named, wanted, known, ⟨live, same⟩ | last⟩
  · have inside : ¬ (k.val = osip.count ∧ attrClass placed.attr = class_) := by omega
    rw [if_neg inside, List.append_nil]
    refine liveOfClass_congr class_ (by omega) fun i _ => ?_
    by_cases index : i = k
    · rw [index, here, attr, attrClass_renamedAttribute known, same]
    · rw [other i index]
  · rw [liveOfClass_append class_ last (by omega) fun i before => ?_, here]
    · simp only [last, true_and]
    · exact other i fun same => absurd (congrArg Fin.val same) (by omega)

theorem resolvesTo_overwritten {osip : OSIPHeader} (tidy : Tidy osip) {name : String}
    {placed : OSII} {own : UInt8} {k : Fin 8} (attr : placed.attr = renamedAttribute name own)
    (resolved : ResolvesTo osip name .writeOsipHeader k) :
    ResolvesTo (overwritten osip placed k) name .readOsipHeader k := by
  have next := (tidy.replaces attr resolved).1
  rw [resolvesTo_read_iff (tidy.overwritten placed next).few]
  rcases resolvesTo_write_cases tidy.few resolved with ⟨named, wanted, known, entry⟩
  refine ⟨named, wanted, known, ?_⟩
  rw [liveOfClass_overwritten tidy attr resolved]
  rcases entry with found | ⟨length, last⟩
  · have before := (List.getElem?_eq_some_iff.mp found).1
    rw [List.getElem?_append_left before, found]
  · have same : attrClass placed.attr = named := by
      rw [attr, attrClass_renamedAttribute known]
    rw [if_pos ⟨last, same⟩, List.getElem?_append_right (by omega),
      show wanted - 1 - (liveOfClass osip named).length = 0 by omega, last]
    rfl

/-- The entry has the image's size and revision, and its blocks hold the image's payload. -/
structure HoldsImage (data : Buffer) (w : World) (i : Fin 8) : Prop where
  size : ((directory w).desc i).sizeOfOsImage = ((OSIPHeader.ofBytes data).desc 0).sizeOfOsImage
  revision : ((directory w).desc i).osRevMinor = ((OSIPHeader.ofBytes data).desc 0).osRevMinor ∧
    ((directory w).desc i).osRevMajor = ((OSIPHeader.ofBytes data).desc 0).osRevMajor
  payload : ∀ k < 512 * ((directory w).desc i).blocks,
    w.content (512 * ((directory w).desc i).start + k) = data (512 + k)

theorem crackStitchedImage_record {data : Buffer} {osii : OSII}
    (record : crackStitchedImage data = .ok osii) : osii = (OSIPHeader.ofBytes data).desc 0 := by
  rw [crackStitchedImage_eq] at record
  split at record
  · exact (Outcome.ok.inj record).symm
  · cases record

theorem flashImageOsip_found {data : Buffer} {sz : UInt32} {name : String} {w w' : World}
    (ordinary : name ≠ "testos") (tidy : Tidy (directory w))
    (ran : flashImageOsip data sz name w = (.ok (), w')) :
    ∃ i : Fin 8, Accepted w' ∧ ResolvesTo (directory w') name .readOsipHeader i ∧
      (directory w').count ≤ 8 ∧ HoldsImage data w' i := by
  rcases flashImageOsip_tidy ordinary tidy ran with ⟨_, impossible, _⟩ |
    ⟨k, osii, placed, middle, resolved, next, record, place, _, commit⟩
  · cases impossible
  rcases flashImageOsip_cases ordinary tidy.few ran with ⟨_, impossible, _⟩ |
    ⟨k', looked, same, resolved', wrote⟩
  · cases impossible
  have few : (directory looked).count ≤ 8 := by
    rw [directory_same same]
    exact tidy.few
  rcases writeStitchImage_flashed few wrote with ⟨index, osii', position, record', flashed⟩
  have index_eq : index = k := by
    rw [resolvesTo_unique resolved resolved']
    exact Fin.ext (Int.ofNat.inj position).symm
  rw [index_eq] at flashed
  rcases placeImage_slot tidy.few place with ⟨slots, limit, table, member, _⟩
  have committed := directory_committed commit
  have start : ((directory w').desc k).logicalStartBlock = placed.logicalStartBlock := by
    rw [committed]
    change (Function.update (directory w).desc k
      (storedEntry (directory w) placed k) k).logicalStartBlock = _
    rw [Function.update_self]
    exact (storedEntry_fields (directory w) placed k).1
  have offset := slot_byte_offset table member
  rw [← start] at offset
  have fields := crackStitchedImage_record record'
  rcases flashed.entry with ⟨size, _, minor, major⟩
  refine ⟨k, flashed.accepted, ?_, ?_, ?_, ?_, ?_⟩
  · rw [committed]
    exact (resolvesTo_seal (tidy.overwritten placed next).few).mpr
      (resolvesTo_overwritten tidy (placed_attr record place) resolved)
  · rw [committed]
    exact (tidy.overwritten placed next).few
  · rw [size, fields]
    rfl
  · rw [minor, major, fields]
    exact ⟨rfl, rfl⟩
  · intro i bound
    have stored := flashed.blob i (by rw [OSII.blocks, ← size]; exact bound)
    rw [offset] at stored
    rw [OSII.start, stored]
    exact Function.update_of_ne (by simp only [attributeOffset]; omega) _ _

/-- A lookup by class and instance finds the entry that is meant, and a flashed image is
found again under its name. -/
theorem lookup_finds_flashed {w : World} (accepted : Accepted w) (tidy : Tidy (directory w)) :
    (Healthy w → ∀ attr wanted operation, 1 ≤ wanted →
      getAttributeOsiiIndex attr wanted operation w =
        (.ok (instanceIndex (directory w) attr wanted operation), w)) ∧
    ∀ data sz name w', name ≠ "testos" → flashImageOsip data sz name w = (.ok (), w') →
      ∃ i : Fin 8, i.val < (directory w').count ∧ HoldsImage data w' i ∧
        ∀ v, w'.Same v → Healthy v →
          getNamedOsiiIndex name .readOsipHeader v = (.ok (i : Int), v) := by
  constructor
  · intro healthy attr wanted operation first
    rw [getAttributeOsiiIndex, bind_of_ok (attempt_of_ok (readOSIP_healthy w healthy accepted))]
    change lift (resolveIndex (directory w) attr wanted operation) w = _
    rw [resolveIndex_eq _ _ _ _ tidy.few first, lift_apply]
  · intro data sz name w' ordinary ran
    rcases flashImageOsip_found ordinary tidy ran with ⟨i, accepted', resolved, few, holds⟩
    rcases (resolvesTo_read_iff few).mp resolved with ⟨attr, wanted, _, found⟩
    refine ⟨i, liveOfClass_lt found, holds, fun v same healthy => ?_⟩
    have unchanged := directory_same same
    apply getNamedOsiiIndex_healthy healthy
    · rw [Accepted, unchanged]
      exact accepted'
    · rw [unchanged]
      exact resolved

theorem twoImageDevice_tidy : Tidy (directory twoImageDevice) := by
  rw [twoImageDevice_directory]
  exact ⟨by decide, by decide⟩

theorem twoImageDevice_boot (operation : OsipOperation) :
    ResolvesTo (directory twoImageDevice) "boot" operation (0 : Fin 8) := by
  rw [twoImageDevice_directory]
  cases operation with
  | readOsipHeader => exact ⟨0, 1, rfl, by decide⟩
  | writeOsipHeader => exact ⟨0, 1, rfl, by decide⟩

theorem flashImageOsip_boot_sevens :
    ∃ w', flashImageOsip (plainImage 0 1 fun _ => 7) 1024 "boot" twoImageDevice = (.ok (), w') ∧
      Healthy w' := by
  rcases sevens_written with ⟨w', wrote, healthy⟩
  refine ⟨w', ?_, healthy⟩
  have quiet : Healthy twoImageDevice := rfl
  have index : getNamedOsiiIndex "boot" .writeOsipHeader twoImageDevice =
      (.ok ((0 : Fin 8) : Int), twoImageDevice) :=
    getNamedOsiiIndex_healthy quiet (accepted_deviceWith _) (twoImageDevice_boot .writeOsipHeader)
  rw [flashImageOsip, if_neg (by decide), bind_of_ok index]
  change (lift (checkIndexOutofbound 0) >>= fun _ =>
    writeStitchImage (renamed (plainImage 0 1 fun _ => 7) "boot") 1024 0) twoImageDevice = _
  rw [plainImage_renamed, checkIndexOutofbound_inside (by decide) (by decide), lift_ok_bind, wrote]

theorem lookup_finds_flashed_sevens :
    Tidy (directory twoImageDevice) ∧
    ∃ w', flashImageOsip (plainImage 0 1 fun _ => 7) 1024 "boot" twoImageDevice = (.ok (), w') ∧
      ∃ i : Fin 8, HoldsImage (plainImage 0 1 fun _ => 7) w' i ∧
        getNamedOsiiIndex "boot" .readOsipHeader w' = (.ok (i : Int), w') := by
  rcases flashImageOsip_boot_sevens with ⟨w', ran, healthy⟩
  rcases (lookup_finds_flashed (accepted_deviceWith _) twoImageDevice_tidy).2 _ _ _ _ (by decide)
    ran with ⟨i, _, holds, found⟩
  exact ⟨twoImageDevice_tidy, w', ran, i, holds, found w' (World.Same.refl w') healthy⟩

end A500cg.Osip
