import A500cg.Lib.CString
import A500cg.Lib.PatternSearch
import A500cg.Mds.DrmHdmi
import Mathlib.Data.List.ReduceOption

/-! `drm_hdmi_getConnectionStatus` without `VPG_DRM`: how the EDID tells HDMI from DVI, and which
of its bytes are read. -/

namespace A500cg.Mds

open Lib

/-- A property of a connector: its name, and its blob and the data of that; each of the three
pointers may be null. The blob is as long as its data. -/
structure DrmProperty where
  name : Option CString
  blob : Option (Option (List UInt8))
  deriving DecidableEq

/-- What the driver reports of a connector; a property that cannot be read is `none`. -/
structure SinkReport where
  modes : Option (List ModeInfo)
  props : List (Option DrmProperty)
  deriving DecidableEq

def edidName : CString := ⟨[0x45, 0x44, 0x49, 0x44], by decide⟩

def DrmProperty.isEdid (props : DrmProperty) : Bool :=
  match props.name with
  | none => false
  | some name => strncmp name.bytes edidName.bytes 5 == 0

/-- The comparison at offset `n`; a byte behind the blob is `none`. -/
def vsdbAt (edidBinary : List UInt8) (n : Nat) : Option Bool := do
  if (← edidBinary[n]?) = 0x03 then
    if (← edidBinary[n + 1]?) = 0x0c then return (← edidBinary[n + 2]?) = 0x00
    else return false
  else return false

def vsdbOffsets : List Nat := (List.range (HDMI_TIMING_MAX - 3 + 1)).map (HDMI_TIMING_MAX + ·)

def examineEdid (edidBinary : List UInt8) : Option ConnectStatus := do
  if (← edidBinary[126]?) = 0 then return .dvi
  else if ← searchIn (vsdbAt edidBinary) vsdbOffsets then return .hdmi
  else return .dvi

def examineBlob : Option (Option (List UInt8)) → Option ConnectStatus
  | some (some data) =>
      if data.length < HDMI_TIMING_MAX then some .disconnected else examineEdid data
  | _ => some .disconnected

/-- The loop over the properties, which ends at the first one with the name `EDID`. -/
def examineProps : List (Option DrmProperty) → Option ConnectStatus
  | [] => some .disconnected
  | none :: rest => examineProps rest
  | some props :: rest => if !props.isEdid then examineProps rest else examineBlob props.blob

def SinkReport.connector (report : SinkReport) (status : ConnectStatus) : Connector :=
  ⟨report.modes, status⟩

/-- `drm_hdmi_getConnectionStatus`: the properties are looked at if HDMI is supported and the
connector has modes. -/
def inspectConnectionStatus (found : Option SinkReport) (c : DrmContext) :
    Option (ConnectStatus × DrmContext) :=
  match found with
  | none => some (drmHdmiGetConnectionStatus none c)
  | some report =>
      if c.hdmiSupported && report.modes.isSome then do
        let status ← examineProps report.props
        return drmHdmiGetConnectionStatus (some (report.connector status)) c
      else some (drmHdmiGetConnectionStatus (some (report.connector .disconnected)) c)

/-! What is expected. -/

def vsdb : List UInt8 := [0x03, 0x0c, 0x00]

def firstExtension (edid : List UInt8) : List UInt8 := (edid.drop 128).take 128

def HasVsdb (edid : List UInt8) : Prop :=
  edid[126]? ≠ some 0 ∧ vsdb <:+: firstExtension edid

/-- The property of the connector that has the name `EDID`. -/
def edidProperty (props : List (Option DrmProperty)) : Option DrmProperty :=
  props.reduceOption.find? fun property => property.name = some edidName

structure SinkReport.HasEdid (report : SinkReport) (edid : List UInt8) : Prop where
  modes : report.modes ≠ none
  property : ∃ property, edidProperty report.props = some property ∧
    property.blob = some (some edid)
  length : 128 ≤ edid.length

/-- Only bytes of the blob are read, and what they say is returned. -/
structure InspectionExact (found : Option SinkReport) (c : DrmContext) : Prop where
  bounded : inspectConnectionStatus found c ≠ none
  hdmi : ∀ report edid, found = some report → c.hdmiSupported = true → report.HasEdid edid →
    HasVsdb edid → (inspectConnectionStatus found c).map Prod.fst = some .hdmi
  dvi : ∀ report edid, found = some report → c.hdmiSupported = true → report.HasEdid edid →
    ¬ HasVsdb edid → (inspectConnectionStatus found c).map Prod.fst = some .dvi

/-- The blob says that it has an extension, there are no VSDB bytes in what it has of that, and
it ends before an offset of the search, or there in the middle of such bytes. -/
structure EndsInSearch (edid : List UInt8) : Prop where
  extension : edid[126]? ≠ some 0
  absent : ¬ vsdb <:+: firstExtension edid
  cut : ∃ n, 128 ≤ n ∧ n < 254 ∧ edid.drop n <+: vsdb.dropLast

variable {edid : List UInt8}

theorem vsdbAt_eq (edid : List UInt8) (n : Nat) :
    vsdbAt edid n = compareHead vsdb (edid.drop n) := by
  have first : edid[n]? = (edid.drop n)[0]? := by rw [List.getElem?_drop, Nat.add_zero]
  have second : edid[n + 1]? = (edid.drop n)[1]? := by rw [List.getElem?_drop]
  have third : edid[n + 2]? = (edid.drop n)[2]? := by rw [List.getElem?_drop]
  rw [vsdbAt, first, second, third]
  generalize edid.drop n = cells
  rcases cells with _ | ⟨a, _ | ⟨b, _ | ⟨c, rest⟩⟩⟩
  · rfl
  · by_cases same : a = 0x03 <;> simp [vsdb, compareHead, same]
  · by_cases same : a = 0x03 <;> by_cases same' : b = 0x0c <;> simp [vsdb, compareHead, same, same']
  · by_cases same : a = 0x03 <;> by_cases same' : b = 0x0c <;> by_cases same'' : c = 0 <;>
      simp [vsdb, compareHead, same, same', same'']

theorem mem_vsdbOffsets {n : Nat} : n ∈ vsdbOffsets ↔ 128 ≤ n ∧ n < 254 := by
  simp only [vsdbOffsets, HDMI_TIMING_MAX, List.mem_map, List.mem_range]
  constructor
  · rintro ⟨j, below, rfl⟩
    omega
  · rintro ⟨behind, below⟩
    exact ⟨n - 128, by omega, by omega⟩

theorem vsdbOffsets_ordered (edid : List UInt8) :
    vsdbOffsets.Pairwise fun n m => vsdbAt edid m = some true → vsdbAt edid n ≠ none := by
  have increasing : vsdbOffsets.Pairwise (· < ·) :=
    List.Pairwise.map _ (fun _ _ below => Nat.add_lt_add_left below _) List.pairwise_lt_range
  refine increasing.imp fun {n m} below found ended => ?_
  rw [vsdbAt_eq, compareHead_eq_true_iff] at found
  rw [vsdbAt_eq, compareHead_eq_none_iff] at ended
  have enough := found.length_le
  have few := ended.1.length_le
  have short : (edid.drop n).length ≠ vsdb.length := fun same => ended.2 (ended.1.eq_of_length same)
  simp only [List.length_drop, vsdb, List.length_cons, List.length_nil] at enough few short
  omega

theorem vsdb_infix_iff :
    vsdb <:+: firstExtension edid ↔ ∃ n ∈ vsdbOffsets, vsdbAt edid n = some true := by
  rw [infix_iff_prefix_drop]
  constructor
  · rintro ⟨k, here⟩
    rw [firstExtension, List.drop_take, List.drop_drop, List.prefix_take_iff] at here
    have room : 3 ≤ 128 - k := here.2
    refine ⟨128 + k, mem_vsdbOffsets.mpr ⟨by omega, by omega⟩, ?_⟩
    rw [vsdbAt_eq, compareHead_eq_true_iff]
    exact here.1
  · rintro ⟨n, member, found⟩
    obtain ⟨behind, below⟩ := mem_vsdbOffsets.mp member
    obtain ⟨k, rfl⟩ := Nat.exists_eq_add_of_le behind
    rw [vsdbAt_eq, compareHead_eq_true_iff] at found
    refine ⟨k, ?_⟩
    rw [firstExtension, List.drop_take, List.drop_drop, List.prefix_take_iff]
    exact ⟨found, Nat.le_sub_of_add_le' (show k + 3 ≤ 128 by omega)⟩

theorem vsdbAt_eq_none_iff {n : Nat} :
    vsdbAt edid n = none ↔ edid.drop n <+: vsdb.dropLast := by
  rw [vsdbAt_eq, compareHead_eq_none_iff, List.dropLast_eq_take, List.prefix_take_iff]
  refine and_congr_right fun begins => ?_
  have few : (edid.drop n).length ≤ 3 := begins.length_le
  have full : (edid.drop n).length = 3 ↔ edid.drop n = vsdb :=
    ⟨begins.eq_of_length, fun same => by rw [same]; rfl⟩
  rw [ne_eq, ← full, show vsdb.length - 1 = 2 from rfl]
  omega

theorem examineEdid_eq_none_iff (block : 128 ≤ edid.length) :
    examineEdid edid = none ↔ EndsInSearch edid := by
  have extension : edid[126]? = some edid[126] := List.getElem?_eq_getElem (by omega)
  have search := searchIn_eq_none_iff (vsdbOffsets_ordered edid)
  simp only [examineEdid, extension, Option.bind_eq_bind, Option.bind_some]
  by_cases noExtension : edid[126] = 0
  · refine iff_of_false (by simp [noExtension]) fun ends => ends.extension ?_
    rw [extension, noExtension]
  · have searched : searchIn (vsdbAt edid) vsdbOffsets = none ↔ EndsInSearch edid := by
      rw [search]
      constructor
      · rintro ⟨absent, n, member, cut⟩
        obtain ⟨behind, below⟩ := mem_vsdbOffsets.mp member
        refine ⟨by simpa [extension] using noExtension, fun present => ?_,
          n, behind, below, vsdbAt_eq_none_iff.mp cut⟩
        obtain ⟨m, member, found⟩ := vsdb_infix_iff.mp present
        exact absent m member found
      · intro ends
        obtain ⟨n, behind, below, cut⟩ := ends.cut
        refine ⟨fun m member found => ends.absent (vsdb_infix_iff.mpr ⟨m, member, found⟩), n, ?_⟩
        exact ⟨mem_vsdbOffsets.mpr ⟨behind, below⟩, vsdbAt_eq_none_iff.mpr cut⟩
    rw [← searched]
    cases searchIn (vsdbAt edid) vsdbOffsets with
    | none => simp [noExtension]
    | some found => cases found <;> simp [noExtension]

theorem examineEdid_of_bounded (block : 128 ≤ edid.length) (bounded : ¬ EndsInSearch edid) :
    (HasVsdb edid → examineEdid edid = some .hdmi) ∧
      (¬ HasVsdb edid → examineEdid edid = some .dvi) := by
  have extension : edid[126]? = some edid[126] := List.getElem?_eq_getElem (by omega)
  have search := searchIn_eq_true_iff (vsdbOffsets_ordered edid)
  rw [← vsdb_infix_iff] at search
  rw [← examineEdid_eq_none_iff block] at bounded
  revert bounded
  simp only [examineEdid, HasVsdb, extension, Option.bind_eq_bind, Option.bind_some, ne_eq,
    Option.some.injEq, ← search]
  by_cases noExtension : edid[126] = 0
  · simp [noExtension]
  · cases searchIn (vsdbAt edid) vsdbOffsets with
    | none => simp [noExtension]
    | some found => cases found <;> simp [noExtension]

theorem DrmProperty.isEdid_iff (props : DrmProperty) :
    props.isEdid = true ↔ props.name = some edidName := by
  rw [isEdid]
  cases props.name with
  | none => simp
  | some name =>
      have same := strncmp_eq_zero_iff edidName.bytes name.bytes 5 edidName.noNul name.noNul
        (by decide)
      rw [beq_iff_eq, strncmp_eq_zero_comm, same, Option.some.injEq, eq_comm, CString.ext_iff]

theorem examineProps_eq (props : List (Option DrmProperty)) :
    examineProps props =
      (edidProperty props).elim (some .disconnected) fun property => examineBlob property.blob := by
  induction props with
  | nil => rfl
  | cons property rest ih =>
      cases property with
      | none => exact ih
      | some property =>
          rw [examineProps, edidProperty, List.reduceOption_cons_of_some, List.find?_cons]
          by_cases name : property.name = some edidName
          · simp [property.isEdid_iff.mpr name, name]
          · have other : property.isEdid = false :=
              Bool.eq_false_iff.mpr fun isEdid => name (property.isEdid_iff.mp isEdid)
            simpa [other, name, edidProperty] using ih

variable {report : SinkReport}

theorem SinkReport.HasEdid.examined (has : report.HasEdid edid) :
    report.modes.isSome = true ∧ examineProps report.props = examineEdid edid := by
  obtain ⟨property, first, blob⟩ := has.property
  have long : ¬ edid.length < HDMI_TIMING_MAX := not_lt.mpr has.length
  refine ⟨Option.isSome_iff_ne_none.mpr has.modes, ?_⟩
  rw [examineProps_eq, first, Option.elim_some, blob, examineBlob, if_neg long]

theorem examineProps_of_not_hasEdid (modes : report.modes ≠ none)
    (none : ∀ edid, ¬ report.HasEdid edid) : examineProps report.props = some .disconnected := by
  rw [examineProps_eq]
  cases first : edidProperty report.props with
  | none => rfl
  | some property =>
      rw [Option.elim_some]
      rcases blob : property.blob with _ | _ | edid
      · rfl
      · rfl
      · rw [examineBlob, if_pos]
        by_contra long
        exact none edid ⟨modes, ⟨property, first, blob⟩, not_lt.mp long⟩

theorem drmHdmiGetConnectionStatus_fst {c : DrmContext} (supported : c.hdmiSupported = true)
    {modes : List ModeInfo} (status : ConnectStatus) :
    (drmHdmiGetConnectionStatus (some ⟨some modes, status⟩) c).1 = status := by
  simp [drmHdmiGetConnectionStatus, supported, getHdmiConnector]

theorem inspectConnectionStatus_of_hasEdid {c : DrmContext} (supported : c.hdmiSupported = true)
    (has : report.HasEdid edid) :
    (inspectConnectionStatus (some report) c).map Prod.fst = examineEdid edid := by
  obtain ⟨listed, examined⟩ := has.examined
  obtain ⟨modes, there⟩ := Option.isSome_iff_exists.mp listed
  simp only [inspectConnectionStatus, supported, listed, Bool.and_self, if_true, examined]
  cases examineEdid edid with
  | none => rfl
  | some status =>
      apply congrArg some
      rw [SinkReport.connector, there]
      exact drmHdmiGetConnectionStatus_fst supported status

theorem inspectConnectionStatus_ne_none {c : DrmContext} (found : Option SinkReport)
    (unread : ∀ report edid, found = some report → c.hdmiSupported = true →
      ¬ report.HasEdid edid) : inspectConnectionStatus found c ≠ none := by
  cases found with
  | none => simp [inspectConnectionStatus]
  | some report =>
      rw [inspectConnectionStatus]
      split
      · rename_i both
        obtain ⟨supported, listed⟩ := (Bool.and_eq_true _ _).mp both
        rw [examineProps_of_not_hasEdid (Option.isSome_iff_ne_none.mp listed)
          fun edid => unread report edid rfl supported]
        simp
      · simp

/-- The inspection stays within the blob and is right exactly if a blob that is searched does
not end in the search. -/
theorem edid_inspection_iff (found : Option SinkReport) (c : DrmContext) :
    InspectionExact found c ↔ ∀ report edid, found = some report → c.hdmiSupported = true →
      report.HasEdid edid → ¬ EndsInSearch edid := by
  constructor
  · rintro inspection report edid rfl supported has ends
    have status := inspectConnectionStatus_of_hasEdid supported has
    rw [(examineEdid_eq_none_iff has.length).mpr ends] at status
    exact inspection.bounded (Option.map_eq_none_iff.mp status)
  · intro within
    refine ⟨?_, ?_, ?_⟩
    · by_cases searched : ∃ report edid, found = some report ∧ c.hdmiSupported = true ∧
        report.HasEdid edid
      · obtain ⟨report, edid, rfl, supported, has⟩ := searched
        intro stray
        have status := inspectConnectionStatus_of_hasEdid supported has
        rw [stray] at status
        exact within report edid rfl supported has
          ((examineEdid_eq_none_iff has.length).mp status.symm)
      · apply inspectConnectionStatus_ne_none
        intro report edid same supported has
        exact searched ⟨report, edid, same, supported, has⟩
    · rintro report edid rfl supported has present
      rw [inspectConnectionStatus_of_hasEdid supported has]
      exact (examineEdid_of_bounded has.length (within report edid rfl supported has)).1 present
    · rintro report edid rfl supported has absent
      rw [inspectConnectionStatus_of_hasEdid supported has]
      exact (examineEdid_of_bounded has.length (within report edid rfl supported has)).2 absent

def oneBlock : List UInt8 := List.replicate 126 0 ++ [1, 0]

def sinkWith (edid : List UInt8) : SinkReport :=
  ⟨some [⟨1280, 720, 60, 0, 0⟩], [none, some ⟨some edidName, some (some edid)⟩]⟩

theorem sinkWith_hasEdid {edid : List UInt8} (block : 128 ≤ edid.length) :
    (sinkWith edid).HasEdid edid :=
  ⟨Option.some_ne_none _, ⟨_, rfl, rfl⟩, block⟩

/-- The search begins right behind the only block. -/
theorem oneBlock_search_reads_on : ¬ InspectionExact (some (sinkWith oneBlock)) (drmInit true) := by
  intro inspection
  have length : oneBlock.length = 128 := by simp [oneBlock]
  have nothing : oneBlock.drop 128 = [] := List.drop_eq_nil_of_le length.le
  have ends : EndsInSearch oneBlock := by
    refine ⟨by simp [oneBlock], ?_, 128, le_rfl, by decide, ?_⟩
    · rw [firstExtension, nothing]
      decide
    · rw [nothing]
      exact List.nil_prefix
  have status := inspectConnectionStatus_of_hasEdid (c := drmInit true) rfl
    (sinkWith_hasEdid length.ge)
  rw [(examineEdid_eq_none_iff length.ge).mpr ends] at status
  exact inspection.bounded (Option.map_eq_none_iff.mp status)

end A500cg.Mds
