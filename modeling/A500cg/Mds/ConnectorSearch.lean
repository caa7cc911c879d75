import A500cg.Mds.DrmHdmi

/-! `getConnector`: the search for a connector with modes, and what `drm_init` makes of it. -/

namespace A500cg.Mds

structure DrmConnector where
  connectorType : UInt32
  countModes : Int
  deriving DecidableEq, Repr

/-- The loop of `getConnector` over what the lookups give. Its variable is the result, and
a connector without modes stays in it. -/
def searchConnectors (connectorType : UInt32) :
    Option DrmConnector → List (Option DrmConnector) → Option DrmConnector
  | connector, [] => connector
  | _, none :: rest => searchConnectors connectorType none rest
  | _, some connector :: rest =>
      if connector.countModes ≤ 0 then searchConnectors connectorType (some connector) rest
      else if connector.connectorType = connectorType then some connector
      else searchConnectors connectorType none rest

/-- `getConnector`, with what the driver reports; null resources or null connectors of the
resources are `none`. -/
def getConnector (resources : Option (List (Option DrmConnector))) (connectorType : UInt32) :
    Option DrmConnector :=
  resources.bind (searchConnectors connectorType none)

structure ConnectorBuild extends DrmBuild where
  connectorDvid : UInt32
  connectorHdmia : UInt32
  connectorHdmib : UInt32

/-- What the driver reports in the first and the second search of `drm_init`; a
`VPG_DRM` build makes the second one if the first has found nothing. -/
structure InitReports where
  first : Option (List (Option DrmConnector))
  second : Option (List (Option DrmConnector))

def DrmContext.drmInit (build : ConnectorBuild) (drmFD : Int) (reports : InitReports)
    (c : DrmContext) : Bool × DrmContext :=
  let c := { c with connected := false, selectedModeIndex := -1, hdmiConnector := none }
  if drmFD ≤ 0 then (false, c)
  else
    let connector :=
      if build.vpgDrm then
        match getConnector reports.first build.connectorHdmia with
        | none => getConnector reports.second build.connectorHdmib
        | some connector => some connector
      else getConnector reports.first build.connectorDvid
    (true, { c with hdmiSupported := connector.isSome })

def DrmConnector.Usable (connector : DrmConnector) (connectorType : UInt32) : Prop :=
  connector.connectorType = connectorType ∧ 0 < connector.countModes

/-- A lookup gives a connector of the type with modes. -/
def Offers (resources : Option (List (Option DrmConnector))) (connectorType : UInt32) : Prop :=
  ∃ connector, some connector ∈ resources.getD [] ∧ connector.Usable connectorType

/-- The last lookup gives a connector without modes. -/
def LeavesOver (resources : Option (List (Option DrmConnector))) : Prop :=
  ∃ connector, (resources.getD []).getLast? = some (some connector) ∧ connector.countModes ≤ 0

/-- What is found is usable, and something is found if there is something usable. -/
structure Finds (resources : Option (List (Option DrmConnector))) (connectorType : UInt32) :
    Prop where
  usable : ∀ connector, getConnector resources connectorType = some connector →
    connector.Usable connectorType
  found : Offers resources connectorType → ∃ connector,
    getConnector resources connectorType = some connector

/-- What `drm_init` looks for is there. -/
def InitReports.OffersHdmi (build : ConnectorBuild) (reports : InitReports) : Prop :=
  if build.vpgDrm then
    Offers reports.first build.connectorHdmia ∨ Offers reports.second build.connectorHdmib
  else Offers reports.first build.connectorDvid

/-- A search that `drm_init` may make leaves a connector over. -/
def InitReports.LeavesOver (build : ConnectorBuild) (reports : InitReports) : Prop :=
  if build.vpgDrm then Mds.LeavesOver reports.first ∨ Mds.LeavesOver reports.second
  else Mds.LeavesOver reports.first

/-- HDMI is supported exactly if there is a connector for it. -/
def InitExact (build : ConnectorBuild) (drmFD : Int) (reports : InitReports) (c : DrmContext) :
    Prop :=
  (c.drmInit build drmFD reports).1 = true →
    ((c.drmInit build drmFD reports).2.hdmiSupported = true ↔ reports.OffersHdmi build)

def leftOver (connector : Option DrmConnector) (lookups : List (Option DrmConnector)) :
    Option DrmConnector :=
  lookups.getLast?.elim connector fun last => last.filter fun connector => connector.countModes ≤ 0

variable {connectorType : UInt32}

theorem leftOver_cons (connector lookup : Option DrmConnector)
    (rest : List (Option DrmConnector)) :
    leftOver connector (lookup :: rest) =
      leftOver (lookup.filter fun connector => connector.countModes ≤ 0) rest := by
  rw [leftOver, leftOver, List.getLast?_cons]
  cases rest.getLast? <;> rfl

theorem searchConnectors_cons_usable {found : DrmConnector} (usable : found.Usable connectorType)
    (connector : Option DrmConnector) (rest : List (Option DrmConnector)) :
    searchConnectors connectorType connector (some found :: rest) = some found := by
  rw [searchConnectors, if_neg (not_le.mpr usable.2), if_pos usable.1]

theorem searchConnectors_cons_unusable {lookup : Option DrmConnector}
    (unusable : ∀ found, lookup = some found → ¬ found.Usable connectorType)
    (connector : Option DrmConnector) (rest : List (Option DrmConnector)) :
    searchConnectors connectorType connector (lookup :: rest) =
      searchConnectors connectorType (lookup.filter fun connector => connector.countModes ≤ 0)
        rest := by
  cases lookup with
  | none => rfl
  | some found =>
      rw [searchConnectors]
      split
      · rename_i empty
        simp [Option.filter, empty]
      · rename_i modes
        rw [if_neg fun type => unusable found rfl ⟨type, not_le.mp modes⟩]
        simp [Option.filter, modes]

theorem searchConnectors_cases (connectorType : UInt32) (connector : Option DrmConnector)
    (lookups : List (Option DrmConnector)) :
    (∃ found, some found ∈ lookups ∧ found.Usable connectorType ∧
        searchConnectors connectorType connector lookups = some found) ∨
      ((∀ found, some found ∈ lookups → ¬ found.Usable connectorType) ∧
        searchConnectors connectorType connector lookups = leftOver connector lookups) := by
  induction lookups generalizing connector with
  | nil => exact .inr ⟨fun _ member => absurd member List.not_mem_nil, rfl⟩
  | cons lookup rest ih =>
      by_cases usable : ∃ found, lookup = some found ∧ found.Usable connectorType
      · rcases usable with ⟨found, rfl, usable⟩
        exact .inl ⟨found, List.mem_cons_self, usable, searchConnectors_cons_usable usable _ _⟩
      · have unusable : ∀ found, lookup = some found → ¬ found.Usable connectorType :=
          fun found same here => usable ⟨found, same, here⟩
        rw [searchConnectors_cons_unusable unusable, leftOver_cons]
        rcases ih (lookup.filter fun connector => connector.countModes ≤ 0) with
          ⟨found, member, there, ends⟩ | ⟨none, ends⟩
        · exact .inl ⟨found, List.mem_cons_of_mem _ member, there, ends⟩
        · refine .inr ⟨fun found member => ?_, ends⟩
          rcases List.mem_cons.mp member with first | later
          · exact unusable found first.symm
          · exact none found later

theorem leftOver_eq_some_iff (lookups : List (Option DrmConnector)) (connector : DrmConnector) :
    leftOver none lookups = some connector ↔
      lookups.getLast? = some (some connector) ∧ connector.countModes ≤ 0 := by
  rw [leftOver]
  cases lookups.getLast? with
  | none => simp
  | some last => simp [Option.filter_eq_some_iff]

theorem getConnector_cases (resources : Option (List (Option DrmConnector)))
    (connectorType : UInt32) :
    (Offers resources connectorType ∧ ∃ found, found.Usable connectorType ∧
        getConnector resources connectorType = some found) ∨
      (¬ Offers resources connectorType ∧ ∀ connector,
        getConnector resources connectorType = some connector ↔
          (resources.getD []).getLast? = some (some connector) ∧ connector.countModes ≤ 0) := by
  cases resources with
  | none => exact .inr ⟨by simp [Offers], by simp [getConnector]⟩
  | some lookups =>
      rcases searchConnectors_cases connectorType none lookups with
        ⟨found, member, usable, ends⟩ | ⟨none, ends⟩
      · exact .inl ⟨⟨found, member, usable⟩, found, usable, ends⟩
      · refine .inr ⟨fun ⟨found, member, usable⟩ => none found member usable, fun connector => ?_⟩
        rw [getConnector, Option.bind_some, ends]
        exact leftOver_eq_some_iff lookups connector

theorem getConnector_isSome_iff (resources : Option (List (Option DrmConnector)))
    (connectorType : UInt32) : (getConnector resources connectorType).isSome = true ↔
      Offers resources connectorType ∨ LeavesOver resources := by
  rw [Option.isSome_iff_exists]
  rcases getConnector_cases resources connectorType with ⟨offers, found, _, ends⟩ | ⟨none, ends⟩
  · exact iff_of_true ⟨found, ends⟩ (.inl offers)
  · rw [or_iff_right none]
    exact exists_congr ends

theorem finds_iff (resources : Option (List (Option DrmConnector))) (connectorType : UInt32) :
    Finds resources connectorType ↔ Offers resources connectorType ∨ ¬ LeavesOver resources := by
  rcases getConnector_cases resources connectorType with
    ⟨offers, found, usable, ends⟩ | ⟨none, ends⟩
  · refine iff_of_true ⟨fun connector same => ?_, fun _ => ⟨found, ends⟩⟩ (.inl offers)
    cases ends.symm.trans same
    exact usable
  · rw [or_iff_right none]
    constructor
    · rintro finds ⟨connector, left, empty⟩
      have usable := finds.usable connector ((ends connector).mpr ⟨left, empty⟩)
      exact absurd empty (not_le.mpr usable.2)
    · intro nothing
      refine ⟨fun connector same => ?_, fun offers => absurd offers none⟩
      exact absurd ⟨connector, (ends connector).mp same⟩ nothing

theorem drmInit_hdmiSupported (build : ConnectorBuild) {drmFD : Int} (opened : ¬ drmFD ≤ 0)
    (reports : InitReports) (c : DrmContext) :
    (c.drmInit build drmFD reports).1 = true ∧
      ((c.drmInit build drmFD reports).2.hdmiSupported = true ↔
        reports.OffersHdmi build ∨ reports.LeavesOver build) := by
  simp only [DrmContext.drmInit, if_neg opened, true_and, InitReports.OffersHdmi,
    InitReports.LeavesOver]
  cases build.vpgDrm with
  | false => exact getConnector_isSome_iff reports.first build.connectorDvid
  | true =>
      have first := getConnector_isSome_iff reports.first build.connectorHdmia
      have second := getConnector_isSome_iff reports.second build.connectorHdmib
      simp only [if_true]
      rw [or_or_or_comm, ← first, ← second]
      cases getConnector reports.first build.connectorHdmia with
      | none => simp
      | some connector => simp

/-- A search finds what it should exactly if there is something usable or nothing is left
over, and `drm_init` is right about the support of HDMI under the same condition, unless the
device cannot be opened. -/
theorem connector_search_iff (build : ConnectorBuild) (drmFD : Int) (reports : InitReports)
    (c : DrmContext) :
    (∀ resources connectorType, Finds resources connectorType ↔
      Offers resources connectorType ∨ ¬ LeavesOver resources) ∧
    (InitExact build drmFD reports c ↔
      drmFD ≤ 0 ∨ reports.OffersHdmi build ∨ ¬ reports.LeavesOver build) := by
  refine ⟨finds_iff, ?_⟩
  by_cases failed : drmFD ≤ 0
  · refine iff_of_true (fun done => ?_) (.inl failed)
    simp [DrmContext.drmInit, failed] at done
  · have init := drmInit_hdmiSupported build failed reports c
    rw [InitExact, or_iff_right failed, init.1, init.2, forall_prop_of_true rfl]
    tauto

/-- The connector of the type is the last one, and nothing is plugged in. -/
theorem unplugged_connector_found :
    ¬ Finds (some [some ⟨3, 0⟩]) 3 ∧
      ¬ InitExact ⟨⟨false, 0x10, 0x8000, 0x4000, 2, 1⟩, 3, 11, 12⟩ 5
        ⟨some [some ⟨3, 0⟩], none⟩ (drmInit false) := by
  have none : ¬ Offers (some [some ⟨3, 0⟩]) 3 := by
    rintro ⟨connector, member, usable⟩
    cases List.mem_singleton.mp member
    exact absurd usable.2 (by decide)
  constructor
  · intro finds
    have usable := finds.usable ⟨3, 0⟩ (by decide)
    exact absurd usable.2 (by decide)
  · intro initExact
    exact none ((initExact (by decide)).mp (by decide))

end A500cg.Mds
