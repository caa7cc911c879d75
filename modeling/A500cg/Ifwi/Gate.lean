import A500cg.Ifwi.Crack

/-! `update_ifwi_file_scu_ipc` in a build without `CLVT`: the gate on the IFWI version, and the
copy of the two files to the update nodes with bounded retries.

What is done with the nodes is recorded. How the opens end, and how much each `fwrite` takes, is
given. -/

namespace A500cg.Ifwi

open Lib

def PTI_ENABLE_BIT : UInt8 := 0x80
def BUF_SIZ : Nat := 4096

inductive UpdateNode where
  | dnx
  | ifwi
  deriving DecidableEq, Repr

/-- An `fopen` for writing, of a node's path or of the other path it may have, and the bytes one
`fwrite` has taken. -/
inductive NodeEvent where
  | opening (node : UpdateNode) (alt success : Bool)
  | handed (node : UpdateNode) (bytes : List UInt8)
  deriving DecidableEq, Repr

def NodeEvent.node : NodeEvent → UpdateNode
  | opening node _ _ => node
  | handed node _ => node

/-- The two files, whether the IFWI file opens once more, the device's versions, which of the
nodes' paths open, and how many bytes the calls of `fwrite` take at most, in turn. -/
structure UpdateEnv where
  dnx : Option (List UInt8)
  ifwi : Option (List UInt8)
  reopens : Bool
  current : Option FirmwareVersions
  opens : UpdateNode → Bool → Bool
  taken : List Nat

/-- `crack_update_fw` on a file that may not open. -/
def crackFile (file : Option (List UInt8)) : Option FwVersion :=
  (Stream.fopen file).bind fun fd => crackUpdateFw fd.bytes

/-- `crack_update_fw_pti_field` on a file that may not open. -/
def crackPtiField (file : Option (List UInt8)) : Option UInt8 :=
  (Stream.fopen file).bind fun fd => crackUpdateFwPtiField fd.bytes

def ifwiDowngradeAllowed (ifwi : Option (List UInt8)) : Int :=
  match crackPtiField ifwi with
  | none => -1
  | some ptiField => if ptiField &&& PTI_ENABLE_BIT ≠ 0 then 1 else 0

def retryWrite (node : UpdateNode) : Nat → List UInt8 → List Nat → Bool × List NodeEvent × List Nat
  | _, [], taken => (true, [], taken)
  | 0, _ :: _, taken => (false, [], taken)
  | tries + 1, byte :: rest, taken =>
      let left := byte :: rest
      let count := min (taken.headD left.length) left.length
      let (done, events, taken) := retryWrite node tries (left.drop count) taken.tail
      (done, .handed node (left.take count) :: events, taken)

def copyToNode (node : UpdateNode) (bytes : List UInt8) (taken : List Nat) :
    Bool × List NodeEvent × List Nat :=
  if _more : 0 < (bytes.take BUF_SIZ).length then
    match retryWrite node 3 (bytes.take BUF_SIZ) taken with
    | (false, events, taken) => (false, events, taken)
    | (true, events, taken) =>
        let (done, later, taken) := copyToNode node (bytes.drop BUF_SIZ) taken
        (done, events ++ later, taken)
  else (true, [], taken)
termination_by bytes.length
decreasing_by
  simp only [List.length_take, List.length_drop, BUF_SIZ] at *
  omega

def openNode (env : UpdateEnv) (node : UpdateNode) : Bool × List NodeEvent :=
  if env.opens node false then (true, [.opening node false true])
  else (env.opens node true,
    [.opening node false false, .opening node true (env.opens node true)])

def flashNode (env : UpdateEnv) (node : UpdateNode) (bytes : List UInt8) (taken : List Nat) :
    Bool × List NodeEvent × List Nat :=
  match openNode env node with
  | (false, opening) => (false, opening, taken)
  | (true, opening) =>
      let (done, events, taken) := copyToNode node bytes taken
      (done, opening ++ events, taken)

/-- What `update_ifwi_file_scu_ipc` does once it has found an IFWI to be flashed. -/
def flashFiles (env : UpdateEnv) : Int × List NodeEvent :=
  match Stream.fopen env.dnx with
  | none => (-1, [])
  | some src =>
      match flashNode env .dnx src.bytes env.taken with
      | (false, events, _) => (-1, events)
      | (true, events, taken) =>
          match (if env.reopens then Stream.fopen env.ifwi else none) with
          | none => (-1, events)
          | some src =>
              let (done, later, _) := flashNode env .ifwi src.bytes taken
              (if done then 0 else -1, events ++ later)

def updateIfwiFileScuIpc (env : UpdateEnv) : Int × List NodeEvent :=
  match crackFile env.ifwi with
  | none => (-1, [])
  | some img =>
      match env.current with
      | none => (-1, [])
      | some dev =>
          let allowed := ifwiDowngradeAllowed env.ifwi
          if allowed = -1 then (-1, [])
          else if img.major ≠ dev.ifwi.major then (0, [])
          else if img.minor < dev.ifwi.minor ∧ allowed = 0 then (0, [])
          else if img.minor = dev.ifwi.minor then (0, [])
          else flashFiles env

def handedTo (node : UpdateNode) (events : List NodeEvent) : List UInt8 :=
  events.flatMap fun
    | .opening _ _ _ => []
    | .handed other bytes => if other = node then bytes else []

theorem handedTo_append (node : UpdateNode) (first second : List NodeEvent) :
    handedTo node (first ++ second) = handedTo node first ++ handedTo node second :=
  List.flatMap_append

theorem handedTo_cons (node : UpdateNode) (bytes : List UInt8) (events : List NodeEvent) :
    handedTo node (.handed node bytes :: events) = bytes ++ handedTo node events := by
  rw [handedTo, List.flatMap_cons]
  simp only [if_true]
  rfl

/-- Events at one node only, which handed it the given bytes if the operation succeeded. -/
structure Delivers (node : UpdateNode) (bytes : List UInt8) (done : Bool)
    (events : List NodeEvent) : Prop where
  only : ∀ event ∈ events, event.node = node
  all : done = true → handedTo node events = bytes

namespace Delivers

variable {node : UpdateNode} {bytes bytes' : List UInt8} {done : Bool}
  {events events' : List NodeEvent}

theorem nothing : Delivers node [] done [] := ⟨List.forall_mem_nil _, fun _ => rfl⟩

theorem failed (only : ∀ event ∈ events, event.node = node) : Delivers node bytes false events := by
  refine ⟨only, fun impossible => ?_⟩
  cases impossible

theorem append (first : Delivers node bytes true events) (second : Delivers node bytes' done events') :
    Delivers node (bytes ++ bytes') done (events ++ events') := by
  constructor
  · intro event member
    rcases List.mem_append.mp member with early | late
    · exact first.only event early
    · exact second.only event late
  · intro finished
    rw [handedTo_append, first.all rfl, second.all finished]

end Delivers

theorem retryWrite_delivers (node : UpdateNode) (tries : Nat) (left : List UInt8) (taken : List Nat) :
    Delivers node left (retryWrite node tries left taken).1
      (retryWrite node tries left taken).2.1 := by
  fun_induction retryWrite node tries left taken with
  | case1 tries taken => exact .nothing
  | case2 byte rest taken => exact .failed (List.forall_mem_nil _)
  | case3 tries byte rest taken left count done events taken' ran ih =>
      rw [ran] at ih
      have call : Delivers node (left.take count) true [.handed node (left.take count)] := by
        refine ⟨List.forall_mem_singleton.mpr rfl, fun _ => ?_⟩
        rw [handedTo_cons]
        exact List.append_nil _
      have both := call.append ih
      rwa [List.take_append_drop] at both

theorem copyToNode_delivers (node : UpdateNode) (bytes : List UInt8) (taken : List Nat) :
    Delivers node bytes (copyToNode node bytes taken).1 (copyToNode node bytes taken).2.1 := by
  fun_induction copyToNode node bytes taken with
  | case1 bytes taken more events taken' ran =>
      have chunk := retryWrite_delivers node 3 (bytes.take BUF_SIZ) taken
      rw [ran] at chunk
      exact .failed chunk.only
  | case2 bytes taken more events taken' ran done later taken'' copied ih =>
      have chunk := retryWrite_delivers node 3 (bytes.take BUF_SIZ) taken
      rw [ran] at chunk
      rw [copied] at ih
      have both := chunk.append ih
      rwa [List.take_append_drop] at both
  | case3 bytes taken done =>
      have empty : bytes = [] := by
        rw [List.length_take] at done
        simp only [BUF_SIZ] at done
        exact List.eq_nil_of_length_eq_zero (by omega)
      rw [empty]
      exact .nothing

theorem openNode_delivers (env : UpdateEnv) (node : UpdateNode) (done : Bool) :
    Delivers node [] done (openNode env node).2 := by
  rw [openNode]
  split
  · exact ⟨List.forall_mem_singleton.mpr rfl, fun _ => rfl⟩
  · refine ⟨?_, fun _ => rfl⟩
    intro event member
    rcases List.mem_cons.mp member with rfl | later
    · rfl
    · rw [List.mem_singleton.mp later]
      rfl

theorem flashNode_delivers (env : UpdateEnv) (node : UpdateNode) (bytes : List UInt8)
    (taken : List Nat) :
    Delivers node bytes (flashNode env node bytes taken).1 (flashNode env node bytes taken).2.1 := by
  have opening := openNode_delivers env node true
  rw [flashNode]
  split
  · rename_i events opened
    rw [opened] at opening
    exact .failed opening.only
  · rename_i events opened
    rw [opened] at opening
    exact opening.append (copyToNode_delivers node bytes taken)

/-- Every byte of the DNX file went to its node, and then every byte of the IFWI file to its own. -/
def BothDelivered (env : UpdateEnv) (events : List NodeEvent) : Prop :=
  ∃ dnx ifwi front back, env.dnx = some dnx ∧ env.ifwi = some ifwi ∧ events = front ++ back ∧
    (∀ event ∈ front, event.node = .dnx) ∧ handedTo .dnx front = dnx ∧
    (∀ event ∈ back, event.node = .ifwi) ∧ handedTo .ifwi back = ifwi

theorem fopen_bytes {file : Option (List UInt8)} {fd : Stream} (opened : Stream.fopen file = some fd) :
    file = some fd.bytes ∧ fd.bytes.length < 2 ^ 31 := by
  cases file with
  | none => cases opened
  | some bytes =>
      simp only [Stream.fopen] at opened
      split at opened
      · rename_i small
        cases opened
        exact ⟨rfl, small⟩
      · cases opened

theorem flashFiles_delivers {env : UpdateEnv} (done : (flashFiles env).1 = 0) :
    BothDelivered env (flashFiles env).2 := by
  simp only [flashFiles] at done ⊢
  cases opened : Stream.fopen env.dnx with
  | none =>
      rw [opened] at done
      cases done
  | some src =>
      have first := flashNode_delivers env .dnx src.bytes env.taken
      rw [opened] at done
      simp only at done ⊢
      rcases ran : flashNode env .dnx src.bytes env.taken with ⟨ok, front, taken⟩
      rw [ran] at done first
      cases ok with
      | false => cases done
      | true =>
          simp only at done ⊢
          cases reopened : (if env.reopens then Stream.fopen env.ifwi else none) with
          | none =>
              rw [reopened] at done
              cases done
          | some source =>
              have second := flashNode_delivers env .ifwi source.bytes taken
              have again : Stream.fopen env.ifwi = some source := by
                split at reopened
                · exact reopened
                · cases reopened
              rw [reopened] at done
              simp only at done ⊢
              rcases ran' : flashNode env .ifwi source.bytes taken with ⟨ok, back, rest⟩
              rw [ran'] at done second
              cases ok with
              | false => cases done
              | true =>
                  exact ⟨src.bytes, source.bytes, front, back, (fopen_bytes opened).1,
                    (fopen_bytes again).1, rfl, first.only, first.all rfl, second.only,
                    second.all rfl⟩

/-- The first place of a word in the image, at any byte offset. -/
def FirstWord (pattern : UInt32) (image : List UInt8) (q : Nat) : Prop :=
  q + 4 ≤ image.length ∧ wordAt pattern image q = true ∧ ∀ p < q, wordAt pattern image p = false

theorem pti_set {image : List UInt8} {ptiField : UInt8}
    (cracked : crackUpdateFwPtiField image = some ptiField) (set : ptiField &&& PTI_ENABLE_BIT ≠ 0) :
    ∃ q, FirstWord SMIP_PATTERN image q ∧ image[q + 0x30C]? = some ptiField := by
  rcases Option.bind_eq_some_iff.mp cracked with ⟨q, found, value⟩
  rcases scan_one_eq_some.mp found with ⟨_, fits, here, first⟩
  refine ⟨q, ⟨fits, here, fun p before => first p (Nat.zero_le _) before⟩, ?_⟩
  by_cases reached : q + 0x30C < 2 ^ 31
  · rwa [if_pos reached] at value
  · rw [if_neg reached] at value
    have word : le32 (bytesOf image) q = SMIP_PATTERN := beq_iff_eq.mp here
    have letter : bytesOf image (q + 1) = 0x4D := by
      rw [← leByte_le32 (bytesOf image) q 1 (by decide), word]
      decide
    rw [bytesOf, List.getD_eq_getElem?_getD, value, Option.getD_some] at letter
    rw [letter] at set
    exact absurd (by decide) set

/-- The gate let the image pass. -/
def GatePassed (env : UpdateEnv) : Prop :=
  ∃ file img dev, env.ifwi = some file ∧
    (∃ turns, ∀ fuel, turns ≤ fuel → crackUpdateFwFile fuel env.ifwi = some (some img)) ∧
    env.current = some dev ∧ img.major = dev.ifwi.major ∧ img.minor ≠ dev.ifwi.minor ∧
    (dev.ifwi.minor < img.minor ∨
      ∃ q ptiField, FirstWord SMIP_PATTERN file q ∧ file[q + 0x30C]? = some ptiField ∧
        ptiField &&& PTI_ENABLE_BIT ≠ 0)

theorem downgrade_allowed {ifwi : Option (List UInt8)} (decided : ifwiDowngradeAllowed ifwi ≠ -1)
    (allowed : ifwiDowngradeAllowed ifwi ≠ 0) :
    ∃ file, ifwi = some file ∧ ∃ q ptiField, FirstWord SMIP_PATTERN file q ∧
      file[q + 0x30C]? = some ptiField ∧ ptiField &&& PTI_ENABLE_BIT ≠ 0 := by
  rw [ifwiDowngradeAllowed] at decided allowed
  cases cracked : crackPtiField ifwi with
  | none =>
      rw [cracked] at decided
      exact absurd rfl decided
  | some ptiField =>
      rw [cracked] at allowed
      simp only at allowed
      have set : ptiField &&& PTI_ENABLE_BIT ≠ 0 := by
        intro clear
        rw [if_neg (not_not.mpr clear)] at allowed
        exact allowed rfl
      rcases Option.bind_eq_some_iff.mp cracked with ⟨fd, opened, value⟩
      rcases pti_set value set with ⟨q, first, byte⟩
      exact ⟨fd.bytes, (fopen_bytes opened).1, q, ptiField, first, byte, set⟩

theorem updateIfwiFileScuIpc_cases (env : UpdateEnv) :
    (updateIfwiFileScuIpc env).2 = [] ∨
      (GatePassed env ∧ updateIfwiFileScuIpc env = flashFiles env) := by
  rw [updateIfwiFileScuIpc]
  cases cracked : crackFile env.ifwi with
  | none => exact .inl rfl
  | some img =>
      cases queried : env.current with
      | none => exact .inl rfl
      | some dev =>
          simp only
          by_cases undecided : ifwiDowngradeAllowed env.ifwi = -1
          · rw [if_pos undecided]
            exact .inl rfl
          rw [if_neg undecided]
          by_cases major : img.major ≠ dev.ifwi.major
          · rw [if_pos major]
            exact .inl rfl
          rw [if_neg major]
          by_cases refused : img.minor < dev.ifwi.minor ∧ ifwiDowngradeAllowed env.ifwi = 0
          · rw [if_pos refused]
            exact .inl rfl
          rw [if_neg refused]
          by_cases same : img.minor = dev.ifwi.minor
          · rw [if_pos same]
            exact .inl rfl
          rw [if_neg same]
          right
          refine ⟨?_, rfl⟩
          rcases Option.bind_eq_some_iff.mp cracked with ⟨fd, opened, value⟩
          rcases fopen_bytes opened with ⟨file, small⟩
          refine ⟨fd.bytes, img, dev, file, ⟨fd.bytes.length + 3, fun fuel enough => ?_⟩, queried,
            not_not.mp major, same, ?_⟩
          · rw [file, crackUpdateFwFile_eq small enough, value]
          · by_cases newer : dev.ifwi.minor < img.minor
            · exact .inl newer
            · right
              have older : img.minor < dev.ifwi.minor :=
                UInt8.lt_of_le_of_ne (UInt8.not_lt.mp newer) same
              rcases downgrade_allowed undecided fun zero => refused ⟨older, zero⟩ with
                ⟨bytes, given, pti⟩
              rw [file] at given
              cases given
              exact pti

/-- A node is opened only for an image that passed the gate, and a 0 behind that means that both
files were handed over whole, the DNX file first. -/
theorem ifwi_gate (env : UpdateEnv) (node : UpdateNode) (alt success : Bool)
    (opening : .opening node alt success ∈ (updateIfwiFileScuIpc env).2) :
    GatePassed env ∧
      ((updateIfwiFileScuIpc env).1 = 0 → BothDelivered env (updateIfwiFileScuIpc env).2) := by
  rcases updateIfwiFileScuIpc_cases env with nothing | ⟨passed, flashed⟩
  · rw [nothing] at opening
    exact absurd opening List.not_mem_nil
  · refine ⟨passed, fun done => ?_⟩
    rw [flashed] at done ⊢
    exact flashFiles_delivers done

theorem copyToNode_undisturbed (node : UpdateNode) (bytes : List UInt8) {taken : List Nat}
    (undisturbed : taken = []) : ∃ events, copyToNode node bytes taken = (true, events, []) := by
  have chunks (left : List UInt8) : ∃ events, retryWrite node 3 left [] = (true, events, []) := by
    cases left with
    | nil => exact ⟨[], rfl⟩
    | cons byte rest =>
        refine ⟨[.handed node (byte :: rest)], ?_⟩
        simp [retryWrite]
  fun_induction copyToNode node bytes taken with
  | case1 bytes taken more events taken' ran =>
      rcases chunks (bytes.take BUF_SIZ) with ⟨_, chunk⟩
      rw [undisturbed, chunk] at ran
      cases ran
  | case2 bytes taken more events taken' ran done later taken'' copied ih =>
      rcases chunks (bytes.take BUF_SIZ) with ⟨_, chunk⟩
      rw [undisturbed, chunk] at ran
      cases ran
      rcases ih rfl with ⟨_, rest⟩
      rw [copied] at rest
      cases rest
      exact ⟨_, rfl⟩
  | case3 bytes taken done =>
      rw [undisturbed]
      exact ⟨_, rfl⟩

def debugIfwi : List UInt8 :=
  bareFip 1 2 ++ [0x53, 0x4D, 0x49, 0x50] ++ List.replicate 0x308 0 ++ [0x80]

def downgradeEnv : UpdateEnv where
  dnx := some [1, 2, 3]
  ifwi := some debugIfwi
  reopens := true
  current := some { FirmwareVersions.zero with ifwi := ⟨1, 3⟩ }
  opens := fun _ alt => alt
  taken := []

theorem debugIfwi_opens : Stream.fopen (some debugIfwi) = some ⟨debugIfwi, 0, false⟩ := by
  have small : debugIfwi.length < 2 ^ 31 := by decide +kernel
  rw [Stream.fopen, if_pos small]

theorem debugIfwi_version : crackFile (some debugIfwi) = some ⟨1, 2⟩ := by
  have trace : FirstVersioned debugIfwi 0 0 := by
    refine .here ⟨le_refl 0, ?_, ?_, fun p _ before => ?_⟩ ?_ ?_
    · decide +kernel
    · decide +kernel
    · omega
    · decide +kernel
    · decide +kernel
  have value : (fipHeader debugIfwi 0).ifwi = ⟨1, 2⟩ := by decide +kernel
  rw [crackFile, debugIfwi_opens, ← value]
  exact (crackLoop_eq_some debugIfwi 0 _).mpr ⟨0, trace, rfl⟩

theorem debugIfwi_allowed : ifwiDowngradeAllowed (some debugIfwi) = 1 := by
  have before : ∀ p < 44, wordAt SMIP_PATTERN debugIfwi p = false := by decide +kernel
  have here : 44 + 4 ≤ debugIfwi.length ∧ wordAt SMIP_PATTERN debugIfwi 44 = true := by
    decide +kernel
  have first : scan (wordAt SMIP_PATTERN debugIfwi) 1 4 debugIfwi.length 0 = some 44 :=
    scan_one_eq_some.mpr ⟨by decide, here.1, here.2, fun p _ => before p⟩
  have byte : debugIfwi[44 + 0x30C]? = some 0x80 := by decide +kernel
  have field : crackUpdateFwPtiField debugIfwi = some 0x80 := by
    rw [crackUpdateFwPtiField, first, Option.bind_some, if_pos (by decide), byte]
  rw [ifwiDowngradeAllowed, crackPtiField, debugIfwi_opens, Option.bind_some, field]
  rfl

theorem downgradeEnv_flashes : updateIfwiFileScuIpc downgradeEnv = flashFiles downgradeEnv := by
  have version : crackFile downgradeEnv.ifwi = some ⟨1, 2⟩ := debugIfwi_version
  have allowed : ifwiDowngradeAllowed downgradeEnv.ifwi = 1 := debugIfwi_allowed
  rw [updateIfwiFileScuIpc, version]
  simp only [allowed]
  rfl

theorem flashFiles_done {env : UpdateEnv} {src source : Stream} {front back : List NodeEvent}
    {taken rest : List Nat} (opened : Stream.fopen env.dnx = some src)
    (first : flashNode env .dnx src.bytes env.taken = (true, front, taken))
    (reopens : env.reopens = true) (opened' : Stream.fopen env.ifwi = some source)
    (second : flashNode env .ifwi source.bytes taken = (true, back, rest)) :
    flashFiles env = (0, front ++ back) := by
  rw [flashFiles, opened]
  simp only [first, reopens, if_true, opened', second]

theorem flashNode_undisturbed (node : UpdateNode) (bytes : List UInt8) :
    ∃ events, flashNode downgradeEnv node bytes [] =
      (true, .opening node false false :: .opening node true true :: events, []) := by
  rcases copyToNode_undisturbed node bytes rfl with ⟨events, copied⟩
  have opening : openNode downgradeEnv node =
      (true, [.opening node false false, .opening node true true]) := rfl
  rw [flashNode, opening]
  simp only [copied]
  exact ⟨events, rfl⟩

theorem ifwi_gate_downgrade :
    (updateIfwiFileScuIpc downgradeEnv).1 = 0 ∧ GatePassed downgradeEnv ∧
      BothDelivered downgradeEnv (updateIfwiFileScuIpc downgradeEnv).2 := by
  have source : Stream.fopen downgradeEnv.dnx = some ⟨[1, 2, 3], 0, false⟩ := rfl
  have again : Stream.fopen downgradeEnv.ifwi = some ⟨debugIfwi, 0, false⟩ := debugIfwi_opens
  rcases flashNode_undisturbed .dnx [1, 2, 3] with ⟨front, first⟩
  rcases flashNode_undisturbed .ifwi debugIfwi with ⟨back, second⟩
  have flashed := flashFiles_done source first rfl again second
  have opening : NodeEvent.opening .dnx false false ∈ (updateIfwiFileScuIpc downgradeEnv).2 := by
    rw [downgradeEnv_flashes, flashed]
    exact List.mem_cons_self
  have done : (updateIfwiFileScuIpc downgradeEnv).1 = 0 := by
    rw [downgradeEnv_flashes, flashed]
  rcases ifwi_gate downgradeEnv _ _ _ opening with ⟨passed, delivered⟩
  exact ⟨done, passed, delivered done⟩

end A500cg.Ifwi
