import A500cg.Lib.CString
import A500cg.Lib.KeyedVector
import A500cg.Lib.Machine
import Mathlib.Data.Int.Interval
import Mathlib.Tactic

/-! The listeners of `MultiDisplayComposer`: registration under small ids, and the
broadcast of messages to them. -/

namespace A500cg.Mds

open Lib

def NO_ERROR : Int := 0
def UNKNOWN_ERROR : Int := -2147483648
def BAD_VALUE : Int := -22
def NO_INIT : Int := -19

def MDS_VIDEO_SESSION_MAX_VALUE : Nat := 16
def MDS_LISTENER_MAX_VALUE : Nat := MDS_VIDEO_SESSION_MAX_VALUE * 4

def MDS_MSG_MODE_CHANGE : BitVec 32 := 1 <<< 1

/-- A registered listener; `mListener` stands for the remote object. -/
structure MultiDisplayListener where
  mMsg : BitVec 32
  mId : Int
  mName : CString
  mListener : Nat
  deriving DecidableEq

def MultiDisplayListener.checkMsg (listener : MultiDisplayListener) (msg : BitVec 32) : Bool :=
  msg &&& listener.mMsg ≠ 0

def videoDriver : CString := ⟨[86, 105, 100, 101, 111, 68, 114, 105, 118, 101, 114], by decide⟩

structure ListenerTable where
  mListeners : KeyedVector Int MultiDisplayListener
  mListenerId : Int

namespace ListenerTable

def initial : ListenerTable := ⟨KeyedVector.empty, 0⟩

/-- The search for a valid id once the cursor has reached the end: the first id that is
not in use, or the end again. -/
def findListenerId (keys : List Int) : Int :=
  (((List.range MDS_LISTENER_MAX_VALUE).map Int.ofNat).find? fun id => id ∉ keys).getD
    MDS_LISTENER_MAX_VALUE

/-- A null name or listener is `none`. -/
def registerListener (t : ListenerTable) (listener : Option Nat) (name : Option CString)
    (msg : BitVec 32) : Int × ListenerTable :=
  match listener, name with
  | some listener, some name =>
      if msg = 0 then (-1, t)
      else if MDS_LISTENER_MAX_VALUE ≤ t.mListeners.size ∨
          (MDS_LISTENER_MAX_VALUE : Int) ≤ t.mListenerId then (-1, t)
      else if t.mListenerId ∈ t.mListeners.keys then (-1, t)
      else
        let newId := t.mListenerId
        let mListeners := t.mListeners.add newId ⟨msg, newId, name, listener⟩
        (newId, ⟨mListeners,
          if (MDS_LISTENER_MAX_VALUE : Int) ≤ newId + 1 then findListenerId mListeners.keys
          else newId + 1⟩)
  | _, _ => (-1, t)

def unregisterListener (t : ListenerTable) (listenerId : Int) : Int × ListenerTable :=
  if listenerId < 0 then (BAD_VALUE, t)
  else (NO_ERROR, { t with mListeners := t.mListeners.removeItem listenerId })

def broadcastMessageLocked (t : ListenerTable) (msg : BitVec 32) (ignoreVideoDriver : Bool) :
    List MultiDisplayListener :=
  t.mListeners.values.filter fun listener =>
    !(ignoreVideoDriver && strncmp videoDriver.bytes listener.mName.bytes 12 == 0) &&
      listener.checkMsg msg

end ListenerTable

inductive TableCall where
  | register (listener : Option Nat) (name : Option CString) (msg : BitVec 32)
  | unregister (listenerId : Int)

def ListenerTable.call (t : ListenerTable) : TableCall → ListenerTable
  | .register listener name msg => (t.registerListener listener name msg).2
  | .unregister listenerId => (t.unregisterListener listenerId).2

structure Integrity (t : ListenerTable) : Prop where
  size : t.mListeners.size ≤ MDS_LISTENER_MAX_VALUE
  ids : ∀ entry ∈ t.mListeners.entries,
    0 ≤ entry.1 ∧ entry.1 < MDS_LISTENER_MAX_VALUE ∧ entry.2.mId = entry.1
  cursor : 0 ≤ t.mListenerId

namespace ListenerTable

def registered (t : ListenerTable) (remote : Nat) (name : CString) (msg : BitVec 32) :
    ListenerTable :=
  ⟨t.mListeners.add t.mListenerId ⟨msg, t.mListenerId, name, remote⟩,
    if (MDS_LISTENER_MAX_VALUE : Int) ≤ t.mListenerId + 1 then
      findListenerId (t.mListeners.add t.mListenerId ⟨msg, t.mListenerId, name, remote⟩).keys
    else t.mListenerId + 1⟩

def Ready (t : ListenerTable) : Prop :=
  t.mListenerId < MDS_LISTENER_MAX_VALUE ∧ t.mListenerId ∉ t.mListeners.keys

theorem registerListener_eq (t : ListenerTable) (remote : Nat) (name : CString)
    (msg : BitVec 32) (mask : msg ≠ 0) (room : t.mListeners.size < MDS_LISTENER_MAX_VALUE)
    (ready : t.Ready) :
    t.registerListener (some remote) (some name) msg =
      (t.mListenerId, t.registered remote name msg) := by
  have below := ready.1
  simp only [registerListener]
  rw [if_neg mask, if_neg (by omega), if_neg ready.2]
  rfl

theorem registerListener_cases (t : ListenerTable) (listener : Option Nat)
    (name : Option CString) (msg : BitVec 32) :
    t.registerListener listener name msg = (-1, t) ∨
    ∃ remote text, listener = some remote ∧ name = some text ∧ msg ≠ 0 ∧
      t.mListeners.size < MDS_LISTENER_MAX_VALUE ∧ t.Ready ∧
      t.registerListener listener name msg =
        (t.mListenerId, t.registered remote text msg) := by
  simp only [registerListener]
  split
  · rename_i remote text
    split
    · exact .inl rfl
    · rename_i mask
      split
      · exact .inl rfl
      · rename_i room
        split
        · exact .inl rfl
        · rename_i free
          exact .inr ⟨remote, text, rfl, rfl, mask, by omega, ⟨by omega, free⟩, rfl⟩
  · exact .inl rfl

theorem findListenerId_nonneg (keys : List Int) : 0 ≤ findListenerId keys := by
  simp only [findListenerId]
  cases found : ((List.range MDS_LISTENER_MAX_VALUE).map Int.ofNat).find? fun id => id ∉ keys with
  | none => decide
  | some id =>
      have member := List.mem_of_find?_eq_some found
      simp only [List.mem_map] at member
      rcases member with ⟨n, _, rfl⟩
      exact Int.natCast_nonneg n

end ListenerTable

theorem initial_integrity : Integrity ListenerTable.initial :=
  ⟨by decide, by simp [ListenerTable.initial, KeyedVector.empty], by decide⟩

theorem registered_integrity {t : ListenerTable} (remote : Nat) (name : CString)
    (msg : BitVec 32) (integrity : Integrity t)
    (room : t.mListeners.size < MDS_LISTENER_MAX_VALUE) (ready : t.Ready) :
    Integrity (t.registered remote name msg) := by
  have grown := KeyedVector.size_add_le t.mListeners t.mListenerId
    ⟨msg, t.mListenerId, name, remote⟩
  constructor
  · simp only [ListenerTable.registered]
    omega
  · intro entry member
    rcases (KeyedVector.mem_add _ _ _ _).mp member with same | ⟨older, _⟩
    · subst same
      exact ⟨integrity.cursor, ready.1, rfl⟩
    · exact integrity.ids entry older
  · have cursor := integrity.cursor
    simp only [ListenerTable.registered]
    split
    · exact ListenerTable.findListenerId_nonneg _
    · omega

theorem call_integrity (t : ListenerTable) (call : TableCall) (integrity : Integrity t) :
    Integrity (t.call call) := by
  cases call with
  | register listener name msg =>
      simp only [ListenerTable.call]
      rcases t.registerListener_cases listener name msg with failed |
        ⟨remote, text, _, _, _, room, ready, done⟩
      · rw [failed]
        exact integrity
      · rw [done]
        exact registered_integrity remote text msg integrity room ready
  | unregister listenerId =>
      simp only [ListenerTable.call, ListenerTable.unregisterListener]
      split
      · exact integrity
      · have smaller := KeyedVector.size_removeItem_le t.mListeners listenerId
        refine ⟨smaller.trans integrity.size, ?_, integrity.cursor⟩
        intro entry member
        exact integrity.ids entry ((KeyedVector.mem_removeItem _ _ _).mp member).1

theorem integrity_of_calls (calls : List TableCall) :
    Integrity (calls.foldl ListenerTable.call ListenerTable.initial) :=
  List.foldlRecOn calls _ initial_integrity
    fun t integrity call _ => call_integrity t call integrity

theorem values_nodup {t : ListenerTable} (integrity : Integrity t) : t.mListeners.values.Nodup := by
  simp only [KeyedVector.values]
  rw [List.nodup_map_iff_inj_on]
  · intro first member second member' same
    have id := (integrity.ids first member).2.2
    have id' := (integrity.ids second member').2.2
    refine Prod.ext ?_ same
    rw [← id, ← id', same]
  · exact t.mListeners.sorted.imp fun below same => absurd (congrArg Prod.fst same) (ne_of_lt below)

theorem broadcast_nodup {t : ListenerTable} {msg : BitVec 32} {ignoreVideoDriver : Bool}
    (integrity : Integrity t) : (t.broadcastMessageLocked msg ignoreVideoDriver).Nodup :=
  (values_nodup integrity).filter _

theorem mem_broadcast {t : ListenerTable} {msg : BitVec 32} {ignoreVideoDriver : Bool}
    {listener : MultiDisplayListener} :
    listener ∈ t.broadcastMessageLocked msg ignoreVideoDriver ↔
      listener ∈ t.mListeners.values ∧ msg &&& listener.mMsg ≠ 0 ∧
        ¬ (ignoreVideoDriver = true ∧ listener.mName = videoDriver) := by
  have name : strncmp videoDriver.bytes listener.mName.bytes 12 = 0 ↔
      listener.mName = videoDriver := by
    rw [strncmp_eq_zero_iff _ _ _ videoDriver.noNul listener.mName.noNul (by decide), eq_comm,
      CString.ext_iff]
  simp [ListenerTable.broadcastMessageLocked, MultiDisplayListener.checkMsg, ← name, and_comm,
    imp_iff_or_not, or_comm]

structure Registration (t : ListenerTable) (listener : Option Nat) (name : Option CString)
    (msg : BitVec 32) (result : Int × ListenerTable) : Prop where
  fresh : 0 ≤ result.1 → result.1 < MDS_LISTENER_MAX_VALUE ∧ result.1 ∉ t.mListeners.keys ∧
    ∃ remote text, listener = some remote ∧ name = some text ∧
      ∀ entry, entry ∈ result.2.mListeners.entries ↔
        entry = (result.1, ⟨msg, result.1, text, remote⟩) ∨ entry ∈ t.mListeners.entries
  failed : result.1 < 0 → result.2.mListeners = t.mListeners

theorem registration {t : ListenerTable} (integrity : Integrity t) (listener : Option Nat)
    (name : Option CString) (msg : BitVec 32) :
    Registration t listener name msg (t.registerListener listener name msg) := by
  rcases t.registerListener_cases listener name msg with failed |
    ⟨remote, text, isListener, isName, _, _, ready, done⟩
  · rw [failed]
    exact ⟨fun nonneg => absurd nonneg (by simp), fun _ => rfl⟩
  · rw [done]
    constructor
    · intro _
      refine ⟨ready.1, ready.2, remote, text, isListener, isName, ?_⟩
      intro entry
      rw [ListenerTable.registered, KeyedVector.mem_add]
      constructor
      · intro member
        exact member.imp id And.left
      · intro member
        refine member.imp id fun older => ⟨older, ?_⟩
        intro same
        exact ready.2 (KeyedVector.mem_keys.mpr ⟨entry.2, same ▸ older⟩)
    · intro negative
      exact absurd integrity.cursor (not_le.mpr negative)

/-- The table after any registrations and removals: its size and its ids, what one more
call does to it, and whom a broadcast reaches. -/
theorem listener_table_integrity (calls : List TableCall) :
    let t := calls.foldl ListenerTable.call ListenerTable.initial
    t.mListeners.size ≤ 64 ∧ (∀ id ∈ t.mListeners.keys, 0 ≤ id ∧ id < 64) ∧
    (∀ listener name msg,
      Registration t listener name msg (t.registerListener listener name msg)) ∧
    (∀ listenerId entry, entry ∈ (t.unregisterListener listenerId).2.mListeners.entries ↔
      entry ∈ t.mListeners.entries ∧ entry.1 ≠ listenerId) ∧
    ∀ msg ignoreVideoDriver listener,
      (t.broadcastMessageLocked msg ignoreVideoDriver).count listener =
        if listener ∈ t.mListeners.values ∧ msg &&& listener.mMsg ≠ 0 ∧
          ¬ (ignoreVideoDriver = true ∧ listener.mName = videoDriver) then 1 else 0 := by
  have integrity := integrity_of_calls calls
  refine ⟨integrity.size, ?_, registration integrity, ?_, ?_⟩
  · intro id member
    rcases KeyedVector.mem_keys.mp member with ⟨listener, entry⟩
    have bounds := integrity.ids _ entry
    exact ⟨bounds.1, bounds.2.1⟩
  · intro listenerId entry
    simp only [ListenerTable.unregisterListener]
    split
    · rename_i negative
      constructor
      · intro member
        have bounds := integrity.ids entry member
        exact ⟨member, by omega⟩
      · intro member
        exact member.1
    · exact KeyedVector.mem_removeItem _ _ _
  · intro msg ignoreVideoDriver listener
    rw [(broadcast_nodup integrity).count]
    exact if_congr mem_broadcast rfl rfl

/-- A valid registration succeeds while fewer than 64 listeners are registered. -/
def ListenerTable.Available (t : ListenerTable) : Prop :=
  ∀ remote name msg, msg ≠ 0 → t.mListeners.size < MDS_LISTENER_MAX_VALUE →
    0 ≤ (t.registerListener (some remote) (some name) msg).1

/-- A registration leaves the cursor on a free id: the next id is not in use, or the last
id was given and the table is not full then. -/
def Roomy (t : ListenerTable) : TableCall → Prop
  | .register (some _) (some _) msg => msg ≠ 0 → t.mListeners.size < MDS_LISTENER_MAX_VALUE →
      if t.mListenerId + 1 < MDS_LISTENER_MAX_VALUE then
        t.mListenerId + 1 ∉ t.mListeners.keys
      else t.mListeners.size + 1 < MDS_LISTENER_MAX_VALUE
  | _ => True

def tableStep (t : ListenerTable) (call : TableCall) : Option ListenerTable := some (t.call call)

theorem findListenerId_ready (keys : List Int) (room : keys.length < MDS_LISTENER_MAX_VALUE) :
    ListenerTable.findListenerId keys < MDS_LISTENER_MAX_VALUE ∧
      ListenerTable.findListenerId keys ∉ keys := by
  simp only [ListenerTable.findListenerId]
  cases found : ((List.range MDS_LISTENER_MAX_VALUE).map Int.ofNat).find? fun id => id ∉ keys with
  | none =>
      have all : (List.range MDS_LISTENER_MAX_VALUE).map Int.ofNat ⊆ keys := by
        intro id member
        have used := List.find?_eq_none.mp found id member
        simpa using used
      have nodup : ((List.range MDS_LISTENER_MAX_VALUE).map Int.ofNat).Nodup :=
        List.nodup_range.map fun _ _ same => Int.ofNat.inj same
      have length := (nodup.subperm all).length_le
      rw [List.length_map, List.length_range] at length
      omega
  | some id =>
      have member := List.mem_of_find?_eq_some found
      have free := List.find?_some found
      simp only [List.mem_map, List.mem_range] at member
      rcases member with ⟨n, below, rfl⟩
      exact ⟨Int.ofNat_lt.mpr below, by simpa using free⟩

theorem registered_keys (t : ListenerTable) (remote : Nat) (name : CString) (msg : BitVec 32)
    (id : Int) :
    id ∈ (t.registered remote name msg).mListeners.keys ↔
      id = t.mListenerId ∨ id ∈ t.mListeners.keys := by
  simp only [ListenerTable.registered, KeyedVector.mem_keys, KeyedVector.mem_add]
  constructor
  · intro present
    rcases present with ⟨value, same | ⟨older, _⟩⟩
    · exact .inl (congrArg Prod.fst same)
    · exact .inr ⟨value, older⟩
  · intro present
    by_cases same : id = t.mListenerId
    · exact ⟨_, .inl (Prod.ext same rfl)⟩
    · rcases present.resolve_left same with ⟨value, older⟩
      exact ⟨value, .inr ⟨older, same⟩⟩

theorem registered_ready {t : ListenerTable} (remote : Nat) (name : CString) (msg : BitVec 32)
    (room : if t.mListenerId + 1 < MDS_LISTENER_MAX_VALUE then
        t.mListenerId + 1 ∉ t.mListeners.keys
      else t.mListeners.size + 1 < MDS_LISTENER_MAX_VALUE) :
    (t.registered remote name msg).Ready := by
  by_cases next : t.mListenerId + 1 < MDS_LISTENER_MAX_VALUE
  · rw [if_pos next] at room
    have cursor : (t.registered remote name msg).mListenerId = t.mListenerId + 1 :=
      if_neg (by omega)
    constructor
    · rw [cursor]
      exact next
    · rw [cursor, registered_keys]
      intro used
      rcases used with same | older
      · omega
      · exact room older
  · rw [if_neg next] at room
    have cursor : (t.registered remote name msg).mListenerId =
        ListenerTable.findListenerId (t.registered remote name msg).mListeners.keys :=
      if_pos (by omega)
    have grown := KeyedVector.size_add_le t.mListeners t.mListenerId
      ⟨msg, t.mListenerId, name, remote⟩
    have length : (t.registered remote name msg).mListeners.keys.length <
        MDS_LISTENER_MAX_VALUE := by
      rw [KeyedVector.keys, List.length_map]
      exact Nat.lt_of_le_of_lt grown room
    simp only [ListenerTable.Ready, cursor]
    exact findListenerId_ready _ length

theorem call_ready (t : ListenerTable) (call : TableCall) (next : ListenerTable)
    (ready : t.Ready) (roomy : Roomy t call) (taken : tableStep t call = some next) :
    next.Ready := by
  cases taken
  cases call with
  | register listener name msg =>
      simp only [ListenerTable.call]
      rcases t.registerListener_cases listener name msg with failed |
        ⟨remote, text, rfl, rfl, mask, room, _, done⟩
      · rw [failed]
        exact ready
      · rw [done]
        exact registered_ready remote text msg (roomy mask room)
  | unregister listenerId =>
      simp only [ListenerTable.call, ListenerTable.unregisterListener]
      split
      · exact ready
      · refine ⟨ready.1, ?_⟩
        intro used
        rcases KeyedVector.mem_keys.mp used with ⟨value, member⟩
        exact ready.2 (KeyedVector.mem_keys.mpr
          ⟨value, ((KeyedVector.mem_removeItem _ _ _).mp member).1⟩)

theorem initial_ready : ListenerTable.initial.Ready := ⟨by decide, by decide⟩

/-- In every run whose registrations leave the cursor on a free id, registration stays
available. -/
theorem registration_available_along_roomy_run {calls : List TableCall} {t : ListenerTable}
    (ran : runEvents tableStep ListenerTable.initial calls = some t)
    (roomy : Along tableStep Roomy ListenerTable.initial calls) : t.Available := by
  have ready := invariant_along_run call_ready initial_ready ran roomy
  have preserved : ∀ t call next, Integrity t → True → tableStep t call = some next →
      Integrity next := by
    intro t call next integrity _ taken
    cases taken
    exact call_integrity t call integrity
  have always : Along tableStep (fun _ _ => True) ListenerTable.initial calls := along_true _ _ _
  have integrity := invariant_along_run preserved initial_integrity ran always
  intro remote name msg mask room
  rw [t.registerListener_eq remote name msg mask room ready]
  exact integrity.cursor

def registerMode : TableCall := .register (some 0) (some videoDriver) MDS_MSG_MODE_CHANGE

theorem registration_available_after_two_calls :
    ∃ t, runEvents tableStep ListenerTable.initial [registerMode, .unregister 0] = some t ∧
      t.Available := by
  have ran : runEvents tableStep ListenerTable.initial [registerMode, .unregister 0] =
      some ((ListenerTable.initial.call registerMode).call (.unregister 0)) := rfl
  refine ⟨_, ran, registration_available_along_roomy_run ran ?_⟩
  refine ⟨?_, fun _ _ => ⟨trivial, fun _ _ => trivial⟩⟩
  intro _ _
  decide

def fullThenLeave : List TableCall := List.replicate 64 registerMode ++ [.unregister 5]

/-- The cursor has been left at the end, and no later registration succeeds. -/
theorem registration_stuck_after_full_table :
    (fullThenLeave.foldl ListenerTable.call ListenerTable.initial).mListeners.size = 63 ∧
      ¬ (fullThenLeave.foldl ListenerTable.call ListenerTable.initial).Available := by
  have computed :
      (fullThenLeave.foldl ListenerTable.call ListenerTable.initial).mListeners.size = 63 ∧
      ((fullThenLeave.foldl ListenerTable.call ListenerTable.initial).registerListener
        (some 0) (some videoDriver) 1).1 = -1 := by decide +kernel
  rcases computed with ⟨size, fails⟩
  refine ⟨size, ?_⟩
  intro available
  have succeeds := available 0 videoDriver 1 (by decide) (by rw [size]; decide)
  omega

end A500cg.Mds
