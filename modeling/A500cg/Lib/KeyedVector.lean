import Mathlib.Data.List.Sort
import Mathlib.Order.Basic

/-! Tables with one entry for each key, kept in the order of the keys. -/

namespace A500cg.Lib

variable {κ α : Type} [LinearOrder κ]

structure KeyedVector (κ α : Type) [LinearOrder κ] where
  entries : List (κ × α)
  sorted : entries.Pairwise fun a b => a.1 < b.1

namespace KeyedVector

def empty : KeyedVector κ α := ⟨[], .nil⟩

def size (v : KeyedVector κ α) : Nat := v.entries.length

def keys (v : KeyedVector κ α) : List κ := v.entries.map Prod.fst

def values (v : KeyedVector κ α) : List α := v.entries.map Prod.snd

def insertEntry (key : κ) (value : α) : List (κ × α) → List (κ × α)
  | [] => [(key, value)]
  | entry :: rest =>
      if key < entry.1 then (key, value) :: entry :: rest
      else if entry.1 < key then entry :: insertEntry key value rest
      else (key, value) :: rest

theorem mem_insertEntry {key : κ} {value : α} {entries : List (κ × α)}
    (sorted : entries.Pairwise fun a b => a.1 < b.1) (entry : κ × α) :
    entry ∈ insertEntry key value entries ↔
      entry = (key, value) ∨ entry ∈ entries ∧ entry.1 ≠ key := by
  induction entries with
  | nil => simp [insertEntry]
  | cons first rest ih =>
      have above : ∀ {entry}, entry ∈ rest → first.1 < entry.1 := List.rel_of_pairwise_cons sorted
      have tail := ih sorted.of_cons
      simp only [insertEntry]
      split
      · rename_i below
        simp only [List.mem_cons]
        constructor
        · intro member
          rcases member with same | same | later
          · exact .inl same
          · subst same
            exact .inr ⟨.inl rfl, ne_of_gt below⟩
          · exact .inr ⟨.inr later, ne_of_gt (below.trans (above later))⟩
        · intro member
          rcases member with same | ⟨member, _⟩
          · exact .inl same
          · exact .inr member
      · split
        · rename_i higher
          simp only [List.mem_cons, tail]
          constructor
          · intro member
            rcases member with same | same | ⟨later, other⟩
            · subst same
              exact .inr ⟨.inl rfl, ne_of_lt higher⟩
            · exact .inl same
            · exact .inr ⟨.inr later, other⟩
          · intro member
            rcases member with same | ⟨same | later, other⟩
            · exact .inr (.inl same)
            · exact .inl same
            · exact .inr (.inr ⟨later, other⟩)
        · rename_i notBelow notAbove
          have equal : key = first.1 := le_antisymm (not_lt.mp notAbove) (not_lt.mp notBelow)
          simp only [List.mem_cons]
          constructor
          · intro member
            rcases member with same | later
            · exact .inl same
            · exact .inr ⟨.inr later, equal ▸ ne_of_gt (above later)⟩
          · intro member
            rcases member with same | ⟨same | later, other⟩
            · exact .inl same
            · subst same
              exact absurd equal.symm other
            · exact .inr later

theorem insertEntry_sorted (key : κ) (value : α) {entries : List (κ × α)}
    (sorted : entries.Pairwise fun a b => a.1 < b.1) :
    (insertEntry key value entries).Pairwise fun a b => a.1 < b.1 := by
  induction entries with
  | nil => simp [insertEntry]
  | cons first rest ih =>
      have above : ∀ {entry}, entry ∈ rest → first.1 < entry.1 := List.rel_of_pairwise_cons sorted
      simp only [insertEntry]
      split
      · rename_i below
        refine .cons ?_ sorted
        intro entry member
        rcases List.mem_cons.mp member with same | later
        · exact same ▸ below
        · exact below.trans (above later)
      · split
        · rename_i higher
          refine .cons ?_ (ih sorted.of_cons)
          intro entry member
          rcases (mem_insertEntry sorted.of_cons entry).mp member with same | ⟨later, _⟩
          · exact same ▸ higher
          · exact above later
        · rename_i notBelow notAbove
          have equal : key = first.1 := le_antisymm (not_lt.mp notAbove) (not_lt.mp notBelow)
          refine .cons ?_ sorted.of_cons
          intro entry member
          exact equal ▸ above member

def add (v : KeyedVector κ α) (key : κ) (value : α) : KeyedVector κ α :=
  ⟨insertEntry key value v.entries, insertEntry_sorted key value v.sorted⟩

def removeItem (v : KeyedVector κ α) (key : κ) : KeyedVector κ α :=
  ⟨v.entries.filter fun entry => entry.1 ≠ key, v.sorted.filter _⟩

theorem mem_add (v : KeyedVector κ α) (key : κ) (value : α) (entry : κ × α) :
    entry ∈ (v.add key value).entries ↔
      entry = (key, value) ∨ entry ∈ v.entries ∧ entry.1 ≠ key :=
  mem_insertEntry v.sorted entry

theorem mem_removeItem (v : KeyedVector κ α) (key : κ) (entry : κ × α) :
    entry ∈ (v.removeItem key).entries ↔ entry ∈ v.entries ∧ entry.1 ≠ key := by
  simp [removeItem]

theorem mem_keys {v : KeyedVector κ α} {key : κ} :
    key ∈ v.keys ↔ ∃ value, (key, value) ∈ v.entries := by
  simp [keys]

theorem size_removeItem_le (v : KeyedVector κ α) (key : κ) : (v.removeItem key).size ≤ v.size :=
  List.length_filter_le _ _

theorem size_add_le (v : KeyedVector κ α) (key : κ) (value : α) :
    (v.add key value).size ≤ v.size + 1 := by
  have bound : ∀ entries : List (κ × α),
      (insertEntry key value entries).length ≤ entries.length + 1 := by
    intro entries
    induction entries with
    | nil => simp [insertEntry]
    | cons first rest ih =>
        simp only [insertEntry]
        split
        · simp
        · split
          · simpa using ih
          · simp
  exact bound v.entries

end KeyedVector

end A500cg.Lib
