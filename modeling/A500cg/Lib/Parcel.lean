import Mathlib.Data.List.Basic
import Mathlib.Tactic.Common

/-! Parcels of a remote call: values are read back in the order they were written. -/

namespace A500cg.Lib

inductive ParcelValue (β : Type) where
  | int (value : Int)
  | blob (value : β)
  deriving DecidableEq, Repr

structure Parcel (β : Type) where
  token : String
  values : List (ParcelValue β)
  deriving DecidableEq, Repr

variable {β : Type}

def readInt32 : List (ParcelValue β) → Int × List (ParcelValue β)
  | .int value :: rest => (value, rest)
  | rest => (0, rest)

/-- `read` of a structure: the destination keeps its content when there is none. -/
def readBlob (old : β) : List (ParcelValue β) → β × List (ParcelValue β)
  | .blob value :: rest => (value, rest)
  | rest => (old, rest)

@[simp] theorem readInt32_int (value : Int) (rest : List (ParcelValue β)) :
    readInt32 (.int value :: rest) = (value, rest) := rfl

@[simp] theorem readBlob_blob (old value : β) (rest : List (ParcelValue β)) :
    readBlob old (.blob value :: rest) = (value, rest) := rfl

def readBlobs : List (Option β) → List (ParcelValue β) → Bool × List (Option β) × List (ParcelValue β)
  | [], values => (true, [], values)
  | none :: rest, values => (false, none :: rest, values)
  | some old :: rest, values =>
      let (value, values) := readBlob old values
      let (done, read, values) := readBlobs rest values
      (done, some value :: read, values)

theorem readBlobs_written (buffers : List (Option β)) (present : ∀ b ∈ buffers, b ≠ none)
    (start : Nat) (after : Nat → β) (rest : List (ParcelValue β)) :
    readBlobs buffers
        ((List.range' start buffers.length).map (fun i => .blob (after i)) ++ rest) =
      (true, (List.range' start buffers.length).map (fun i => some (after i)), rest) := by
  induction buffers generalizing start with
  | nil => rfl
  | cons buffer buffers ih =>
      cases buffer with
      | none => exact absurd rfl (present none List.mem_cons_self)
      | some old =>
          have later := ih (fun b member => present b (List.mem_cons_of_mem _ member)) (start + 1)
          rw [List.length_cons, List.range'_succ, List.map_cons, List.cons_append, readBlobs,
            readBlob_blob]
          simp only
          rw [later, List.map_cons]

theorem readBlobs_empty (buffers : List (Option β)) (present : ∀ b ∈ buffers, b ≠ none) :
    readBlobs buffers [] = (true, buffers, []) := by
  induction buffers with
  | nil => rfl
  | cons buffer buffers ih =>
      cases buffer with
      | none => exact absurd rfl (present none List.mem_cons_self)
      | some old =>
          have later := ih fun b member => present b (List.mem_cons_of_mem _ member)
          simp only [readBlobs, readBlob, later]

end A500cg.Lib
