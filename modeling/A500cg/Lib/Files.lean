import A500cg.Lib.Bytes

/-! Files as lists of bytes, and the loops that copy them a buffer at a time. -/

namespace A500cg.Lib

def bytesOf (file : List UInt8) : Buffer := fun i => file.getD i 0

/-- The first `n` bytes of a buffer, as they are written to a file. -/
def firstBytes (buf : Buffer) (n : Nat) : List UInt8 := (List.range n).map buf

@[simp] theorem firstBytes_length (buf : Buffer) (n : Nat) : (firstBytes buf n).length = n := by
  simp [firstBytes]

theorem bytesOf_firstBytes (buf : Buffer) (n i : Nat) (rest : List UInt8) (inside : i < n) :
    bytesOf (firstBytes buf n ++ rest) i = buf i := by
  have here : i < (firstBytes buf n).length := by rwa [firstBytes_length]
  rw [bytesOf, List.getD_eq_getElem?_getD, List.getElem?_append_left here]
  simp [firstBytes, inside]

theorem bytesOf_slice (file : List UInt8) {pos count i : Nat} (inside : i < count) :
    bytesOf ((file.drop pos).take count) i = bytesOf file (pos + i) := by
  simp only [bytesOf, List.getD_eq_getElem?_getD]
  rw [List.getElem?_take_of_lt inside, List.getElem?_drop]

theorem firstBytes_congr {first second : Buffer} {n : Nat} (agree : ∀ i < n, first i = second i) :
    firstBytes first n = firstBytes second n := by
  apply List.map_congr_left
  intro i member
  exact agree i (List.mem_range.mp member)

theorem firstBytes_inj {first second : Buffer} {n : Nat} :
    firstBytes first n = firstBytes second n ↔ ∀ i < n, first i = second i := by
  constructor
  · intro same i bound
    exact List.map_inj_left.mp same i (List.mem_range.mpr bound)
  · exact firstBytes_congr

/-- Reads up to `chunk` bytes and writes them, until a read gives nothing. -/
def copyRest (chunk : Nat) (file : List UInt8) (pos : Nat) : List UInt8 :=
  if _more : 0 < ((file.drop pos).take chunk).length then
    (file.drop pos).take chunk ++ copyRest chunk file (pos + ((file.drop pos).take chunk).length)
  else []
termination_by file.length - pos
decreasing_by
  simp only [List.length_take, List.length_drop] at *
  omega

theorem copyRest_eq {chunk : Nat} (positive : 0 < chunk) (file : List UInt8) (pos : Nat) :
    copyRest chunk file pos = file.drop pos := by
  fun_induction copyRest chunk file pos with
  | case1 pos more ih =>
      rw [ih, ← List.drop_drop, List.length_take]
      rcases Nat.le_total chunk (file.drop pos).length with short | long
      · rw [Nat.min_eq_left short, List.take_append_drop]
      · rw [Nat.min_eq_right long, List.take_of_length_le long, List.drop_length, List.append_nil]
  | case2 pos done =>
      rw [List.length_take] at done
      exact (List.eq_nil_of_length_eq_zero (by omega)).symm

end A500cg.Lib
