import A500cg.Lib.HexScan

/-! A buffer of text that `snprintf` writes to: a write that leaves the buffer fails. -/

namespace A500cg.Lib

def storeAt (text : List UInt8) (offset : Nat) (bytes : List UInt8) : Option (List UInt8) :=
  if offset + bytes.length ≤ text.length then
    some (text.take offset ++ bytes ++ text.drop (offset + bytes.length))
  else none

/-- `snprintf` of an output to the offset: as much of it as the size allows, and a zero. It
returns the length of the output. -/
def snprintf (text : List UInt8) (offset size : Nat) (output : List UInt8) :
    Option (Nat × List UInt8) :=
  if size = 0 then some (output.length, text)
  else (storeAt text offset (output.take (size - 1) ++ [0])).map fun text => (output.length, text)

theorem storeAt_inside (text : List UInt8) (offset : Nat) (bytes : List UInt8)
    (inside : offset + bytes.length ≤ text.length) :
    ∃ rest, storeAt text offset bytes = some (text.take offset ++ bytes ++ rest) ∧
      (text.take offset ++ bytes ++ rest).length = text.length := by
  refine ⟨text.drop (offset + bytes.length), if_pos inside, ?_⟩
  simp only [List.length_append, List.length_take, List.length_drop]
  omega

theorem snprintf_whole (text : List UInt8) (offset size : Nat) (output : List UInt8)
    (whole : output.length < size) (inside : offset + output.length < text.length) :
    ∃ rest, snprintf text offset size output =
        some (output.length, text.take offset ++ output ++ 0 :: rest) ∧
      (text.take offset ++ output ++ 0 :: rest).length = text.length := by
  have all : output.take (size - 1) = output := List.take_of_length_le (by omega)
  have length : (output ++ [0]).length = output.length + 1 := by simp
  obtain ⟨rest, stored, same⟩ := storeAt_inside text offset (output ++ [0]) (by omega)
  have shape : text.take offset ++ (output ++ [0]) ++ rest =
      text.take offset ++ output ++ 0 :: rest := by
    simp only [List.append_assoc, List.singleton_append]
  rw [shape] at stored same
  refine ⟨rest, ?_, same⟩
  rw [snprintf, if_neg (by omega), all, stored, Option.map_some]

theorem cText_append_zero {text : List UInt8} (nul : 0 ∉ text) (rest : List UInt8) :
    cText (text ++ 0 :: rest) = text := by
  have before : ∀ c ∈ text, (c ≠ 0 : Bool) = true := by
    intro c member
    exact decide_eq_true fun zero => nul (zero ▸ member)
  rw [cText, List.takeWhile_append_of_pos before]
  simp

end A500cg.Lib
