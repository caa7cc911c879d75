import A500cg.Lib.Bytes

/-! Big-endian 32-bit words at the front of a byte list: what a buffer has left to
read, and what a writer appends. -/

namespace A500cg.Lib

def putInt (word : Int32) : List UInt8 :=
  [leByte word.toUInt32.toNat 3, leByte word.toUInt32.toNat 2, leByte word.toUInt32.toNat 1,
    leByte word.toUInt32.toNat 0]

def getInt : List UInt8 → Option (Int32 × List UInt8)
  | b3 :: b2 :: b1 :: b0 :: rest =>
      some ((UInt32.ofNat (16777216 * b3.toNat + 65536 * b2.toNat + 256 * b1.toNat +
        b0.toNat)).toInt32, rest)
  | _ => none

@[simp] theorem putInt_length (word : Int32) : (putInt word).length = 4 := rfl

theorem getInt_putInt (word : Int32) (rest : List UInt8) :
    getInt (putInt word ++ rest) = some (word, rest) := by
  have bound := word.toUInt32.toNat_lt
  have value : UInt32.ofNat (16777216 * (word.toUInt32.toNat / 256 ^ 3 % 256) +
      65536 * (word.toUInt32.toNat / 256 ^ 2 % 256) + 256 * (word.toUInt32.toNat / 256 ^ 1 % 256) +
      word.toUInt32.toNat / 256 ^ 0 % 256) = word.toUInt32 := by
    apply UInt32.toNat_inj.mp
    rw [UInt32.toNat_ofNat']
    norm_num
    omega
  simp only [putInt, List.cons_append, List.nil_append, getInt, leByte_toNat, value,
    Int32.toInt32_toUInt32]

theorem getInt_eq_some {bytes rest : List UInt8} {word : Int32}
    (read : getInt bytes = some (word, rest)) : bytes = putInt word ++ rest := by
  simp only [getInt] at read
  split at read
  · rename_i b3 b2 b1 b0 tail
    simp only [Option.some.injEq, Prod.mk.injEq] at read
    rcases read with ⟨rfl, rfl⟩
    have h0 := b0.toNat_lt
    have h1 := b1.toNat_lt
    have h2 := b2.toNat_lt
    have h3 := b3.toNat_lt
    simp only [putInt, UInt32.toUInt32_toInt32, UInt32.toNat_ofNat', List.cons_append,
      List.nil_append, List.cons.injEq, and_true]
    refine ⟨?_, ?_, ?_, ?_⟩ <;> apply UInt8.toNat_inj.mp <;> rw [leByte_toNat] <;>
      norm_num <;> omega
  · cases read

end A500cg.Lib
