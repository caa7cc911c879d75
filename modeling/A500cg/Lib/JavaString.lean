import A500cg.Lib.ByteBuffer

/-! Strings of Java, as their UTF-16 units, and the bytes that they are encoded to. -/

namespace A500cg.Lib

abbrev JavaString := List UInt16

def IsHighSurrogate (unit : UInt16) : Prop := 0xD800 ≤ unit.toNat ∧ unit.toNat < 0xDC00

def IsLowSurrogate (unit : UInt16) : Prop := 0xDC00 ≤ unit.toNat ∧ unit.toNat < 0xE000

instance (unit : UInt16) : Decidable (IsHighSurrogate unit) := inferInstanceAs (Decidable (_ ∧ _))

instance (unit : UInt16) : Decidable (IsLowSurrogate unit) := inferInstanceAs (Decidable (_ ∧ _))

def IsPair (high low : UInt16) : Prop := IsHighSurrogate high ∧ IsLowSurrogate low

instance (high low : UInt16) : Decidable (IsPair high low) := inferInstanceAs (Decidable (_ ∧ _))

def utf8 (code : Nat) : List UInt8 :=
  if code < 0x80 then [UInt8.ofNat code]
  else if code < 0x800 then [UInt8.ofNat (0xC0 + code / 64), UInt8.ofNat (0x80 + code % 64)]
  else if code < 0x10000 then
    [UInt8.ofNat (0xE0 + code / 4096), UInt8.ofNat (0x80 + code / 64 % 64),
      UInt8.ofNat (0x80 + code % 64)]
  else
    [UInt8.ofNat (0xF0 + code / 262144), UInt8.ofNat (0x80 + code / 4096 % 64),
      UInt8.ofNat (0x80 + code / 64 % 64), UInt8.ofNat (0x80 + code % 64)]

def pairCode (high low : UInt16) : Nat :=
  0x10000 + (high.toNat - 0xD800) * 1024 + (low.toNat - 0xDC00)

def unitBytes (unit : UInt16) : List UInt8 :=
  if IsHighSurrogate unit ∨ IsLowSurrogate unit then [0x3F] else utf8 unit.toNat

def getBytes : JavaString → List UInt8
  | [] => []
  | [unit] => unitBytes unit
  | high :: low :: rest =>
      if IsPair high low then utf8 (pairCode high low) ++ getBytes rest
      else unitBytes high ++ getBytes (low :: rest)

def getAsciiBytes (string : JavaString) : List UInt8 :=
  string.map fun unit => if unit.toNat < 0x80 then UInt8.ofNat unit.toNat else 0x3F

/-- Every unit is encoded to one byte: each is in ASCII or half a pair, and no two of them
are a pair. -/
def ByteUnits (string : JavaString) : Prop :=
  (∀ unit ∈ string, unit.toNat < 0x80 ∨ IsHighSurrogate unit ∨ IsLowSurrogate unit) ∧
    string.IsChain fun high low => ¬ IsPair high low

theorem unitBytes_length (unit : UInt16) : 1 ≤ (unitBytes unit).length := by
  rw [unitBytes]
  split
  · exact Nat.le_refl 1
  · rw [utf8]
    split_ifs <;> simp

theorem unitBytes_length_eq_iff (unit : UInt16) : (unitBytes unit).length = 1 ↔
    unit.toNat < 0x80 ∨ IsHighSurrogate unit ∨ IsLowSurrogate unit := by
  rw [unitBytes]
  split
  · rename_i half
    exact iff_of_true rfl (.inr half)
  · rename_i whole
    rw [or_iff_left whole, utf8]
    split_ifs with ascii <;> simp [ascii]

theorem utf8_long {code : Nat} (long : 0x10000 ≤ code) : (utf8 code).length = 4 := by
  have beyond : ¬ code < 0x80 ∧ ¬ code < 0x800 ∧ ¬ code < 0x10000 := by omega
  simp only [utf8, beyond, if_false, List.length_cons, List.length_nil]

theorem utf8_pair_length (high low : UInt16) : (utf8 (pairCode high low)).length = 4 := by
  have long : 0x10000 ≤ pairCode high low := by
    unfold pairCode
    omega
  exact utf8_long long

theorem length_le_getBytes (string : JavaString) : string.length ≤ (getBytes string).length := by
  fun_induction getBytes string with
  | case1 => exact Nat.le_refl 0
  | case2 unit => exact unitBytes_length unit
  | case3 high low rest pair ih =>
      rw [List.length_append, utf8_pair_length]
      simp only [List.length_cons]
      omega
  | case4 high low rest apart ih =>
      have first := unitBytes_length high
      rw [List.length_append]
      simp only [List.length_cons] at ih ⊢
      omega

theorem getBytes_length_eq_iff (string : JavaString) :
    (getBytes string).length = string.length ↔ ByteUnits string := by
  fun_induction getBytes string with
  | case1 => exact iff_of_true rfl ⟨by simp, List.IsChain.nil⟩
  | case2 unit => simp [ByteUnits, unitBytes_length_eq_iff]
  | case3 high low rest pair ih =>
      have more := length_le_getBytes rest
      refine iff_of_false ?_ fun units => ?_
      · rw [List.length_append, utf8_pair_length]
        simp only [List.length_cons]
        omega
      · exact (List.isChain_cons_cons.mp units.2).1 pair
  | case4 high low rest apart ih =>
      have first := unitBytes_length high
      have more := length_le_getBytes (low :: rest)
      have parts : (unitBytes high ++ getBytes (low :: rest)).length = (high :: low :: rest).length ↔
          (unitBytes high).length = 1 ∧ (getBytes (low :: rest)).length = (low :: rest).length := by
        rw [List.length_append, List.length_cons]
        omega
      rw [parts, ih, unitBytes_length_eq_iff]
      constructor
      · rintro ⟨one, units⟩
        exact ⟨List.forall_mem_cons.mpr ⟨one, units.1⟩, List.isChain_cons_cons.mpr ⟨apart, units.2⟩⟩
      · rintro ⟨each, chain⟩
        obtain ⟨one, others⟩ := List.forall_mem_cons.mp each
        exact ⟨one, others, (List.isChain_cons_cons.mp chain).2⟩

theorem getAsciiBytes_length (string : JavaString) :
    (getAsciiBytes string).length = string.length := List.length_map _

end A500cg.Lib
