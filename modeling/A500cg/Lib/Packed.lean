import Mathlib.Tactic

/-!
Packed little-endian records: a codec is a fixed width with an encoder and a decoder that undo
each other, and codecs combine as the members of a packed C structure follow one another.
-/

namespace A500cg.Lib

/-- The low `n` bytes of a number, lowest first. -/
def leBytes : Nat → Nat → List UInt8
  | 0, _ => []
  | n + 1, x => UInt8.ofNat x :: leBytes n (x / 256)

def leNumber : List UInt8 → Nat
  | [] => 0
  | byte :: bytes => byte.toNat + 256 * leNumber bytes

@[simp] theorem leBytes_length (n x : Nat) : (leBytes n x).length = n := by
  induction n generalizing x with
  | zero => rfl
  | succ n ih => rw [leBytes, List.length_cons, ih]

theorem leNumber_lt (bytes : List UInt8) : leNumber bytes < 256 ^ bytes.length := by
  induction bytes with
  | nil => simp [leNumber]
  | cons byte bytes ih =>
      have small := byte.toNat_lt
      rw [leNumber, List.length_cons, Nat.pow_succ]
      omega

theorem leNumber_leBytes (n : Nat) {x : Nat} (bound : x < 256 ^ n) : leNumber (leBytes n x) = x := by
  induction n generalizing x with
  | zero =>
      have zero : x = 0 := by simpa using bound
      rw [zero]
      rfl
  | succ n ih =>
      have rest : x / 256 < 256 ^ n := by
        rw [Nat.div_lt_iff_lt_mul (by decide), ← Nat.pow_succ]
        exact bound
      rw [leBytes, leNumber, ih rest, UInt8.toNat_ofNat']
      omega

theorem leBytes_leNumber (bytes : List UInt8) :
    leBytes bytes.length (leNumber bytes) = bytes := by
  induction bytes with
  | nil => rfl
  | cons byte bytes ih =>
      have small := byte.toNat_lt
      have low : UInt8.ofNat (byte.toNat + 256 * leNumber bytes) = byte := by
        apply UInt8.toNat_inj.mp
        rw [UInt8.toNat_ofNat']
        omega
      have high : (byte.toNat + 256 * leNumber bytes) / 256 = leNumber bytes := by omega
      rw [List.length_cons, leNumber, leBytes, low, high, ih]

structure Codec (α : Type) where
  width : Nat
  encode : α → List UInt8
  decode : List UInt8 → α
  encode_length : ∀ a, (encode a).length = width
  decode_encode : ∀ a, decode (encode a) = a
  encode_decode : ∀ bytes, bytes.length = width → encode (decode bytes) = bytes

attribute [simp] Codec.encode_length Codec.decode_encode

namespace Codec

variable {α β : Type}

theorem encode_inj (c : Codec α) {a b : α} (same : c.encode a = c.encode b) : a = b := by
  rw [← c.decode_encode a, same, c.decode_encode]

/-- A machine integer of `n` bytes. -/
def ofNumber (n : Nat) (toNat : α → Nat) (ofNat : Nat → α) (bound : ∀ a, toNat a < 256 ^ n)
    (ofNat_toNat : ∀ a, ofNat (toNat a) = a)
    (toNat_ofNat : ∀ x < 256 ^ n, toNat (ofNat x) = x) : Codec α where
  width := n
  encode a := leBytes n (toNat a)
  decode bytes := ofNat (leNumber bytes)
  encode_length _ := leBytes_length n _
  decode_encode a := by rw [leNumber_leBytes n (bound a), ofNat_toNat]
  encode_decode bytes length := by
    rw [toNat_ofNat _ (length ▸ leNumber_lt bytes), ← length, leBytes_leNumber]

def u8 : Codec UInt8 :=
  ofNumber 1 UInt8.toNat UInt8.ofNat (fun a => a.toNat_lt) (fun _ => UInt8.ofNat_toNat)
    (fun _ bound => UInt8.toNat_ofNat_of_lt' bound)

def u16 : Codec UInt16 :=
  ofNumber 2 UInt16.toNat UInt16.ofNat (fun a => a.toNat_lt) (fun _ => UInt16.ofNat_toNat)
    (fun _ bound => UInt16.toNat_ofNat_of_lt' bound)

def u32 : Codec UInt32 :=
  ofNumber 4 UInt32.toNat UInt32.ofNat (fun a => a.toNat_lt) (fun _ => UInt32.ofNat_toNat)
    (fun _ bound => UInt32.toNat_ofNat_of_lt' bound)

def u64 : Codec UInt64 :=
  ofNumber 8 UInt64.toNat UInt64.ofNat (fun a => a.toNat_lt) (fun _ => UInt64.ofNat_toNat)
    (fun _ bound => UInt64.toNat_ofNat_of_lt' bound)

def pair (c : Codec α) (d : Codec β) : Codec (α × β) where
  width := c.width + d.width
  encode p := c.encode p.1 ++ d.encode p.2
  decode bytes := (c.decode (bytes.take c.width), d.decode (bytes.drop c.width))
  encode_length p := by simp
  decode_encode p := by
    rw [List.take_left' (c.encode_length p.1), List.drop_left' (c.encode_length p.1)]
    simp
  encode_decode bytes length := by
    rw [c.encode_decode _ (by rw [List.length_take]; omega),
      d.encode_decode _ (by rw [List.length_drop]; omega), List.take_append_drop]

def map (c : Codec α) (make : α → β) (back : β → α) (make_back : ∀ b, make (back b) = b)
    (back_make : ∀ a, back (make a) = a) : Codec β where
  width := c.width
  encode b := c.encode (back b)
  decode bytes := make (c.decode bytes)
  encode_length b := c.encode_length (back b)
  decode_encode b := by rw [c.decode_encode, make_back]
  encode_decode bytes length := by rw [back_make, c.encode_decode bytes length]

theorem flatMap_encode_length (c : Codec α) (items : List α) :
    (items.flatMap c.encode).length = items.length * c.width := by
  induction items with
  | nil => simp
  | cons item items ih =>
      rw [List.flatMap_cons, List.length_append, ih, c.encode_length, List.length_cons, Nat.succ_mul,
        Nat.add_comm]

/-- The bytes cut into `n` items. -/
def items (c : Codec α) : Nat → List UInt8 → List α
  | 0, _ => []
  | n + 1, bytes => c.decode (bytes.take c.width) :: c.items n (bytes.drop c.width)

@[simp] theorem items_length (c : Codec α) (n : Nat) (bytes : List UInt8) :
    (c.items n bytes).length = n := by
  induction n generalizing bytes with
  | zero => rfl
  | succ n ih => rw [items, List.length_cons, ih]

theorem items_flatMap (c : Codec α) (list : List α) :
    c.items list.length (list.flatMap c.encode) = list := by
  induction list with
  | nil => rfl
  | cons item list ih =>
      rw [List.flatMap_cons, List.length_cons, items, List.take_left' (c.encode_length item),
        List.drop_left' (c.encode_length item), c.decode_encode, ih]

theorem flatMap_items (c : Codec α) (n : Nat) (bytes : List UInt8)
    (length : bytes.length = n * c.width) : (c.items n bytes).flatMap c.encode = bytes := by
  induction n generalizing bytes with
  | zero =>
      have empty : bytes = [] := List.length_eq_zero_iff.mp (by simpa using length)
      rw [empty]
      rfl
  | succ n ih =>
      rw [Nat.succ_mul] at length
      rw [items, List.flatMap_cons, c.encode_decode _ (by rw [List.length_take]; omega),
        ih _ (by rw [List.length_drop]; omega), List.take_append_drop]

theorem items_replicate (c : Codec α) (n : Nat) (byte : UInt8) :
    c.items n (List.replicate (n * c.width) byte) =
      List.replicate n (c.decode (List.replicate c.width byte)) := by
  induction n with
  | zero => rfl
  | succ n ih =>
      have less : c.width ≤ (n + 1) * c.width := Nat.le_mul_of_pos_left _ (Nat.succ_pos n)
      have left : (n + 1) * c.width - c.width = n * c.width := by
        rw [Nat.succ_mul, Nat.add_sub_cancel]
      rw [items, List.take_replicate, Nat.min_eq_left less, List.drop_replicate, left, ih,
        List.replicate_succ]

theorem flatMap_encode_getElem? (c : Codec α) (some : 0 < c.width) (items : List α) (k : Nat) :
    (items.flatMap c.encode)[k]? =
      (items[k / c.width]?).bind fun item => (c.encode item)[k % c.width]? := by
  induction items generalizing k with
  | nil => simp
  | cons item items ih =>
      rw [List.flatMap_cons]
      by_cases first : k < c.width
      · rw [List.getElem?_append_left (by rwa [c.encode_length]), Nat.div_eq_of_lt first,
          Nat.mod_eq_of_lt first]
        rfl
      · obtain ⟨j, rfl⟩ := Nat.exists_eq_add_of_le (Nat.le_of_not_lt first)
        rw [List.getElem?_append_right (by rw [c.encode_length]; omega), c.encode_length,
          Nat.add_sub_cancel_left, ih, Nat.add_div_left j some, Nat.add_mod_left]
        rfl

/-- An array of `n` items. -/
def array (c : Codec α) (n : Nat) : Codec (Vector α n) where
  width := n * c.width
  encode v := v.toList.flatMap c.encode
  decode bytes := ⟨(c.items n bytes).toArray, by simp⟩
  encode_length v := by rw [flatMap_encode_length, Vector.length_toList]
  decode_encode v := by
    apply Vector.toList_inj.mp
    have whole := c.items_flatMap v.toList
    rw [Vector.length_toList] at whole
    simpa [Vector.toList] using whole
  encode_decode bytes length := by
    simpa [Vector.toList] using c.flatMap_items n bytes length

theorem array_encode_set (c : Codec α) {n : Nat} (v : Vector α n) {i : Nat} (bound : i < n) (a : α)
    {k : Nat} (differ : ((c.array n).encode v)[k]? ≠ ((c.array n).encode (v.set i a))[k]?) :
    k / c.width = i := by
  by_contra other
  apply differ
  change (v.toList.flatMap c.encode)[k]? = ((v.set i a).toList.flatMap c.encode)[k]?
  rcases Nat.eq_zero_or_pos c.width with zero | some
  · have empty : ∀ items : List α, (items.flatMap c.encode)[k]? = none := by
      intro items
      apply List.getElem?_eq_none
      rw [c.flatMap_encode_length, zero, Nat.mul_zero]
      exact Nat.zero_le k
    rw [empty, empty]
  · rw [c.flatMap_encode_getElem? some, c.flatMap_encode_getElem? some, Vector.toList_set,
      List.getElem?_set_ne (Ne.symm other)]

theorem array_encode_split (c : Codec α) {n : Nat} (v : Vector α n) {i : Nat} (bound : i < n) (a : α) :
    (c.array n).encode (v.set i a) =
      (v.toList.take i).flatMap c.encode ++ c.encode a ++ (v.toList.drop (i + 1)).flatMap c.encode := by
  have length : i < v.toList.length := by simpa using bound
  change (v.set i a).toList.flatMap c.encode = _
  rw [Vector.toList_set, List.set_eq_take_append_cons_drop, if_pos length, List.flatMap_append,
    List.flatMap_cons, List.append_assoc]

end Codec

structure Overlay (α : Type) where
  value : α
  rest : List UInt8
deriving DecidableEq

namespace Codec

variable {α : Type} (c : Codec α)

def view (buffer : List UInt8) : Overlay α :=
  ⟨c.decode (buffer.take c.width), buffer.drop c.width⟩

def bytes (o : Overlay α) : List UInt8 := c.encode o.value ++ o.rest

@[simp] theorem view_bytes (o : Overlay α) : c.view (c.bytes o) = o := by
  rw [view, bytes, List.take_left' (c.encode_length _), List.drop_left' (c.encode_length _),
    c.decode_encode]

theorem bytes_view {buffer : List UInt8} (fits : c.width ≤ buffer.length) :
    c.bytes (c.view buffer) = buffer := by
  rw [view, bytes, c.encode_decode _ (by rw [List.length_take]; omega), List.take_append_drop]

@[simp] theorem bytes_length (o : Overlay α) : (c.bytes o).length = c.width + o.rest.length := by
  rw [bytes, List.length_append, c.encode_length]

@[simp] theorem view_rest_length (buffer : List UInt8) :
    (c.view buffer).rest.length = buffer.length - c.width := by
  rw [view, List.length_drop]

end Codec

end A500cg.Lib
