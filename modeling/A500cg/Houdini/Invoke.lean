import A500cg.Lib.CString
import A500cg.Lib.Layout

/-! `dvmHookPlatformInvoke` of `libhoudini_hook.cpp`: the arguments of a method are put in arrays
for translated code. -/

namespace A500cg.Houdini

open Lib

/-- What an entry of `values` points at: the local `pEnv` or `clazz`, or a word of the arguments. -/
inductive Pointer where
  | pEnv
  | clazz
  | word (k : Nat)
  deriving DecidableEq

/-- A call of `dvm2hdNativeMethodHelper`, with the arrays as they are then: a cell that was not
stored to is `none`. -/
structure HelperCall where
  flag : Bool
  func : UInt32
  retType : UInt8
  pReturn : UInt32
  dstArg : Nat
  types : List (Option UInt8)
  values : List (Option Pointer)
  deriving DecidableEq

inductive Invoked where
  | helper (call : HelperCall)
  | logged (message : String)
  deriving DecidableEq

structure Frame where
  types : List (Option UInt8)
  values : List (Option Pointer)
  argv : Nat
  dstArg : Nat

def scanShorty : List UInt8 → Frame → Option Frame
  | [], frame => some frame
  | sigByte :: shorty, frame => do
      let types ← storeCell frame.types frame.dstArg sigByte
      let values ← storeCell frame.values frame.dstArg (.word frame.argv)
      let argv := frame.argv + 1
      let argv := if sigByte = 0x44 ∨ sigByte = 0x4A then argv + 1 else argv
      scanShorty shorty ⟨types, values, argv, frame.dstArg + 1⟩

/-- `dvmHookPlatformInvoke`, with or without an initialized `gHoudini`. The first character of the
signature is read without a look at it; a signature without it has no result. -/
def dvmHookPlatformInvoke (gHoudini : Bool) (clazz : UInt32) (argc : Nat) (shorty : CString)
    (func pReturn : UInt32) : Option Invoked := do
  let kMaxArgs := argc + 2
  let types ← storeCell (List.replicate (kMaxArgs + 1) none) 0 0x4C
  let values ← storeCell (List.replicate kMaxArgs none) 0 .pEnv
  let types ← storeCell types 1 0x4C
  let values ← storeCell values 1 (if clazz ≠ 0 then .clazz else .word 0)
  let argv := if clazz ≠ 0 then 0 else 1
  let retType ← shorty.bytes.head?
  let frame ← scanShorty shorty.bytes.tail ⟨types, values, argv, 2⟩
  let types ← storeCell frame.types frame.dstArg 0
  return if gHoudini then
    .helper ⟨false, func, retType, pReturn, frame.dstArg, types, frame.values⟩
  else .logged "Houdini has not been initialized!"

def width (sigByte : UInt8) : Nat := if sigByte = 0x44 ∨ sigByte = 0x4A then 2 else 1

def receiver (clazz : UInt32) : Nat := if clazz ≠ 0 then 0 else 1

/-- The arrays for the parameters, over arguments of `argc` words. -/
structure Marshalled (clazz : UInt32) (argc : Nat) (params : List UInt8)
    (types : List (Option UInt8)) (values : List (Option Pointer)) : Prop where
  types_length : types.length = argc + 3
  values_length : values.length = argc + 2
  typeString : (types.take (2 + params.length + 1)) = ([0x4C, 0x4C] ++ params ++ [0]).map some
  environment : values[0]? = some (some .pEnv)
  class_or_receiver : values[1]? = some (some (if clazz ≠ 0 then .clazz else .word 0))
  parameter : ∀ k < params.length, values[k + 2]? =
    some (some (.word (receiver clazz + extent width (params.take k))))
  unused : ∀ k, 2 + params.length ≤ k → values[k]?.join = none
  inside : ∀ k (bound : k < params.length),
    receiver clazz + extent width (params.take k) + width params[k] ≤ argc

theorem width_pos (sigByte : UInt8) : 0 < width sigByte := by
  rw [width]
  split_ifs <;> omega

theorem scanShorty_filled (params : List UInt8) (types : List UInt8) (values : List Pointer)
    (same : values.length = types.length) (argv restTypes restValues : Nat) :
    scanShorty params ⟨filled types (params.length + restTypes),
        filled values (params.length + restValues), argv, types.length⟩ =
      some ⟨filled (types ++ params) restTypes,
        filled (values ++ (offsets width argv params).map .word) restValues,
        argv + extent width params, types.length + params.length⟩ := by
  induction params generalizing types values argv with
  | nil =>
      rw [scanShorty]
      simp [offsets, extent]
  | cons sigByte params ih =>
      have room (rest : Nat) : (sigByte :: params).length + rest = params.length + rest + 1 := by
        rw [List.length_cons]
        omega
      have stored := storeCell_filled values (params.length + restValues) (.word argv)
      rw [same] at stored
      have words : (if sigByte = 0x44 ∨ sigByte = 0x4A then argv + 1 + 1 else argv + 1) =
          argv + width sigByte := by
        rw [width]
        split_ifs <;> rfl
      have later := ih (types ++ [sigByte]) (values ++ [.word argv])
        (by simp [same]) (argv + width sigByte)
      rw [List.length_append, List.length_singleton] at later
      rw [scanShorty, room, room, storeCell_filled, stored]
      simp only [Option.bind_eq_bind, Option.bind_some, words, later]
      simp only [List.append_assoc, List.singleton_append, offsets, List.map_cons, extent_cons,
        List.length_cons, Nat.add_assoc, Nat.add_comm 1]

theorem dvmHookPlatformInvoke_filled (clazz func pReturn : UInt32) {shorty : CString}
    {retType : UInt8} {params : List UInt8} (signature : shorty.bytes = retType :: params)
    (more : Nat) :
    dvmHookPlatformInvoke true clazz (params.length + more) shorty func pReturn =
      some (.helper ⟨false, func, retType, pReturn, 2 + params.length,
        filled ([0x4C, 0x4C] ++ params ++ [0]) more,
        filled ([.pEnv, if clazz ≠ 0 then .clazz else .word 0] ++
          (offsets width (receiver clazz) params).map .word) more⟩) := by
  let second : Pointer := if clazz ≠ 0 then .clazz else .word 0
  have cells {α : Type} (n : Nat) : List.replicate n (none : Option α) = filled [] n := rfl
  have type0 : storeCell (filled [] (params.length + (more + 1) + 1 + 1)) 0 (0x4C : UInt8) =
      some (filled [0x4C] (params.length + (more + 1) + 1)) := storeCell_filled [] _ _
  have type1 : storeCell (filled [0x4C] (params.length + (more + 1) + 1)) 1 (0x4C : UInt8) =
      some (filled [0x4C, 0x4C] (params.length + (more + 1))) := storeCell_filled [0x4C] _ _
  have value0 : storeCell (filled [] (params.length + more + 2)) 0 Pointer.pEnv =
      some (filled [.pEnv] (params.length + more + 1)) := storeCell_filled [] _ _
  have value1 : storeCell (filled [Pointer.pEnv] (params.length + more + 1)) 1 second =
      some (filled [.pEnv, second] (params.length + more)) := storeCell_filled [Pointer.pEnv] _ _
  have looped : scanShorty params ⟨filled [0x4C, 0x4C] (params.length + (more + 1)),
        filled [.pEnv, second] (params.length + more), receiver clazz, 2⟩ =
      some ⟨filled ([0x4C, 0x4C] ++ params) (more + 1),
        filled ([.pEnv, second] ++ (offsets width (receiver clazz) params).map .word) more,
        receiver clazz + extent width params, 2 + params.length⟩ :=
    scanShorty_filled params [0x4C, 0x4C] [.pEnv, second] rfl (receiver clazz) (more + 1) more
  have ended := storeCell_filled ([0x4C, 0x4C] ++ params) more (0 : UInt8)
  rw [List.length_append, show [0x4C, (0x4C : UInt8)].length = 2 from rfl] at ended
  have words : params.length + more + 2 + 1 = params.length + (more + 1) + 1 + 1 := by omega
  rw [dvmHookPlatformInvoke, cells, cells, signature, words]
  simp only [Option.bind_eq_bind, type0, value0, Option.bind_some, type1]
  change ((storeCell _ 1 second).bind _) = _
  rw [value1]
  simp only [Option.bind_some, List.head?_cons, List.tail_cons]
  change ((scanShorty params ⟨_, _, receiver clazz, 2⟩).bind _) = _
  rw [looped]
  simp only [Option.bind_some, ended]
  rfl

/-- For every signature and the arguments that are laid out for it, the helper is given the types
and the places of all parameters, and the arrays have room. -/
theorem dvmHookPlatformInvoke_marshalled (clazz func pReturn : UInt32) (retType : UInt8)
    (params : List UInt8) {shorty : CString} (signature : shorty.bytes = retType :: params)
    {argc : Nat} (laidOut : argc = receiver clazz + extent width params) :
    ∃ types values, dvmHookPlatformInvoke true clazz argc shorty func pReturn =
        some (.helper ⟨false, func, retType, pReturn, 2 + params.length, types, values⟩) ∧
      Marshalled clazz argc params types values := by
  have few : params.length ≤ argc := by
    have words := length_le_extent width width_pos params
    omega
  obtain ⟨more, rfl⟩ := Nat.exists_eq_add_of_le few
  refine ⟨_, _, dvmHookPlatformInvoke_filled clazz func pReturn signature more, ?_⟩
  have places := offsets_length width (receiver clazz) params
  constructor
  · rw [filled_length]
    simp only [List.length_append, List.length_cons, List.length_nil]
    omega
  · rw [filled_length]
    simp only [List.length_append, List.length_cons, List.length_nil, List.length_map, places]
    omega
  · apply List.take_left'
    simp only [List.length_map, List.length_append, List.length_cons, List.length_nil]
  · rw [filled_getElem? _ _ (by simp)]
    rfl
  · rw [filled_getElem? _ _ (by simp)]
    rfl
  · intro k bound
    rw [filled_getElem? _ _ (by simp [places, bound]),
      List.getElem?_append_right (by simp), List.getElem?_map]
    simp [offsets_getElem? width (receiver clazz) params bound]
  · intro k behind
    rw [filled, List.getElem?_append_right (by simp [places]; omega), List.getElem?_replicate]
    split_ifs <;> rfl
  · intro k bound
    have ends := extent_take_le width params bound
    omega

theorem instance_call_marshalled :
    ∃ types values, dvmHookPlatformInvoke true 0 5 ⟨[0x56, 0x49, 0x4A, 0x4C], by decide⟩ 7 9 =
        some (.helper ⟨false, 7, 0x56, 9, 2 + 3, types, values⟩) ∧
      Marshalled 0 5 [0x49, 0x4A, 0x4C] types values :=
  dvmHookPlatformInvoke_marshalled 0 7 9 0x56 [0x49, 0x4A, 0x4C] rfl (by decide)

end A500cg.Houdini
