import A500cg.Boot.Pack

/-! `unpack.c`, and whether it stops. Its two copy loops are run with a bound on their passes, so
that a loop that never ends is one that every bound is too small for. -/

namespace A500cg.Boot

open Lib

/-- A copy loop of `unpack.c`, `none` if the passes do not suffice. A pass whose read gives
nothing changes nothing. -/
def copyLoop (image : List UInt8) : (passes pos missing : Nat) → List UInt8 → Option (List UInt8)
  | 0, _, _, _ => none
  | passes + 1, pos, missing, out =>
      if 0 < missing then
        let buf := (image.drop pos).take (min missing BUFSIZ)
        if buf.length ≠ 0 then
          copyLoop image passes (pos + buf.length) (missing - buf.length) (out ++ buf)
        else copyLoop image passes pos missing out
      else some out

def bzImageLen (image : List UInt8) : Nat := (le32 (bytesOf image) CMDLINE_END).toNat

def ramdiskLen (image : List UInt8) : Nat := (le32 (bytesOf image) (CMDLINE_END + 4)).toNat

inductive UnpackExit where
  | done (bzImage ramdisk : List UInt8)
  | error
  deriving DecidableEq, Repr

/-- `main` of `unpack.c` with at most `passes` in each of its loops. -/
def unpackWithin (passes : Nat) (image : List UInt8) : Option UnpackExit :=
  if image.length < CMDLINE_END + 4 then some .error
  else if image.length < CMDLINE_END + 4 + 4 then some .error
  else
    (copyLoop image passes bootheaderBytes (bzImageLen image) []).bind fun bzImage =>
      (copyLoop image passes (bootheaderBytes + bzImageLen image) (ramdiskLen image) []).map
        fun ramdisk => .done bzImage ramdisk

/-- Behind its header the file has fewer bytes than the two sizes say. -/
def TooShort (image : List UInt8) : Prop :=
  image.length - bootheaderBytes < bzImageLen image + ramdiskLen image

structure Stops (image : List UInt8) : Prop where
  ends : ∃ passes exit, unpackWithin passes image = some exit
  reports : TooShort image → ∃ passes, unpackWithin passes image = some .error

theorem buf_length (image : List UInt8) (pos missing : Nat) :
    ((image.drop pos).take (min missing BUFSIZ)).length =
      min (min missing BUFSIZ) (image.length - pos) := by
  rw [List.length_take, List.length_drop]

theorem copyLoop_ends (image : List UInt8) {passes pos missing : Nat} (out : List UInt8)
    (held : missing ≤ image.length - pos) (enough : missing < passes) :
    copyLoop image passes pos missing out = some (out ++ (image.drop pos).take missing) := by
  induction passes generalizing pos missing out with
  | zero => exact absurd enough (Nat.not_lt_zero _)
  | succ passes ih =>
      have size := buf_length image pos missing
      have room : 0 < BUFSIZ := by decide
      rw [copyLoop]
      split
      · rename_i wanted
        generalize gotten : (image.drop pos).take (min missing BUFSIZ) = buf at size
        have some : buf.length ≠ 0 := by omega
        dsimp only
        rw [if_pos some, ih _ (by omega) (by omega), List.append_assoc]
        have split : (image.drop pos).take missing =
            buf ++ (image.drop (pos + buf.length)).take (missing - buf.length) := by
          have parts : missing = min missing BUFSIZ + (missing - min missing BUFSIZ) := by omega
          have whole : buf.length = min missing BUFSIZ := by omega
          conv => lhs; rw [parts]
          rw [List.take_add, gotten, List.drop_drop, whole]
        rw [split]
      · rename_i none
        have zero : missing = 0 := by omega
        rw [zero, List.take_zero, List.append_nil]

theorem copyLoop_stuck (image : List UInt8) {pos missing : Nat} (out : List UInt8)
    (short : image.length - pos < missing) (passes : Nat) :
    copyLoop image passes pos missing out = none := by
  induction passes generalizing pos missing out with
  | zero => rfl
  | succ passes ih =>
      have size := buf_length image pos missing
      rw [copyLoop, if_pos (by omega)]
      dsimp only
      split
      · exact ih _ (by omega)
      · exact ih _ short

theorem unpackWithin_error {image : List UInt8} (headless : image.length < CMDLINE_END + 8)
    (passes : Nat) : unpackWithin passes image = some .error := by
  rw [unpackWithin, if_pos headless, ite_self]

theorem unpackWithin_done {image : List UInt8} (headed : CMDLINE_END + 8 ≤ image.length)
    (held : bzImageLen image + ramdiskLen image ≤ image.length - bootheaderBytes) {passes : Nat}
    (enough : bzImageLen image + ramdiskLen image < passes) :
    unpackWithin passes image = some (.done
      ((image.drop bootheaderBytes).take (bzImageLen image))
      ((image.drop (bootheaderBytes + bzImageLen image)).take (ramdiskLen image))) := by
  rw [unpackWithin, if_neg (by omega), if_neg (by omega),
    copyLoop_ends image [] (by omega) (by omega), Option.bind_some,
    copyLoop_ends image [] (by omega) (by omega), Option.map_some, List.nil_append,
    List.nil_append]

theorem unpackWithin_endless {image : List UInt8} (headed : CMDLINE_END + 8 ≤ image.length)
    (short : TooShort image) (passes : Nat) : unpackWithin passes image = none := by
  rw [TooShort] at short
  rw [unpackWithin, if_neg (by omega), if_neg (by omega)]
  by_cases kernel : bzImageLen image ≤ image.length - bootheaderBytes
  · rw [copyLoop_stuck image [] (by omega : image.length - (bootheaderBytes + bzImageLen image) <
      ramdiskLen image)]
    exact Option.bind_fun_none _
  · rw [copyLoop_stuck image [] (by omega), Option.bind_none]

/-- `unpack` stops, with an error for a file that is too short, exactly if the file ends
before the sizes or has all the bytes that they declare. -/
theorem unpack_stops_iff (image : List UInt8) :
    Stops image ↔ image.length < CMDLINE_END + 8 ∨
      bzImageLen image + ramdiskLen image ≤ image.length - bootheaderBytes := by
  constructor
  · intro stops
    by_contra neither
    obtain ⟨headed, short⟩ := not_or.mp neither
    obtain ⟨passes, exit, ended⟩ := stops.ends
    rw [unpackWithin_endless (by omega) (not_le.mp short)] at ended
    cases ended
  · intro condition
    by_cases headless : image.length < CMDLINE_END + 8
    · exact ⟨⟨0, _, unpackWithin_error headless 0⟩, fun _ => ⟨0, unpackWithin_error headless 0⟩⟩
    · have held := condition.resolve_left headless
      refine ⟨⟨_, _, unpackWithin_done (by omega) held (Nat.lt_succ_self _)⟩, ?_⟩
      intro short
      exact absurd short (not_lt.mpr held)

def cutImage : List UInt8 := List.replicate (CMDLINE_END + 8) 1

theorem cut_image_endless : ¬ Stops cutImage := by
  intro stops
  obtain ⟨passes, exit, ended⟩ := stops.ends
  have length : cutImage.length = CMDLINE_END + 8 := List.length_replicate
  have ones : ∀ i, i < CMDLINE_END + 8 → bytesOf cutImage i = 1 := by
    intro i inside
    rw [bytesOf, cutImage, List.getD_eq_getElem?_getD, List.getElem?_replicate, if_pos inside,
      Option.getD_some]
  have size : bzImageLen cutImage = 0x01010101 := by
    rw [bzImageLen, le32, ones _ (by decide), ones _ (by decide), ones _ (by decide),
      ones _ (by decide)]
    rfl
  have short : TooShort cutImage := by
    have header : CMDLINE_END + 8 ≤ bootheaderBytes := by decide
    rw [TooShort, length, size]
    omega
  rw [unpackWithin_endless length.ge short] at ended
  cases ended

end A500cg.Boot
