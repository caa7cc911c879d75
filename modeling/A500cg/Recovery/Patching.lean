import A500cg.Osip.Slots
import A500cg.Lib.Files

/-! `patch_recovery` of `update_recovery.c`: the recovery image is made from the boot image by a
patch and flashed.

What the libraries do is given: the digests, the patching as far as it writes through its sink,
and the flash itself. The read of the present recovery image, whose result nothing uses, is left
out. -/

namespace A500cg.Recovery

open Lib Osip

/-- A SHA-1 digest of `SHA_DIGEST_SIZE` bytes. -/
abbrev Digest := Fin 20 → UInt8

def TGT_SIZE_MAX : Nat := LBA_SIZE * OS_MAX_LBA.toNat

structure MemorySinkInfo where
  buffer : List UInt8
  pos : Nat
  deriving DecidableEq, Repr

def memorySink (data : List UInt8) (msi : MemorySinkInfo) : Int × MemorySinkInfo :=
  if (msi.buffer.length : Int) - msi.pos < data.length then (-1, msi)
  else
    (data.length, ⟨msi.buffer.take msi.pos ++ data ++ msi.buffer.drop (msi.pos + data.length),
      msi.pos + data.length⟩)

/-- A run of `ApplyImagePatch`: its result, or a write whose answer it goes on with. -/
inductive Patching where
  | done (result : Int)
  | write (data : List UInt8) (next : Int → Patching)

def Patching.run : Patching → MemorySinkInfo → Int × MemorySinkInfo
  | done result, msi => (result, msi)
  | write data next, msi => (next (memorySink data msi).1).run (memorySink data msi).2

/-- The arguments of `patch_recovery`, what the device and the patch file hold, what a fresh buffer
holds if it can be had, and what the libraries do. -/
structure PatchEnv where
  srcSha1 : String
  tgtSha1 : String
  tgtSize : UInt32
  parseSha1 : String → Option Digest
  readImage : Option (List UInt8)
  malloc : Option Buffer
  patchFile : Option (List UInt8)
  shaHash : List UInt8 → Digest
  applyImagePatch : List UInt8 → List UInt8 → Patching
  flashRecoveryKernel : List UInt8 → Int

def patchRecovery (env : PatchEnv) : Int × List (List UInt8) :=
  match env.parseSha1 env.srcSha1 with
  | none => (-1, [])
  | some expectedSrcDigest =>
  match env.parseSha1 env.tgtSha1 with
  | none => (-1, [])
  | some expectedTgtDigest =>
  match env.readImage with
  | none => (-1, [])
  | some srcData =>
  if env.shaHash srcData ≠ expectedSrcDigest then (0, [])
  else if env.tgtSize.toNat > TGT_SIZE_MAX then (0, [])
  else
  match env.malloc with
  | none => (0, [])
  | some fresh =>
  match env.patchFile with
  | none => (0, [])
  | some patch =>
  match (env.applyImagePatch srcData patch).run ⟨firstBytes fresh env.tgtSize.toNat, 0⟩ with
  | (result, msi) =>
      if result ≠ 0 then (0, [])
      else if env.shaHash msi.buffer ≠ expectedTgtDigest then (0, [])
      -- whether the flash succeeds does not change what is returned
      else (0, [msi.buffer])

/-- The image that the patch makes of the boot image, when every step up to the flash succeeds. -/
def Patched (env : PatchEnv) (image : List UInt8) : Prop :=
  ∃ srcData fresh patch pos, env.parseSha1 env.srcSha1 = some (env.shaHash srcData) ∧
    env.parseSha1 env.tgtSha1 = some (env.shaHash image) ∧ env.readImage = some srcData ∧
    env.tgtSize.toNat ≤ TGT_SIZE_MAX ∧ env.malloc = some fresh ∧ env.patchFile = some patch ∧
    (env.applyImagePatch srcData patch).run ⟨firstBytes fresh env.tgtSize.toNat, 0⟩ =
      (0, ⟨image, pos⟩)

/-- Only the right image is flashed, and 0 stands for a flash that succeeded. -/
structure Truthful (env : PatchEnv) : Prop where
  flashed : ∀ image ∈ (patchRecovery env).2, image.length = env.tgtSize.toNat ∧
    env.parseSha1 env.tgtSha1 = some (env.shaHash image) ∧
    ∃ srcData, env.readImage = some srcData ∧
      env.parseSha1 env.srcSha1 = some (env.shaHash srcData)
  result : (patchRecovery env).1 = 0 ↔
    ∃ image ∈ (patchRecovery env).2, env.flashRecoveryKernel image = 0

theorem memorySink_length (data : List UInt8) {msi : MemorySinkInfo}
    (inside : msi.pos ≤ msi.buffer.length) :
    (memorySink data msi).2.buffer.length = msi.buffer.length ∧
      (memorySink data msi).2.pos ≤ msi.buffer.length := by
  rw [memorySink]
  split
  · exact ⟨rfl, inside⟩
  · simp only [List.length_append, List.length_take, List.length_drop]
    omega

theorem Patching.run_length (patching : Patching) {msi : MemorySinkInfo}
    (inside : msi.pos ≤ msi.buffer.length) :
    (patching.run msi).2.buffer.length = msi.buffer.length := by
  induction patching generalizing msi with
  | done result => rfl
  | write data next ih =>
      rcases memorySink_length data inside with ⟨same, inside'⟩
      rw [run, ih _ (by omega), same]

theorem mem_flashed {env : PatchEnv} {image : List UInt8} :
    image ∈ (patchRecovery env).2 ↔ Patched env image := by
  constructor
  · intro member
    revert member
    fun_cases patchRecovery env with
    | case10 srcDigest src tgtDigest tgt srcData read digest size fresh buffer patch file result msi
        ran success digest' =>
        intro member
        cases List.mem_singleton.mp member
        refine ⟨srcData, fresh, patch, msi.pos, ?_, ?_, read, by omega, buffer, file, ?_⟩
        · rw [src, not_not.mp digest]
        · rw [tgt, not_not.mp digest']
        · rw [ran, not_not.mp success]
    | _ => exact fun member => absurd member List.not_mem_nil
  · rintro ⟨srcData, fresh, patch, pos, src, tgt, read, size, buffer, file, ran⟩
    simp [patchRecovery, src, tgt, read, buffer, file, ran, Nat.not_lt.mpr size]

theorem result_eq_zero {env : PatchEnv} :
    (patchRecovery env).1 = 0 ↔ ¬ (env.parseSha1 env.srcSha1 = none ∨
      env.parseSha1 env.tgtSha1 = none ∨ env.readImage = none) := by
  fun_cases patchRecovery env with
  | case1 src => simp [src]
  | case2 srcDigest src tgt => simp [tgt]
  | case3 srcDigest src tgtDigest tgt read => simp [read]
  | _ => simp [*]

theorem Patched.length {env : PatchEnv} {image : List UInt8} (patched : Patched env image) :
    image.length = env.tgtSize.toNat := by
  rcases patched with ⟨srcData, fresh, patch, pos, -, -, -, -, -, -, ran⟩
  have same := (env.applyImagePatch srcData patch).run_length
    (show (⟨firstBytes fresh env.tgtSize.toNat, 0⟩ : MemorySinkInfo).pos ≤ _ from Nat.zero_le _)
  rw [ran] at same
  rw [same, firstBytes_length]

/-- `patch_recovery` tells the truth exactly when it stops before it has read the boot image, or
the flash is made and succeeds. -/
theorem patch_recovery_truthful_iff (env : PatchEnv) :
    Truthful env ↔
      env.parseSha1 env.srcSha1 = none ∨ env.parseSha1 env.tgtSha1 = none ∨
        env.readImage = none ∨ ∃ image, Patched env image ∧ env.flashRecoveryKernel image = 0 := by
  constructor
  · intro truthful
    by_cases stopped : env.parseSha1 env.srcSha1 = none ∨ env.parseSha1 env.tgtSha1 = none ∨
        env.readImage = none
    · tauto
    · rcases truthful.result.mp (result_eq_zero.mpr stopped) with ⟨image, member, success⟩
      exact .inr (.inr (.inr ⟨image, mem_flashed.mp member, success⟩))
  · intro condition
    constructor
    · intro image member
      have patched := mem_flashed.mp member
      rcases id patched with ⟨srcData, -, -, -, src, tgt, read, -⟩
      exact ⟨patched.length, tgt, srcData, read, src⟩
    · rw [result_eq_zero]
      simp only [mem_flashed]
      constructor
      · intro started
        tauto
      · rintro ⟨image, ⟨srcData, -, -, -, src, tgt, read, -⟩, -⟩
        simp [src, tgt, read]

def zeroBlockDigest : Digest :=
  ![0x5c, 0x3e, 0xb8, 0x00, 0x66, 0x42, 0x00, 0x02, 0xbc, 0x3d,
    0xcc, 0x7c, 0xa4, 0xab, 0x6e, 0xfa, 0xd7, 0xed, 0x4a, 0xe5]

def emptyDigest : Digest :=
  ![0xda, 0x39, 0xa3, 0xee, 0x5e, 0x6b, 0x4b, 0x0d, 0x32, 0x55,
    0xbf, 0xef, 0x95, 0x60, 0x18, 0x90, 0xaf, 0xd8, 0x07, 0x09]

def foreignBoot : PatchEnv where
  srcSha1 := "da39a3ee5e6b4b0d3255bfef95601890afd80709"
  tgtSha1 := "da39a3ee5e6b4b0d3255bfef95601890afd80709"
  tgtSize := 512
  parseSha1 := fun _ => some emptyDigest
  readImage := some (List.replicate 512 0)
  malloc := some fun _ => 0
  patchFile := some []
  shaHash := fun _ => zeroBlockDigest
  applyImagePatch := fun _ _ => .done (-1)
  flashRecoveryKernel := fun _ => 0

/-- The wrong boot image is noticed, nothing is flashed, and 0 is returned. -/
theorem foreign_boot_untruthful : ¬ Truthful foreignBoot := by
  intro truthful
  have success : (patchRecovery foreignBoot).1 = 0 := by decide
  rcases truthful.result.mp success with ⟨image, member, -⟩
  have nothing : (patchRecovery foreignBoot).2 = [] := by decide
  rw [nothing] at member
  exact absurd member List.not_mem_nil

end A500cg.Recovery
