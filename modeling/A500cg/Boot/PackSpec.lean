import A500cg.Boot.Unpack

/-! What `pack` puts into a boot image, what the flasher makes of it, and what `unpack`
gets back. -/

namespace A500cg.Boot

open Lib Osip

theorem foldl_xor (f : Buffer) (start : UInt8) (n : Nat) :
    (List.range n).foldl (fun sum i => sum ^^^ f i) start = start ^^^ xorRange f n := by
  induction n with
  | zero => simp [xorRange]
  | succ n ih =>
      rw [List.range_succ, List.foldl_append, ih, List.foldl_cons, List.foldl_nil, xorRange,
        LawfulXor.xor_assoc]

theorem calculateChecksum_eq (hdr : Buffer) :
    calculateChecksum hdr = xorRange (Function.update hdr xorOffset 0) HEADER_SIZE := by
  rw [calculateChecksum, foldl_xor, xorRange_update _ _ _ _ (by decide), xor_zero,
    LawfulXor.xor_comm]

def wordsSet (file : Buffer) (bzImageSize initrdSize sectors : UInt32) : Buffer :=
  store32 (store32 (store32 file bzImageSizeOffset bzImageSize) initrdSizeOffset initrdSize)
    sectorsOffset sectors

theorem patchHeader_eq (file : Buffer) (bzImageSize initrdSize sectors : UInt32) :
    patchHeader file bzImageSize initrdSize sectors =
      Function.update (wordsSet file bzImageSize initrdSize sectors) xorOffset
        (calculateChecksum (wordsSet file bzImageSize initrdSize sectors)) := rfl

/-- The bytes that `pack` takes over from the base header. -/
def Kept (i : Nat) : Prop :=
  i ≠ xorOffset ∧ (i < sectorsOffset ∨ sectorsOffset + 4 ≤ i) ∧
    (i < bzImageSizeOffset ∨ initrdSizeOffset + 4 ≤ i)

section Patched

variable (file : Buffer) (bzImageSize initrdSize sectors : UInt32)

theorem wordsSet_kept {i : Nat} (kept : Kept i) :
    wordsSet file bzImageSize initrdSize sectors i = file i := by
  rcases kept with ⟨_, outside, outside'⟩
  have next : initrdSizeOffset = bzImageSizeOffset + 4 := rfl
  rw [wordsSet, store32_outside _ _ _ _ (by omega), store32_outside _ _ _ _ (by omega),
    store32_outside _ _ _ _ (by omega)]

theorem patchHeader_kept {i : Nat} (kept : Kept i) :
    patchHeader file bzImageSize initrdSize sectors i = file i := by
  rw [patchHeader_eq, Function.update_of_ne kept.1, wordsSet_kept _ _ _ _ kept]

theorem le32_patchHeader {offset : Nat} (behind : xorOffset < offset) :
    le32 (patchHeader file bzImageSize initrdSize sectors) offset =
      le32 (wordsSet file bzImageSize initrdSize sectors) offset := by
  apply le32_congr
  intro k _
  rw [patchHeader_eq, Function.update_of_ne (by omega)]

theorem patchHeader_sectors :
    le32 (patchHeader file bzImageSize initrdSize sectors) sectorsOffset = sectors := by
  rw [le32_patchHeader _ _ _ _ (by decide), wordsSet, le32_store32_self]

theorem patchHeader_bzImageSize :
    le32 (patchHeader file bzImageSize initrdSize sectors) bzImageSizeOffset = bzImageSize := by
  rw [le32_patchHeader _ _ _ _ (by decide), wordsSet, le32_store32_outside _ _ _ _ (by decide),
    le32_store32_outside _ _ _ _ (by decide), le32_store32_self]

theorem patchHeader_initrdSize :
    le32 (patchHeader file bzImageSize initrdSize sectors) initrdSizeOffset = initrdSize := by
  rw [le32_patchHeader _ _ _ _ (by decide), wordsSet, le32_store32_outside _ _ _ _ (by decide),
    le32_store32_self]

theorem patchHeader_balanced :
    xorRange (patchHeader file bzImageSize initrdSize sectors) HEADER_SIZE = 0 := by
  rw [patchHeader_eq, calculateChecksum_eq]
  exact xorRange_balanced _ HEADER_SIZE xorOffset (by decide)

end Patched

theorem patchHeader_congr {first second : Buffer} (bzImageSize initrdSize sectors : UInt32)
    (agree : ∀ i < bootheaderBytes, Kept i → first i = second i) {i : Nat}
    (inside : i < bootheaderBytes) :
    patchHeader first bzImageSize initrdSize sectors i =
      patchHeader second bzImageSize initrdSize sectors i := by
  have words : ∀ j < bootheaderBytes, j ≠ xorOffset →
      wordsSet first bzImageSize initrdSize sectors j =
        wordsSet second bzImageSize initrdSize sectors j := by
    intro j within other
    by_cases kept : Kept j
    · rw [wordsSet_kept _ _ _ _ kept, wordsSet_kept _ _ _ _ kept, agree j within kept]
    · have field : sectorsOffset ≤ j ∧ j < sectorsOffset + 4 ∨
          bzImageSizeOffset ≤ j ∧ j < bzImageSizeOffset + 4 ∨
          initrdSizeOffset ≤ j ∧ j < initrdSizeOffset + 4 := by
        simp only [Kept, not_and_or] at kept
        have next : initrdSizeOffset = bzImageSizeOffset + 4 := rfl
        omega
      have apart : sectorsOffset + 4 ≤ bzImageSizeOffset := by decide
      have next : initrdSizeOffset = bzImageSizeOffset + 4 := rfl
      simp only [wordsSet, store32, overlay]
      rcases field with here | here | here
      · rw [if_pos here, if_pos here]
      · rw [if_neg (by omega), if_neg (by omega), if_pos here, if_neg (by omega),
          if_neg (by omega), if_pos here]
      · rw [if_neg (by omega), if_pos here, if_neg (by omega), if_pos here]
  rw [patchHeader_eq, patchHeader_eq]
  by_cases cell : i = xorOffset
  · subst cell
    rw [Function.update_self, Function.update_self, calculateChecksum_eq, calculateChecksum_eq]
    apply xorRange_congr
    intro j within
    by_cases same : j = xorOffset
    · rw [same, Function.update_self, Function.update_self]
    · have small : HEADER_SIZE ≤ bootheaderBytes := by decide
      rw [Function.update_of_ne same, Function.update_of_ne same]
      exact words j (by omega) same
  · rw [Function.update_of_ne cell, Function.update_of_ne cell]
    exact words i inside cell

section Image

variable (origin bzImage ramdisk : List UInt8) (pad : Nat)

theorem packedImage_length :
    (packedImage origin bzImage ramdisk pad).length = partsSize bzImage ramdisk + pad := by
  simp only [packedImage, List.length_append, firstBytes_length, List.length_replicate]
  rfl

theorem packedImage_header {i : Nat} (inside : i < bootheaderBytes) :
    bytesOf (packedImage origin bzImage ramdisk pad) i = packedHeader origin bzImage ramdisk i := by
  rw [packedImage, List.append_assoc, List.append_assoc]
  exact bytesOf_firstBytes _ _ _ _ inside

theorem packedImage_le32 {offset : Nat} (inside : offset + 4 ≤ bootheaderBytes) :
    le32 (bytesOf (packedImage origin bzImage ramdisk pad)) offset =
      le32 (packedHeader origin bzImage ramdisk) offset := by
  apply le32_congr
  intro k bound
  exact packedImage_header _ _ _ _ (by omega)

theorem packedImage_balanced :
    xorRange (bytesOf (packedImage origin bzImage ramdisk pad)) HEADER_SIZE = 0 := by
  have header := patchHeader_balanced (bytesOf origin) (UInt32.ofNat bzImage.length)
    (UInt32.ofNat ramdisk.length) (sectorsOf bzImage ramdisk)
  rw [← header]
  apply xorRange_congr
  intro i inside
  have small : HEADER_SIZE ≤ bootheaderBytes := by decide
  exact packedImage_header _ _ _ _ (by omega)

end Image

structure PackedWell (image bzImage ramdisk : List UInt8) : Prop where
  parts : ∃ header pad, header.length = bootheaderBytes ∧ pad < 512 ∧
    image = header ++ bzImage ++ ramdisk ++ List.replicate pad 0xff
  whole : image.length % 512 = 0
  sectors : (le32 (bytesOf image) 48).toNat = image.length / 512 - 1
  balanced : xorRange (bytesOf image) 56 = 0
  accepted : ∃ osii, crackStitchedImage (bytesOf image) = .ok osii ∧
    osii.sizeOfOsImage * 512 = UInt32.ofNat image.length - 512

theorem crackStitchedImage_single {data : Buffer} (one : data 8 = 1) :
    ∃ osii, crackStitchedImage data = .ok osii ∧ osii.sizeOfOsImage = le32 data 48 := by
  have single : (OSIPHeader.ofBytes data).numPointers = 1 := one
  refine ⟨(OSIPHeader.ofBytes data).desc 0, ?_, rfl⟩
  rw [crackStitchedImage, Outcome.require_pos _ single]
  rfl

theorem packedWell_of_filled {origin bzImage ramdisk : List UInt8} {pad : Nat}
    (one : bytesOf origin 8 = 1) (fits : partsSize bzImage ramdisk + 511 < 2 ^ 32)
    (small : pad < 512) (filled : (partsSize bzImage ramdisk + pad) % 512 = 0) :
    PackedWell (packedImage origin bzImage ramdisk pad) bzImage ramdisk := by
  have size : partsSize bzImage ramdisk = 13280 + bzImage.length + ramdisk.length := rfl
  have length := packedImage_length origin bzImage ramdisk pad
  have word : (le32 (bytesOf (packedImage origin bzImage ramdisk pad)) 48).toNat =
      (packedImage origin bzImage ramdisk pad).length / 512 - 1 := by
    have field : le32 (packedHeader origin bzImage ramdisk) 48 = sectorsOf bzImage ramdisk :=
      patchHeader_sectors _ _ _ _
    rw [packedImage_le32 _ _ _ _ (by decide), field, sectorsOf, UInt32.toNat_ofNat', length]
    omega
  have pointers : bytesOf (packedImage origin bzImage ramdisk pad) 8 = 1 := by
    rw [packedImage_header _ _ _ _ (by decide)]
    exact (patchHeader_kept _ _ _ _ ⟨by decide, by decide, by decide⟩).trans one
  rcases crackStitchedImage_single pointers with ⟨osii, cracked, field⟩
  refine ⟨⟨_, pad, firstBytes_length _ _, small, rfl⟩, by rw [length]; exact filled, word,
    packedImage_balanced _ _ _ _, osii, cracked, ?_⟩
  apply UInt32.toNat_inj.mp
  have enough : (512 : UInt32) ≤ UInt32.ofNat (packedImage origin bzImage ramdisk pad).length := by
    rw [UInt32.le_iff_toNat_le, UInt32.toNat_ofNat', length]
    change 512 ≤ _
    omega
  rw [field, UInt32.toNat_mul, word, UInt32.toNat_sub_of_le _ _ enough, UInt32.toNat_ofNat', length]
  change _ * 512 % 2 ^ 32 = _ - 512
  omega

theorem not_packedWell_of_stale {paddings : UInt32} {origin bzImage ramdisk image : List UInt8}
    (whole : bootheaderBytes ≤ origin.length) (fits : partsSize bzImage ramdisk + 511 < 2 ^ 32)
    (aligned : partsSize bzImage ramdisk % 512 = 0) (stale : paddings ≠ 0)
    (packed : pack paddings origin bzImage ramdisk = .ok image) :
    ¬ PackedWell image bzImage ramdisk := by
  intro well
  have nonzero : paddings.toNat ≠ 0 := fun zero => stale (UInt32.toNat_inj.mp zero)
  rw [pack_eq paddings whole fits, padding, if_pos aligned] at packed
  split at packed
  · have length := congrArg List.length (Outcome.ok.inj packed)
    rw [packedImage_length] at length
    rcases well.parts with ⟨header, pad, header_length, small, same⟩
    have total := congrArg List.length same
    simp only [List.length_append, header_length, List.length_replicate] at total
    have size : partsSize bzImage ramdisk = bootheaderBytes + bzImage.length + ramdisk.length := rfl
    have sectors := well.whole
    omega
  · cases packed

/-- `pack` makes a good image exactly if the parts do not fill whole sectors, or its
variable for the padding happens to start as zero. -/
theorem packs_well_iff (paddings : UInt32) (origin bzImage ramdisk : List UInt8)
    (whole : origin.length = bootheaderBytes) (one : bytesOf origin 8 = 1)
    (fits : bootheaderBytes + bzImage.length + ramdisk.length + 511 < 2 ^ 32) :
    (∃ image, pack paddings origin bzImage ramdisk = .ok image ∧
      PackedWell image bzImage ramdisk) ↔
      (bootheaderBytes + bzImage.length + ramdisk.length) % 512 ≠ 0 ∨ paddings = 0 := by
  constructor
  · intro good
    rcases good with ⟨image, packed, well⟩
    by_cases aligned : (bootheaderBytes + bzImage.length + ramdisk.length) % 512 = 0
    · by_cases stale : paddings = 0
      · exact Or.inr stale
      · exact absurd well (not_packedWell_of_stale whole.ge fits aligned stale packed)
    · exact Or.inl aligned
  · intro condition
    have size : partsSize bzImage ramdisk = bootheaderBytes + bzImage.length + ramdisk.length := rfl
    have filled : padding paddings bzImage ramdisk < 512 ∧
        (partsSize bzImage ramdisk + padding paddings bzImage ramdisk) % 512 = 0 := by
      rw [padding]
      rcases condition with gap | zero
      · rw [if_neg (by rwa [size])]
        omega
      · by_cases aligned : partsSize bzImage ramdisk % 512 = 0
        · rw [if_pos aligned, zero, UInt32.toNat_zero]
          omega
        · rw [if_neg aligned]
          omega
    have room : padding paddings bzImage ramdisk ≤ BUFSIZ :=
      filled.1.le.trans (by decide)
    refine ⟨packedImage origin bzImage ramdisk (padding paddings bzImage ramdisk), ?_,
      packedWell_of_filled one fits filled.1 filled.2⟩
    rw [pack_eq paddings whole.ge fits, if_pos room]

def plainHeader : List UInt8 := List.replicate 8 0 ++ 1 :: List.replicate 13271 0

theorem plainHeader_length : plainHeader.length = bootheaderBytes := by
  simp only [plainHeader, List.length_append, List.length_cons, List.length_replicate]
  rfl

theorem plainHeader_pointers : bytesOf plainHeader 8 = 1 := rfl

def smallKernel : List UInt8 := List.replicate 20 1

def smallRamdisk : List UInt8 := List.replicate 5 2

theorem packs_well_iff_small_parts :
    plainHeader.length = bootheaderBytes ∧ bytesOf plainHeader 8 = 1 ∧
      bootheaderBytes + smallKernel.length + smallRamdisk.length + 511 < 2 ^ 32 ∧
      ∃ image, pack 7 plainHeader smallKernel smallRamdisk = .ok image ∧
        PackedWell image smallKernel smallRamdisk :=
  ⟨plainHeader_length, plainHeader_pointers, by decide,
    (packs_well_iff 7 plainHeader smallKernel smallRamdisk plainHeader_length plainHeader_pointers
      (by decide)).mpr (Or.inl (by decide))⟩

/-- A kernel of 32 bytes fills the last sector, and a stale 1 in `paddings` spoils it. -/
theorem stale_padding_spoils_image :
    plainHeader.length = bootheaderBytes ∧ bytesOf plainHeader 8 = 1 ∧
      bootheaderBytes + (List.replicate 32 (0 : UInt8)).length + ([] : List UInt8).length + 511 <
        2 ^ 32 ∧
      ¬ ∃ image, pack 1 plainHeader (List.replicate 32 0) [] = .ok image ∧
        PackedWell image (List.replicate 32 0) [] := by
  refine ⟨plainHeader_length, plainHeader_pointers, by decide, ?_⟩
  intro good
  rcases good with ⟨image, packed, well⟩
  exact not_packedWell_of_stale plainHeader_length.ge (by decide) (by decide) (by decide) packed well

theorem toNat_ofNat_of_fits {n : Nat} (fits : n < 2 ^ 32) : (UInt32.ofNat n).toNat = n := by
  rw [UInt32.toNat_ofNat', Nat.mod_eq_of_lt fits]

theorem unpack_packedImage (origin : List UInt8) {bzImage ramdisk : List UInt8} (pad : Nat)
    (fits : partsSize bzImage ramdisk + 511 < 2 ^ 32) :
    ∃ passes, unpackWithin passes (packedImage origin bzImage ramdisk pad) =
      some (.done bzImage ramdisk) := by
  have size : partsSize bzImage ramdisk = bootheaderBytes + bzImage.length + ramdisk.length := rfl
  have header : CMDLINE_END + 4 + 4 ≤ bootheaderBytes := by decide
  have length := packedImage_length origin bzImage ramdisk pad
  have kernel : bzImageLen (packedImage origin bzImage ramdisk pad) = bzImage.length := by
    rw [bzImageLen, packedImage_le32 _ _ _ _ (by decide), packedHeader]
    change (le32 _ bzImageSizeOffset).toNat = _
    rw [patchHeader_bzImageSize]
    exact toNat_ofNat_of_fits (by omega)
  have disk : ramdiskLen (packedImage origin bzImage ramdisk pad) = ramdisk.length := by
    rw [ramdiskLen, packedImage_le32 _ _ _ _ (by decide), packedHeader]
    change (le32 _ initrdSizeOffset).toNat = _
    rw [patchHeader_initrdSize]
    exact toNat_ofNat_of_fits (by omega)
  have behind : (packedImage origin bzImage ramdisk pad).drop bootheaderBytes =
      bzImage ++ (ramdisk ++ List.replicate pad 0xff) := by
    rw [packedImage, List.append_assoc, List.append_assoc, List.drop_left' (firstBytes_length _ _)]
  have rest : (packedImage origin bzImage ramdisk pad).drop (bootheaderBytes + bzImage.length) =
      ramdisk ++ List.replicate pad 0xff := by
    rw [← List.drop_drop, behind, List.drop_left]
  have held : bzImageLen (packedImage origin bzImage ramdisk pad) +
      ramdiskLen (packedImage origin bzImage ramdisk pad) ≤
      (packedImage origin bzImage ramdisk pad).length - bootheaderBytes := by omega
  have copied := unpackWithin_done (by omega) held (Nat.lt_succ_self _)
  rw [kernel, disk, behind, rest, List.take_left, List.take_left] at copied
  exact ⟨_, copied⟩

theorem packedImage_again (origin bzImage ramdisk : List UInt8) (pad pad' : Nat) :
    packedImage (packedImage origin bzImage ramdisk pad) bzImage ramdisk pad' =
      packedImage origin bzImage ramdisk pad' := by
  have header : firstBytes (packedHeader (packedImage origin bzImage ramdisk pad) bzImage ramdisk)
      bootheaderBytes = firstBytes (packedHeader origin bzImage ramdisk) bootheaderBytes := by
    apply firstBytes_congr
    intro i inside
    apply patchHeader_congr _ _ _ _ inside
    intro j within kept
    rw [packedImage_header _ _ _ _ within]
    exact patchHeader_kept _ _ _ _ kept
  simp only [packedImage] at header ⊢
  rw [header]

/-- What a packed image gives back: the parts, the base header but for the patched fields,
and itself when it is packed once more. -/
structure Undone (again : UInt32) (origin bzImage ramdisk image : List UInt8) : Prop where
  parts : ∃ passes, unpackWithin passes image = some (.done bzImage ramdisk)
  header : ∀ i < bootheaderBytes, Kept i → bytesOf image i = bytesOf origin i
  repacked : pack again origin bzImage ramdisk = .ok image
  stable : pack again image bzImage ramdisk = .ok image

theorem undone_iff_same_padding {paddings again : UInt32} {origin bzImage ramdisk image : List UInt8}
    (whole : bootheaderBytes ≤ origin.length) (fits : partsSize bzImage ramdisk + 511 < 2 ^ 32)
    (packed : pack paddings origin bzImage ramdisk = .ok image) :
    Undone again origin bzImage ramdisk image ↔
      padding again bzImage ramdisk = padding paddings bzImage ramdisk := by
  rw [pack_eq paddings whole fits] at packed
  split at packed
  · rename_i room
    have same := Outcome.ok.inj packed
    have length : image.length = partsSize bzImage ramdisk + padding paddings bzImage ramdisk := by
      rw [← same, packedImage_length]
    have long : bootheaderBytes ≤ image.length := by
      have size : partsSize bzImage ramdisk =
        bootheaderBytes + bzImage.length + ramdisk.length := rfl
      omega
    constructor
    · intro undone
      have second := undone.repacked
      rw [pack_eq again whole fits] at second
      split at second
      · have equal := congrArg List.length (Outcome.ok.inj second)
        rw [packedImage_length] at equal
        omega
      · cases second
    · intro equal
      refine ⟨?_, ?_, ?_, ?_⟩
      · rw [← same]
        exact unpack_packedImage origin _ fits
      · intro i inside kept
        rw [← same, packedImage_header _ _ _ _ inside]
        exact patchHeader_kept _ _ _ _ kept
      · rw [pack_eq again whole fits, equal, if_pos room, same]
      · rw [pack_eq again long fits, equal, if_pos room, ← same, packedImage_again]
  · cases packed

/-- `unpack` undoes `pack`, and packing again gives the same file, exactly if the parts do
not fill whole sectors or both runs find the same in the variable for the padding. -/
theorem unpack_undoes_pack_iff (paddings again : UInt32)
    (origin bzImage ramdisk image : List UInt8) (whole : origin.length = bootheaderBytes)
    (fits : bootheaderBytes + bzImage.length + ramdisk.length + 511 < 2 ^ 32)
    (packed : pack paddings origin bzImage ramdisk = .ok image) :
    Undone again origin bzImage ramdisk image ↔
      (bootheaderBytes + bzImage.length + ramdisk.length) % 512 ≠ 0 ∨ again = paddings := by
  rw [undone_iff_same_padding whole.ge fits packed, padding, padding]
  have size : partsSize bzImage ramdisk = bootheaderBytes + bzImage.length + ramdisk.length := rfl
  rw [size]
  by_cases aligned : (bootheaderBytes + bzImage.length + ramdisk.length) % 512 = 0
  · rw [if_pos aligned, if_pos aligned, UInt32.toNat_inj]
    simp [aligned]
  · rw [if_neg aligned, if_neg aligned]
    simp [aligned]

theorem unpack_undoes_pack_small_parts :
    ∃ image, pack 7 plainHeader smallKernel smallRamdisk = .ok image ∧
      Undone 3 plainHeader smallKernel smallRamdisk image := by
  have packed : pack 7 plainHeader smallKernel smallRamdisk = .ok (packedImage plainHeader
      smallKernel smallRamdisk (padding 7 smallKernel smallRamdisk)) := by
    rw [pack_eq 7 plainHeader_length.ge (by decide), if_pos (by decide)]
  exact ⟨_, packed, (unpack_undoes_pack_iff 7 3 plainHeader smallKernel smallRamdisk _
    plainHeader_length (by decide) packed).mpr (Or.inl (by decide))⟩

/-- A kernel of 32 bytes, packed twice: a byte of padding is there the second time only. -/
theorem stale_padding_changes_second_packing :
    ∃ image, pack 0 plainHeader (List.replicate 32 0) [] = .ok image ∧
      ¬ Undone 1 plainHeader (List.replicate 32 0) [] image := by
  have packed : pack 0 plainHeader (List.replicate 32 0) [] =
      .ok (packedImage plainHeader (List.replicate 32 0) [] (padding 0 (List.replicate 32 0) [])) := by
    rw [pack_eq 0 plainHeader_length.ge (by decide), if_pos (by decide)]
  refine ⟨_, packed, fun undone => ?_⟩
  have same := (undone_iff_same_padding plainHeader_length.ge (by decide) packed).mp undone
  exact absurd same (by decide)

end A500cg.Boot
