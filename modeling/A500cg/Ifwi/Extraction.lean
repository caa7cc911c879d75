import A500cg.Ifwi.Versions
import A500cg.Lib.Flash

/-! `get_image_fw_rev` and `get_image_fw_rev_long` on a buffer, with the pointer and the
remaining size they share between their two loops.

The two functions are one text over two header formats. A read that is not inside the buffer is
stray. -/

namespace A500cg.Ifwi

open Lib

inductive FipError where
  | noMagic
  deriving DecidableEq, Repr

/-- `memcpy` of `count` bytes of the image. -/
def copyFrom (image : List UInt8) (databytes count : Nat) : Outcome FipError (List UInt8) :=
  if databytes + count ≤ image.length then .ok ((image.drop databytes).take count)
  else .stray (databytes + count - 1)

/-- What the two functions differ in: the header's size, what it says of the versions, and how
that goes into the result. -/
structure FipFormat (V : Type) where
  size : Nat
  room : 4 ≤ size
  zero : V
  header : List UInt8 → V
  update : V → V → V

section Loops

variable {V : Type} (fmt : FipFormat V) (image : List UInt8)

def scanMagic (databytes sz : Nat) (magicFound : Bool) : Outcome FipError (Nat × Nat × Bool) :=
  if _large : fmt.size ≤ sz then
    match copyFrom image databytes 4 with
    | .ok magic =>
        if le32 (bytesOf magic) 0 = FIP_PATTERN then .ok (databytes, sz, true)
        else scanMagic (databytes + 4) (sz - 4) magicFound
    | .error cause => .error cause
    | .stray index => .stray index
  else .ok (databytes, sz, magicFound)
termination_by sz
decreasing_by
  have := fmt.room
  omega

theorem scanMagic_le {databytes sz databytes' sz' : Nat} {found found' : Bool}
    (ran : scanMagic fmt image databytes sz found = .ok (databytes', sz', found')) : sz' ≤ sz := by
  fun_induction scanMagic fmt image databytes sz found with
  | case1 databytes sz large magic copied pattern =>
      cases ran
      exact le_refl _
  | case2 databytes sz large magic copied pattern ih =>
      have := ih ran
      omega
  | case3 databytes sz large cause copied => cases ran
  | case4 databytes sz large index copied => cases ran
  | case5 databytes sz small =>
      cases ran
      exact le_refl _

def fwRevLoop (databytes sz : Nat) (magicFound : Bool) (v : V) : Outcome FipError V :=
  if _large : fmt.size ≤ sz then
    match _scanned : scanMagic fmt image databytes sz magicFound with
    | .ok (databytes, left, magicFound) =>
        if magicFound = false then .error .noMagic
        else if _short : left < fmt.size then .ok v
        else
          match copyFrom image databytes fmt.size with
          | .ok fip => fwRevLoop (databytes + 4) (left - 4) magicFound (fmt.update v (fmt.header fip))
          | .error cause => .error cause
          | .stray index => .stray index
    | .error cause => .error cause
    | .stray index => .stray index
  else .ok v
termination_by sz
decreasing_by
  have := scanMagic_le fmt image _scanned
  have := fmt.room
  omega

def imageFwRev : Outcome FipError V := fwRevLoop fmt image 0 image.length false fmt.zero

end Loops

def shortFip : FipFormat FirmwareVersions where
  size := fipBytes
  room := by decide
  zero := .zero
  header := fun fip => fipHeader fip 0
  update := FirmwareVersions.update

/-- `get_image_fw_rev`, reading from the buffer. -/
def getImageFwRevBounded (image : List UInt8) : Outcome FipError FirmwareVersions :=
  imageFwRev shortFip image

structure FwVersionLong where
  major : UInt16
  minor : UInt16
  deriving DecidableEq, Repr

def FwVersionLong.zero : FwVersionLong := ⟨0, 0⟩

structure FirmwareVersionsLong where
  scubootstrap : FwVersionLong
  scu : FwVersionLong
  ia32 : FwVersionLong
  valhooks : FwVersionLong
  ifwi : FwVersionLong
  chaabi : FwVersionLong
  mia : FwVersionLong
  deriving DecidableEq, Repr

def FirmwareVersionsLong.zero : FirmwareVersionsLong :=
  ⟨.zero, .zero, .zero, .zero, .zero, .zero, .zero⟩

def fipLongBytes : Nat := 352

def fipVersionBlockLong (buf : Buffer) (offset : Nat) : FwVersionLong :=
  ⟨le16 buf (offset + 2), le16 buf offset⟩

/-- The versions of a `struct FIP_header_long` found at `pos`; it has none of the SCU bootstrap. -/
def fipHeaderLong (image : List UInt8) (pos : Nat) : FirmwareVersionsLong where
  scubootstrap := .zero
  chaabi := fipVersionBlockLong (bytesOf image) (pos + 36)
  scu := fipVersionBlockLong (bytesOf image) (pos + 60)
  mia := fipVersionBlockLong (bytesOf image) (pos + 76)
  ia32 := fipVersionBlockLong (bytesOf image) (pos + 84)
  valhooks := fipVersionBlockLong (bytesOf image) (pos + 92)
  ifwi := fipVersionBlockLong (bytesOf image) (pos + 344)

def FwVersionLong.update (old new : FwVersionLong) : FwVersionLong :=
  ⟨keepLast old.major new.major, keepLast old.minor new.minor⟩

def FirmwareVersionsLong.update (v fip : FirmwareVersionsLong) : FirmwareVersionsLong where
  scubootstrap := .zero
  scu := v.scu.update fip.scu
  ia32 := v.ia32.update fip.ia32
  valhooks := v.valhooks.update fip.valhooks
  ifwi := v.ifwi.update fip.ifwi
  chaabi := v.chaabi.update fip.chaabi
  mia := v.mia.update fip.mia

def longFip : FipFormat FirmwareVersionsLong where
  size := fipLongBytes
  room := by decide
  zero := .zero
  header := fun fip => fipHeaderLong fip 0
  update := FirmwareVersionsLong.update

def getImageFwRevLong (image : List UInt8) : Outcome FipError FirmwareVersionsLong :=
  imageFwRev longFip image

/-- The multiples of 4 with the magic and a whole header of `size` bytes before the end. -/
def fipOffsets (size : Nat) (image : List UInt8) : List Nat :=
  (List.range image.length).filter fun p =>
    4 ∣ p ∧ p + size ≤ image.length ∧ isFip image p = true

theorem copyFrom_inside {image : List UInt8} {databytes count : Nat}
    (inside : databytes + count ≤ image.length) :
    copyFrom image databytes count = .ok ((image.drop databytes).take count) := if_pos inside

theorem isFip_copied {image : List UInt8} {pos : Nat} :
    le32 (bytesOf ((image.drop pos).take 4)) 0 = FIP_PATTERN ↔ isFip image pos = true := by
  have word : le32 (bytesOf ((image.drop pos).take 4)) 0 = le32 (bytesOf image) pos := by
    apply le32_congr
    intro k bound
    rw [Nat.zero_add, bytesOf_slice image bound]
  rw [word, isFip, beq_iff_eq]

section Loops

variable {V : Type} (fmt : FipFormat V) (image : List UInt8)

theorem scanMagic_cases {databytes sz : Nat} (found : Bool)
    (whole : databytes + sz = image.length) :
    (∃ q, scan (isFip image) 4 fmt.size image.length databytes = some q ∧
      scanMagic fmt image databytes sz found = .ok (q, image.length - q, true)) ∨
    (scan (isFip image) 4 fmt.size image.length databytes = none ∧
      ∃ databytes' sz', sz' < fmt.size ∧
        scanMagic fmt image databytes sz found = .ok (databytes', sz', found)) := by
  have room := fmt.room
  fun_induction scanMagic fmt image databytes sz found with
  | case1 databytes sz large magic copied pattern =>
      rw [copyFrom_inside (by omega)] at copied
      cases copied
      left
      refine ⟨databytes, ?_, ?_⟩
      · rw [scan, if_pos (by omega), if_pos (isFip_copied.mp pattern)]
      · rw [← whole, Nat.add_sub_cancel_left]
  | case2 databytes sz large magic copied pattern ih =>
      rw [copyFrom_inside (by omega)] at copied
      cases copied
      have missed : ¬ isFip image databytes = true := fun hit => pattern (isFip_copied.mpr hit)
      rw [scan, if_pos (by omega), if_neg missed]
      exact ih (by omega)
  | case3 databytes sz large cause copied =>
      rw [copyFrom_inside (by omega)] at copied
      cases copied
  | case4 databytes sz large index copied =>
      rw [copyFrom_inside (by omega)] at copied
      cases copied
  | case5 databytes sz small =>
      right
      refine ⟨?_, databytes, sz, by omega, rfl⟩
      rw [scan, if_neg (by omega)]

theorem scanMagic_runs {databytes sz : Nat} (found : Bool) (whole : databytes + sz = image.length) :
    ∃ stopped, scanMagic fmt image databytes sz found = .ok stopped := by
  rcases scanMagic_cases fmt image found whole with ⟨_, _, ran⟩ | ⟨_, _, _, _, ran⟩
  · exact ⟨_, ran⟩
  · exact ⟨_, ran⟩

theorem scanMagic_inv {databytes sz next left : Nat} {found flag : Bool}
    (whole : databytes + sz = image.length)
    (scanned : scanMagic fmt image databytes sz found = .ok (next, left, flag)) :
    (scan (isFip image) 4 fmt.size image.length databytes = some next ∧
      next + left = image.length ∧ fmt.size ≤ left ∧ flag = true) ∨
    (scan (isFip image) 4 fmt.size image.length databytes = none ∧ left < fmt.size ∧
      flag = found) := by
  rcases scanMagic_cases fmt image found whole with ⟨q, hit, ran⟩ | ⟨missed, _, _, short, ran⟩
  · cases scanned.symm.trans ran
    have fits := (scan_eq_some hit).1.2.2.1
    exact .inl ⟨hit, by omega, by omega, rfl⟩
  · cases scanned.symm.trans ran
    exact .inr ⟨missed, short, rfl⟩

def merged (v : V) (places : List Nat) : V :=
  places.foldl (fun v p => fmt.update v (fmt.header ((image.drop p).take fmt.size))) v

theorem fwRevLoop_eq {databytes sz : Nat} (found : Bool) (v : V)
    (whole : databytes + sz = image.length) :
    fwRevLoop fmt image databytes sz found v =
      if fmt.size ≤ sz ∧ hitsFrom (isFip image) 4 fmt.size image.length databytes = [] ∧
        found = false then .error .noMagic
      else .ok (merged fmt image v (hitsFrom (isFip image) 4 fmt.size image.length databytes)) := by
  have room := fmt.room
  fun_induction fwRevLoop fmt image databytes sz found v with
  | case1 databytes sz found v large next left scanned =>
      rcases scanMagic_inv fmt image whole scanned with ⟨_, _, _, flag⟩ | ⟨missed, _, rfl⟩
      · cases flag
      · rw [if_pos ⟨large, hitsFrom_of_none (by omega) (by decide) missed, rfl⟩]
  | case2 databytes sz found v large next left flag scanned flagged short =>
      rcases scanMagic_inv fmt image whole scanned with ⟨_, _, roomy, _⟩ | ⟨missed, _, rfl⟩
      · omega
      · rw [if_neg (fun all => flagged all.2.2), hitsFrom_of_none (by omega) (by decide) missed]
        rfl
  | case3 databytes sz found v large next left flag scanned flagged roomy fip copied ih =>
      rcases scanMagic_inv fmt image whole scanned with ⟨hit, rest, _, _⟩ | ⟨_, short, _⟩
      · rw [copyFrom_inside (by omega)] at copied
        cases copied
        rw [ih (by omega), hitsFrom_of_scan (by omega) (by decide) hit,
          if_neg (fun all => flagged all.2.2), if_neg (fun all => nomatch all.2.1)]
        rfl
      · exact absurd short roomy
  | case4 databytes sz found v large next left flag scanned flagged roomy cause copied =>
      simp only [copyFrom] at copied
      split at copied <;> cases copied
  | case5 databytes sz found v large next left flag scanned flagged roomy index copied =>
      rcases scanMagic_inv fmt image whole scanned with ⟨_, rest, _, _⟩ | ⟨_, short, _⟩
      · rw [copyFrom_inside (by omega)] at copied
        cases copied
      · exact absurd short roomy
  | case6 databytes sz found v large cause scanned =>
      rcases scanMagic_runs fmt image found whole with ⟨_, ran⟩
      cases scanned.symm.trans ran
  | case7 databytes sz found v large index scanned =>
      rcases scanMagic_runs fmt image found whole with ⟨_, ran⟩
      cases scanned.symm.trans ran
  | case8 databytes sz found v small =>
      rw [if_neg (fun all => small all.1), hitsFrom_of_outside (by omega) (by omega)]
      rfl

theorem fipOffsets_eq (size : Nat) :
    fipOffsets size image = hitsFrom (isFip image) 4 size image.length 0 := by
  apply List.filter_congr
  intro p _
  simp [HitFrom]

theorem imageFwRev_eq :
    imageFwRev fmt image =
      if fmt.size ≤ image.length ∧ fipOffsets fmt.size image = [] then .error .noMagic
      else .ok (merged fmt image fmt.zero (fipOffsets fmt.size image)) := by
  rw [imageFwRev, fwRevLoop_eq fmt image false fmt.zero (Nat.zero_add _), fipOffsets_eq]
  simp only [and_true]

theorem merged_component {α : Type} [Zero α] [DecidableEq α] (component : V → α)
    (merge : ∀ v fip, component (fmt.update v fip) = keepLast (component v) (component fip))
    (v : V) (places : List Nat) :
    component (merged fmt image v places) =
      (places.map fun p => component (fmt.header ((image.drop p).take fmt.size))).foldl
        keepLast (component v) := by
  induction places generalizing v with
  | nil => rfl
  | cons p rest ih =>
      let fip := fmt.header ((image.drop p).take fmt.size)
      let later := rest.map fun p => component (fmt.header ((image.drop p).take fmt.size))
      calc
        component (merged fmt image v (p :: rest)) =
            component (merged fmt image (fmt.update v fip) rest) := rfl
        _ = later.foldl keepLast (component (fmt.update v fip)) := ih _
        _ = later.foldl keepLast (keepLast (component v) (component fip)) := by rw [merge]

theorem merged_lastNonzero {α : Type} [Zero α] [DecidableEq α] (component : V → α)
    (merge : ∀ v fip, component (fmt.update v fip) = keepLast (component v) (component fip))
    (start : component fmt.zero = 0) {shown : Nat → α}
    (shows : ∀ p, component (fmt.header ((image.drop p).take fmt.size)) = shown p)
    (places : List Nat) :
    component (merged fmt image fmt.zero places) = lastNonzero (places.map shown) := by
  rw [merged_component fmt image component merge, foldl_keepLast, start, lastNonzero]
  simp only [shows]

end Loops

/-- What a reader makes of a buffer: it stays inside, refuses a buffer that has room for a
header and holds none, and reports the versions of the headers otherwise. -/
structure Extracts {V : Type} (result : Outcome FipError V) (size : Nat) (image : List UInt8)
    (Reports : V → Prop) : Prop where
  inside : ∀ index, result ≠ .stray index
  refused : result = .error .noMagic ↔ size ≤ image.length ∧ fipOffsets size image = []
  reported : ¬ (size ≤ image.length ∧ fipOffsets size image = []) →
    ∃ v, result = .ok v ∧ Reports v

theorem imageFwRev_extracts {V : Type} (fmt : FipFormat V) (image : List UInt8) {Reports : V → Prop}
    (reports : Reports (merged fmt image fmt.zero (fipOffsets fmt.size image))) :
    Extracts (imageFwRev fmt image) fmt.size image Reports := by
  rw [imageFwRev_eq]
  by_cases refused : fmt.size ≤ image.length ∧ fipOffsets fmt.size image = []
  · rw [if_pos refused]
    constructor
    · intro index stray
      cases stray
    · exact iff_of_true rfl refused
    · intro other
      exact absurd refused other
  · rw [if_neg refused]
    constructor
    · intro index stray
      cases stray
    · refine iff_of_false ?_ refused
      intro failed
      cases failed
    · intro _
      exact ⟨_, rfl, reports⟩

inductive Component where
  | ifwi | scu | oem | punit | ia32 | suppIa32 | chaabiIcache | chaabiRes | chaabiExt
  deriving DecidableEq, Repr

def FirmwareVersions.get (v : FirmwareVersions) : Component → FwVersion
  | .ifwi => v.ifwi
  | .scu => v.scu
  | .oem => v.oem
  | .punit => v.punit
  | .ia32 => v.ia32
  | .suppIa32 => v.suppIa32
  | .chaabiIcache => v.chaabiIcache
  | .chaabiRes => v.chaabiRes
  | .chaabiExt => v.chaabiExt

inductive ComponentLong where
  | scubootstrap | scu | ia32 | valhooks | ifwi | chaabi | mia
  deriving DecidableEq, Repr

def FirmwareVersionsLong.get (v : FirmwareVersionsLong) : ComponentLong → FwVersionLong
  | .scubootstrap => v.scubootstrap
  | .scu => v.scu
  | .ia32 => v.ia32
  | .valhooks => v.valhooks
  | .ifwi => v.ifwi
  | .chaabi => v.chaabi
  | .mia => v.mia

theorem FirmwareVersions.get_update (v fip : FirmwareVersions) (c : Component) :
    (v.update fip).get c = (v.get c).update (fip.get c) := by
  cases c <;> rfl

theorem fipVersionBlock_slice (image : List UInt8) (p offset : Nat) (inside : offset + 4 ≤ fipBytes) :
    fipVersionBlock (bytesOf ((image.drop p).take fipBytes)) (0 + offset) =
      fipVersionBlock (bytesOf image) (p + offset) := by
  simp only [fipVersionBlock, Nat.zero_add, Nat.add_assoc]
  rw [bytesOf_slice image (by omega), bytesOf_slice image (by omega)]

theorem fipHeader_slice (image : List UInt8) (p : Nat) :
    fipHeader ((image.drop p).take fipBytes) 0 = fipHeader image p := by
  have ifwi : ifwiRev (bytesOf ((image.drop p).take fipBytes)) (0 + 40) =
      ifwiRev (bytesOf image) (p + 40) := by
    simp only [ifwiRev, Nat.zero_add, Nat.add_assoc]
    rw [bytesOf_slice image (by decide), bytesOf_slice image (by decide)]
  simp only [fipHeader, ifwi]
  rw [fipVersionBlock_slice _ _ 8 (by decide), fipVersionBlock_slice _ _ 12 (by decide),
    fipVersionBlock_slice _ _ 16 (by decide), fipVersionBlock_slice _ _ 20 (by decide),
    fipVersionBlock_slice _ _ 24 (by decide), fipVersionBlock_slice _ _ 28 (by decide),
    fipVersionBlock_slice _ _ 32 (by decide), fipVersionBlock_slice _ _ 36 (by decide)]

theorem fipVersionBlockLong_slice (image : List UInt8) (p offset : Nat)
    (inside : offset + 4 ≤ fipLongBytes) :
    fipVersionBlockLong (bytesOf ((image.drop p).take fipLongBytes)) (0 + offset) =
      fipVersionBlockLong (bytesOf image) (p + offset) := by
  have half (i : Nat) (fits : i + 2 ≤ fipLongBytes) :
      le16 (bytesOf ((image.drop p).take fipLongBytes)) i = le16 (bytesOf image) (p + i) := by
    apply le16_congr
    intro k bound
    rw [bytesOf_slice image (by omega), Nat.add_assoc]
  simp only [fipVersionBlockLong, Nat.zero_add, Nat.add_assoc]
  rw [half (offset + 2) (by omega), half offset (by omega)]

theorem fipHeaderLong_slice (image : List UInt8) (p : Nat) :
    fipHeaderLong ((image.drop p).take fipLongBytes) 0 = fipHeaderLong image p := by
  simp only [fipHeaderLong]
  rw [fipVersionBlockLong_slice _ _ 36 (by decide), fipVersionBlockLong_slice _ _ 60 (by decide),
    fipVersionBlockLong_slice _ _ 76 (by decide), fipVersionBlockLong_slice _ _ 84 (by decide),
    fipVersionBlockLong_slice _ _ 92 (by decide), fipVersionBlockLong_slice _ _ 344 (by decide)]

theorem FirmwareVersionsLong.get_update (v fip : FirmwareVersionsLong) {c : ComponentLong}
    (read : c ≠ .scubootstrap) : (v.update fip).get c = (v.get c).update (fip.get c) := by
  cases c with
  | scubootstrap => exact absurd rfl read
  | _ => rfl

theorem merged_scubootstrap (image : List UInt8) (places : List Nat) {v : FirmwareVersionsLong}
    (unset : v.scubootstrap = .zero) : (merged longFip image v places).scubootstrap = .zero := by
  induction places generalizing v with
  | nil => exact unset
  | cons p rest ih => exact ih rfl

theorem short_component (image : List UInt8) (c : Component) (half : FwVersion → UInt8)
    (merge : ∀ old new, half (old.update new) = keepLast (half old) (half new))
    (start : half .zero = 0) (places : List Nat) :
    half ((merged shortFip image .zero places).get c) =
      lastNonzero (places.map fun p => half ((fipHeader image p).get c)) := by
  apply merged_lastNonzero shortFip image (fun v => half (v.get c))
  · intro v fip
    change half ((v.update fip).get c) = _
    rw [v.get_update fip c, merge]
  · cases c <;> exact start
  · intro p
    change half ((fipHeader ((image.drop p).take fipBytes) 0).get c) = _
    rw [fipHeader_slice]

theorem long_component (image : List UInt8) (c : ComponentLong) (half : FwVersionLong → UInt16)
    (merge : ∀ old new, half (old.update new) = keepLast (half old) (half new))
    (start : half .zero = 0) (places : List Nat) :
    half ((merged longFip image .zero places).get c) =
      lastNonzero (places.map fun p => half ((fipHeaderLong image p).get c)) := by
  by_cases read : c = .scubootstrap
  · have zeros : ∀ value ∈ places.map fun p => half ((fipHeaderLong image p).get c), value = 0 := by
      intro value member
      rcases List.mem_map.mp member with ⟨p, _, rfl⟩
      rw [read]
      exact start
    rw [lastNonzero_zeros zeros, read]
    change half (merged longFip image .zero places).scubootstrap = 0
    rw [merged_scubootstrap image places rfl, start]
  · apply merged_lastNonzero longFip image (fun v => half (v.get c))
    · intro v fip
      change half ((v.update fip).get c) = _
      rw [v.get_update fip read, merge]
    · cases c <;> exact start
    · intro p
      change half ((fipHeaderLong ((image.drop p).take fipLongBytes) 0).get c) = _
      rw [fipHeaderLong_slice]

/-- Both readers stay inside the buffer, refuse it exactly when it has room for a header and
holds none at a multiple of 4, and report for each component the last value that is not zero. -/
theorem image_versions_extracted (image : List UInt8) :
    Extracts (getImageFwRevBounded image) 44 image (fun v => ∀ c,
      (v.get c).major =
        lastNonzero ((fipOffsets 44 image).map fun p => ((fipHeader image p).get c).major) ∧
      (v.get c).minor =
        lastNonzero ((fipOffsets 44 image).map fun p => ((fipHeader image p).get c).minor)) ∧
    Extracts (getImageFwRevLong image) 352 image (fun v => ∀ c,
      (v.get c).major =
        lastNonzero ((fipOffsets 352 image).map fun p => ((fipHeaderLong image p).get c).major) ∧
      (v.get c).minor =
        lastNonzero ((fipOffsets 352 image).map fun p => ((fipHeaderLong image p).get c).minor)) := by
  constructor
  · apply imageFwRev_extracts shortFip
    intro c
    exact ⟨short_component image c FwVersion.major (fun _ _ => rfl) rfl _,
      short_component image c FwVersion.minor (fun _ _ => rfl) rfl _⟩
  · apply imageFwRev_extracts longFip
    intro c
    exact ⟨long_component image c FwVersionLong.major (fun _ _ => rfl) rfl _,
      long_component image c FwVersionLong.minor (fun _ _ => rfl) rfl _⟩

theorem getImageLoop_eq (image : List UInt8) (pos : Nat) (found : Bool) (v : FirmwareVersions) :
    getImageLoop image pos found v =
      if pos + fipBytes ≤ image.length ∧ hitsFrom (isFip image) 4 fipBytes image.length pos = [] ∧
        found = false then none
      else some (merged shortFip image v (hitsFrom (isFip image) 4 fipBytes image.length pos)) := by
  have wide : 0 < fipBytes := by decide
  fun_induction getImageLoop image pos found v with
  | case1 pos found v inside hit scanned ih =>
      rw [ih, hitsFrom_of_scan wide (by decide) scanned, if_neg (fun all => nomatch all.2.2),
        if_neg (fun all => nomatch all.2.1)]
      change _ = some (merged shortFip image (v.update
        (fipHeader ((image.drop hit).take fipBytes) 0)) _)
      rw [fipHeader_slice]
  | case2 pos v inside scanned =>
      rw [hitsFrom_of_none wide (by decide) scanned, if_neg (fun all => nomatch all.2.2)]
      rfl
  | case3 pos found v inside scanned missed =>
      rw [hitsFrom_of_none wide (by decide) scanned, if_pos ⟨inside, rfl, by simpa using missed⟩]
  | case4 pos found v outside =>
      rw [if_neg (fun all => outside all.1), hitsFrom_of_outside wide outside]
      rfl

theorem getImageFwRevBounded_eq (image : List UInt8) :
    getImageFwRevBounded image =
      match getImageFwRev image with
      | some v => .ok v
      | none => .error .noMagic := by
  have size : shortFip.size = fipBytes := rfl
  rw [getImageFwRevBounded, imageFwRev_eq, getImageFwRev, getImageLoop_eq, fipOffsets_eq, size,
    Nat.zero_add]
  by_cases refused : fipBytes ≤ image.length ∧
      hitsFrom (isFip image) 4 fipBytes image.length 0 = []
  · rw [if_pos refused, if_pos ⟨refused.1, refused.2, rfl⟩]
  · rw [if_neg refused, if_neg (fun all => refused ⟨all.1, all.2.1⟩)]
    rfl

end A500cg.Ifwi
