import A500cg.Gpt.Numbers
import A500cg.Gpt.Rewrite
import A500cg.Lib.Lines
import A500cg.Lib.Stream

/-! `FlashImageAtPartition` of `updater.c`: an image file is written to the device at the block
where a partition table says that a partition begins.

The table is any text. Allocations succeed; a read behind the last token of a line, or before the
start of a buffer, is a stray access. `off_t` and `int` are 32 bits wide. -/

namespace A500cg.Updater

open Lib Gpt

inductive RawError where
  | emptyFile
  | invalidFirstLine
  | badLba
  | notFound
  deriving DecidableEq, Repr

inductive Mapping where
  | failed
  | null
  | mapped
  deriving DecidableEq, Repr

/-- What the script, the image file and the device answer; a seek to a negative offset fails, and
the answers to `write` are a count or -1. -/
structure RawDevice where
  argc : Nat
  readArgs : Bool
  image : Option (List UInt8)
  mapping : Mapping
  openDevice : Bool
  lseek : Int → Bool
  lseek_neg : ∀ offset < 0, lseek offset = false
  writes : List (Option Nat)
  fsync : Bool

inductive RawRun where
  | stray (index : Nat)
  | returned (ret : Option String) (written : List (UInt8 × Nat))
  | writing (written : List (UInt8 × Nat))
  deriving DecidableEq, Repr

def RawRun.behind (earlier : List (UInt8 × Nat)) : RawRun → RawRun
  | stray index => stray index
  | returned ret written => returned ret (earlier ++ written)
  | writing written => writing (earlier ++ written)

def bufferText (buffer : List Char) : List Char := buffer.takeWhile (· ≠ '\x00')

def chomp (text : List Char) : List Char :=
  if text.getLast? = some '\n' then text.dropLast else text

/-- The value behind `-b` times 512, stored to an `off_t`. -/
def blockOffset (value : Token) : Int := asInt (strtoull value * 512 % 2 ^ 64 : Nat)

def getOffset (i : Nat) : List Token → Int → Outcome RawError Int
  | [], offset => .ok offset
  | token :: rest, offset =>
      if matchesWord START_OPTION token then
        match rest with
        | [] => .stray (i + 1)
        | value :: _ =>
            if strtoullRest value ≠ [] then .error .badLba
            else getOffset (i + 1) rest (blockOffset value)
      else getOffset (i + 1) rest offset

/-- The loop that catches the line of `osname`, over what `fgets` puts into `buffer`. -/
def catchOffset (osname : Token) : List (List Char) → Outcome RawError Int
  | [] => .error .notFound
  | buffer :: rest =>
      match bufferText buffer with
      -- the last character of an empty string is before the buffer
      | [] => .stray 0
      | text =>
          match strToArray (chomp text) with
          | [] => .stray 0
          | command :: args =>
              if matchesWord ADD command then
                if (command :: args).any (matchesWord osname) then getOffset 0 (command :: args) 0
                else catchOffset osname rest
              else catchOffset osname rest

def findOffset (osname : Token) (file : List Char) : Outcome RawError Int :=
  match pieces '\n' (K_MAX_ARG_LEN - 1) file with
  | [] => .error .emptyFile
  | buffer :: rest =>
      match bufferText buffer with
      | [] => .stray 0
      | text =>
          if hasType text.dropLast then catchOffset osname rest
          else .error .invalidFirstLine

/-- The loop around `write`; it ends with the data, with an error, or not yet. -/
def writeLoop (fsync : Bool) : List (Option Nat) → List UInt8 → Nat → RawRun
  | _, [], _ => .returned (some (if fsync then "t" else "")) []
  | [], _ :: _, _ => .writing []
  | none :: _, _ :: _, _ => .returned (some "") []
  | some n :: answers, byte :: data, pos =>
      let fret := min n (data.length + 1)
      (writeLoop fsync answers ((byte :: data).drop fret) (pos + fret)).behind
        (((byte :: data).take fret).zipIdx pos)

def flashAt (dev : RawDevice) (offset : Int) : RawRun :=
  match dev.image with
  | none => .returned none []
  | some image =>
      let length := image.length % 2 ^ 32
      if length = 2 ^ 32 - 1 then .returned none []
      else
        match dev.mapping with
        | .failed => .returned none []
        | mapping =>
            if !dev.openDevice then .returned none []
            else if !dev.lseek offset then .returned (some "") []
            -- no byte can be written from NULL
            else writeLoop dev.fsync (if mapping = .null then [none] else dev.writes)
              (image.take length) offset.toNat

def flashImageAtPartition (osname : Token) (parttable : Option (List Char)) (dev : RawDevice) :
    RawRun :=
  if dev.argc ≠ 3 then .returned none []
  else if !dev.readArgs then .returned none []
  else
    match parttable with
    | none => .returned (some "") []
    | some file =>
        match findOffset osname file with
        | .stray index => .stray index
        | .error _ => .returned (some "") []
        | .ok offset => flashAt dev offset

def tableLines (file : List Char) : List (List Char) := (file.splitOn '\n').tail

/-- An `add` line with this label, which has a `-b` option with the number `b`; 512 times the
number is an `off_t`. -/
structure Places (osname : Token) (line : List Char) (b : Nat) : Prop where
  add : (tokensOf line).head? = some ADD
  label : optionValue LABEL_OPTION (tokensOf line) = some osname
  start : ∃ value, (START_OPTION, value) ∈ pairs (tokensOf line) ∧ unsignedValue value = some b
  fits : 512 * b < 2 ^ 31

def PlacedAt (osname : Token) (file : List Char) (b : Nat) : Prop :=
  ∃ before line after, tableLines file = before ++ line :: after ∧
    (∀ earlier ∈ before, ∀ c, ¬ Places osname earlier c) ∧ Places osname line b

def WrittenAtPlace (osname : Token) (parttable : Option (List Char)) (dev : RawDevice)
    (written : List (UInt8 × Nat)) : Prop :=
  ∃ file b image, parttable = some file ∧ PlacedAt osname file b ∧ dev.image = some image ∧
    written <+: image.zipIdx (512 * b)

/-- A run that returns without having written anything, or writes the image at its place. -/
def RightRun (osname : Token) (parttable : Option (List Char)) (dev : RawDevice) : RawRun → Prop
  | .stray _ => False
  | .returned _ written => written = [] ∨ WrittenAtPlace osname parttable dev written
  | .writing written => WrittenAtPlace osname parttable dev written

/-- Whatever the image and the device, the image goes to its place or nowhere. -/
def RightPlace (osname : Token) (parttable : Option (List Char)) : Prop :=
  ∀ dev, RightRun osname parttable dev (flashImageAtPartition osname parttable dev)

/-- The tokens that the code sees of what `fgets` has put into the buffer. -/
def bufferTokens (buffer : List Char) : List Token := strToArray (chomp (bufferText buffer))

/-- The tokens of a line that is taken for the one of `osname`: abbreviations count, and the name
may stand anywhere. -/
def isHit (osname : Token) (argv : List Token) : Bool :=
  argv.head?.any (matchesWord ADD) && argv.any (matchesWord osname)

def isStart (token : Token) : Bool := matchesWord START_OPTION token

/-- The offset that the last value behind `-` or `-b` gives; 0 without one. -/
def offsetOf (argv : List Token) (initial : Int) : Int :=
  (pairs argv).foldl (fun offset pair => if isStart pair.1 then blockOffset pair.2 else offset)
    initial

/-- Some value behind `-` or `-b` is no number. -/
def badStart (argv : List Token) : Bool :=
  (pairs argv).any fun pair => isStart pair.1 && !(strtoullRest pair.2).isEmpty

/-- A line that is taken for the one of `osname` is harmless if it is given up for a value that is
no number, or every option has a value and the offset cannot be sought or is the right one. -/
def HarmlessLine (osname : Token) (file : List Char) (argv : List Token) : Prop :=
  badStart argv = true ∨
    argv.getLast?.any isStart = false ∧
      (offsetOf argv 0 < 0 ∨ ∃ b, PlacedAt osname file b ∧ offsetOf argv 0 = (512 * b : Nat))

/-- Up to the first line that is taken for the one of `osname` every line has a token, and that
line is harmless. -/
def HarmlessLines (osname : Token) (file : List Char) (lines : List (List Token)) : Prop :=
  ∀ before argv after, lines = before ++ argv :: after →
    (∀ earlier ∈ before, isHit osname earlier = false) →
      argv ≠ [] ∧ (isHit osname argv = true → HarmlessLine osname file argv)

/-- A table with which the image goes to its place, or nowhere. -/
def HarmlessTable (osname : Token) (file : List Char) : Prop :=
  match pieces '\n' (K_MAX_ARG_LEN - 1) file with
  | [] => True
  | buffer :: rest =>
      bufferText buffer ≠ [] ∧
        (hasType (bufferText buffer).dropLast = true →
          HarmlessLines osname file (rest.map bufferTokens))

def HarmlessOutcome (osname : Token) (file : List Char) : Outcome RawError Int → Prop
  | .stray _ => False
  | .error _ => True
  | .ok offset => offset < 0 ∨ ∃ b, PlacedAt osname file b ∧ offset = (512 * b : Nat)

variable {osname : Token} {file : List Char}

theorem badStart_cons_cons (token value : Token) (rest : List Token) :
    badStart (token :: value :: rest) =
      (isStart token && !(strtoullRest value).isEmpty || badStart (value :: rest)) := rfl

theorem offsetOf_cons_cons (token value : Token) (rest : List Token) (offset : Int) :
    offsetOf (token :: value :: rest) offset =
      offsetOf (value :: rest) (if isStart token then blockOffset value else offset) := rfl

theorem getOffset_cons_cons (i : Nat) (token value : Token) (rest : List Token) (offset : Int) :
    getOffset i (token :: value :: rest) offset =
      if isStart token then
        if strtoullRest value ≠ [] then .error .badLba
        else getOffset (i + 1) (value :: rest) (blockOffset value)
      else getOffset (i + 1) (value :: rest) offset := rfl

theorem getOffset_eq (argv : List Token) (i : Nat) (offset : Int) :
    getOffset i argv offset =
      if badStart argv then .error .badLba
      else if argv.getLast?.any isStart then .stray (i + argv.length)
      else .ok (offsetOf argv offset) := by
  induction argv generalizing i offset with
  | nil => simp [getOffset, badStart, pairs, offsetOf]
  | cons token rest ih =>
      cases rest with
      | nil =>
          by_cases start : matchesWord START_OPTION token = true
          · simp [getOffset, start, badStart, pairs, isStart]
          · simp [getOffset, start, badStart, pairs, isStart, offsetOf]
      | cons value rest =>
          have length : i + 1 + (value :: rest).length = i + (token :: value :: rest).length := by
            simp only [List.length_cons]
            omega
          rw [getOffset_cons_cons, ih, ih, badStart_cons_cons, offsetOf_cons_cons,
            List.getLast?_cons_cons, length]
          by_cases start : isStart token = true
          · by_cases number : strtoullRest value = []
            · simp [start, number]
            · simp [start, number]
          · simp [start]

theorem catchOffset_cons (buffer : List Char) (rest : List (List Char)) :
    catchOffset osname (buffer :: rest) =
      if bufferTokens buffer = [] then .stray 0
      else if isHit osname (bufferTokens buffer) then getOffset 0 (bufferTokens buffer) 0
      else catchOffset osname rest := by
  rw [catchOffset, bufferTokens]
  split
  next empty =>
    rw [empty]
    rfl
  next text whole =>
    split
    next none => simp [none]
    next command args tokens =>
      rw [tokens, if_neg (List.cons_ne_nil _ _)]
      by_cases add : matchesWord ADD command = true
      · simp [isHit, add]
      · simp [isHit, add]

theorem harmless_getOffset (argv : List Token) :
    HarmlessOutcome osname file (getOffset 0 argv 0) ↔ HarmlessLine osname file argv := by
  rw [getOffset_eq, HarmlessLine]
  split
  next bad => simp [HarmlessOutcome, bad]
  next numbers =>
    split
    next last => simp [HarmlessOutcome, numbers, last]
    next last => simp [HarmlessOutcome, numbers, last]

theorem harmlessLines_cons (argv : List Token) (lines : List (List Token)) :
    HarmlessLines osname file (argv :: lines) ↔
      argv ≠ [] ∧ if isHit osname argv then HarmlessLine osname file argv
        else HarmlessLines osname file lines := by
  constructor
  · intro harmless
    rcases harmless [] argv lines rfl (by simp) with ⟨tokens, line⟩
    refine ⟨tokens, ?_⟩
    split
    next hit => exact line hit
    next miss =>
      intro before later after split misses
      apply harmless (argv :: before) later after (by rw [split]; rfl)
      simpa [miss] using misses
  · rintro ⟨tokens, rest⟩ before later after split misses
    cases before with
    | nil =>
        cases split
        exact ⟨tokens, fun hit => by rwa [if_pos hit] at rest⟩
    | cons first before =>
        cases split
        rw [List.forall_mem_cons] at misses
        rw [if_neg (by simp [misses.1])] at rest
        exact rest before later after rfl misses.2

theorem harmless_catchOffset (buffers : List (List Char)) :
    HarmlessOutcome osname file (catchOffset osname buffers) ↔
      HarmlessLines osname file (buffers.map bufferTokens) := by
  induction buffers with
  | nil => simp [catchOffset, HarmlessOutcome, HarmlessLines]
  | cons buffer rest ih =>
      rw [catchOffset_cons, List.map_cons, harmlessLines_cons]
      split
      next none => simp [HarmlessOutcome, none]
      next tokens =>
        split
        next hit => simp [tokens, harmless_getOffset]
        next miss => simp [tokens, ih]

theorem harmless_findOffset :
    HarmlessOutcome osname file (findOffset osname file) ↔ HarmlessTable osname file := by
  rw [findOffset, HarmlessTable]
  split
  next => simp [HarmlessOutcome]
  next buffer rest _ =>
    split
    next empty => simp [HarmlessOutcome, empty]
    next text whole =>
      split
      next typed => simpa [typed, harmless_catchOffset] using fun _ => whole
      next untyped => simpa [HarmlessOutcome, untyped] using whole

def RawRun.Within (bound : List (UInt8 × Nat)) : RawRun → Prop
  | stray _ => False
  | returned _ written => written <+: bound
  | writing written => written <+: bound

theorem RawRun.Within.behind {bound earlier : List (UInt8 × Nat)} {run : RawRun}
    (within : run.Within bound) : (run.behind earlier).Within (earlier ++ bound) := by
  cases run with
  | stray index => exact within
  | returned ret written => exact (List.prefix_append_right_inj earlier).mpr within
  | writing written => exact (List.prefix_append_right_inj earlier).mpr within

theorem RawRun.Within.mono {bound longer : List (UInt8 × Nat)} {run : RawRun}
    (within : run.Within bound) (front : bound <+: longer) : run.Within longer := by
  cases run with
  | stray index => exact within
  | returned ret written => exact List.IsPrefix.trans within front
  | writing written => exact List.IsPrefix.trans within front

theorem zipIdx_split (data : List UInt8) (n pos : Nat) :
    data.zipIdx pos = (data.take n).zipIdx pos ++
      (data.drop n).zipIdx (pos + (data.take n).length) := by
  rw [← List.zipIdx_append, List.take_append_drop]

theorem writeLoop_within (fsync : Bool) (answers : List (Option Nat)) (data : List UInt8)
    (pos : Nat) : (writeLoop fsync answers data pos).Within (data.zipIdx pos) := by
  fun_induction writeLoop fsync answers data pos with
  | case1 answers pos => exact List.nil_prefix
  | case2 byte data pos => exact List.nil_prefix
  | case3 answers byte data pos => exact List.nil_prefix
  | case4 n answers byte data pos fret ih =>
      have taken : ((byte :: data).take fret).length = fret := by
        rw [List.length_take, List.length_cons]
        exact Nat.min_eq_left (Nat.min_le_right _ _)
      rw [zipIdx_split (byte :: data) fret pos, taken]
      exact ih.behind

theorem flashAt_within {dev : RawDevice} {image : List UInt8} (present : dev.image = some image)
    (offset : Int) : (flashAt dev offset).Within (image.zipIdx offset.toNat) := by
  rw [flashAt, present]
  dsimp only
  split
  · exact List.nil_prefix
  · split
    · exact List.nil_prefix
    · split
      · exact List.nil_prefix
      · split
        · exact List.nil_prefix
        · apply (writeLoop_within _ _ _ _).mono
          rw [zipIdx_split image (image.length % 2 ^ 32)]
          exact List.prefix_append _ _

theorem flashAt_negative (dev : RawDevice) {offset : Int} (negative : offset < 0) :
    ∃ ret, flashAt dev offset = .returned ret [] := by
  rw [flashAt]
  simp only [dev.lseek_neg offset negative, Bool.not_false, if_true]
  repeat' split
  all_goals exact ⟨_, rfl⟩

theorem flashAt_absent {dev : RawDevice} (absent : dev.image = none) (offset : Int) :
    flashAt dev offset = .returned none [] := by
  rw [flashAt, absent]

def oneByte : RawDevice where
  argc := 3
  readArgs := true
  image := some [0]
  mapping := .mapped
  openDevice := true
  lseek := fun offset => decide (0 ≤ offset)
  lseek_neg := by simp
  writes := [some 1]
  fsync := true

theorem flashAt_oneByte {offset : Int} (sought : 0 ≤ offset) :
    flashAt oneByte offset = .returned (some "t") [(0, offset.toNat)] := by
  simp [flashAt, oneByte, sought, writeLoop, RawRun.behind]

theorem flashImageAtPartition_oneByte (osname : Token) (file : List Char) :
    flashImageAtPartition osname (some file) oneByte =
      match findOffset osname file with
      | .stray index => .stray index
      | .error _ => .returned (some "") []
      | .ok offset => flashAt oneByte offset := rfl

theorem RawRun.Within.right {dev : RawDevice} {image : List UInt8} {b : Nat} {run : RawRun}
    (within : run.Within (image.zipIdx (512 * b))) (present : dev.image = some image)
    (placed : PlacedAt osname file b) : RightRun osname (some file) dev run := by
  cases run with
  | stray index => exact within
  | returned ret written => exact .inr ⟨file, b, image, rfl, placed, present, within⟩
  | writing written => exact ⟨file, b, image, rfl, placed, present, within⟩

theorem flashAt_right (dev : RawDevice) {offset : Int}
    (harmless : HarmlessOutcome osname file (.ok offset)) :
    RightRun osname (some file) dev (flashAt dev offset) := by
  rcases harmless with negative | ⟨b, placed, rfl⟩
  · rcases flashAt_negative dev negative with ⟨ret, run⟩
    rw [run]
    exact .inl rfl
  · cases present : dev.image with
    | none =>
        rw [flashAt_absent present]
        exact .inl rfl
    | some image => exact (flashAt_within present _).right present placed

theorem harmless_of_flashAt {offset : Int}
    (right : RightRun osname (some file) oneByte (flashAt oneByte offset)) :
    HarmlessOutcome osname file (.ok offset) := by
  by_cases sought : 0 ≤ offset
  · rw [flashAt_oneByte sought] at right
    rcases right.resolve_left (List.cons_ne_nil _ _) with
      ⟨same, b, image, table, placed, present, front⟩
    cases table
    cases present
    refine .inr ⟨b, placed, ?_⟩
    have place := List.prefix_iff_eq_take.mp front
    simp at place
    omega
  · exact .inl (by omega)

theorem rightPlace_iff_outcome :
    RightPlace osname (some file) ↔ HarmlessOutcome osname file (findOffset osname file) := by
  cases found : findOffset osname file with
  | stray index =>
      have run : flashImageAtPartition osname (some file) oneByte = .stray index := by
        rw [flashImageAtPartition_oneByte, found]
      refine ⟨fun right => ?_, False.elim⟩
      have stray := right oneByte
      rw [run] at stray
      exact stray
  | error cause =>
      refine ⟨fun _ => trivial, fun _ dev => ?_⟩
      rw [flashImageAtPartition, found]
      split
      · exact .inl rfl
      · split
        · exact .inl rfl
        · exact .inl rfl
  | ok offset =>
      constructor
      · intro right
        have run := right oneByte
        rw [flashImageAtPartition_oneByte, found] at run
        exact harmless_of_flashAt run
      · intro harmless dev
        rw [flashImageAtPartition, found]
        split
        · exact .inl rfl
        · split
          · exact .inl rfl
          · exact flashAt_right dev harmless

/-- For a name and a table, the image goes to its place or nowhere exactly when the table cannot
be opened or is harmless: the line that the code takes for the one of the name leads to the block
of the right line, or to no write. -/
theorem raw_flash_right_place_iff (osname : Token) (parttable : Option (List Char)) :
    RightPlace osname parttable ↔ ∀ file, parttable = some file → HarmlessTable osname file := by
  cases parttable with
  | none =>
      constructor
      · intro _ file present
        cases present
      · intro _ dev
        rw [flashImageAtPartition]
        split
        · exact .inl rfl
        · split
          · exact .inl rfl
          · exact .inl rfl
  | some file =>
      rw [rightPlace_iff_outcome, harmless_findOffset]
      constructor
      · rintro harmless same ⟨⟩
        exact harmless
      · exact fun all => all file rfl

def bootName : Token := ['b', 'o', 'o', 't']

/-- A table whose line for `boot` has no `-b`. -/
def startlessTable : List Char := "type=gpt\nadd -s 8 -l boot\n".toList

/-- Without a `-b` the image is written to the start of the device. -/
theorem startless_line_overwrites : ¬ RightPlace bootName (some startlessTable) := by
  intro right
  have run : flashImageAtPartition bootName (some startlessTable) oneByte =
      .returned (some "t") [(0, 0)] := by decide +kernel
  have written := right oneByte
  rw [run] at written
  rcases written.resolve_left (List.cons_ne_nil _ _) with
    ⟨same, b, image, table, ⟨before, line, after, lines, -, places⟩, -⟩
  cases table
  have member : line ∈ tableLines startlessTable := by simp [lines]
  have two : tableLines startlessTable = ["add -s 8 -l boot".toList, []] := by decide +kernel
  rw [two] at member
  rcases places.start with ⟨value, pair, -⟩
  have none : ∀ pair ∈ pairs (tokensOf line), pair.1 ≠ START_OPTION := by
    rcases List.mem_cons.mp member with rfl | member
    · decide +kernel
    · cases List.mem_singleton.mp member
      decide +kernel
  exact none _ pair rfl

end A500cg.Updater
