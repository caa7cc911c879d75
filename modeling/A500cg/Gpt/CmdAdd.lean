import A500cg.Gpt.Numbers
import Mathlib.Tactic

/-! `cmd_add` of `gpt/lib/cmd_add.c`, with the sizes `$calc($lba_end-N)`: the options are taken one
after the other, and what they ask for is handed to `cgpt_add`.

What `getopt` returns is given as a list of options; so are the sizes of the block devices, and
which names and texts are GUIDs. `unsigned long` is 32 bits wide. -/

namespace A500cg.Gpt

inductive AddOption where
  | partition (optarg : Token)
  | begin (optarg : Token)
  | size (optarg : Token)
  | type (optarg : Token)
  | unique (optarg : Token)
  | label (optarg : Token)
  | successful (optarg : Token)
  | tries (optarg : Token)
  | priority (optarg : Token)
  | raw (optarg : Token)
  | help
  | unrecognized
  | missing
  deriving DecidableEq, Repr

/-- An argument list as `getopt` sees it: the options, `argv[argc-1]`, and `argv[optind]` behind the
options if there is one. -/
structure AddArgs where
  options : List AddOption
  last : Token
  drive : Option Token

structure AddEnv where
  blkGetSize64 : Token → Option UInt64
  supportedType : Token → Bool
  strToGuid : Token → Bool

structure AddParams where
  setBegin : Bool
  begin : UInt64
  setSize : Bool
  size : UInt64
  deriving DecidableEq, Repr

/-- The variables of the loop; `e` tells whether the end pointer of the last conversion is set and
not at the end of a string. -/
structure AddState where
  params : AddParams
  errorcnt : Nat
  e : Bool
  deriving DecidableEq, Repr

inductive AddRun where
  | usage
  | failed
  | passed (params : AddParams) (driveName : Token)
  deriving DecidableEq, Repr

def lbaCount (env : AddEnv) (blkDevice : Token) : UInt64 :=
  (env.blkGetSize64 blkDevice).getD 0 / 512

def strstr (word : List Char) : List Char → Option (List Char)
  | [] => if word = [] then some [] else none
  | c :: text => if word.isPrefixOf (c :: text) then some (c :: text) else strstr word text

def scanLlu (text : List Char) : Option UInt64 :=
  let digits := (strtoullSubject text).2.takeWhile isDecimal
  let n := numberIn 10 digits
  if digits = [] then none
  else if n ≥ 2 ^ 64 then some (UInt64.ofNat (2 ^ 64 - 1))
  else if (strtoullSubject text).1 then some (0 - UInt64.ofNat n)
  else some (UInt64.ofNat n)

def CALC : List Char := ['$', 'c', 'a', 'l', 'c', '(']
def LBA_END : List Char := CALC ++ ['$', 'l', 'b', 'a', '_', 'e', 'n', 'd', '-']

def parseLbaEnd (line : Token) : Option UInt64 :=
  match strstr CALC line with
  | none => none
  | some line => if LBA_END.isPrefixOf line then scanLlu (line.drop LBA_END.length) else none

/-- `strtoul`, as `strtoull` with 32 bits. -/
def strtoul (token : Token) : Nat :=
  if strtoullMagnitude token ≥ 2 ^ 32 then 2 ^ 32 - 1
  else if (strtoullSubject token).1 then (2 ^ 32 - strtoullMagnitude token) % 2 ^ 32
  else strtoullMagnitude token

def invalidArgument (optarg : Token) (e : Bool) : Bool := optarg.isEmpty || e

/-- `e` after a conversion of the token. -/
def endNotReached (token : Token) : Bool := !(strtoullRest token).isEmpty

def AddState.count (st : AddState) (wrong : Bool) : AddState :=
  if wrong then { st with errorcnt := st.errorcnt + 1 } else st

def AddState.convert (st : AddState) (optarg : Token) : AddState :=
  { st with e := endNotReached optarg }.count (invalidArgument optarg (endNotReached optarg))

/-- The body of the loop, but for `-h`. -/
def addOption (env : AddEnv) (last : Token) (st : AddState) : AddOption → AddState
  | .partition optarg => st.convert optarg
  | .begin optarg =>
      { st with
        params := { st.params with
          setBegin := true, begin := UInt64.ofNat (strtoull optarg) } }.convert optarg
  | .size optarg =>
      match parseLbaEnd optarg with
      | some lbaEnd =>
          -- `e` is left over from an option before
          { st with
            params := { st.params with
              setSize := true, size := (lbaCount env last - st.params.begin) - lbaEnd } }.count
            (invalidArgument optarg st.e)
      | none =>
          { st with
            params := { st.params with
              setSize := true, size := UInt64.ofNat (strtoull optarg) } }.convert optarg
  | .type optarg => st.count (!env.supportedType optarg && !env.strToGuid optarg)
  | .unique optarg => st.count (!env.strToGuid optarg)
  | .label _ => st
  | .successful optarg => (st.convert optarg).count (strtoul optarg > 1)
  | .tries optarg => (st.convert optarg).count (strtoul optarg > 15)
  | .priority optarg => (st.convert optarg).count (strtoul optarg > 15)
  | .raw optarg => st.convert optarg
  | .help => st
  | .unrecognized => st.count true
  | .missing => st.count true

/-- The loop; with `-h` it returns. -/
def addOptions (env : AddEnv) (last : Token) : AddState → List AddOption → Option AddState
  | st, [] => some st
  | st, option :: rest =>
      if option = .help then none else addOptions env last (addOption env last st option) rest

def initialState : AddState := ⟨⟨false, 0, false, 0⟩, 0, false⟩

def cmdAdd (env : AddEnv) (args : AddArgs) : AddRun :=
  match addOptions env args.last initialState args.options with
  | none => .usage
  | some st =>
      if st.errorcnt ≠ 0 then .failed
      else
        match args.drive with
        | none => .failed
        | some drive => .passed st.params drive

def calcArg (digits : List Char) : Token := LBA_END ++ digits ++ [')']

def AddOption.beginArg : AddOption → Option Token
  | .begin optarg => some optarg
  | _ => none

def AddOption.isSize : AddOption → Bool
  | .size _ => true
  | _ => false

/-- The values given with `-b`, in order. -/
def beginArgs (options : List AddOption) : List Token := options.filterMap AddOption.beginArg

/-- An argument list for a drive in which the last `-b` has the number `b`, and the last `-s` is
`$calc($lba_end-N)`. -/
structure CalcArgs where
  before : List AddOption
  digits : List Char
  after : List AddOption
  last : Token
  drive : Token
  start : Token
  b : Nat
  nonempty : digits ≠ []
  decimal : ∀ c ∈ digits, isDecimal c = true
  lastSize : ∀ option ∈ after, option.isSize = false
  lastBegin : (beginArgs (before ++ .size (calcArg digits) :: after)).getLast? = some start
  number : unsignedValue start = some b

namespace CalcArgs

def options (args : CalcArgs) : List AddOption :=
  args.before ++ .size (calcArg args.digits) :: args.after

def toArgs (args : CalcArgs) : AddArgs := ⟨args.options, args.last, some args.drive⟩

def n (args : CalcArgs) : Nat := numberIn 10 args.digits

def blocks (env : AddEnv) (args : CalcArgs) : Nat := (lbaCount env args.drive).toNat

end CalcArgs

structure Calculated (env : AddEnv) (args : CalcArgs) : Prop where
  fits : args.b + args.n ≤ args.blocks env → ∀ params driveName,
    cmdAdd env args.toArgs = .passed params driveName →
      args.b + params.size.toNat + args.n = args.blocks env
  exceeds : args.blocks env < args.b + args.n → cmdAdd env args.toArgs = .failed

def isInvalid (env : AddEnv) : AddOption → Bool
  | .partition optarg => invalidArgument optarg (endNotReached optarg)
  | .begin optarg => invalidArgument optarg (endNotReached optarg)
  | .size optarg =>
      invalidArgument optarg ((parseLbaEnd optarg).isNone && endNotReached optarg)
  | .type optarg => !env.supportedType optarg && !env.strToGuid optarg
  | .unique optarg => !env.strToGuid optarg
  | .label _ => false
  | .successful optarg => invalidArgument optarg (endNotReached optarg) || strtoul optarg > 1
  | .tries optarg => invalidArgument optarg (endNotReached optarg) || strtoul optarg > 15
  | .priority optarg => invalidArgument optarg (endNotReached optarg) || strtoul optarg > 15
  | .raw optarg => invalidArgument optarg (endNotReached optarg)
  | .help => false
  | .unrecognized => true
  | .missing => true

/-- The begin that is known when the options so far were taken; 0 without a `-b`. -/
def knownBegin (options : List AddOption) : Nat :=
  ((beginArgs options).getLast?.map strtoull).getD 0

variable {env : AddEnv} {last : Token}

def AddState.Clean (st : AddState) : Prop := st.errorcnt = 0 → st.e = false

theorem count_errorcnt (st : AddState) (wrong : Bool) :
    (st.count wrong).errorcnt = 0 ↔ st.errorcnt = 0 ∧ wrong = false := by
  cases wrong <;> simp [AddState.count]

@[simp] theorem count_params (st : AddState) (wrong : Bool) :
    (st.count wrong).params = st.params := by
  cases wrong <;> rfl

@[simp] theorem count_e (st : AddState) (wrong : Bool) : (st.count wrong).e = st.e := by
  cases wrong <;> rfl

@[simp] theorem convert_params (st : AddState) (optarg : Token) :
    (st.convert optarg).params = st.params := by
  simp [AddState.convert]

theorem convert_errorcnt (st : AddState) (optarg : Token) :
    (st.convert optarg).errorcnt = 0 ↔
      st.errorcnt = 0 ∧ invalidArgument optarg (endNotReached optarg) = false := by
  rw [AddState.convert, count_errorcnt]

theorem convert_clean (st : AddState) (optarg : Token) : (st.convert optarg).Clean := by
  intro none
  have valid := ((convert_errorcnt st optarg).mp none).2
  rw [invalidArgument, Bool.or_eq_false_iff] at valid
  simpa [AddState.convert] using valid.2

theorem count_clean {st : AddState} (clean : st.Clean) (wrong : Bool) : (st.count wrong).Clean := by
  intro none
  rw [count_e]
  exact clean ((count_errorcnt st wrong).mp none).1

theorem addOption_errors {st : AddState} (clean : st.Clean) (option : AddOption) :
    (addOption env last st option).Clean ∧
      ((addOption env last st option).errorcnt = 0 ↔
        st.errorcnt = 0 ∧ isInvalid env option = false) := by
  cases option with
  | partition optarg => exact ⟨convert_clean _ _, convert_errorcnt _ _⟩
  | begin optarg => exact ⟨convert_clean _ _, convert_errorcnt _ _⟩
  | size optarg =>
      cases parsed : parseLbaEnd optarg with
      | none =>
          simp only [addOption, isInvalid, parsed, Option.isNone_none, Bool.true_and]
          exact ⟨convert_clean _ _, convert_errorcnt _ _⟩
      | some lbaEnd =>
          simp only [addOption, isInvalid, parsed, Option.isNone_some, Bool.false_and]
          refine ⟨count_clean (by exact clean) _, ?_⟩
          rw [count_errorcnt]
          -- a pointer that is left over matters only behind an error
          exact and_congr_right fun none => by rw [clean none]
  | type optarg => exact ⟨count_clean clean _, count_errorcnt _ _⟩
  | unique optarg => exact ⟨count_clean clean _, count_errorcnt _ _⟩
  | label optarg => exact ⟨clean, by simp [addOption, isInvalid]⟩
  | successful optarg =>
      refine ⟨count_clean (convert_clean _ _) _, ?_⟩
      simp [addOption, isInvalid, count_errorcnt, convert_errorcnt, and_assoc]
  | tries optarg =>
      refine ⟨count_clean (convert_clean _ _) _, ?_⟩
      simp [addOption, isInvalid, count_errorcnt, convert_errorcnt, and_assoc]
  | priority optarg =>
      refine ⟨count_clean (convert_clean _ _) _, ?_⟩
      simp [addOption, isInvalid, count_errorcnt, convert_errorcnt, and_assoc]
  | raw optarg => exact ⟨convert_clean _ _, convert_errorcnt _ _⟩
  | help => exact ⟨clean, by simp [addOption, isInvalid]⟩
  | unrecognized => exact ⟨count_clean clean _, count_errorcnt _ _⟩
  | missing => exact ⟨count_clean clean _, count_errorcnt _ _⟩

theorem foldl_addOption_errors {st : AddState} (clean : st.Clean) (options : List AddOption) :
    (options.foldl (addOption env last) st).errorcnt = 0 ↔
      st.errorcnt = 0 ∧ ∀ option ∈ options, isInvalid env option = false := by
  induction options generalizing st with
  | nil => simp
  | cons option rest ih =>
      rcases addOption_errors clean option with ⟨clean', errors⟩
      rw [List.foldl_cons, ih clean', errors, List.forall_mem_cons, and_assoc]

theorem addOption_begin (st : AddState) (option : AddOption) :
    (addOption env last st option).params.begin =
      (option.beginArg.map fun optarg => UInt64.ofNat (strtoull optarg)).getD st.params.begin := by
  cases option with
  | size optarg =>
      cases parsed : parseLbaEnd optarg with
      | none => simp [addOption, parsed, AddOption.beginArg]
      | some lbaEnd => simp [addOption, parsed, AddOption.beginArg]
  | _ => simp [addOption, AddOption.beginArg]

theorem foldl_addOption_begin (st : AddState) (options : List AddOption) :
    (options.foldl (addOption env last) st).params.begin =
      ((beginArgs options).getLast?.map fun optarg => UInt64.ofNat (strtoull optarg)).getD
        st.params.begin := by
  induction options generalizing st with
  | nil => rfl
  | cons option rest ih =>
      rw [List.foldl_cons, ih, addOption_begin]
      cases given : option.beginArg with
      | none => simp [beginArgs, given]
      | some optarg =>
          simp only [beginArgs, List.filterMap_cons, given, List.getLast?_cons]
          cases (rest.filterMap AddOption.beginArg).getLast? <;> rfl

theorem addOption_size {st : AddState} {option : AddOption} (other : option.isSize = false) :
    (addOption env last st option).params.size = st.params.size := by
  cases option with
  | size optarg => cases other
  | _ => simp [addOption]

theorem foldl_addOption_size {st : AddState} {options : List AddOption}
    (others : ∀ option ∈ options, option.isSize = false) :
    (options.foldl (addOption env last) st).params.size = st.params.size := by
  induction options generalizing st with
  | nil => rfl
  | cons option rest ih =>
      rw [List.forall_mem_cons] at others
      rw [List.foldl_cons, ih others.2, addOption_size others.1]

theorem addOptions_eq (st : AddState) (options : List AddOption) :
    addOptions env last st options =
      if .help ∈ options then none else some (options.foldl (addOption env last) st) := by
  induction options generalizing st with
  | nil => rfl
  | cons option rest ih =>
      rw [addOptions, ih, List.foldl_cons]
      by_cases help : option = .help
      · simp [help]
      · simp [help, Ne.symm help]

theorem strtoullSubject_decimal {c : Char} (digit : isDecimal c = true) (rest : List Char) :
    strtoullSubject (c :: rest) = (false, c :: rest) := by
  have space : isSpace c = false := by
    rw [isSpace, decide_eq_false_iff_not]
    rintro member
    simp only [List.mem_cons, List.not_mem_nil, or_false] at member
    rcases member with rfl | rfl | rfl | rfl | rfl | rfl <;> exact absurd digit (by decide)
  have plus : c ≠ '+' := by
    rintro rfl
    exact absurd digit (by decide)
  have minus : c ≠ '-' := by
    rintro rfl
    exact absurd digit (by decide)
  rw [strtoullSubject, List.dropWhile_cons_of_neg (by simp [space])]
  split
  next same => exact absurd (List.cons.inj same).1 plus
  next same => exact absurd (List.cons.inj same).1 minus
  next => rfl

theorem parseLbaEnd_calcArg {digits : List Char} (nonempty : digits ≠ [])
    (decimal : ∀ c ∈ digits, isDecimal c = true) :
    parseLbaEnd (calcArg digits) =
      some (UInt64.ofNat (min (numberIn 10 digits) (2 ^ 64 - 1))) := by
  have found : strstr CALC (calcArg digits) = some (calcArg digits) := by
    simp [calcArg, LBA_END, CALC, strstr]
  have rest : (calcArg digits).drop LBA_END.length = digits ++ [')'] := by
    rw [calcArg, List.append_assoc, List.drop_left]
  have front : LBA_END.isPrefixOf (calcArg digits) = true := by
    rw [List.isPrefixOf_iff_prefix, calcArg, List.append_assoc]
    exact List.prefix_append _ _
  have subject : strtoullSubject (digits ++ [')']) = (false, digits ++ [')']) := by
    cases digits with
    | nil => exact absurd rfl nonempty
    | cons c more => exact strtoullSubject_decimal (decimal c List.mem_cons_self) _
  have all : (digits ++ [')']).takeWhile isDecimal = digits := by
    rw [List.takeWhile_append_of_pos decimal]
    simp [isDecimal]
  simp only [parseLbaEnd, found, front, if_true, rest, scanLlu, subject, all, if_neg nonempty]
  split
  next large => rw [Nat.min_eq_right (by omega)]
  next small => rw [Nat.min_eq_left (by omega)]; rfl

theorem strtoull_lt (token : Token) : strtoull token < 2 ^ 64 := by
  rw [strtoull]
  split
  · omega
  · split <;> omega

theorem knownBegin_lt (options : List AddOption) : knownBegin options < 2 ^ 64 := by
  rw [knownBegin]
  cases (beginArgs options).getLast? with
  | none => decide
  | some optarg => exact strtoull_lt optarg

theorem foldl_addOption_knownBegin (options : List AddOption) :
    (options.foldl (addOption env last) initialState).params.begin =
      UInt64.ofNat (knownBegin options) := by
  rw [foldl_addOption_begin, knownBegin]
  cases (beginArgs options).getLast? <;> rfl

theorem foldl_addOption_calc (env : AddEnv) (args : CalcArgs) :
    (args.options.foldl (addOption env args.last) initialState).params.size =
      lbaCount env args.last - UInt64.ofNat (knownBegin args.before) -
        UInt64.ofNat (min args.n (2 ^ 64 - 1)) := by
  rw [CalcArgs.options, List.foldl_append, List.foldl_cons, foldl_addOption_size args.lastSize]
  simp only [addOption, parseLbaEnd_calcArg args.nonempty args.decimal, count_params,
    foldl_addOption_knownBegin, CalcArgs.n]

theorem cmdAdd_calc (env : AddEnv) (args : CalcArgs) :
    cmdAdd env args.toArgs =
      if .help ∈ args.options then .usage
      else if (args.options.foldl (addOption env args.last) initialState).errorcnt ≠ 0 then .failed
      else
        .passed (args.options.foldl (addOption env args.last) initialState).params args.drive := by
  rw [cmdAdd, CalcArgs.toArgs, addOptions_eq]
  by_cases help : .help ∈ args.options
  · simp [help]
  · simp [help]

theorem calc_size_iff {blocks known : UInt64} {b n c : Nat} (c_lt : c < 2 ^ 64)
    (fits : b + n ≤ c) :
    b + (blocks - known - UInt64.ofNat (min n (2 ^ 64 - 1))).toNat + n = c ↔
      (blocks.toNat + b) % 2 ^ 64 = (c + known.toNat) % 2 ^ 64 := by
  have narrow := blocks.toNat_lt
  have narrow' := known.toNat_lt
  have number : (UInt64.ofNat (min n (2 ^ 64 - 1))).toNat = n := by
    rw [Nat.min_eq_left (by omega), UInt64.toNat_ofNat_of_lt' (by simp [UInt64.size]; omega)]
  rw [UInt64.toNat_sub, UInt64.toNat_sub, number]
  omega

section Outcome

variable {args : CalcArgs}

theorem calculated_of_failed (run : cmdAdd env args.toArgs = .failed) : Calculated env args := by
  refine ⟨fun _ params driveName passed => ?_, fun _ => run⟩
  rw [run] at passed
  cases passed

theorem fits_of_calculated (other : cmdAdd env args.toArgs ≠ .failed)
    (calculated : Calculated env args) : args.b + args.n ≤ args.blocks env := by
  by_contra exceeds
  exact other (calculated.exceeds (by omega))

theorem calculated_usage_iff (run : cmdAdd env args.toArgs = .usage) :
    Calculated env args ↔ args.b + args.n ≤ args.blocks env := by
  constructor
  · exact fits_of_calculated (by simp [run])
  · intro fits
    refine ⟨fun _ params driveName passed => ?_, fun exceeds => by omega⟩
    rw [run] at passed
    cases passed

theorem calculated_passed_iff {params : AddParams} {driveName : Token}
    (run : cmdAdd env args.toArgs = .passed params driveName) :
    Calculated env args ↔ args.b + args.n ≤ args.blocks env ∧
      args.b + params.size.toNat + args.n = args.blocks env := by
  constructor
  · intro calculated
    have fits := fits_of_calculated (by simp [run]) calculated
    exact ⟨fits, calculated.fits fits _ _ run⟩
  · rintro ⟨fits, size⟩
    refine ⟨fun _ params driveName passed => ?_, fun exceeds => by omega⟩
    rw [run] at passed
    cases passed
    exact size

end Outcome

theorem errorcnt_ne_zero_iff (env : AddEnv) (last : Token) (options : List AddOption) :
    (options.foldl (addOption env last) initialState).errorcnt ≠ 0 ↔
      ∃ option ∈ options, isInvalid env option = true := by
  have clean : initialState.Clean := fun _ => rfl
  rw [ne_eq, foldl_addOption_errors clean]
  simp [initialState]

/-- The partition ends where `$calc` says exactly when the command fails for an invalid option, or
the numbers fit and, unless only the usage is shown, the blocks and the begin known at the last
`-s` are as far apart as the blocks of the drive and the begin that is given. -/
theorem calc_partition_iff (env : AddEnv) (args : CalcArgs) :
    Calculated env args ↔
      (.help ∉ args.options ∧ ∃ option ∈ args.options, isInvalid env option = true) ∨
        args.b + args.n ≤ args.blocks env ∧
          (.help ∈ args.options ∨
            ((lbaCount env args.last).toNat + args.b) % 2 ^ 64 =
              (args.blocks env + knownBegin args.before) % 2 ^ 64) := by
  have run := cmdAdd_calc env args
  by_cases help : .help ∈ args.options
  · rw [if_pos help] at run
    simp [calculated_usage_iff run, help]
  · rw [if_neg help] at run
    by_cases invalid : ∃ option ∈ args.options, isInvalid env option = true
    · rw [if_pos ((errorcnt_ne_zero_iff env args.last args.options).mpr invalid)] at run
      exact ⟨fun _ => .inl ⟨help, invalid⟩, fun _ => calculated_of_failed run⟩
    · rw [if_neg (mt (errorcnt_ne_zero_iff env args.last args.options).mp invalid)] at run
      have known : (UInt64.ofNat (knownBegin args.before)).toNat = knownBegin args.before :=
        UInt64.toNat_ofNat_of_lt' (knownBegin_lt args.before)
      have blocks_lt : args.blocks env < 2 ^ 64 := (lbaCount env args.drive).toNat_lt
      rw [calculated_passed_iff run, foldl_addOption_calc]
      simp only [invalid, and_false, false_or, help]
      refine and_congr_right fun fits => ?_
      rw [calc_size_iff blocks_lt fits, known]

def hundredBlocks : AddEnv := ⟨fun _ => some 51200, fun _ => true, fun _ => true⟩

def sizeFirst : CalcArgs where
  before := []
  digits := ['8']
  after := [.begin ['4', '0']]
  last := ['s', 'd', 'a']
  drive := ['s', 'd', 'a']
  start := ['4', '0']
  b := 40
  nonempty := by decide
  decimal := by simp [isDecimal]
  lastSize := by simp [AddOption.isSize]
  lastBegin := by decide
  number := by decide

/-- The size is computed before the begin is known, and the partition ends 32 blocks behind the
device. -/
theorem size_before_begin_miscalculated : ¬ Calculated hundredBlocks sizeFirst := by
  intro calculated
  have run : cmdAdd hundredBlocks sizeFirst.toArgs =
      .passed ⟨true, 40, true, 92⟩ ['s', 'd', 'a'] := by decide
  have size := calculated.fits (by decide) _ _ run
  exact absurd size (by decide)

end A500cg.Gpt
