import A500cg.Gpt.Table

/-! What the rewrite of the partition table is for, and on which lines the code does it. -/

namespace A500cg.Gpt

open Lib Osip

def LABEL_OPTION : Token := ['-', 'l']

def tokensOf (text : List Char) : List Token := (text.splitOn ' ').filter (· ≠ [])

def optionValue (option : Token) (argv : List Token) : Option Token :=
  ((pairs argv).find? (fun pair => pair.1 = option)).map Prod.snd

def partitionOf (name : Token) : Option OsPartition := OsPartition.all.find? (·.name = name)

inductive Target where
  | keep
  | drop
  | update (partition : OsPartition)
  deriving DecidableEq, Repr

/-- What a line asks for: only an `add` line with the label of an OS partition is updated,
and only one with the label `reserved` is dropped. -/
def target (argv : List Token) : Target :=
  if argv.head? = some ADD then
    match optionValue LABEL_OPTION argv with
    | none => .keep
    | some label =>
        if label = RESERVED then .drop
        else match partitionOf label with
          | some partition => .update partition
          | none => .keep
  else .keep

def setSizeAndStart (start : UInt32) (option value : Token) : Token :=
  if option = SIZE_OPTION then decimal OS_MAX_LBA.toNat
  else if option = START_OPTION then decimal start.toNat
  else value

def intendedTokens (start : OsPartition → UInt32) (argv : List Token) : Option (List Token) :=
  match target argv with
  | .keep => some argv
  | .drop => none
  | .update partition => some (changeBehind (setSizeAndStart (start partition)) argv)

/-- The first entry in use of the class that the name stands for. -/
def EntryOf (osip : OSIPHeader) (name : Token) (i : Fin 8) : Prop :=
  ∃ attr, getNamedOsiiAttr (String.ofList name) = some (attr, 1) ∧ i.val < osip.count ∧
    attrClass (osip.desc i).attr = attr ∧ ∀ j < i, attrClass (osip.desc j).attr ≠ attr

theorem strToArray_eq (line : Line) : strToArray line.text = tokensOf line.text := by
  have few : ((line.text.splitOn ' ').filter (· ≠ [])).length ≤ K_MAX_ARGS := by
    have kept := List.length_filter_le (fun token => decide (token ≠ [])) (line.text.splitOn ' ')
    have cut := splitOn_length_le ' ' line.text
    have short := line.short
    simp only [K_MAX_ARGS]
    omega
  rw [strToArray, tokensOf, List.take_of_length_le few]
  have whole : ∀ token ∈ (line.text.splitOn ' ').filter (· ≠ []),
      token.take K_MAX_ARG_LEN = id token := by
    intro token member
    apply List.take_of_length_le
    have inside := length_le_of_mem_splitOn (List.mem_of_mem_filter member)
    have short := line.short
    simp only [K_MAX_ARG_LEN]
    omega
  rw [List.map_congr_left whole, List.map_id]

theorem ne_nil_of_mem_tokensOf {text : List Char} {token : Token}
    (member : token ∈ tokensOf text) : token ≠ [] := by
  have kept := (List.mem_filter.mp member).2
  exact of_decide_eq_true kept

theorem findInstance_entry {osip : OSIPHeader} {attr : UInt8} {i : Fin 8}
    (same : attrClass (osip.desc i).attr = attr)
    (first : ∀ j < i, attrClass (osip.desc j).attr ≠ attr) (start count : Nat)
    (below : start ≤ i) (inside : i.val < start + count) :
    findInstance osip attr 1 (List.range' start count) 1 = .ok (some i, 1) := by
  induction count generalizing start with
  | zero => omega
  | succ count ih =>
      have bound : start < 8 := by omega
      have here : osip.getDesc start = .ok (osip.desc ⟨start, bound⟩) := dif_pos bound
      rw [List.range'_succ, findInstance, here, Outcome.ok_bind]
      by_cases reached : start = i
      · subst reached
        rw [if_pos same, if_pos rfl]
      · have before : (⟨start, bound⟩ : Fin 8) < i := by
          apply Fin.lt_def.mpr
          simp only
          omega
        rw [if_neg (first _ before)]
        exact ih (start + 1) (by omega) (by omega)

theorem namedStartBlock_entry {osip : OSIPHeader} {name : Token} {i : Fin 8}
    (entry : EntryOf osip name i) :
    namedStartBlock osip name = .ok ((osip.desc i).start : Int) := by
  rcases entry with ⟨attr, named, live, same, first⟩
  have found : resolveIndex osip attr 1 .readOsipHeader = .ok (i : Int) := by
    rw [resolveIndex, List.range_eq_range', findInstance_entry same first 0 osip.count (by omega)
      (by omega), Outcome.ok_bind]
    rfl
  have inside : checkIndexOutofbound (i : Int) = .ok () :=
    checkIndexOutofbound_inside (by omega) (by omega)
  rw [namedStartBlock, named]
  simp only
  rw [found, Outcome.ok_bind, inside]
  simp only
  rw [Int.toNat_natCast, OSIPHeader.getDesc_fin, Outcome.ok_bind]
  rfl

/-- The tokens that the update loop takes for `-s` or `-b`. -/
def isOption (token : Token) : Bool := matchesWord SIZE_OPTION token || matchesWord START_OPTION token

/-- What the update loop leaves behind a token; `-` counts as both options. -/
def changedValue (start : UInt32) (option value : Token) : Token :=
  if matchesWord START_OPTION option then decimal start.toNat
  else if matchesWord SIZE_OPTION option then decimal OS_MAX_LBA.toNat
  else value

theorem prefix_cases {word token : Token} (hit : matchesWord word token = true) :
    token ∈ word.inits :=
  (List.mem_inits token word).mpr (List.isPrefixOf_iff_prefix.mp hit)

theorem isOption_cases {token : Token} (option : isOption token = true) (nonempty : token ≠ []) :
    token = ['-'] ∨ token = SIZE_OPTION ∨ token = START_OPTION := by
  simp only [isOption, Bool.or_eq_true] at option
  rcases option with hit | hit
  · have member := prefix_cases hit
    simp only [SIZE_OPTION, List.inits, List.map_cons, List.map_nil, List.mem_cons,
      List.not_mem_nil, or_false] at member
    rcases member with rfl | rfl | rfl
    · exact absurd rfl nonempty
    · exact Or.inl rfl
    · exact Or.inr (Or.inl rfl)
  · have member := prefix_cases hit
    simp only [START_OPTION, List.inits, List.map_cons, List.map_nil, List.mem_cons,
      List.not_mem_nil, or_false] at member
    rcases member with rfl | rfl | rfl
    · exact absurd rfl nonempty
    · exact Or.inl rfl
    · exact Or.inr (Or.inr rfl)

theorem number_not_option {token : Token} (number : strtoullRest token = [])
    (nonempty : token ≠ []) : isOption token = false := by
  apply Bool.eq_false_iff.mpr
  intro option
  rcases isOption_cases option nonempty with rfl | rfl | rfl
  · exact absurd number (by decide)
  · exact absurd number (by decide)
  · exact absurd number (by decide)

theorem decimal_ne_nil (n : Nat) : decimal n ≠ [] := Nat.toDigits_ne_nil

theorem decimal_not_option (n : Nat) : isOption (decimal n) = false := by
  apply Bool.eq_false_iff.mpr
  intro option
  have dash : '-' ∈ decimal n := by
    rcases isOption_cases option (decimal_ne_nil n) with same | same | same <;> rw [same] <;> decide
  exact absurd (Nat.isDigit_of_mem_toDigits (by decide) (by decide) dash) (by decide)

theorem decimal_inj {m n : Nat} (same : decimal m = decimal n) : m = n := by
  have left := @Nat.ofDigitChars_ten_toDigits m
  have right := @Nat.ofDigitChars_ten_toDigits n
  rw [← left, ← right]
  exact congrArg (fun digits => Nat.ofDigitChars 10 digits 0) same

theorem changedValue_plain {start : UInt32} {option : Token} (plain : isOption option = false)
    (value : Token) : changedValue start option value = value := by
  simp only [isOption, Bool.or_eq_false_iff] at plain
  simp [changedValue, plain.1, plain.2]

theorem changedValue_option (start : UInt32) {option : Token} (value : Token)
    (taken : isOption option = true) : ∃ n, changedValue start option value = decimal n := by
  simp only [isOption, Bool.or_eq_true] at taken
  simp only [changedValue]
  by_cases second : matchesWord START_OPTION option = true
  · exact ⟨_, if_pos second⟩
  · rcases taken with first | first
    · rw [if_neg second, if_pos first]
      exact ⟨_, rfl⟩
    · exact absurd first second

theorem argvAt_eq {argv : List Token} {i : Nat} {token : Token} (here : argv[i]? = some token) :
    argvAt argv i = .ok token := by
  rw [argvAt, here]

theorem replaceNumber_cases (cause : TableError) (argv : List Token) (k : Nat) (value : Token) :
    (argv[k]? = none ∧ replaceNumber cause argv k value = .stray k) ∨
    replaceNumber cause argv k value = .error cause ∨
    ∃ old, argv[k]? = some old ∧ strtoullRest old = [] ∧
      replaceNumber cause argv k value = .ok (argv.set k value) := by
  cases here : argv[k]? with
  | none =>
      left
      rw [replaceNumber, argvAt, here]
      exact ⟨rfl, rfl⟩
  | some old =>
      right
      rw [replaceNumber, argvAt_eq here, Outcome.ok_bind]
      by_cases number : strtoullRest old = []
      · rw [Outcome.require_pos cause number]
        exact Or.inr ⟨old, rfl, number, rfl⟩
      · rw [Outcome.require_neg cause number]
        exact Or.inl rfl

theorem replaceNumber_round (start : UInt32) {argv : List Token} {i : Nat} {token value : Token}
    (cause : TableError) (option : isOption token = true)
    (changed : ∀ old, changedValue start token old = value) :
    (∃ cause', replaceNumber cause argv (i + 1) value = .error cause') ∨
    (isOption token = false ∧ replaceNumber cause argv (i + 1) value = .ok argv) ∨
    (isOption token = true ∧ argv[i + 1]? = none ∧
      replaceNumber cause argv (i + 1) value = .stray (i + 1)) ∨
    (isOption token = true ∧ ∃ old, argv[i + 1]? = some old ∧ strtoullRest old = [] ∧
      replaceNumber cause argv (i + 1) value =
        .ok (argv.set (i + 1) (changedValue start token old))) := by
  rcases replaceNumber_cases cause argv (i + 1) value with
    ⟨none, result⟩ | result | ⟨old, behind, number, result⟩
  · exact Or.inr (Or.inr (Or.inl ⟨option, none, result⟩))
  · exact Or.inl ⟨_, result⟩
  · refine Or.inr (Or.inr (Or.inr ⟨option, old, behind, number, ?_⟩))
    rw [result, changed]

/-- One round of the update loop: it reports an error, passes over a plain token, reads
past the last token behind an option, or replaces the number behind one. -/
theorem updateStep_cases (start : UInt32) {argv : List Token} {i : Nat} {token : Token}
    (here : argv[i]? = some token) :
    (∃ cause, updateStep start.toNat argv i = .error cause) ∨
    (isOption token = false ∧ updateStep start.toNat argv i = .ok argv) ∨
    (isOption token = true ∧ argv[i + 1]? = none ∧
      updateStep start.toNat argv i = .stray (i + 1)) ∨
    (isOption token = true ∧ ∃ old, argv[i + 1]? = some old ∧ strtoullRest old = [] ∧
      updateStep start.toNat argv i = .ok (argv.set (i + 1) (changedValue start token old))) := by
  have unfolded : updateStep start.toNat argv i =
      (if matchesWord SIZE_OPTION token then
        replaceNumber .badSize argv (i + 1) (decimal OS_MAX_LBA.toNat) else .ok argv) >>=
      fun argv => if matchesWord START_OPTION token then
        replaceNumber .badLba argv (i + 1) (decimal start.toNat) else .ok argv := by
    rw [updateStep, argvAt_eq here, Outcome.ok_bind, Int.toNat_natCast]
    cases matchesWord SIZE_OPTION token <;> rfl
  rw [unfolded]
  cases size : matchesWord SIZE_OPTION token <;> cases begin : matchesWord START_OPTION token
  · exact Or.inr (Or.inl ⟨by simp [isOption, size, begin], rfl⟩)
  · have option : isOption token = true := by simp [isOption, begin]
    simp only [Bool.false_eq_true, ↓reduceIte, Outcome.ok_bind]
    exact replaceNumber_round start .badLba option fun old => by simp [changedValue, begin]
  · have option : isOption token = true := by simp [isOption, size]
    have last : ∀ first : Outcome TableError (List Token),
        (first >>= fun argv => .ok argv) = first := by
      intro first
      cases first <;> rfl
    simp only [Bool.false_eq_true, ↓reduceIte, last]
    exact replaceNumber_round start .badSize option fun old => by simp [changedValue, size, begin]
  · have option : isOption token = true := by simp [isOption, size]
    simp only [changedValue, begin, ↓reduceIte]
    rcases replaceNumber_cases .badSize argv (i + 1) (decimal OS_MAX_LBA.toNat) with
      ⟨none, result⟩ | result | ⟨old, behind, number, result⟩ <;> rw [result]
    · exact Or.inr (Or.inr (Or.inl ⟨option, none, rfl⟩))
    · exact Or.inl ⟨_, rfl⟩
    · -- `-` counts as both options, and the number just printed is a number again
      have bound : i + 1 < argv.length := (List.getElem?_eq_some_iff.mp behind).1
      have again : (argv.set (i + 1) (decimal OS_MAX_LBA.toNat))[i + 1]? =
          some (decimal OS_MAX_LBA.toNat) := List.getElem?_set_self bound
      refine Or.inr (Or.inr (Or.inr ⟨option, old, behind, number, ?_⟩))
      rcases replaceNumber_cases .badLba (argv.set (i + 1) (decimal OS_MAX_LBA.toNat)) (i + 1)
        (decimal start.toNat) with ⟨none, _⟩ | failed | ⟨_, _, _, result⟩
      · rw [again] at none
        cases none
      · rw [replaceNumber, argvAt_eq again, Outcome.ok_bind,
          Outcome.require_pos _ (by decide)] at failed
        cases failed
      · rw [Outcome.ok_bind, result, List.set_set]

def NoEmptyToken (argv : List Token) : Prop := ∀ (k : Nat) (token : Token), argv[k]? = some token →
  token ≠ []

theorem noEmptyToken_set {argv : List Token} (nonempty : NoEmptyToken argv) (k n : Nat) :
    NoEmptyToken (argv.set k (decimal n)) := by
  intro j token here
  by_cases same : k = j
  · subst same
    by_cases bound : k < argv.length
    · rw [List.getElem?_set_self bound] at here
      cases here
      exact decimal_ne_nil n
    · rw [List.getElem?_eq_none (by rw [List.length_set]; omega)] at here
      cases here
  · rw [List.getElem?_set_ne same] at here
    exact nonempty j token here

/-- What the rounds from `i` on come to: an error, a read past the last token, which then is
an option, or a change of every token behind the first `i`. -/
def RoundsFrom (start : UInt32) (i : Nat) (argv : List Token)
    (result : Outcome TableError (List Token)) : Prop :=
  (∃ cause, result = .error cause) ∨
  (∃ index token, result = .stray index ∧ argv[argv.length - 1]? = some token ∧
    isOption token = true) ∨
  (∃ out, result = .ok out ∧
    (i < argv.length → ∀ token, argv[argv.length - 1]? = some token → isOption token = false) ∧
    (∀ k ≤ i, out[k]? = argv[k]?) ∧
    ∀ k ≥ i, out[k + 1]? =
      argv[k]?.bind fun before => argv[k + 1]?.map fun value => changedValue start before value)

theorem RoundsFrom.finished (start : UInt32) (argv : List Token) :
    RoundsFrom start argv.length argv (.ok argv) := by
  refine Or.inr (Or.inr ⟨argv, rfl, fun inside => absurd inside (by omega), fun k _ => rfl, ?_⟩)
  intro k behind
  rw [List.getElem?_eq_none (show argv.length ≤ k + 1 by omega),
    List.getElem?_eq_none (show argv.length ≤ k by omega)]
  rfl

theorem RoundsFrom.pass {start : UInt32} {i : Nat} {argv : List Token} {token : Token}
    {result : Outcome TableError (List Token)} (here : argv[i]? = some token)
    (plain : isOption token = false) (rounds : RoundsFrom start (i + 1) argv result) :
    RoundsFrom start i argv result := by
  rcases rounds with failed | strayed | ⟨out, finished, last, kept, changed⟩
  · exact Or.inl failed
  · exact Or.inr (Or.inl strayed)
  · refine Or.inr (Or.inr ⟨out, finished, ?_, fun k below => kept k (by omega), ?_⟩)
    · intro _ other final
      by_cases more : i + 1 < argv.length
      · exact last more other final
      · have bound := (List.getElem?_eq_some_iff.mp here).1
        rw [show argv.length - 1 = i by omega, here] at final
        cases final
        exact plain
    · intro k above
      by_cases same : k = i
      · subst same
        rw [kept (k + 1) (by omega), here, Option.bind_some]
        cases argv[k + 1]? with
        | none => rfl
        | some value => rw [Option.map_some, changedValue_plain plain]
      · exact changed k (by omega)

/-- A round that replaces the number behind an option. The number that goes and the number
that comes are both plain tokens, so the next round passes over it in either list. -/
theorem RoundsFrom.replace {start : UInt32} {i m : Nat} {argv : List Token} {token old : Token}
    {result : Outcome TableError (List Token)} (here : argv[i]? = some token)
    (behind : argv[i + 1]? = some old) (oldPlain : isOption old = false)
    (printed : changedValue start token old = decimal m)
    (rounds : RoundsFrom start (i + 1) (argv.set (i + 1) (decimal m)) result) :
    RoundsFrom start i argv result := by
  have bound : i + 1 < argv.length := (List.getElem?_eq_some_iff.mp behind).1
  have there : (argv.set (i + 1) (decimal m))[i + 1]? = some (decimal m) :=
    List.getElem?_set_self bound
  have elsewhere : ∀ k, k ≠ i + 1 → (argv.set (i + 1) (decimal m))[k]? = argv[k]? :=
    fun k apart => List.getElem?_set_ne (Ne.symm apart)
  rcases rounds with
    failed | ⟨index, other, strayed, final, trailing⟩ | ⟨out, finished, last, kept, changed⟩
  · exact Or.inl failed
  · refine Or.inr (Or.inl ⟨index, other, strayed, ?_, trailing⟩)
    rw [List.length_set] at final
    by_cases same : argv.length - 1 = i + 1
    · rw [same, there] at final
      cases final
      rw [decimal_not_option m] at trailing
      cases trailing
    · rw [elsewhere _ same] at final
      exact final
  · refine Or.inr (Or.inr ⟨out, finished, ?_, ?_, ?_⟩)
    · intro _ other final
      by_cases same : argv.length - 1 = i + 1
      · rw [same, behind] at final
        cases final
        exact oldPlain
      · apply last (by rw [List.length_set]; exact bound) other
        rw [List.length_set, elsewhere _ same]
        exact final
    · intro k below
      rw [kept k (by omega), elsewhere k (by omega)]
    · intro k above
      by_cases same : k = i
      · subst same
        rw [kept (k + 1) (by omega), there, here, behind, Option.bind_some, Option.map_some,
          printed]
      · rw [changed k (by omega), elsewhere (k + 1) (by omega)]
        by_cases next : k = i + 1
        · subst next
          rw [there, behind, Option.bind_some, Option.bind_some]
          cases argv[i + 1 + 1]? with
          | none => rfl
          | some value =>
              rw [Option.map_some, Option.map_some,
                changedValue_plain (decimal_not_option m), changedValue_plain oldPlain]
        · rw [elsewhere k next]

theorem updateLoop_rounds (start : UInt32) (n i : Nat) (argv : List Token)
    (nonempty : NoEmptyToken argv) (rest : i + n = argv.length) :
    RoundsFrom start i argv (updateLoop start.toNat argv (List.range' i n)) := by
  induction n generalizing i argv with
  | zero =>
      rw [show i = argv.length by omega]
      exact RoundsFrom.finished start argv
  | succ n ih =>
      have here : argv[i]? = some argv[i] := List.getElem?_eq_getElem (by omega)
      rw [List.range'_succ, updateLoop]
      rcases updateStep_cases start here with
        ⟨cause, step⟩ | ⟨plain, step⟩ | ⟨option, none, step⟩ | ⟨option, old, behind, number, step⟩
      · rw [step]
        exact Or.inl ⟨cause, rfl⟩
      · rw [step, Outcome.ok_bind]
        exact RoundsFrom.pass here plain (ih (i + 1) argv nonempty (by omega))
      · rw [step]
        refine Or.inr (Or.inl ⟨i + 1, argv[i], rfl, ?_, option⟩)
        have short := List.getElem?_eq_none_iff.mp none
        rw [show argv.length - 1 = i by omega, here]
      · rcases changedValue_option start old option with ⟨m, printed⟩
        rw [step, Outcome.ok_bind, printed]
        refine RoundsFrom.replace here behind (number_not_option number (nonempty _ _ behind))
          printed (ih (i + 1) _ (noEmptyToken_set nonempty _ m) ?_)
        rw [List.length_set]
        omega

theorem updateValues_cases (start : UInt32) (argv : List Token) (nonempty : NoEmptyToken argv)
    (inhabited : argv ≠ []) :
    (∃ cause, updateValues start.toNat argv = .error cause) ∨
    (∃ index last, updateValues start.toNat argv = .stray index ∧ argv.getLast? = some last ∧
      isOption last = true) ∨
    (updateValues start.toNat argv = .ok (changeBehind (changedValue start) argv) ∧
      ∀ last, argv.getLast? = some last → isOption last = false) := by
  have positive : 0 < argv.length := List.length_pos_of_ne_nil inhabited
  rw [updateValues, List.range_eq_range', List.getLast?_eq_getElem?]
  rcases updateLoop_rounds start argv.length 0 argv nonempty (by omega) with
    failed | ⟨index, last, result, final, option⟩ | ⟨out, result, plain, kept, changed⟩
  · exact Or.inl failed
  · exact Or.inr (Or.inl ⟨index, last, result, final, option⟩)
  · refine Or.inr (Or.inr ⟨?_, plain positive⟩)
    rw [result]
    congr 1
    apply List.ext_getElem?
    intro k
    cases k with
    | zero => rw [kept 0 (by omega), changeBehind_zero]
    | succ k => rw [changed k (by omega), changeBehind_succ]

def isNamed (token : Token) : Bool :=
  matchesWord RESERVED token || OsPartition.all.any (fun p => matchesWord p.name token)

theorem partitionOf_name (p : OsPartition) : partitionOf p.name = some p := by
  cases p <;> decide

theorem partitionOf_eq_some {name : Token} {p : OsPartition} (found : partitionOf name = some p) :
    name = p.name := by
  have same := List.find?_some found
  exact (of_decide_eq_true same).symm

theorem abbreviation_unknown (p : OsPartition) :
    ∀ token ∈ p.name.inits, token = p.name ∨ getNamedOsiiAttr (String.ofList token) = none := by
  cases p <;> decide

theorem name_not_reserved (p : OsPartition) : matchesWord RESERVED p.name = false := by
  cases p <;> decide

theorem changedValue_dash (start : UInt32) (value : Token) :
    changedValue start ['-'] value = decimal start.toNat := if_pos (by decide)

theorem changedValue_start (start : UInt32) (value : Token) :
    changedValue start START_OPTION value = decimal start.toNat := if_pos (by decide)

theorem changedValue_size (start : UInt32) (value : Token) :
    changedValue start SIZE_OPTION value = decimal OS_MAX_LBA.toNat := by
  rw [changedValue, if_neg (by decide), if_pos (by decide)]

theorem not_option_ne {option : Token} (plain : isOption option = false) :
    option ≠ ['-'] ∧ option ≠ START_OPTION ∧ option ≠ SIZE_OPTION := by
  refine ⟨?_, ?_, ?_⟩
  · intro same
    rw [same] at plain
    exact absurd plain (by decide)
  · intro same
    rw [same] at plain
    exact absurd plain (by decide)
  · intro same
    rw [same] at plain
    exact absurd plain (by decide)

theorem changedValue_eq_iff (start : UInt32) {option : Token} (value : Token)
    (nonempty : option ≠ []) :
    changedValue start option value = value ↔
      (option = ['-'] ∨ option = START_OPTION → value = decimal start.toNat) ∧
        (option = SIZE_OPTION → value = decimal OS_MAX_LBA.toNat) := by
  cases taken : isOption option with
  | false =>
      rcases not_option_ne taken with ⟨dash, begin, size⟩
      simp [changedValue_plain taken, dash, begin, size]
  | true =>
      rcases isOption_cases taken nonempty with rfl | rfl | rfl
      · rw [changedValue_dash, eq_comm]
        simp [SIZE_OPTION]
      · rw [changedValue_size, eq_comm]
        simp [SIZE_OPTION, START_OPTION]
      · rw [changedValue_start, eq_comm]
        simp [SIZE_OPTION, START_OPTION]

theorem changedValue_eq_set_iff (start other : UInt32) {option : Token} (value : Token)
    (nonempty : option ≠ []) :
    changedValue start option value = setSizeAndStart other option value ↔
      (option = ['-'] → value = decimal start.toNat) ∧
        (option = START_OPTION → start = other) := by
  cases taken : isOption option with
  | false =>
      rcases not_option_ne taken with ⟨dash, begin, size⟩
      simp [changedValue_plain taken, setSizeAndStart, dash, begin, size]
  | true =>
      rcases isOption_cases taken nonempty with rfl | rfl | rfl
      · rw [changedValue_dash, eq_comm]
        simp [setSizeAndStart, SIZE_OPTION, START_OPTION]
      · rw [changedValue_size]
        simp [setSizeAndStart, SIZE_OPTION, START_OPTION]
      · rw [changedValue_start]
        have same : decimal start.toNat = decimal other.toNat ↔ start = other :=
          ⟨fun equal => UInt32.toNat_inj.mp (decimal_inj equal), fun equal => by rw [equal]⟩
        simp [setSizeAndStart, same, SIZE_OPTION, START_OPTION]

def ValuesMeant (start : OsPartition → UInt32) (p : OsPartition) (argv : List Token) :
    Target → Prop
  | .drop => False
  | .keep => ∀ pair ∈ pairs argv,
      (pair.1 = ['-'] ∨ pair.1 = START_OPTION → pair.2 = decimal (start p).toNat) ∧
        (pair.1 = SIZE_OPTION → pair.2 = decimal OS_MAX_LBA.toNat)
  | .update q => ∀ pair ∈ pairs argv,
      (pair.1 = ['-'] → pair.2 = decimal (start p).toNat) ∧
        (pair.1 = START_OPTION → start p = start q)

/-- A line on which comparing abbreviations does no harm: it has a token, and if its
command abbreviates `add`, the first token that abbreviates `reserved` or a name decides
what the line asks for. -/
def Faithful (start : OsPartition → UInt32) (argv : List Token) : Prop :=
  argv ≠ [] ∧ ∀ command, argv.head? = some command → matchesWord ADD command = true →
    ∀ token, argv.find? isNamed = some token →
      match partitionOf token with
      | none => target argv = .drop
      | some p => (∀ last, argv.getLast? = some last → isOption last = false) ∧
          ValuesMeant start p argv (target argv)

theorem pairs_nonempty {argv : List Token} (nonempty : NoEmptyToken argv) {pair : Token × Token}
    (member : pair ∈ pairs argv) : pair.1 ≠ [] := by
  have inside := (List.of_mem_zip member).1
  rcases List.mem_iff_getElem?.mp inside with ⟨k, here⟩
  exact nonempty k _ here

theorem changed_eq_intended_iff (start : OsPartition → UInt32) (p : OsPartition)
    {argv : List Token} (nonempty : NoEmptyToken argv) :
    some (changeBehind (changedValue (start p)) argv) = intendedTokens start argv ↔
      ValuesMeant start p argv (target argv) := by
  rw [intendedTokens]
  cases target argv with
  | drop => simp [ValuesMeant]
  | keep =>
      simp only [ValuesMeant, Option.some_inj]
      have unchanged := changeBehind_congr_iff (changedValue (start p)) (fun _ v => v) argv
      rw [changeBehind_value] at unchanged
      rw [unchanged]
      apply forall₂_congr
      intro pair member
      exact changedValue_eq_iff (start p) pair.2 (pairs_nonempty nonempty member)
  | update q =>
      simp only [ValuesMeant, Option.some_inj]
      rw [changeBehind_congr_iff]
      apply forall₂_congr
      intro pair member
      exact changedValue_eq_set_iff (start p) (start q) pair.2 (pairs_nonempty nonempty member)

theorem target_keep {argv : List Token} (unnamed : argv.find? isNamed = none) :
    target argv = .keep := by
  have none := List.find?_eq_none.mp unnamed
  rw [target]
  split
  · split
    · rfl
    · rename_i label found
      have inside : label ∈ argv := by
        rcases Option.map_eq_some_iff.mp found with ⟨pair, first, rfl⟩
        have member := (List.of_mem_zip (List.mem_of_find?_eq_some first)).2
        exact List.mem_of_mem_tail member
      have other := none label inside
      split
      · rename_i same
        rw [same] at other
        exact absurd (by decide) other
      · split
        · rename_i p known
          rw [partitionOf_eq_some known] at other
          exact absurd (by cases p <;> decide) other
        · rfl
  · rfl

theorem updateValues_iff (start : OsPartition → UInt32) (p : OsPartition)
    {argv : List Token} (nonempty : NoEmptyToken argv) (inhabited : argv ≠ [])
    (accepted : ∀ cause, updateValues (start p).toNat argv ≠ .error cause) :
    (updateValues (start p).toNat argv >>= fun out => pure (some out)) =
        .ok (intendedTokens start argv) ↔
      (∀ last, argv.getLast? = some last → isOption last = false) ∧
        ValuesMeant start p argv (target argv) := by
  rw [← changed_eq_intended_iff start p nonempty]
  rcases updateValues_cases (start p) argv nonempty inhabited with
    ⟨cause, failed⟩ | ⟨index, last, strayed, final, option⟩ | ⟨updated, plain⟩
  · exact absurd failed (accepted cause)
  · rw [strayed]
    apply iff_of_false (by intro result; cases result)
    intro good
    rw [good.1 last final] at option
    cases option
  · rw [updated, Outcome.ok_bind, Outcome.pure_eq, Outcome.ok.injEq]
    constructor
    · intro same
      exact ⟨plain, same⟩
    · intro good
      exact good.2

theorem target_of_no_add {command : Token} (rest : List Token)
    (other : matchesWord ADD command ≠ true) : target (command :: rest) = .keep := by
  have different : command ≠ ADD := by
    intro same
    rw [same] at other
    exact other (by decide)
  rw [target, List.head?_cons, if_neg (by simpa using different)]

theorem rewriteLines_cons_iff {osip : OSIPHeader} {line : Line} {lines : List Line}
    {written : Option (List Token)} {more : List (Option (List Token))} :
    rewriteLines osip (line :: lines) = .ok (written :: more) ↔
      rewriteTokens osip (tokensOf line.text) = .ok written ∧
        rewriteLines osip lines = .ok more := by
  rw [rewriteLines, strToArray_eq]
  constructor
  · intro result
    rcases Outcome.bind_ok_inv result with ⟨first, tokens, result⟩
    rcases Outcome.bind_ok_inv result with ⟨others, rest, result⟩
    cases result
    exact ⟨tokens, rest⟩
  · rintro ⟨tokens, rest⟩
    rw [tokens, Outcome.ok_bind, rest]
    rfl

section Entries

variable {osip : OSIPHeader} {start : OsPartition → UInt32}
  (entries : ∀ p, namedStartBlock osip p.name = .ok ((start p).toNat : Int))

include entries

theorem catchPartition_cases (argv : List Token) :
    (argv.find? isNamed = none ∧ catchPartition osip argv = .ok (none, true)) ∨
    (∃ p, argv.find? isNamed = some p.name ∧
      catchPartition osip argv = .ok (some ((start p).toNat : Int), true)) ∨
    (∃ token, argv.find? isNamed = some token ∧ partitionOf token = none ∧
      catchPartition osip argv = .ok (none, false)) ∨
    ∃ cause, catchPartition osip argv = .error cause := by
  induction argv with
  | nil => exact Or.inl ⟨rfl, rfl⟩
  | cons token rest ih =>
      rw [catchPartition, List.find?_cons]
      by_cases os : OsPartition.all.any (fun p => matchesWord p.name token) = true
      · have named : isNamed token = true := by simp [isNamed, os]
        rw [named, if_pos os]
        rcases List.any_eq_true.mp os with ⟨p, _, hit⟩
        rcases abbreviation_unknown p token (prefix_cases hit) with rfl | unknown
        · refine Or.inr (Or.inl ⟨p, rfl, ?_⟩)
          rw [entries p, name_not_reserved]
          have known : ((start p).toNat : Int) ≠ -1 := by omega
          rw [liftOsip, Outcome.ok_bind, Outcome.require_pos _ known]
          rfl
        · refine Or.inr (Or.inr (Or.inr ⟨.unknownLba token, ?_⟩))
          rw [namedStartBlock, unknown]
          rfl
      · rw [if_neg os]
        by_cases reserved : matchesWord RESERVED token = true
        · have named : isNamed token = true := by simp [isNamed, reserved]
          rw [named, reserved]
          refine Or.inr (Or.inr (Or.inl ⟨token, rfl, ?_, rfl⟩))
          cases found : partitionOf token with
          | none => rfl
          | some p =>
              rw [partitionOf_eq_some found, name_not_reserved] at reserved
              cases reserved
        · have other : isNamed token = false := by
            simp only [isNamed, Bool.or_eq_false_iff]
            exact ⟨Bool.eq_false_iff.mpr reserved, Bool.eq_false_iff.mpr os⟩
          rw [other, Bool.eq_false_iff.mpr reserved]
          exact ih

theorem rewriteTokens_iff {argv : List Token} (nonempty : NoEmptyToken argv)
    (accepted : ∀ cause, rewriteTokens osip argv ≠ .error cause) :
    rewriteTokens osip argv = .ok (intendedTokens start argv) ↔ Faithful start argv := by
  cases argv with
  | nil =>
      refine iff_of_false ?_ (fun faithful => faithful.1 rfl)
      intro result
      cases result
  | cons command rest =>
      have begins : argvAt (command :: rest) 0 = .ok command := rfl
      rw [rewriteTokens, begins, Outcome.ok_bind] at accepted ⊢
      simp only [Faithful, ne_eq, reduceCtorEq, not_false_eq_true, true_and, List.head?_cons,
        Option.some_inj, forall_eq']
      by_cases add : matchesWord ADD command = true
      · rw [if_pos add] at accepted ⊢
        rcases catchPartition_cases entries (command :: rest) with
          ⟨unnamed, caught⟩ | ⟨p, first, caught⟩ | ⟨token, first, unknown, caught⟩ |
            ⟨cause, caught⟩
        · rw [caught, unnamed, intendedTokens, target_keep unnamed]
          exact iff_of_true rfl (fun _ token found => by cases found)
        · rw [caught, Outcome.ok_bind] at accepted ⊢
          rw [first]
          simp only [Option.some_inj, forall_eq', add, forall_const, partitionOf_name]
          exact updateValues_iff start p nonempty (by simp) (Outcome.not_error_of_bind accepted)
        · rw [caught, first]
          simp only [Option.some_inj, forall_eq', add, forall_const, unknown]
          rw [intendedTokens]
          cases target (command :: rest) with
          | drop => exact iff_of_true rfl rfl
          | keep => exact iff_of_false (fun result => by cases result) (fun same => by cases same)
          | update q =>
              exact iff_of_false (fun result => by cases result) (fun same => by cases same)
        · rw [caught] at accepted
          exact absurd rfl (accepted cause)
      · rw [if_neg add, intendedTokens, target_of_no_add rest add]
        exact iff_of_true rfl (fun yes => absurd yes add)

theorem rewriteLines_iff (lines : List Line)
    (accepted : ∀ cause, rewriteLines osip lines ≠ .error cause) :
    rewriteLines osip lines = .ok (lines.map fun line => intendedTokens start (tokensOf line.text)) ↔
      ∀ line ∈ lines, Faithful start (tokensOf line.text) := by
  induction lines with
  | nil => exact iff_of_true rfl (fun line member => by cases member)
  | cons line rest ih =>
      rw [rewriteLines, strToArray_eq] at accepted
      have nonempty : NoEmptyToken (tokensOf line.text) := fun k token here =>
        ne_nil_of_mem_tokensOf (List.mem_of_getElem? here)
      have first := rewriteTokens_iff entries nonempty (Outcome.not_error_of_bind accepted)
      rw [List.map_cons, List.forall_mem_cons, rewriteLines_cons_iff, first]
      apply and_congr_right
      intro faithful
      rw [first.mpr faithful, Outcome.ok_bind] at accepted
      exact ih (Outcome.not_error_of_bind accepted)

end Entries

/-- Where no error is reported, the update file has for every line what the line asks for
exactly if every line is a faithful one. -/
theorem table_rewritten_iff_faithful (oemPartitionCmd : List Char → Bool) (osip : OSIPHeader)
    (file : PartitionFile) (index : OsPartition → Fin 8)
    (entries : ∀ p, EntryOf osip p.name (index p))
    (accepted : ∀ cause, flashOsipToGPTPartition oemPartitionCmd osip file ≠ .error cause) :
    flashOsipToGPTPartition oemPartitionCmd osip file =
        .ok (file.lines.map fun line =>
          intendedTokens (fun p => (osip.desc (index p)).logicalStartBlock) (tokensOf line.text)) ↔
      ∀ line ∈ file.lines,
        Faithful (fun p => (osip.desc (index p)).logicalStartBlock) (tokensOf line.text) := by
  rw [flashOsipToGPTPartition] at accepted ⊢
  by_cases typed : hasType file.first.text = true
  · rw [Outcome.require_pos _ typed, Outcome.ok_bind] at accepted ⊢
    rw [← rewriteLines_iff (fun p => namedStartBlock_entry (entries p)) file.lines
      (Outcome.not_error_of_bind accepted)]
    constructor
    · intro result
      rcases Outcome.bind_ok_inv result with ⟨written, body, result⟩
      rcases Outcome.bind_ok_inv result with ⟨_, _, result⟩
      cases result
      exact body
    · intro body
      rw [body, Outcome.ok_bind] at accepted ⊢
      by_cases partitioned : oemPartitionCmd (printTable file.first (file.lines.map fun line =>
          intendedTokens (fun p => (osip.desc (index p)).logicalStartBlock)
            (tokensOf line.text))) = true
      · rw [Outcome.require_pos _ partitioned]
        rfl
      · rw [Outcome.require_neg _ partitioned] at accepted
        exact absurd rfl (accepted .repartition)
  · rw [Outcome.require_neg _ typed] at accepted
    exact absurd rfl (accepted .invalidFirstLine)

def threeEntries : OSIPHeader :=
  { defaultOsip with
    numPointers := 3
    desc := fun i =>
      if i = 0 then { OSII.zero with attr := ATTR_SIGNED_KERNEL, logicalStartBlock := 1000 }
      else if i = 1 then { OSII.zero with attr := ATTR_SIGNED_ROS, logicalStartBlock := 2000 }
      else { OSII.zero with attr := ATTR_SIGNED_POS, logicalStartBlock := 3000 } }

def entryIndex : OsPartition → Fin 8
  | .boot => 0
  | .recovery => 1
  | .fastboot => 2

theorem threeEntries_entry (p : OsPartition) : EntryOf threeEntries p.name (entryIndex p) := by
  cases p with
  | boot => exact ⟨ATTR_SIGNED_KERNEL, by decide, by decide, by decide, by decide⟩
  | recovery => exact ⟨ATTR_SIGNED_ROS, by decide, by decide, by decide, by decide⟩
  | fastboot => exact ⟨ATTR_SIGNED_POS, by decide, by decide, by decide, by decide⟩

def typeLine : Line := ⟨"type=gpt".toList, by decide, by decide, by decide⟩
def bootLine : Line := ⟨"add -b 1 -s 2 -l boot".toList, by decide, by decide, by decide⟩
def resLine : Line := ⟨"add -b 1 -s 2 -l res".toList, by decide, by decide, by decide⟩

theorem flash_bootLine :
    flashOsipToGPTPartition (fun _ => true) threeEntries ⟨typeLine, [bootLine]⟩ =
      .ok [some (tokensOf "add -b 1000 -s 32000 -l boot".toList)] := by
  decide

theorem flash_resLine :
    flashOsipToGPTPartition (fun _ => true) threeEntries ⟨typeLine, [resLine]⟩ = .ok [none] := by
  decide

theorem table_rewritten_iff_faithful_boot :
    (∀ p, EntryOf threeEntries p.name (entryIndex p)) ∧
    (flashOsipToGPTPartition (fun _ => true) threeEntries ⟨typeLine, [bootLine]⟩ =
        .ok ([bootLine].map fun line => intendedTokens
          (fun p => (threeEntries.desc (entryIndex p)).logicalStartBlock) (tokensOf line.text)) ↔
      ∀ line ∈ [bootLine],
        Faithful (fun p => (threeEntries.desc (entryIndex p)).logicalStartBlock)
          (tokensOf line.text)) := by
  refine ⟨threeEntries_entry, ?_⟩
  refine table_rewritten_iff_faithful (fun _ => true) threeEntries ⟨typeLine, [bootLine]⟩
    entryIndex threeEntries_entry ?_
  intro cause
  rw [flash_bootLine]
  intro same
  cases same

/-- The label `res` is not `reserved`, and the line is dropped all the same. -/
theorem line_with_label_res_is_dropped :
    ¬ ∀ (oemPartitionCmd : List Char → Bool) (osip : OSIPHeader) (file : PartitionFile)
      (index : OsPartition → Fin 8), (∀ p, EntryOf osip p.name (index p)) →
      (∀ cause, flashOsipToGPTPartition oemPartitionCmd osip file ≠ .error cause) →
      flashOsipToGPTPartition oemPartitionCmd osip file =
        .ok (file.lines.map fun line => intendedTokens
          (fun p => (osip.desc (index p)).logicalStartBlock) (tokensOf line.text)) := by
  intro claim
  have accepted : ∀ cause,
      flashOsipToGPTPartition (fun _ => true) threeEntries ⟨typeLine, [resLine]⟩ ≠ .error cause := by
    intro cause
    rw [flash_resLine]
    intro same
    cases same
  have result := claim (fun _ => true) threeEntries ⟨typeLine, [resLine]⟩ entryIndex
    threeEntries_entry accepted
  rw [flash_resLine] at result
  exact absurd result (by decide)

end A500cg.Gpt
