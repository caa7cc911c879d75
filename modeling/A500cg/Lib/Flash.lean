import A500cg.Lib.WriteLog

/-! Programs that store to a medium through fallible system calls.

A program ends with a value, with an error its caller sees, or with a stray
access: an array index outside the array, after which C gives the run no
meaning. Stores made before an error stay in the log. -/

namespace A500cg.Lib

inductive Outcome (ε α : Type) where
  | ok (value : α)
  | error (cause : ε)
  | stray (index : Nat)
  deriving DecidableEq, Repr

namespace Outcome

variable {ε α β : Type}

def bind (first : Outcome ε α) (next : α → Outcome ε β) : Outcome ε β :=
  match first with
  | ok value => next value
  | error cause => error cause
  | stray index => stray index

instance : Monad (Outcome ε) where
  pure := ok
  bind := bind

theorem bind_ok_inv {first : Outcome ε α} {next : α → Outcome ε β} {value : β}
    (result : (first >>= next) = ok value) : ∃ a, first = ok a ∧ next a = ok value := by
  cases first with
  | ok a => exact ⟨a, rfl, result⟩
  | error cause => cases result
  | stray index => cases result

theorem not_error_of_bind {first : Outcome ε α} {next : α → Outcome ε β}
    (accepted : ∀ cause, (first >>= next) ≠ error cause) : ∀ cause, first ≠ error cause := by
  intro cause failed
  rw [failed] at accepted
  exact accepted cause rfl

@[simp] theorem ok_bind (value : α) (next : α → Outcome ε β) :
    (ok value >>= next) = next value := rfl

@[simp] theorem pure_eq (value : α) : (pure value : Outcome ε α) = ok value := rfl

/-- Fails with `cause` unless `condition` holds. -/
def require (condition : Prop) [Decidable condition] (cause : ε) : Outcome ε Unit :=
  if condition then ok () else error cause

theorem require_ok {condition : Prop} [Decidable condition] {cause : ε} {value : Unit}
    (result : require condition cause = ok value) : condition := by
  simp only [require] at result
  split at result
  · assumption
  · cases result

@[simp] theorem require_pos {condition : Prop} [Decidable condition] (cause : ε)
    (holds : condition) : require condition cause = ok () := if_pos holds

@[simp] theorem require_neg {condition : Prop} [Decidable condition] (cause : ε)
    (fails : ¬ condition) : require condition cause = error cause := if_neg fails

theorem require_error {condition : Prop} [Decidable condition] {cause cause' : ε}
    (result : require condition cause = error cause') : cause' = cause := by
  simp only [require] at result
  split at result
  · cases result
  · exact (Outcome.error.inj result).symm

theorem require_stray {condition : Prop} [Decidable condition] {cause : ε} {index : Nat}
    (result : require condition cause = stray index) : False := by
  simp only [require] at result
  split at result <;> cases result

end Outcome

def Flash (ε α : Type) := World → Outcome ε α × World

namespace Flash

variable {ε α β : Type}

def bind (first : Flash ε α) (next : α → Flash ε β) : Flash ε β := fun w =>
  match first w with
  | (.ok value, w') => next value w'
  | (.error cause, w') => (.error cause, w')
  | (.stray index, w') => (.stray index, w')

instance : Monad (Flash ε) where
  pure value := fun w => (.ok value, w)
  bind := bind

def lift (result : Outcome ε α) : Flash ε α := fun w => (result, w)

def answer : Flash ε Answer := fun w =>
  match w.answers with
  | [] => (.ok .success, w)
  | head :: rest => (.ok head, { w with answers := rest })

/-- A system call that transfers no data, such as `open`. -/
def call (cause : ε) : Flash ε Unit := do
  match ← answer with
  | .success => pure ()
  | .failure _ => lift (.error cause)

/-- The medium from `addr` on, as a buffer. -/
def look (addr : Nat) : Flash ε Buffer := fun w => (.ok (fun i => w.content (addr + i)), w)

/-- Reads from `addr` on; only as many bytes as the caller asked for are meaningful. -/
def readAt (cause : ε) (addr : Nat) : Flash ε Buffer := do
  call cause
  look addr

def append (stores : List ByteWrite) : Flash ε Unit := fun w =>
  (.ok (), w.store stores)

/-- Writes `len` bytes of `buf` at `addr`, or a first part of them before failing. -/
def writeAt (cause : ε) (addr len : Nat) (buf : Buffer) : Flash ε Unit := do
  match ← answer with
  | .success => append (writesAt addr len buf)
  | .failure transferred => do
      append (writesAt addr (min transferred len) buf)
      lift (.error cause)

def attempt (program : Flash ε α) : Flash ε (Option α) := fun w =>
  match program w with
  | (.ok value, w') => (.ok (some value), w')
  | (.error _, w') => (.ok none, w')
  | (.stray index, w') => (.stray index, w')

theorem bind_assoc {γ : Type} (first : Flash ε α) (next : α → Flash ε β) (last : β → Flash ε γ) :
    (first >>= next) >>= last = first >>= fun a => next a >>= last := by
  funext w
  change bind (bind first next) last w = bind first (fun a => bind (next a) last) w
  simp only [bind]
  rcases first w with ⟨value | cause | index, middle⟩
  · rfl
  · rfl
  · rfl

theorem bind_cases {first : Flash ε α} {next : α → Flash ε β} {w w' : World}
    {result : Outcome ε β} (ran : (first >>= next) w = (result, w')) :
    (∃ a middle, first w = (.ok a, middle) ∧ next a middle = (result, w')) ∨
    (∃ cause, first w = (.error cause, w') ∧ result = .error cause) ∨
    (∃ index, first w = (.stray index, w') ∧ result = .stray index) := by
  change bind first next w = _ at ran
  rcases outcome : first w with ⟨value | cause | index, middle⟩
  · rw [bind, outcome] at ran
    exact .inl ⟨value, middle, rfl, ran⟩
  · rw [bind, outcome] at ran
    cases ran
    exact .inr (.inl ⟨cause, rfl, rfl⟩)
  · rw [bind, outcome] at ran
    cases ran
    exact .inr (.inr ⟨index, rfl, rfl⟩)

theorem bind_ok_inv {first : Flash ε α} {next : α → Flash ε β} {w w' : World} {value : β}
    (ran : (first >>= next) w = (.ok value, w')) :
    ∃ a middle, first w = (.ok a, middle) ∧ next a middle = (.ok value, w') := by
  rcases bind_cases ran with found | ⟨_, _, impossible⟩ | ⟨_, _, impossible⟩
  · exact found
  · cases impossible
  · cases impossible

theorem bind_of_ok {first : Flash ε α} {next : α → Flash ε β} {w middle : World} {a : α}
    (ran : first w = (.ok a, middle)) : (first >>= next) w = next a middle := by
  change bind first next w = _
  rw [bind, ran]

theorem bind_of_error {first : Flash ε α} {next : α → Flash ε β} {w middle : World}
    {cause : ε} (ran : first w = (.error cause, middle)) :
    (first >>= next) w = (.error cause, middle) := by
  change bind first next w = _
  rw [bind, ran]

theorem bind_of_stray {first : Flash ε α} {next : α → Flash ε β} {w middle : World}
    {index : Nat} (ran : first w = (.stray index, middle)) :
    (first >>= next) w = (.stray index, middle) := by
  change bind first next w = _
  rw [bind, ran]

theorem attempt_of_ok {program : Flash ε α} {w middle : World} {value : α}
    (ran : program w = (.ok value, middle)) :
    attempt program w = (.ok (some value), middle) := by
  rw [attempt, ran]

theorem attempt_of_error {program : Flash ε α} {w middle : World} {cause : ε}
    (ran : program w = (.error cause, middle)) :
    attempt program w = (.ok none, middle) := by
  rw [attempt, ran]

@[simp] theorem lift_apply (result : Outcome ε α) (w : World) : lift result w = (result, w) := rfl

@[simp] theorem lift_ok_bind (value : α) (next : α → Flash ε β) (w : World) :
    (lift (.ok value) >>= next) w = next value w := rfl

@[simp] theorem pure_apply (value : α) (w : World) :
    (pure value : Flash ε α) w = (.ok value, w) := rfl

theorem bind_lift_cases {first : Outcome ε α} {next : α → Flash ε β} {w w' : World}
    {result : Outcome ε β} (ran : (lift first >>= next) w = (result, w')) :
    (∃ a, first = .ok a ∧ next a w = (result, w')) ∨
    (∃ cause, first = .error cause ∧ result = .error cause ∧ w' = w) ∨
    (∃ index, first = .stray index ∧ result = .stray index ∧ w' = w) := by
  cases first with
  | ok a => exact .inl ⟨a, rfl, ran⟩
  | error cause =>
      cases ran
      exact .inr (.inl ⟨cause, rfl, rfl, rfl⟩)
  | stray index =>
      cases ran
      exact .inr (.inr ⟨index, rfl, rfl, rfl⟩)

theorem bind_lift_ok_inv {first : Outcome ε α} {next : α → Flash ε β} {w w' : World} {value : β}
    (ran : (lift first >>= next) w = (.ok value, w')) :
    ∃ a, first = .ok a ∧ next a w = (.ok value, w') := by
  rcases bind_lift_cases ran with found | ⟨_, _, impossible, _⟩ | ⟨_, _, impossible, _⟩
  · exact found
  · cases impossible
  · cases impossible

theorem answer_spec (w : World) :
    ∃ head middle, (answer : Flash ε Answer) w = (.ok head, middle) ∧ w.Same middle := by
  simp only [answer]
  split
  · exact ⟨_, _, rfl, World.Same.refl w⟩
  · exact ⟨_, _, rfl, rfl, rfl⟩

theorem call_spec (cause : ε) (w : World) :
    ∃ middle, w.Same middle ∧
      (call cause w = (.ok (), middle) ∨ call cause w = (.error cause, middle)) := by
  rcases answer_spec (ε := ε) w with ⟨head, middle, ran, same⟩
  refine ⟨middle, same, ?_⟩
  rw [call, bind_of_ok ran]
  cases head with
  | success => exact .inl rfl
  | failure transferred => exact .inr rfl

theorem readAt_spec (cause : ε) (addr : Nat) (w : World) :
    ∃ middle, w.Same middle ∧
      (readAt cause addr w = (.ok (fun i => w.content (addr + i)), middle) ∨
        readAt cause addr w = (.error cause, middle)) := by
  rcases call_spec cause w with ⟨middle, same, ran⟩
  refine ⟨middle, same, ?_⟩
  rcases ran with ran | ran
  · left
    rw [readAt, bind_of_ok ran, look, same.content_eq]
  · right
    rw [readAt, bind_of_error ran]

theorem writeAt_spec (cause : ε) (addr len : Nat) (buf : Buffer) (w : World) :
    ∃ done middle, done ≤ len ∧ middle.initial = w.initial ∧
      middle.writes = w.writes ++ writesAt addr done buf ∧
      ((writeAt cause addr len buf w = (.ok (), middle) ∧ done = len) ∨
        writeAt cause addr len buf w = (.error cause, middle)) := by
  rcases answer_spec (ε := ε) w with ⟨head, middle, ran, same⟩
  rw [writeAt, bind_of_ok ran]
  cases head with
  | success =>
      refine ⟨len, middle.store (writesAt addr len buf), le_refl _, same.1, ?_, .inl ⟨rfl, rfl⟩⟩
      rw [World.store_writes, same.2]
  | failure transferred =>
      refine ⟨min transferred len, middle.store (writesAt addr (min transferred len) buf),
        Nat.min_le_right _ _, same.1, ?_, .inr rfl⟩
      rw [World.store_writes, same.2]

def Confined (region : Nat → Prop) (program : Flash ε α) : Prop :=
  ∀ w : World, w.Touches region (program w).2

namespace Confined

variable {region : Nat → Prop}

theorem lift (result : Outcome ε α) : Confined region (lift result) :=
  fun w => World.Touches.refl region w

theorem pure (value : α) : Confined region (pure value : Flash ε α) :=
  fun w => World.Touches.refl region w

theorem bind {first : Flash ε α} {next : α → Flash ε β} (front : Confined region first)
    (back : ∀ a, Confined region (next a)) : Confined region (first >>= next) := by
  intro w
  have start := front w
  rcases outcome : first w with ⟨value | cause | index, middle⟩
  · rw [outcome] at start
    rw [bind_of_ok outcome]
    exact start.trans (back value middle)
  · rw [outcome] at start
    rw [bind_of_error outcome]
    exact start
  · rw [outcome] at start
    rw [bind_of_stray outcome]
    exact start

theorem attempt {program : Flash ε α} (confined : Confined region program) :
    Confined region (attempt program) := by
  intro w
  have touched := confined w
  simp only [Flash.attempt]
  rcases outcome : program w with ⟨value | cause | index, middle⟩
  all_goals
    rw [outcome] at touched
    exact touched

theorem readAt (cause : ε) (addr : Nat) : Confined region (readAt cause addr) := by
  intro w
  rcases readAt_spec cause addr w with ⟨middle, same, ran | ran⟩
  · rw [ran]
    exact same.touches region
  · rw [ran]
    exact same.touches region

theorem call (cause : ε) : Confined region (call cause) := by
  intro w
  rcases call_spec cause w with ⟨middle, same, ran | ran⟩
  · rw [ran]
    exact same.touches region
  · rw [ran]
    exact same.touches region

theorem writeAt (cause : ε) (addr len : Nat) (buf : Buffer)
    (inside : ∀ a, addr ≤ a → a < addr + len → region a) :
    Confined region (writeAt cause addr len buf) := by
  intro w
  rcases writeAt_spec cause addr len buf w with ⟨done, middle, bound, initial, log, ran⟩
  have touched : w.Touches region middle := by
    refine ⟨initial, _, log, ?_⟩
    intro store member
    have range := mem_writesAt _ _ _ _ member
    exact inside _ range.1 (by omega)
  rcases ran with ⟨ran, _⟩ | ran
  · rw [ran]
    exact touched
  · rw [ran]
    exact touched

end Confined

/-- A world in which no system call fails. -/
def Healthy (w : World) : Prop := w.answers = []

theorem call_healthy (cause : ε) (w : World) (healthy : Healthy w) :
    call cause w = (.ok (), w) := by
  have ran : (answer : Flash ε Answer) w = (.ok .success, w) := by
    simp only [Healthy] at healthy
    simp only [answer, healthy]
  rw [call, bind_of_ok ran]
  rfl

theorem readAt_healthy (cause : ε) (addr : Nat) (w : World) (healthy : Healthy w) :
    readAt cause addr w = (.ok (fun i => w.content (addr + i)), w) := by
  rw [readAt, bind_of_ok (call_healthy cause w healthy)]
  rfl

theorem writeAt_healthy (cause : ε) (addr len : Nat) (buf : Buffer) (w : World)
    (healthy : Healthy w) :
    writeAt cause addr len buf w = (.ok (), w.store (writesAt addr len buf)) := by
  have ran : (answer : Flash ε Answer) w = (.ok .success, w) := by
    simp only [Healthy] at healthy
    simp only [answer, healthy]
  rw [writeAt, bind_of_ok ran]
  rfl

end Flash

end A500cg.Lib
