import A500cg.Util.Transfer

/-! The transfer loops move the right bytes as long as no call is interrupted. After an
interruption they can only fail, at best without touching what lies in front of the buffer. -/

namespace A500cg.Util

open Lib

/-- The first `n` places of a buffer. -/
def places (n : Nat) : List Int := (List.range n).map fun i : Nat => (i : Int)

namespace Transfer

theorem length_places (n : Nat) : (places n).length = n := by simp [places]

theorem places_append (m n : Nat) :
    places m ++ (List.range n).map (fun i : Nat => (m : Int) + i) = places (m + n) := by
  simp only [places, List.range_add, List.map_append, List.map_map, List.append_cancel_left_eq]
  apply List.map_congr_left
  intro i _
  simp

theorem stored_places {t : Transfer} {n : Nat} (moved : t.moved = places n)
    (stream : Nat → UInt8) (memory : Int → UInt8) {i : Nat} (inside : i < n) :
    t.stored stream memory i = stream i := by
  rw [stored, moved]
  clear moved
  induction n with
  | zero => cases inside
  | succ n ih =>
      have last : places (n + 1) = places n ++ [(n : Int)] := by
        simp [places, List.range_succ]
      rw [last, List.zipIdx_append, List.foldl_append, length_places]
      simp only [List.zipIdx_cons, List.zipIdx_nil, Nat.zero_add, List.foldl_cons, List.foldl_nil]
      by_cases same : i = n
      · subst same
        exact Function.update_self ..
      · rw [Function.update_of_ne (by omega)]
        exact ih (by omega)

theorem step_returned {t : Transfer} (returned : t.status ≠ none) (result : CallResult) :
    t.step result = t :=
  if_pos returned

theorem step_failed {t : Transfer} (running : t.status = none) {errno : Int}
    (other : errno ≠ EINTR) :
    t.step (.failed errno) = { t with errno := errno, status := some (-1) } :=
  (if_neg (not_not.mpr running)).trans (if_pos ⟨by decide, other⟩)

theorem step_interrupted {t : Transfer} (running : t.status = none) :
    t.step (.failed EINTR) =
      { t with errno := EINTR, place := t.place - 1, left := (t.left + 1) % 2 ^ 32 }.test := by
  have next : ((t.left - -1) % 2 ^ 32 : Int).toNat = (t.left + 1) % 2 ^ 32 := by omega
  rw [← next]
  exact (if_neg (not_not.mpr running)).trans (if_neg fun both => both.2 rfl)

theorem step_stopped {t : Transfer} (running : t.status = none) (fresh : t.errno ≠ EINTR) :
    t.step (.count 0) = { t with status := some (-1) } := by
  have same : t.moved ++ (List.range (min 0 (min t.left MAX_RW_COUNT))).map
      (fun i : Nat => t.place + i) = t.moved := by
    simp
  refine (if_neg (not_not.mpr running)).trans ((if_pos ⟨by simp, fresh⟩).trans ?_)
  simp only [same]

theorem step_count {t : Transfer} (running : t.status = none) {n k : Nat}
    (moves : k = min n (min t.left MAX_RW_COUNT)) (goes : k ≠ 0 ∨ t.errno = EINTR)
    (narrow : t.left < 2 ^ 32) :
    t.step (.count n) =
      { t with
        place := t.place + k
        left := t.left - k
        moved := t.moved ++ (List.range k).map fun i : Nat => t.place + i }.test := by
  subst moves
  have next : ((t.left - (min n (min t.left MAX_RW_COUNT) : Nat)) % 2 ^ 32 : Int).toNat =
      t.left - min n (min t.left MAX_RW_COUNT) := by omega
  rw [← next]
  refine (if_neg (not_not.mpr running)).trans (if_neg ?_)
  rintro ⟨none, fresh⟩
  have zero : ((min n (min t.left MAX_RW_COUNT) : Nat) : Int) ≤ 0 := none
  rcases goes with some | stale
  · omega
  · exact fresh stale

def Uninterrupted (t : Transfer) (result : CallResult) : Prop :=
  t.status = none → result ≠ .failed EINTR

/-- The call makes the loop fail. -/
def Fails (t : Transfer) (result : CallResult) : Prop :=
  t.status = none ∧ match result with
    | .count n => n = 0 ∧ t.errno ≠ EINTR
    | .failed errno => errno ≠ EINTR

/-- The call brings the counter to 0. -/
def Finishes (t : Transfer) (result : CallResult) : Prop :=
  t.status = none ∧ match result with
    | .count n => t.left ≤ min n MAX_RW_COUNT
    | .failed errno => errno = EINTR ∧ t.left + 1 = 2 ^ 32

def NotInFront (t : Transfer) (result : CallResult) : Prop :=
  t.status = none → ∀ n, result = .count (n + 1) → 0 ≤ t.place

theorem step_cases {t : Transfer} (running : t.status = none) (more : t.left ≠ 0)
    (narrow : t.left < 2 ^ 32) (result : CallResult) :
    (Fails t result ∧ ∃ errno, t.step result = { t with errno := errno, status := some (-1) }) ∨
    (result = .failed EINTR ∧ t.step result =
      { t with errno := EINTR, place := t.place - 1, left := (t.left + 1) % 2 ^ 32 }.test) ∨
    ∃ n k, result = .count n ∧ k = min n (min t.left MAX_RW_COUNT) ∧
      (k ≠ 0 ∨ t.errno = EINTR) ∧ t.step result =
        { t with
          place := t.place + k
          left := t.left - k
          moved := t.moved ++ (List.range k).map fun i : Nat => t.place + i }.test := by
  cases result with
  | failed errno =>
      by_cases interrupted : errno = EINTR
      · rw [interrupted]
        exact .inr (.inl ⟨rfl, step_interrupted running⟩)
      · exact .inl ⟨⟨running, interrupted⟩, errno, step_failed running interrupted⟩
  | count n =>
      by_cases stops : n = 0 ∧ t.errno ≠ EINTR
      · refine .inl ⟨⟨running, stops⟩, t.errno, ?_⟩
        rw [stops.1, step_stopped running stops.2]
      · have goes : min n (min t.left MAX_RW_COUNT) ≠ 0 ∨ t.errno = EINTR := by
          rw [not_and_or, not_not] at stops
          refine stops.imp_left fun some => ?_
          simp only [MAX_RW_COUNT]
          omega
        exact .inr (.inr ⟨n, _, rfl, rfl, goes, step_count running rfl goes narrow⟩)

theorem test_status (t : Transfer) : t.test.status = if t.left = 0 then some 0 else t.status := by
  rw [test]
  split <;> rfl

theorem test_errno (t : Transfer) : t.test.errno = t.errno := by
  rw [test]
  split <;> rfl

theorem test_moved (t : Transfer) : t.test.moved = t.moved := by
  rw [test]
  split <;> rfl

theorem test_place (t : Transfer) : t.test.place = t.place := by
  rw [test]
  split <;> rfl

structure InStep (size : UInt32) (t : Transfer) : Prop where
  moved : t.moved = places t.moved.length
  place : t.place = t.moved.length
  left : t.moved.length + t.left = size.toNat
  running : t.status = none → t.left ≠ 0
  done : t.status = some 0 → t.left = 0

theorem InStep.test {size : UInt32} {t : Transfer} (moved : t.moved = places t.moved.length)
    (place : t.place = t.moved.length) (left : t.moved.length + t.left = size.toNat)
    (unreturned : t.status = none) : InStep size t.test := by
  simp only [Transfer.test]
  split
  · rename_i zero
    exact ⟨moved, place, left, (fun none => nomatch none), fun _ => zero⟩
  · rename_i more
    exact ⟨moved, place, left, fun _ => more, fun done => by rw [unreturned] at done; cases done⟩

theorem InStep.start (size : UInt32) (errno : Int) : InStep size (start size errno) :=
  InStep.test rfl rfl (Nat.zero_add _) rfl

theorem InStep.step {size : UInt32} {t : Transfer} (inStep : InStep size t) {result : CallResult}
    (uninterrupted : Uninterrupted t result) : InStep size (t.step result) := by
  by_cases running : t.status = none
  · have width := size.toNat_lt
    have left := inStep.left
    obtain ⟨-, errno, next⟩ | ⟨interrupted, -⟩ | ⟨n, k, -, moves, -, next⟩ :=
      step_cases running (inStep.running running) (by omega) result
    · rw [next]
      exact ⟨inStep.moved, inStep.place, left, (fun none => nomatch none), fun done => nomatch done⟩
    · exact absurd interrupted (uninterrupted running)
    · have grown : t.moved ++ (List.range k).map (fun i : Nat => t.place + i) =
          places (t.moved.length + k) := by
        rw [inStep.place, ← places_append, ← inStep.moved]
      rw [next]
      apply InStep.test
      · dsimp only
        rw [grown, length_places]
      · simp [inStep.place]
      · simp only [List.length_append, List.length_map, List.length_range]
        omega
      · exact running
  · rw [step_returned running]
    exact inStep

theorem foldl_returned {t : Transfer} (returned : t.status ≠ none) (schedule : List CallResult) :
    schedule.foldl Transfer.step t = t := by
  induction schedule with
  | nil => rfl
  | cons result rest ih =>
      rw [List.foldl_cons, step_returned returned]
      exact ih

/-- While the loop runs, `errno` is what it was before. -/
def Steady (errno : Int) (t : Transfer) : Prop := t.status = none → t.errno = errno

theorem Steady.step {errno : Int} {t : Transfer} (steady : Steady errno t) {result : CallResult}
    (uninterrupted : Uninterrupted t result) : Steady errno (t.step result) := by
  by_cases running : t.status = none
  · cases result with
    | failed other =>
        rw [step_failed running fun same => uninterrupted running (by rw [same])]
        exact fun none => nomatch none
    | count n =>
        intro _
        have same : (t.step (.count n)).errno = t.errno := by
          rw [Transfer.step, if_neg (not_not.mpr running)]
          dsimp only
          split
          · rfl
          · exact test_errno _
        exact same.trans (steady running)
  · rw [step_returned running]
    exact steady

theorem step_end_stale {t : Transfer} (running : t.status = none) (more : t.left ≠ 0)
    (narrow : t.left < 2 ^ 32) (stale : t.errno = EINTR) : t.step (.count 0) = t := by
  rw [step_count running (k := 0) (by simp) (Or.inr stale) narrow, test, if_neg (by simpa using more)]
  simp

theorem foldl_end_stale (n : Nat) {t : Transfer} (running : t.status = none) (more : t.left ≠ 0)
    (narrow : t.left < 2 ^ 32) (stale : t.errno = EINTR) :
    (List.replicate n (.count 0)).foldl Transfer.step t = t := by
  induction n with
  | zero => rfl
  | succ n ih =>
      rw [List.replicate_succ, List.foldl_cons, step_end_stale running more narrow stale]
      exact ih

/-- Whatever happens, pointer and counter meet at the end of the buffer while the loop runs. -/
structure Framed (size : UInt32) (t : Transfer) : Prop where
  reach : t.status = none → t.place + t.left = size.toNat
  more : t.status = none → t.left ≠ 0
  narrow : t.left < 2 ^ 32
  below : ∀ place ∈ t.moved, place < size.toNat
  status : t.status = none ∨ t.status = some 0 ∨ t.status = some (-1)

theorem Framed.test {size : UInt32} {t : Transfer} (running : t.status = none)
    (reach : t.left ≠ 0 → t.place + t.left = size.toNat) (narrow : t.left < 2 ^ 32)
    (below : ∀ place ∈ t.moved, place < size.toNat) : Framed size t.test := by
  simp only [Transfer.test]
  split
  · exact ⟨(fun none => nomatch none), (fun none => nomatch none), narrow, below, .inr (.inl rfl)⟩
  · rename_i more
    exact ⟨fun _ => reach more, fun _ => more, narrow, below, .inl running⟩

theorem Framed.start (size : UInt32) (errno : Int) : Framed size (start size errno) :=
  Framed.test rfl (fun _ => Int.zero_add _) size.toNat_lt (fun _ member => nomatch member)

theorem Framed.step {size : UInt32} {t : Transfer} (framed : Framed size t)
    (result : CallResult) : Framed size (t.step result) := by
  by_cases running : t.status = none
  · have narrow := framed.narrow
    have reach := framed.reach running
    have more := framed.more running
    obtain ⟨-, errno, next⟩ | ⟨-, next⟩ | ⟨n, k, -, moves, -, next⟩ :=
      step_cases running more narrow result
    · rw [next]
      exact ⟨(fun none => nomatch none), (fun none => nomatch none), narrow, framed.below,
        .inr (.inr rfl)⟩
    · rw [next]
      refine Framed.test running (fun more => ?_) (Nat.mod_lt _ (by decide)) framed.below
      simp only at more ⊢
      omega
    · rw [next]
      refine Framed.test running (fun more => ?_) (by simp only; omega) fun place member => ?_
      · simp only
        omega
      · rcases List.mem_append.mp member with old | new
        · exact framed.below place old
        · rcases List.mem_map.mp new with ⟨i, below, rfl⟩
          have inside := List.mem_range.mp below
          omega
  · rw [step_returned running]
    exact framed

theorem Framed.step_status {size : UInt32} {t : Transfer} (framed : Framed size t)
    (running : t.status = none) (result : CallResult) :
    (Fails t result ∧ ¬ Finishes t result ∧ (t.step result).status = some (-1)) ∨
      (¬ Fails t result ∧ Finishes t result ∧ (t.step result).status = some 0) ∨
      (¬ Fails t result ∧ ¬ Finishes t result ∧ (t.step result).status = none) := by
  have narrow := framed.narrow
  have more := framed.more running
  obtain ⟨fails, errno, next⟩ | ⟨rfl, next⟩ | ⟨n, k, rfl, moves, goes, next⟩ :=
    step_cases running more narrow result
  · refine .inl ⟨fails, fun finishes => ?_, by rw [next]⟩
    cases result with
    | count n =>
        have none : n = 0 := fails.2.1
        have all : t.left ≤ min n MAX_RW_COUNT := finishes.2
        omega
    | failed errno => exact fails.2 finishes.2.1
  · have unfailed : ¬ Fails t (.failed EINTR) := fun fails => fails.2 rfl
    rw [next, test_status]
    split
    · rename_i wrapped
      refine .inr (.inl ⟨unfailed, ⟨running, rfl, ?_⟩, rfl⟩)
      simp only at wrapped
      omega
    · rename_i wide
      refine .inr (.inr ⟨unfailed, fun finishes => ?_, running⟩)
      have last : t.left + 1 = 2 ^ 32 := finishes.2.2
      simp only at wide
      omega
  · have unfailed : ¬ Fails t (.count n) := by
      rintro ⟨-, none, fresh⟩
      rcases goes with some | stale
      · omega
      · exact fresh stale
    rw [next, test_status]
    split
    · rename_i zero
      refine .inr (.inl ⟨unfailed, ⟨running, ?_⟩, rfl⟩)
      simp only at zero ⊢
      omega
    · rename_i left
      refine .inr (.inr ⟨unfailed, fun finishes => ?_, running⟩)
      have all : t.left ≤ min n MAX_RW_COUNT := finishes.2
      simp only at left
      omega

/-- Some call of the schedule meets the condition. -/
def SomeCall (condition : Transfer → CallResult → Prop) (t : Transfer)
    (schedule : List CallResult) : Prop :=
  ¬ Along (fun t result => some (Transfer.step t result)) (fun t result => ¬ condition t result) t
    schedule

theorem status_iff_someCall {size : UInt32} {t : Transfer} (framed : Framed size t)
    {value : Int} {condition : Transfer → CallResult → Prop}
    (returns : ∀ t result, Framed size t →
      (condition t result ↔ t.status = none ∧ (t.step result).status = some value))
    (start : t.status ≠ some value) (schedule : List CallResult) :
    (schedule.foldl Transfer.step t).status = some value ↔ SomeCall condition t schedule := by
  have kept : ∀ (t : Transfer) (result : CallResult), Framed size t → True →
      Framed size (t.step result) := fun _ result framed _ => framed.step result
  have keeps : ∀ (t : Transfer) (result : CallResult), Framed size t → t.status ≠ some value →
      True → (¬ condition t result ↔ (t.step result).status ≠ some value) := by
    intro t result framed unreturned _
    rw [returns t result framed]
    by_cases running : t.status = none
    · simp [running]
    · rw [step_returned running]
      simp [running, unreturned]
  have lost : ∀ (t : Transfer) (result : CallResult), (t.step result).status ≠ some value →
      t.status ≠ some value := by
    intro t result unreturned returned
    rw [step_returned (by simp [returned])] at unreturned
    exact unreturned returned
  rw [SomeCall, ← holds_at_end_iff_along kept keeps lost framed start fun _ _ => trivial, not_not]

theorem fails_iff {size : UInt32} (t : Transfer) (result : CallResult) (framed : Framed size t) :
    Fails t result ↔ t.status = none ∧ (t.step result).status = some (-1) := by
  constructor
  · intro fails
    rcases framed.step_status fails.1 result with ⟨-, -, status⟩ | ⟨no, -⟩ | ⟨no, -⟩
    · exact ⟨fails.1, status⟩
    · exact absurd fails no
    · exact absurd fails no
  · rintro ⟨running, status⟩
    rcases framed.step_status running result with ⟨fails, -⟩ | ⟨-, -, other⟩ | ⟨-, -, other⟩
    · exact fails
    · simp [other] at status
    · simp [other] at status

theorem finishes_iff {size : UInt32} (t : Transfer) (result : CallResult)
    (framed : Framed size t) :
    Finishes t result ↔ t.status = none ∧ (t.step result).status = some 0 := by
  constructor
  · intro finishes
    rcases framed.step_status finishes.1 result with ⟨-, no, -⟩ | ⟨-, -, status⟩ | ⟨-, no, -⟩
    · exact absurd finishes no
    · exact ⟨finishes.1, status⟩
    · exact absurd finishes no
  · rintro ⟨running, status⟩
    rcases framed.step_status running result with ⟨-, -, other⟩ | ⟨-, finishes, -⟩ | ⟨-, -, other⟩
    · simp [other] at status
    · exact finishes
    · simp [other] at status

theorem moved_step (t : Transfer) (result : CallResult) :
    ∃ more, (t.step result).moved = t.moved ++ more := by
  by_cases running : t.status = none
  · rw [Transfer.step, if_neg (not_not.mpr running)]
    cases result with
    | failed errno =>
        refine ⟨[], ?_⟩
        dsimp only [call]
        split <;> simp [test_moved]
    | count n =>
        refine ⟨(List.range (min n (min t.left MAX_RW_COUNT))).map fun i : Nat => t.place + i, ?_⟩
        dsimp only [call]
        split <;> simp [test_moved]
  · exact ⟨[], by rw [step_returned running, List.append_nil]⟩

theorem not_in_front_iff {size : UInt32} {t : Transfer} (framed : Framed size t)
    (start : ∀ place ∈ t.moved, 0 ≤ place) (schedule : List CallResult) :
    (∀ place ∈ (schedule.foldl Transfer.step t).moved, 0 ≤ place) ↔
      Along (fun t result => some (Transfer.step t result)) NotInFront t schedule := by
  have kept : ∀ (t : Transfer) (result : CallResult), Framed size t → True →
      Framed size (t.step result) := fun _ result framed _ => framed.step result
  have lost : ∀ (t : Transfer) (result : CallResult), (∀ place ∈ (t.step result).moved, 0 ≤ place) →
      ∀ place ∈ t.moved, 0 ≤ place := by
    intro t result within place member
    obtain ⟨more, next⟩ := moved_step t result
    exact within place (next ▸ List.mem_append_left _ member)
  have keeps : ∀ (t : Transfer) (result : CallResult), Framed size t →
      (∀ place ∈ t.moved, 0 ≤ place) → True →
        (NotInFront t result ↔ ∀ place ∈ (t.step result).moved, 0 ≤ place) := by
    intro t result framed inside _
    by_cases running : t.status = none
    · have more := framed.more running
      obtain ⟨fails, errno, next⟩ | ⟨rfl, next⟩ | ⟨n, k, rfl, moves, -, next⟩ :=
        step_cases running more framed.narrow result
      · rw [next]
        refine iff_of_true (fun _ n same => ?_) inside
        subst same
        exact absurd fails.2.1 (Nat.succ_ne_zero n)
      · rw [next, test_moved]
        exact iff_of_true (fun _ _ same => nomatch same) inside
      · rw [next, test_moved]
        constructor
        · intro notInFront place member
          rcases List.mem_append.mp member with old | new
          · exact inside place old
          · rcases List.mem_map.mp new with ⟨i, below, rfl⟩
            have below := List.mem_range.mp below
            have place : 0 ≤ t.place := notInFront running (n - 1) (by congr 1; omega)
            omega
        · rintro within - m same
          cases same
          have first := within (t.place + (0 : Nat)) (List.mem_append_right _
            (List.mem_map_of_mem (List.mem_range.mpr (by simp only [MAX_RW_COUNT] at moves; omega))))
          simpa using first
    · rw [step_returned running]
      exact iff_of_true (fun again => absurd again running) inside
  exact holds_at_end_iff_along kept keeps lost framed start fun _ _ => trivial

/-- After an interruption `errno` stays, and the byte that is moved next does not go to, or
come from, its place. -/
structure Astray (size : UInt32) (t : Transfer) : Prop where
  stale : t.status = none → t.errno = EINTR
  moved : ∃ m rest, m < size.toNat ∧ t.moved = places m ++ rest ∧ rest.headD t.place < m

theorem InStep.interrupted {size : UInt32} {t : Transfer} (inStep : InStep size t)
    (running : t.status = none) : Astray size (t.step (.failed EINTR)) := by
  have left := inStep.left
  have more := inStep.running running
  have place := inStep.place
  rw [step_interrupted running]
  refine ⟨fun _ => test_errno _, t.moved.length, [], by omega, ?_, ?_⟩
  · rw [test_moved, List.append_nil]
    exact inStep.moved
  · rw [test_place, List.headD_nil]
    dsimp only
    omega

theorem Astray.step {size : UInt32} {t : Transfer} (astray : Astray size t)
    (framed : Framed size t) (result : CallResult) : Astray size (t.step result) := by
  by_cases running : t.status = none
  · obtain ⟨m, rest, below, moved, head⟩ := astray.moved
    obtain ⟨-, errno, next⟩ | ⟨-, next⟩ | ⟨n, k, -, -, -, next⟩ :=
      step_cases running (framed.more running) framed.narrow result
    · rw [next]
      exact ⟨(fun none => nomatch none), m, rest, below, moved, head⟩
    · rw [next]
      refine ⟨fun _ => test_errno _, m, rest, below, (test_moved _).trans moved, ?_⟩
      rw [test_place]
      cases rest with
      | nil => exact lt_trans (Int.sub_one_lt_of_le (le_refl _)) head
      | cons first rest => exact head
    · rw [next]
      refine ⟨fun _ => (test_errno _).trans (astray.stale running), m,
        rest ++ (List.range k).map fun i : Nat => t.place + i, below, ?_, ?_⟩
      · rw [test_moved, ← List.append_assoc, ← moved]
      · rw [test_place]
        cases rest with
        | cons first rest => exact head
        | nil =>
            cases k with
            | zero => simpa using head
            | succ k => simpa [List.range_succ_eq_map] using head
  · rw [step_returned running]
    exact astray

theorem along_or_astray {size : UInt32} {t : Transfer} (inStep : InStep size t)
    (framed : Framed size t) (schedule : List CallResult) :
    (Along (fun t result => some (Transfer.step t result)) Uninterrupted t schedule ∧
      InStep size (schedule.foldl Transfer.step t)) ∨
      Astray size (schedule.foldl Transfer.step t) := by
  induction schedule generalizing t with
  | nil => exact .inl ⟨trivial, inStep⟩
  | cons result rest ih =>
      by_cases uninterrupted : Uninterrupted t result
      · refine (ih (inStep.step uninterrupted) (framed.step result)).imp_left fun along => ?_
        exact ⟨⟨uninterrupted, by rintro _ ⟨⟩; exact along.1⟩, along.2⟩
      · obtain ⟨running, interrupted⟩ := Classical.not_imp.mp uninterrupted
        cases not_not.mp interrupted
        refine .inr (List.foldlRecOn rest Transfer.step
          (motive := fun t => Framed size t ∧ Astray size t)
          ⟨framed.step _, inStep.interrupted running⟩ ?_).2
        exact fun t kept result _ => ⟨kept.1.step result, kept.2.step kept.1 result⟩

theorem Astray.moved_ne {size : UInt32} {t : Transfer} (astray : Astray size t) :
    t.moved ≠ places size.toNat := by
  obtain ⟨m, rest, below, moved, head⟩ := astray.moved
  intro all
  have at_m : (places size.toNat)[m]? = some (m : Int) := by simp [places, below]
  rw [← all, moved, List.getElem?_append_right (by simp [length_places]), length_places,
    Nat.sub_self] at at_m
  cases rest with
  | nil => cases at_m
  | cons first rest =>
      cases at_m
      exact absurd head (lt_irrefl _)

end Transfer

open Transfer

/-- No call that the loop makes is interrupted. -/
def NotInterrupted (size : UInt32) (errno : Int) (schedule : List CallResult) : Prop :=
  Along (fun t result => some (Transfer.step t result)) Uninterrupted (start size errno) schedule

/-- `safe_read` is right about a schedule: it returns 0 only with the first `size` bytes of the
stream in the buffer, stores nothing outside of it, and ends if the file does. -/
structure ReadsRight (size : UInt32) (errno : Int) (schedule : List CallResult) : Prop where
  complete : (safeRead size errno schedule).status = some 0 →
    (safeRead size errno schedule).moved.length = size.toNat ∧
      ∀ (stream : Nat → UInt8) (memory : Int → UInt8) (i : Nat), i < size.toNat →
        (safeRead size errno schedule).stored stream memory i = stream i
  inside : ∀ place ∈ (safeRead size errno schedule).moved, 0 ≤ place ∧ place < size.toNat
  stops : ∃ n, (safeRead size errno (schedule ++ List.replicate n (.count 0))).status ≠ none

/-- A loop around `write` is right: it reports success only if the buffer was written as it is,
and reads nothing outside of it. -/
structure WritesRight (size : UInt32) (t : Transfer) : Prop where
  complete : t.status = some 0 → ∀ memory : Int → UInt8,
    t.written memory = (places size.toNat).map memory
  inside : ∀ place ∈ t.moved, 0 ≤ place ∧ place < size.toNat

namespace Transfer

theorem InStep.complete {size : UInt32} {t : Transfer} (inStep : InStep size t)
    (done : t.status = some 0) : t.moved = places size.toNat := by
  have zero := inStep.done done
  have all := inStep.left
  rw [zero, Nat.add_zero] at all
  rw [← all]
  exact inStep.moved

theorem InStep.inside {size : UInt32} {t : Transfer} (inStep : InStep size t) :
    ∀ place ∈ t.moved, 0 ≤ place ∧ place < size.toNat := by
  intro place member
  rw [inStep.moved] at member
  rcases List.mem_map.mp member with ⟨i, below, rfl⟩
  have bound := List.mem_range.mp below
  have left := inStep.left
  omega

theorem InStep.writesRight {size : UInt32} {t : Transfer} (inStep : InStep size t) :
    WritesRight size t where
  complete := fun done memory => by rw [written, inStep.complete done]
  inside := inStep.inside

theorem stored_other {moved : List Int} {place : Int} (other : place ∉ moved) (start : Nat)
    (stream : Nat → UInt8) (memory : Int → UInt8) :
    (moved.zipIdx start).foldl (fun memory entry => Function.update memory entry.1 (stream entry.2))
      memory place = memory place := by
  induction moved generalizing start memory with
  | nil => rfl
  | cons first rest ih =>
      obtain ⟨differs, later⟩ := not_or.mp fun member => other (List.mem_cons.mpr member)
      rw [List.zipIdx_cons, List.foldl_cons, ih later]
      exact Function.update_of_ne differs ..

theorem stored_member {moved : List Int} {place : Int} (member : place ∈ moved) (start : Nat) :
    ∃ j, moved[j]? = some place ∧ ∀ (stream : Nat → UInt8) (memory : Int → UInt8),
      (moved.zipIdx start).foldl
        (fun memory entry => Function.update memory entry.1 (stream entry.2)) memory place =
          stream (start + j) := by
  induction moved generalizing start with
  | nil => cases member
  | cons first rest ih =>
      by_cases later : place ∈ rest
      · obtain ⟨j, there, last⟩ := ih later (start + 1)
        refine ⟨j + 1, there, fun stream memory => ?_⟩
        rw [List.zipIdx_cons, List.foldl_cons, last, Nat.add_assoc, Nat.add_comm 1]
      · cases (List.mem_cons.mp member).resolve_right later
        refine ⟨0, rfl, fun stream memory => ?_⟩
        rw [List.zipIdx_cons, List.foldl_cons, stored_other later]
        exact Function.update_self ..

theorem moved_of_stored {t : Transfer} {size : Nat} (length : t.moved.length = size)
    (stored : ∀ (stream : Nat → UInt8) (memory : Int → UInt8) (i : Nat), i < size →
      t.stored stream memory i = stream i) : t.moved = places size := by
  apply List.ext_getElem?
  intro i
  by_cases below : i < size
  · have member : (i : Int) ∈ t.moved := by
      by_contra missing
      have kept := stored_other missing 0 (fun _ => 0) fun _ => 1
      exact absurd (kept.symm.trans (stored (fun _ => 0) (fun _ => 1) i below)) (by decide)
    obtain ⟨j, there, last⟩ := stored_member member 0
    have same := (last (fun k => if k = i then 1 else 0) fun _ => 0).symm.trans
      (stored (fun k => if k = i then 1 else 0) (fun _ => 0) i below)
    have here : j = i := by simpa using same
    rw [← here, there, here]
    simp [places, below]
  · rw [List.getElem?_eq_none (by omega), List.getElem?_eq_none (by rw [length_places]; omega)]

theorem moved_of_written {moved moved' : List Int}
    (written : ∀ memory : Int → UInt8, moved.map memory = moved'.map memory) : moved = moved' := by
  have length : moved.length = moved'.length := by
    simpa using congrArg List.length (written fun _ => 0)
  refine List.ext_getElem length fun i below below' => ?_
  have same := congrArg (·[i]?) (written fun place => if place = moved'[i] then 1 else 0)
  simpa [below, below'] using same

theorem InStep.moves {size : UInt32} {t : Transfer} (inStep : InStep size t)
    (running : t.status = none) {n : Nat} (positive : 0 < n) :
    ((t.step (.count n)).status = none ∨ (t.step (.count n)).status = some 0) ∧
      t.moved.length + 1 ≤ (t.step (.count n)).moved.length := by
  have width := size.toNat_lt
  have left := inStep.left
  have more := inStep.running running
  have positive : min n (min t.left MAX_RW_COUNT) ≠ 0 := by
    simp only [MAX_RW_COUNT]
    omega
  rw [step_count running rfl (Or.inl positive) (by omega), Transfer.test]
  split
  · refine ⟨Or.inr rfl, ?_⟩
    rw [List.length_append, List.length_map, List.length_range]
    omega
  · refine ⟨Or.inl running, ?_⟩
    rw [List.length_append, List.length_map, List.length_range]
    omega

theorem InStep.progress {size : UInt32} {t : Transfer} (inStep : InStep size t)
    (unfailed : t.status = none ∨ t.status = some 0) {schedule : List CallResult}
    (moving : ∀ result ∈ schedule, ∃ n, 0 < n ∧ result = .count n) :
    InStep size (schedule.foldl Transfer.step t) ∧
      ((schedule.foldl Transfer.step t).status = some 0 ∨
        ((schedule.foldl Transfer.step t).status = none ∧
          t.moved.length + schedule.length ≤ (schedule.foldl Transfer.step t).moved.length)) := by
  induction schedule generalizing t with
  | nil =>
      refine ⟨inStep, ?_⟩
      rcases unfailed with running | done
      · exact Or.inr ⟨running, le_refl _⟩
      · exact Or.inl done
  | cons result rest ih =>
      rcases moving result List.mem_cons_self with ⟨n, positive, rfl⟩
      have later := fun other member => moving other (List.mem_cons_of_mem _ member)
      have next : InStep size (t.step (.count n)) := inStep.step fun _ same => nomatch same
      rcases unfailed with running | done
      · rcases inStep.moves running positive with ⟨unfailed, grown⟩
        rcases ih next unfailed later with ⟨kept, done | ⟨running, longer⟩⟩
        · exact ⟨kept, Or.inl done⟩
        · refine ⟨kept, Or.inr ⟨running, ?_⟩⟩
          rw [List.length_cons, List.foldl_cons]
          omega
      · have returned : t.status ≠ none := by
          rw [done]
          exact nofun
        rw [foldl_returned returned]
        exact ⟨inStep, Or.inl done⟩

end Transfer

theorem notInterrupted_zero (errno : Int) (schedule : List CallResult) :
    NotInterrupted 0 errno schedule := by
  have returned : (start 0 errno).status ≠ none := by simp [start, test]
  rw [NotInterrupted]
  induction schedule with
  | nil => trivial
  | cons result rest ih =>
      refine ⟨fun running => absurd running returned, ?_⟩
      rintro _ ⟨⟩
      rw [step_returned returned]
      exact ih

theorem readsRight_of_inStep {size : UInt32} {errno : Int} {schedule : List CallResult}
    (inStep : InStep size (safeRead size errno schedule))
    (fresh : (safeRead size errno schedule).status = none →
      (safeRead size errno schedule).errno ≠ EINTR) : ReadsRight size errno schedule where
  complete := by
    intro done
    have all := inStep.complete done
    refine ⟨(congrArg List.length all).trans (length_places _), fun stream memory i below => ?_⟩
    exact stored_places all stream memory below
  inside := inStep.inside
  stops := by
    by_cases running : (safeRead size errno schedule).status = none
    · have ended : safeRead size errno (schedule ++ [.count 0]) =
          { safeRead size errno schedule with status := some (-1) } := by
        rw [safeRead, List.foldl_append]
        exact step_stopped running (fresh running)
      refine ⟨1, ?_⟩
      rw [List.replicate_one, ended]
      exact nofun
    · exact ⟨0, by simpa using running⟩

section Undisturbed

variable (size : UInt32) (errno : Int) (schedule : List CallResult)

/-- No call that moves something finds the pointer in front of the buffer. -/
def NeverInFront : Prop :=
  Along (fun t result => some (Transfer.step t result)) NotInFront (start size errno) schedule

/-- There is nothing to read, or an interruption is followed by a failure. An `errno` that is
old keeps the loop from seeing the end of the file. -/
def ReadsUndisturbed : Prop :=
  size = 0 ∨ (NeverInFront size errno schedule ∧ (SomeCall Fails (start size errno) schedule ∨
    NotInterrupted size errno schedule ∧
      (errno ≠ EINTR ∨ SomeCall Finishes (start size errno) schedule)))

def WritesUndisturbed : Prop :=
  NeverInFront size errno schedule ∧
    (NotInterrupted size errno schedule ∨ ¬ SomeCall Finishes (start size errno) schedule)

variable {size errno schedule}

theorem inStep_of_notInterrupted (along : NotInterrupted size errno schedule) :
    InStep size (schedule.foldl Transfer.step (start size errno)) :=
  invariant_throughout (fun _ _ inStep uninterrupted => inStep.step uninterrupted)
    (InStep.start size errno) along schedule List.prefix_rfl

theorem steady_of_notInterrupted (along : NotInterrupted size errno schedule) :
    Steady errno (schedule.foldl Transfer.step (start size errno)) := by
  have kept : ∀ (t : Transfer) (result : CallResult), Steady errno t → Uninterrupted t result →
      Steady errno (t.step result) := fun _ _ steady uninterrupted => steady.step uninterrupted
  exact invariant_throughout kept (fun _ => test_errno _) along schedule List.prefix_rfl

variable (size errno schedule)

theorem framed_run : Framed size (schedule.foldl Transfer.step (start size errno)) :=
  List.foldlRecOn schedule Transfer.step (motive := Framed size) (Framed.start size errno)
    fun _ framed result _ => framed.step result

theorem start_moved : (start size errno).moved = [] := test_moved _

theorem neverInFront_iff : NeverInFront size errno schedule ↔
    ∀ place ∈ (schedule.foldl Transfer.step (start size errno)).moved, 0 ≤ place := by
  refine (not_in_front_iff (Framed.start size errno) ?_ schedule).symm
  rw [start_moved]
  exact fun _ member => nomatch member

variable {size}

theorem start_running (more : size ≠ 0) : (start size errno).status = none := by
  have left : size.toNat ≠ 0 := fun zero => more (UInt32.toNat_inj.mp zero)
  rw [start, test_status, if_neg left]

theorem failed_iff (more : size ≠ 0) :
    (schedule.foldl Transfer.step (start size errno)).status = some (-1) ↔
      SomeCall Fails (start size errno) schedule :=
  status_iff_someCall (Framed.start size errno) fails_iff (by simp [start_running errno more])
    schedule

theorem finished_iff (more : size ≠ 0) :
    (schedule.foldl Transfer.step (start size errno)).status = some 0 ↔
      SomeCall Finishes (start size errno) schedule :=
  status_iff_someCall (Framed.start size errno) finishes_iff (by simp [start_running errno more])
    schedule

variable (size)

theorem readsRight_iff : ReadsRight size errno schedule ↔ ReadsUndisturbed size errno schedule := by
  by_cases empty : size = 0
  · subst empty
    refine iff_of_true ?_ (.inl rfl)
    have returned : (start 0 errno).status ≠ none := by simp [start, test]
    refine readsRight_of_inStep (inStep_of_notInterrupted (notInterrupted_zero errno schedule)) ?_
    rw [safeRead, foldl_returned returned]
    exact fun running => absurd running returned
  · rw [ReadsUndisturbed, or_iff_right empty, neverInFront_iff, ← failed_iff errno schedule empty,
      ← finished_iff errno schedule empty]
    have framed := framed_run size errno schedule
    constructor
    · intro right
      refine ⟨fun place member => (right.inside place member).1, ?_⟩
      -- At the end of the file a loop that still runs does not see an old `EINTR`.
      have returned : (safeRead size errno schedule).errno = EINTR →
          (safeRead size errno schedule).status ≠ none := by
        intro stale running
        obtain ⟨n, stopped⟩ := right.stops
        rw [safeRead, List.foldl_append] at stopped
        have same := foldl_end_stale n running (framed.more running) framed.narrow stale
        exact stopped ((congrArg status same).trans running)
      rcases along_or_astray (InStep.start size errno) (Framed.start size errno) schedule with
        ⟨along, -⟩ | astray
      · have steady := steady_of_notInterrupted along
        by_cases stale : errno = EINTR
        · rcases framed.status with running | done | failed
          · exact absurd running (returned ((steady running).trans stale))
          · exact .inr ⟨along, .inr done⟩
          · exact .inl failed
        · exact .inr ⟨along, .inl stale⟩
      · rcases framed.status with running | done | failed
        · exact absurd running (returned (astray.stale running))
        · exact absurd (moved_of_stored (right.complete done).1 (right.complete done).2) astray.moved_ne
        · exact .inl failed
    · rintro ⟨inFront, failed | ⟨along, ended⟩⟩
      · refine ⟨fun done => ?_, fun place member => ⟨inFront place member, framed.below place member⟩,
          0, ?_⟩
        · cases failed.symm.trans done
        · rw [List.replicate_zero, List.append_nil, safeRead, failed]
          exact nofun
      · refine readsRight_of_inStep (inStep_of_notInterrupted along) fun running => ?_
        rcases ended with fresh | done
        · rw [safeRead, steady_of_notInterrupted along running]
          exact fresh
        · cases running.symm.trans done

theorem writesRight_iff :
    WritesRight size (schedule.foldl Transfer.step (start size errno)) ↔
      WritesUndisturbed size errno schedule := by
  rw [WritesUndisturbed, neverInFront_iff]
  have framed := framed_run size errno schedule
  constructor
  · intro right
    refine ⟨fun place member => (right.inside place member).1, ?_⟩
    by_cases empty : size = 0
    · subst empty
      exact .inl (notInterrupted_zero errno schedule)
    · rcases along_or_astray (InStep.start size errno) (Framed.start size errno) schedule with
        ⟨along, -⟩ | astray
      · exact .inl along
      · rw [← finished_iff errno schedule empty]
        exact .inr fun done => astray.moved_ne (moved_of_written (right.complete done))
  · rintro ⟨inFront, along | unfinished⟩
    · exact (inStep_of_notInterrupted along).writesRight
    · by_cases empty : size = 0
      · subst empty
        exact (inStep_of_notInterrupted (notInterrupted_zero errno schedule)).writesRight
      · rw [← finished_iff errno schedule empty] at unfinished
        exact ⟨fun done => absurd done unfinished,
          fun place member => ⟨inFront place member, framed.below place member⟩⟩

theorem fileWrite_right_iff (opened : Bool) :
    WritesRight size (fileWrite opened size errno schedule) ↔
      opened = false ∨ WritesUndisturbed size errno schedule := by
  cases opened with
  | false =>
      refine iff_of_true ⟨(fun done => nomatch done), fun place member => ?_⟩ (.inl rfl)
      have member : place ∈ (start size errno).moved := member
      rw [start_moved] at member
      cases member
  | true =>
      have opened : ¬ true = false := nofun
      exact (writesRight_iff size errno schedule).trans (or_iff_right opened).symm

end Undisturbed

/-- When the four loops are right about a schedule. After an interruption `safe_read` is so only
if a later call fails, a loop around `write` only if no later one moves all that is left; and
nothing may have been moved from in front of the buffer. -/
theorem transfers_right_iff (opened : Bool) (size : UInt32) (errno : Int)
    (schedule : List CallResult) :
    (ReadsRight size errno schedule ↔ ReadsUndisturbed size errno schedule) ∧
    (WritesRight size (fileWrite opened size errno schedule) ↔
      opened = false ∨ WritesUndisturbed size errno schedule) ∧
    (WritesRight (UInt32.ofNat Osip.headerBytes) (writeOSIP opened errno schedule) ↔
      opened = false ∨ WritesUndisturbed (UInt32.ofNat Osip.headerBytes) errno schedule) ∧
    (WritesRight (size - 512) (writeBlob size errno schedule) ↔
      WritesUndisturbed (size - 512) errno schedule) :=
  ⟨readsRight_iff size errno schedule, fileWrite_right_iff size errno schedule opened,
    fileWrite_right_iff _ errno schedule opened, writesRight_iff (size - 512) errno schedule⟩

/-- One byte is wanted, and the first `read` is interrupted: the second one stores a byte in
front of the buffer. -/
theorem interrupted_read_stores_outside :
    ¬ ReadsRight 1 0 [.failed EINTR, .count 2] ∧
      (safeRead 1 0 [.failed EINTR, .count 2]).moved = [-1, 0] ∧
      (safeRead 1 0 [.failed EINTR, .count 2]).status = some 0 := by
  refine ⟨fun right => ?_, by decide, by decide⟩
  have place := (right.inside (-1) (by decide)).1
  revert place
  decide

end A500cg.Util
