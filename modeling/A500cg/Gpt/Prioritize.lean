import A500cg.Gpt.Disk
import A500cg.Lib.Ranking

/-! Reordering the priorities of the kernel partitions (`cgpt_prioritize.c`). -/

namespace A500cg.Gpt

open Lib

structure Group where
  priority : Nat
  parts : List Nat
deriving DecidableEq

/-- `AddToGroup`. There is room for 17 groups, and `groups_length_le` says that more are never
made. -/
def addToGroup (priority partition : Nat) : List Group → List Group
  | [] => [⟨priority, [partition]⟩]
  | g :: groups =>
    if g.priority = priority then { g with parts := g.parts ++ [partition] } :: groups
    else g :: addToGroup priority partition groups

def changeGroup (oldPriority newPriority : Nat) : List Group → List Group
  | [] => []
  | g :: groups =>
    if g.priority = oldPriority then { g with priority := newPriority } :: groups
    else g :: changeGroup oldPriority newPriority groups

def sortGroups (groups : List Group) : List Group := sortDown Group.priority groups

structure CgptPrioritizeParams where
  setPartition : UInt32
  setFriends : Bool
  maxPriority : Int

def kernels (table : List GptEntry) : List (GptEntry × Nat) :=
  table.zipIdx.filter fun x => x.1.isKernel

def groupPriority (p : CgptPrioritizeParams) (x : GptEntry × Nat) : Nat :=
  if x.2 + 1 = p.setPartition.toNat ∧ p.setFriends = false then 99 else getPriority x.1.gptAtt

def priorityAt (table : List GptEntry) (i : Nat) : Nat :=
  ((table[i]?).map fun e => getPriority e.gptAtt).getD 0

def origPriority (p : CgptPrioritizeParams) (table : List GptEntry) : Nat :=
  priorityAt table (p.setPartition.toNat - 1)

def currentGroups (p : CgptPrioritizeParams) (table : List GptEntry) : List Group :=
  let groups := (kernels table).foldl (fun groups x => addToGroup (groupPriority p x) x.2 groups) []
  if p.setPartition ≠ 0 ∧ p.setFriends = true then changeGroup (origPriority p table) 99 groups
  else groups

def dropZero (groups : List Group) : List Group :=
  if (groups.getLast?.map Group.priority) = some 0 then groups.dropLast else groups

def startPriority (p : CgptPrioritizeParams) (numGroups : Nat) : Int :=
  if p.maxPriority ≠ 0 then p.maxPriority else if 15 < numGroups then 15 else numGroups

def renumber (priority : Int) : List Group → List Group
  | [] => []
  | g :: groups => { g with priority := (UInt32.ofInt priority).toNat } ::
      renumber (if 1 < priority then priority - 1 else priority) groups

/-- `SetPriority` in a table. -/
def setPriorityAt (table : Entries) (x : Nat × Nat) : Option Entries :=
  if bound : x.1 < 128 then
    (setPriority (UInt32.ofNat x.2) table[x.1].gptAtt).map fun gptAtt =>
      table.set x.1 { table[x.1] with gptAtt }
  else none

def applyGroups (groups : List Group) (table : Entries) : Option Entries :=
  (groups.flatMap fun g => g.parts.map fun part => (part, g.priority)).foldlM setPriorityAt table

/-- What `cgpt_prioritize` makes of the primary table; `none` when a `require` ends the process. -/
def prioritizeTable (p : CgptPrioritizeParams) (maxPart : UInt32) (table : Entries) : Option Entries :=
  let counted := table.toList.take maxPart.toNat
  if (kernels counted).isEmpty then some table
  else
    let groups := dropZero (sortGroups (currentGroups p counted))
    applyGroups (renumber (startPriority p groups.length) groups) table

def notAKernel (p : CgptPrioritizeParams) (maxPart : UInt32) (table : Entries) : Bool :=
  decide (maxPart < p.setPartition) ||
    !(table.toList[p.setPartition.toNat - 1]?).any GptEntry.isKernel

def cgptPrioritize (w : Writes) (p : CgptPrioritizeParams) (d : Drive) : Exit × Drive :=
  match driveOpen d with
  | none => (.failed, d)
  | some gpt =>
    let checked := gptSanityCheck gpt
    if checked.1 ≠ none then (.failed, d)
    else
      let gpt := checked.2
      if p.setPartition ≠ 0 ∧ notAKernel p (getNumberOfEntries gpt) gpt.primaryEntries.value = true then
        (.failed, d)
      else match prioritizeTable p (getNumberOfEntries gpt) gpt.primaryEntries.value with
        | none => (.aborted, d)
        | some table => driveClose w d (commit { gpt with
            primaryEntries := { gpt.primaryEntries with value := table } })

structure Grouped (groups : List Group) (items : List Nat) (rank : Nat → Nat) : Prop where
  distinct : (groups.map Group.priority).Nodup
  holds : ∀ i r, (∃ g ∈ groups, g.priority = r ∧ i ∈ g.parts) ↔ i ∈ items ∧ rank i = r
  nonempty : ∀ g ∈ groups, g.parts ≠ []

theorem addToGroup_priorities (priority partition : Nat) (groups : List Group) :
    (addToGroup priority partition groups).map Group.priority =
      if priority ∈ groups.map Group.priority then groups.map Group.priority
      else groups.map Group.priority ++ [priority] := by
  induction groups with
  | nil => rfl
  | cons g groups ih =>
      rw [addToGroup]
      by_cases here : g.priority = priority
      · rw [if_pos here, if_pos (by simp [here])]
        rfl
      · rw [if_neg here, List.map_cons, ih, List.map_cons]
        by_cases later : priority ∈ groups.map Group.priority
        · rw [if_pos later, if_pos (List.mem_cons_of_mem _ later)]
        · rw [if_neg later, if_neg]
          · rfl
          · intro member
            cases List.mem_cons.mp member with
            | inl same => exact here same.symm
            | inr old => exact later old

theorem addToGroup_holds (priority partition : Nat) (groups : List Group) (i r : Nat) :
    (∃ g ∈ addToGroup priority partition groups, g.priority = r ∧ i ∈ g.parts) ↔
      (∃ g ∈ groups, g.priority = r ∧ i ∈ g.parts) ∨ priority = r ∧ i = partition := by
  induction groups with
  | nil => simp [addToGroup]
  | cons g groups ih =>
      rw [addToGroup]
      split_ifs with here
      · subst here
        simp only [List.exists_mem_cons_iff, List.mem_append, List.mem_singleton]
        rw [and_or_left, or_right_comm]
      · simp only [List.exists_mem_cons_iff, ih, or_assoc]

theorem addToGroup_nonempty (priority partition : Nat) {groups : List Group}
    (nonempty : ∀ g ∈ groups, g.parts ≠ []) :
    ∀ g ∈ addToGroup priority partition groups, g.parts ≠ [] := by
  induction groups with
  | nil => simp [addToGroup]
  | cons g groups ih =>
      obtain ⟨first, rest⟩ := List.forall_mem_cons.mp nonempty
      rw [addToGroup]
      split_ifs with here
      · exact List.forall_mem_cons.mpr ⟨by simp, rest⟩
      · exact List.forall_mem_cons.mpr ⟨first, ih rest⟩

theorem Grouped.nil (rank : Nat → Nat) : Grouped [] [] rank := by
  apply Grouped.mk
  · exact List.nodup_nil
  · intro i r
    simp
  · intro g member
    cases member

theorem Grouped.add {groups : List Group} {items : List Nat} {rank : Nat → Nat}
    (grouped : Grouped groups items rank) (item : Nat) :
    Grouped (addToGroup (rank item) item groups) (items ++ [item]) rank where
  distinct := by
    rw [addToGroup_priorities]
    split_ifs with here
    · exact grouped.distinct
    · exact List.nodup_append.mpr ⟨grouped.distinct, List.nodup_singleton _, by
        intro a old b new same
        rw [List.mem_singleton.mp new] at same
        exact here (same ▸ old)⟩
  holds i r := by
    rw [addToGroup_holds, grouped.holds, List.mem_append, List.mem_singleton, or_and_right]
    apply or_congr_right
    constructor
    · rintro ⟨ranked, rfl⟩
      exact ⟨rfl, ranked⟩
    · rintro ⟨rfl, ranked⟩
      exact ⟨ranked, rfl⟩
  nonempty := addToGroup_nonempty _ _ grouped.nonempty

theorem Grouped.foldl {groups : List Group} {items : List Nat} {rank : Nat → Nat}
    (grouped : Grouped groups items rank) (more : List Nat) :
    Grouped (more.foldl (fun groups item => addToGroup (rank item) item groups) groups)
      (items ++ more) rank := by
  induction more generalizing groups items with
  | nil => rwa [List.append_nil]
  | cons item more ih =>
      have next := ih (grouped.add item)
      rwa [List.append_assoc] at next

def Group.renamed (oldPriority newPriority : Nat) (g : Group) : Group :=
  if g.priority = oldPriority then { g with priority := newPriority } else g

theorem Group.renamed_priority (oldPriority newPriority : Nat) (g : Group) :
    (g.renamed oldPriority newPriority).priority =
      if g.priority = oldPriority then newPriority else g.priority := by
  unfold Group.renamed
  split_ifs
  · rfl
  · rfl

theorem Group.renamed_parts (oldPriority newPriority : Nat) (g : Group) :
    (g.renamed oldPriority newPriority).parts = g.parts := by
  unfold Group.renamed
  split_ifs
  · rfl
  · rfl

theorem changeGroup_eq_map (oldPriority newPriority : Nat) {groups : List Group}
    (distinct : (groups.map Group.priority).Nodup) :
    changeGroup oldPriority newPriority groups =
      groups.map (Group.renamed oldPriority newPriority) := by
  induction groups with
  | nil => rfl
  | cons g groups ih =>
      obtain ⟨fresh, rest⟩ := List.nodup_cons.mp distinct
      rw [changeGroup, List.map_cons]
      split_ifs with here
      · have others : groups.map (Group.renamed oldPriority newPriority) = groups.map id := by
          apply List.map_congr_left
          intro g' member
          apply if_neg
          intro same
          apply fresh
          rw [here, ← same]
          exact List.mem_map_of_mem member
        rw [others, List.map_id, Group.renamed, if_pos here]
      · rw [ih rest, Group.renamed, if_neg here]

theorem Grouped.change {groups : List Group} {items : List Nat} {rank : Nat → Nat}
    (grouped : Grouped groups items rank) (oldPriority newPriority : Nat)
    (fresh : ∀ i ∈ items, rank i ≠ newPriority) :
    Grouped (changeGroup oldPriority newPriority groups) items
      fun i => if rank i = oldPriority then newPriority else rank i := by
  have unused : ∀ g ∈ groups, g.priority ≠ newPriority := by
    intro g present priority
    obtain ⟨i, part⟩ := List.exists_mem_of_ne_nil _ (grouped.nonempty g present)
    have ⟨item, ranked⟩ := (grouped.holds i newPriority).mp ⟨g, present, priority, part⟩
    exact fresh i item ranked
  rw [changeGroup_eq_map oldPriority newPriority grouped.distinct]
  apply Grouped.mk
  · rw [List.map_map]
    apply List.Nodup.map_on _ (List.Nodup.of_map _ grouped.distinct)
    intro a mem_a b mem_b same
    apply List.inj_on_of_nodup_map grouped.distinct mem_a mem_b
    have unused_a := unused a mem_a
    have unused_b := unused b mem_b
    simp only [Function.comp_apply, Group.renamed_priority] at same
    split_ifs at same with old_a old_b old_b
    · rw [old_a, old_b]
    · exact absurd same.symm unused_b
    · exact absurd same unused_a
    · exact same
  · intro i r
    constructor
    · rintro ⟨_, member, rfl, part⟩
      obtain ⟨g, present, rfl⟩ := List.mem_map.mp member
      rw [Group.renamed_parts] at part
      rw [Group.renamed_priority]
      have ⟨item, ranked⟩ := (grouped.holds i g.priority).mp ⟨g, present, rfl, part⟩
      rw [ranked]
      exact ⟨item, rfl⟩
    · rintro ⟨item, rfl⟩
      obtain ⟨g, present, priority, part⟩ := (grouped.holds i (rank i)).mpr ⟨item, rfl⟩
      rw [← priority]
      exact ⟨_, List.mem_map_of_mem present, Group.renamed_priority .., by
        rwa [Group.renamed_parts]⟩
  · intro g member
    obtain ⟨g', present, rfl⟩ := List.mem_map.mp member
    rw [Group.renamed_parts]
    exact grouped.nonempty g' present

theorem Grouped.perm {groups sorted : List Group} {items : List Nat} {rank : Nat → Nat}
    (grouped : Grouped groups items rank) (perm : sorted.Perm groups) : Grouped sorted items rank where
  distinct := ((perm.map Group.priority).nodup_iff).mpr grouped.distinct
  holds i r := by
    rw [← grouped.holds]
    simp only [perm.mem_iff]
  nonempty g member := grouped.nonempty g (perm.mem_iff.mp member)

theorem Grouped.sorted {groups : List Group} {items : List Nat} {rank : Nat → Nat}
    (grouped : Grouped groups items rank) :
    Grouped (sortGroups groups) items rank ∧
      ((sortGroups groups).map Group.priority).Pairwise fun a b => b < a := by
  have after := grouped.perm (sortDown_perm Group.priority groups)
  have down : ((sortGroups groups).map Group.priority).Pairwise fun a b => b ≤ a :=
    List.pairwise_map.mpr (sortDown_pairwise Group.priority groups)
  exact ⟨after, down.imp₂ (fun a b le ne => lt_of_le_of_ne le (Ne.symm ne)) after.distinct⟩

theorem dropZero_eq {groups : List Group}
    (down : (groups.map Group.priority).Pairwise fun a b => b < a) :
    dropZero groups = groups.filter fun g => decide (0 < g.priority) := by
  obtain rfl | ⟨front, last, rfl⟩ := List.eq_nil_or_concat groups
  · rfl
  · rw [List.concat_eq_append] at down ⊢
    have above : ∀ g ∈ front, last.priority < g.priority := by
      intro g member
      rw [List.map_append, List.pairwise_append] at down
      exact down.2.2 _ (List.mem_map_of_mem member) _ (by simp)
    have all : front.filter (fun g => decide (0 < g.priority)) = front := by
      apply List.filter_eq_self.mpr
      intro g member
      exact decide_eq_true (Nat.lt_of_le_of_lt (Nat.zero_le _) (above g member))
    rw [dropZero, List.getLast?_append, List.filter_append, all, List.dropLast_concat]
    by_cases zero : last.priority = 0
    · simp [zero]
    · simp [zero, Nat.pos_of_ne_zero zero]

theorem renumber_getElem? {start : Nat} (least : 1 ≤ start) (most : start ≤ 15)
    (groups : List Group) (k : Nat) :
    (renumber start groups)[k]? = groups[k]?.map fun g => { g with priority := max 1 (start - k) } := by
  induction groups generalizing start k with
  | nil => rfl
  | cons g groups ih =>
      rw [renumber]
      cases k with
      | zero =>
          have stored : (UInt32.ofInt start).toNat = max 1 (start - 0) := by
            simp [UInt32.ofInt]
            omega
          rw [List.getElem?_cons_zero, List.getElem?_cons_zero, stored]
          rfl
      | succ k =>
          have next : (if 1 < (start : Int) then (start : Int) - 1 else start) =
              ((max 1 (start - 1) : Nat) : Int) := by
            split_ifs <;> omega
          rw [List.getElem?_cons_succ, List.getElem?_cons_succ, next, ih (by omega) (by omega)]
          congr 1
          funext g
          congr 1
          omega

def GptEntry.withPriority (priority : Nat) (e : GptEntry) : GptEntry :=
  { e with gptAtt := (setPriority (UInt32.ofNat priority) e.gptAtt).getD e.gptAtt }

theorem setPriority_eq {priority : Nat} (small : priority ≤ 15) (e : GptEntry) :
    setPriority (UInt32.ofNat priority) e.gptAtt = some (e.withPriority priority).gptAtt := by
  have number : (UInt32.ofNat priority).toNat = priority := UInt32.toNat_ofNat_of_lt' (by
    change priority < 2 ^ 32
    omega)
  have set : ∃ att, setPriority (UInt32.ofNat priority) e.gptAtt = some att := by
    rw [setPriority, setAttribute, number, if_pos small]
    exact ⟨_, rfl⟩
  obtain ⟨att, sets⟩ := set
  rw [GptEntry.withPriority, sets]
  rfl

theorem withPriority_twice {priority : Nat} (small : priority ≤ 15) (e : GptEntry) :
    (e.withPriority priority).withPriority priority = e.withPriority priority := by
  have again := setAttribute_twice (setPriority_eq small e)
  have whole : setPriority (UInt32.ofNat priority) (e.withPriority priority).gptAtt =
      some (e.withPriority priority).gptAtt := again
  conv_lhs => rw [GptEntry.withPriority, whole]
  rfl

theorem setPriorityAt_eq (table : Entries) {i priority : Nat} (bound : i < 128)
    (small : priority ≤ 15) :
    setPriorityAt table (i, priority) = some (table.set i (table[i].withPriority priority)) := by
  rw [setPriorityAt, dif_pos bound]
  dsimp only
  rw [setPriority_eq small]
  rfl

theorem foldlM_setPriorityAt {pairs : List (Nat × Nat)} {new : Nat → Nat}
    (own : ∀ x ∈ pairs, x.1 < 128 ∧ x.2 ≤ 15 ∧ x.2 = new x.1) (table : Entries) :
    ∃ after, pairs.foldlM setPriorityAt table = some after ∧ ∀ j (bound : j < 128),
      after[j] = if j ∈ pairs.map Prod.fst then table[j].withPriority (new j) else table[j] := by
  induction pairs generalizing table with
  | nil => exact ⟨table, rfl, fun j bound => rfl⟩
  | cons x pairs ih =>
      obtain ⟨⟨bound, small, value⟩, rest⟩ := List.forall_mem_cons.mp own
      obtain ⟨after, folds, entries⟩ := ih rest (table.set x.1 (table[x.1].withPriority x.2))
      have step := setPriorityAt_eq table bound small
      refine ⟨after, ?_, ?_⟩
      · rw [List.foldlM_cons, step]
        exact folds
      · intro j inside
        rw [entries j inside, Vector.getElem_set, List.map_cons]
        by_cases here : x.1 = j
        · subst here
          rw [if_pos rfl, if_pos List.mem_cons_self, ← value]
          split_ifs with later
          · exact withPriority_twice small _
          · rfl
        · rw [if_neg here]
          have same : j ∈ x.1 :: pairs.map Prod.fst ↔ j ∈ pairs.map Prod.fst := by
            rw [List.mem_cons, or_iff_right (Ne.symm here)]
          simp only [same]

/-- Where a kernel is to stand: 99 for the partition that is moved to the front, and its friends if
they are to follow; its priority otherwise. -/
def rank (p : CgptPrioritizeParams) (table : List GptEntry) (i : Nat) : Nat :=
  if p.setPartition ≠ 0 ∧ (if p.setFriends = true then priorityAt table i = origPriority p table
    else i + 1 = p.setPartition.toNat) then 99 else priorityAt table i

def kernelIndices (table : List GptEntry) : List Nat := (kernels table).map Prod.snd

theorem kernels_priority {table : List GptEntry} {x : GptEntry × Nat} (member : x ∈ kernels table) :
    getPriority x.1.gptAtt = priorityAt table x.2 := by
  have here := List.mem_zipIdx_iff_getElem?.mp (List.mem_filter.mp member).1
  rw [priorityAt, here]
  rfl

theorem mem_kernelIndices {table : List GptEntry} {i : Nat} :
    i ∈ kernelIndices table ↔ (table[i]?.any GptEntry.isKernel) = true := by
  rw [kernelIndices, List.mem_map]
  constructor
  · rintro ⟨⟨e, i⟩, member, rfl⟩
    obtain ⟨present, kernel⟩ := List.mem_filter.mp member
    rw [List.mem_zipIdx_iff_getElem?.mp present]
    exact kernel
  · intro kernel
    cases here : table[i]? with
    | none =>
        rw [here] at kernel
        cases kernel
    | some e =>
        rw [here] at kernel
        exact ⟨(e, i), List.mem_filter.mpr ⟨List.mem_zipIdx_iff_getElem?.mpr here, kernel⟩, rfl⟩

theorem priorityAt_lt (table : List GptEntry) (i : Nat) : priorityAt table i < 16 := by
  rw [priorityAt]
  cases table[i]? with
  | none => decide
  | some e => exact getAttribute_lt 0 4 e.gptAtt

def firstRank (p : CgptPrioritizeParams) (table : List GptEntry) (i : Nat) : Nat :=
  if i + 1 = p.setPartition.toNat ∧ p.setFriends = false then 99 else priorityAt table i

theorem foldl_grouped (p : CgptPrioritizeParams) {table : List GptEntry}
    {some : List (GptEntry × Nat)} (known : ∀ x ∈ some, x ∈ kernels table) :
    Grouped (some.foldl (fun groups x => addToGroup (groupPriority p x) x.2 groups) [])
      (some.map Prod.snd) (firstRank p table) := by
  have grouped := (Grouped.nil (firstRank p table)).foldl (some.map Prod.snd)
  rw [List.foldl_map, List.nil_append] at grouped
  have same : some.foldl (fun groups x => addToGroup (groupPriority p x) x.2 groups) [] =
      some.foldl (fun groups x => addToGroup (firstRank p table x.2) x.2 groups) [] := by
    apply List.foldl_ext
    intro groups x member
    rw [groupPriority, kernels_priority (known x member), firstRank]
  rw [same]
  exact grouped

theorem groups_length_le (p : CgptPrioritizeParams) {table : List GptEntry}
    {some : List (GptEntry × Nat)} (known : ∀ x ∈ some, x ∈ kernels table) :
    (some.foldl (fun groups x => addToGroup (groupPriority p x) x.2 groups) []).length ≤ 17 := by
  have grouped := foldl_grouped p known
  generalize some.foldl (fun groups x => addToGroup (groupPriority p x) x.2 groups) [] = groups at *
  have within : groups.map Group.priority ⊆ 99 :: List.range 16 := by
    intro r member
    obtain ⟨g, present, rfl⟩ := List.mem_map.mp member
    obtain ⟨i, part⟩ := List.exists_mem_of_ne_nil _ (grouped.nonempty g present)
    have ⟨_, ranked⟩ := (grouped.holds i g.priority).mp ⟨g, present, rfl, part⟩
    rw [← ranked, firstRank]
    split_ifs
    · exact List.mem_cons_self
    · exact List.mem_cons_of_mem _ (List.mem_range.mpr (priorityAt_lt table i))
  have count := (List.subperm_of_subset grouped.distinct within).length_le
  simpa using count

theorem currentGroups_grouped (p : CgptPrioritizeParams) (table : List GptEntry) :
    Grouped (currentGroups p table) (kernelIndices table) (rank p table) := by
  have known : ∀ x ∈ kernels table, x ∈ kernels table := fun _ member => member
  have grouped := foldl_grouped p known
  unfold currentGroups
  by_cases friends : p.setPartition ≠ 0 ∧ p.setFriends = true
  · have same : rank p table = fun i =>
        if firstRank p table i = origPriority p table then 99 else firstRank p table i := by
      funext i
      simp [rank, firstRank, friends.1, friends.2]
    have fresh : ∀ i ∈ kernelIndices table, firstRank p table i ≠ 99 := by
      intro i _
      have small := priorityAt_lt table i
      rw [firstRank, if_neg (by simp [friends.2])]
      omega
    rw [if_pos friends, same]
    exact grouped.change (origPriority p table) 99 fresh
  · have same : rank p table = firstRank p table := by
      funext i
      rw [rank, firstRank]
      by_cases none : p.setPartition = 0
      · simp [none]
      · have alone : p.setFriends = false := by simpa [none] using friends
        simp [none, alone]
    rw [if_neg friends, same]
    exact grouped

def ranks (p : CgptPrioritizeParams) (table : List GptEntry) : Finset Nat :=
  ((kernelIndices table).map (rank p table)).toFinset

def topPriority (p : CgptPrioritizeParams) (table : List GptEntry) : Nat :=
  if p.maxPriority ≠ 0 then p.maxPriority.toNat
  else min 15 ((ranks p table).filter (0 < ·)).card

/-- The new priority of an active kernel: the highest, less one for each rank above it, but never
below 1. -/
def newPriority (p : CgptPrioritizeParams) (table : List GptEntry) (i : Nat) : Nat :=
  max 1 (topPriority p table - ((ranks p table).filter (rank p table i < ·)).card)

section Ranking

variable {p : CgptPrioritizeParams} {table : List GptEntry} {groups : List Group}

theorem Grouped.ranks_eq (grouped : Grouped groups (kernelIndices table) (rank p table)) :
    (groups.map Group.priority).toFinset = ranks p table := by
  ext r
  rw [ranks, List.mem_toFinset, List.mem_toFinset, List.mem_map, List.mem_map]
  constructor
  · rintro ⟨g, present, rfl⟩
    obtain ⟨i, part⟩ := List.exists_mem_of_ne_nil _ (grouped.nonempty g present)
    exact ⟨i, (grouped.holds i g.priority).mp ⟨g, present, rfl, part⟩⟩
  · rintro ⟨i, item, ranked⟩
    obtain ⟨g, present, priority, _⟩ := (grouped.holds i r).mpr ⟨item, ranked⟩
    exact ⟨g, present, priority⟩

theorem active_groups (p : CgptPrioritizeParams) (table : List GptEntry) :
    ∃ groups, dropZero (sortGroups (currentGroups p table)) = groups ∧
      (groups.map Group.priority).Pairwise (fun a b => b < a) ∧
      (groups.map Group.priority).toFinset = (ranks p table).filter (0 < ·) ∧
      ∀ i r, (∃ g ∈ groups, g.priority = r ∧ i ∈ g.parts) ↔
        (i ∈ kernelIndices table ∧ rank p table i = r) ∧ 0 < r := by
  obtain ⟨sorted, down⟩ := (currentGroups_grouped p table).sorted
  have active := dropZero_eq down
  have priorities : ((sortGroups (currentGroups p table)).filter fun g =>
      decide (0 < g.priority)).map Group.priority =
      ((sortGroups (currentGroups p table)).map Group.priority).filter fun r => decide (0 < r) := by
    rw [List.filter_map]
    rfl
  refine ⟨_, active, ?_, ?_, ?_⟩
  · rw [priorities]
    exact down.filter _
  · rw [priorities, List.toFinset_filter, sorted.ranks_eq]
    simp
  · intro i r
    rw [← sorted.holds]
    simp only [List.mem_filter, decide_eq_true_eq]
    constructor
    · rintro ⟨g, ⟨present, positive⟩, rfl, part⟩
      exact ⟨⟨g, present, rfl, part⟩, positive⟩
    · rintro ⟨⟨g, present, rfl, part⟩, positive⟩
      exact ⟨g, ⟨present, positive⟩, rfl, part⟩

end Ranking

theorem startPriority_eq {p : CgptPrioritizeParams} {table : List GptEntry} {groups : List Group}
    (least : 0 ≤ p.maxPriority)
    (down : (groups.map Group.priority).Pairwise fun a b => b < a)
    (all : (groups.map Group.priority).toFinset = (ranks p table).filter (0 < ·)) :
    startPriority p groups.length = topPriority p table := by
  have distinct : (groups.map Group.priority).Nodup := down.imp fun less => (Nat.ne_of_lt less).symm
  have count : ((ranks p table).filter (0 < ·)).card = groups.length := by
    rw [← all, List.toFinset_card_of_nodup distinct, List.length_map]
  rw [startPriority, topPriority, count]
  split_ifs <;> omega

theorem place_of_group {p : CgptPrioritizeParams} {table : List GptEntry} {groups : List Group}
    (down : (groups.map Group.priority).Pairwise fun a b => b < a)
    (all : (groups.map Group.priority).toFinset = (ranks p table).filter (0 < ·)) {k : Nat}
    {g : Group} (place : groups[k]? = some g) :
    ((ranks p table).filter (g.priority < ·)).card = k := by
  have priority : (groups.map Group.priority)[k]? = some g.priority := by
    rw [List.getElem?_map, place]
    rfl
  have above := card_above_of_getElem? down priority
  rw [all, Finset.filter_filter] at above
  rw [← above]
  congr 1
  apply Finset.filter_congr
  intro r _
  constructor
  · intro less
    exact ⟨Nat.zero_lt_of_lt less, less⟩
  · exact And.right

theorem topPriority_le {p : CgptPrioritizeParams} (most : p.maxPriority ≤ 15)
    (table : List GptEntry) : topPriority p table ≤ 15 := by
  rw [topPriority]
  split_ifs <;> omega

theorem renumbered_pairs {p : CgptPrioritizeParams} {table : List GptEntry} {groups : List Group}
    (least : 0 ≤ p.maxPriority) (most : p.maxPriority ≤ 15)
    (down : (groups.map Group.priority).Pairwise fun a b => b < a)
    (all : (groups.map Group.priority).toFinset = (ranks p table).filter (0 < ·))
    (holds : ∀ i r, (∃ g ∈ groups, g.priority = r ∧ i ∈ g.parts) ↔
      (i ∈ kernelIndices table ∧ rank p table i = r) ∧ 0 < r) (i v : Nat) :
    (i, v) ∈ (renumber (startPriority p groups.length) groups).flatMap
        (fun g => g.parts.map fun part => (part, g.priority)) ↔
      (i ∈ kernelIndices table ∧ 0 < rank p table i) ∧ v = newPriority p table i := by
  have top : ∀ (k : Nat) (g : Group), groups[k]? = some g → 1 ≤ topPriority p table := by
    intro k g place
    have bound := (List.getElem?_eq_some_iff.mp place).1
    have start := startPriority_eq least down all
    rw [startPriority] at start
    split_ifs at start <;> omega
  have renumbered : ∀ (k : Nat) (g' : Group), (renumber (startPriority p groups.length) groups)[k]? = some g' ↔
      ∃ g, groups[k]? = some g ∧ g' = { g with priority := max 1 (topPriority p table - k) } := by
    intro k g'
    by_cases empty : groups = []
    · subst empty
      simp [renumber]
    · have first := List.length_pos_of_ne_nil empty
      rw [startPriority_eq least down all, renumber_getElem?
        (top 0 groups[0] (List.getElem?_eq_getElem first)) (topPriority_le most table),
        Option.map_eq_some_iff]
      simp only [eq_comm]
  rw [List.mem_flatMap]
  constructor
  · rintro ⟨g', member, part⟩
    obtain ⟨k, place'⟩ := List.mem_iff_getElem?.mp member
    obtain ⟨g, place, rfl⟩ := (renumbered k g').mp place'
    obtain ⟨part', inside, same⟩ := List.mem_map.mp part
    obtain ⟨rfl, rfl⟩ := Prod.mk.inj same
    have ⟨⟨item, ranked⟩, positive⟩ := (holds part' g.priority).mp
      ⟨g, List.mem_of_getElem? place, rfl, inside⟩
    rw [newPriority, ranked, place_of_group down all place]
    exact ⟨⟨item, positive⟩, rfl⟩
  · rintro ⟨⟨item, positive⟩, rfl⟩
    obtain ⟨g, member, priority, inside⟩ := (holds i (rank p table i)).mpr ⟨⟨item, rfl⟩, positive⟩
    obtain ⟨k, place⟩ := List.mem_iff_getElem?.mp member
    refine ⟨_, List.mem_of_getElem? ((renumbered k _).mpr ⟨g, place, rfl⟩), ?_⟩
    apply List.mem_map.mpr
    refine ⟨i, inside, ?_⟩
    rw [newPriority, ← priority, place_of_group down all place]

theorem kernelIndices_lt (table : Entries) {i : Nat} (item : i ∈ kernelIndices table.toList) :
    i < 128 := by
  by_contra outside
  rw [mem_kernelIndices, List.getElem?_eq_none (by simpa using outside)] at item
  cases item

theorem prioritizeTable_spec {p : CgptPrioritizeParams} (least : 0 ≤ p.maxPriority)
    (most : p.maxPriority ≤ 15) (table : Entries) :
    ∃ after, prioritizeTable p 128 table = some after ∧ ∀ j (bound : j < 128),
      after[j] = if table[j].isKernel = true ∧ 0 < rank p table.toList j then
        table[j].withPriority (newPriority p table.toList j) else table[j] := by
  have whole : table.toList.take (128 : UInt32).toNat = table.toList :=
    List.take_of_length_le (by simp)
  have kernel : ∀ j (bound : j < 128), j ∈ kernelIndices table.toList ↔ table[j].isKernel = true := by
    intro j bound
    rw [mem_kernelIndices]
    simp [bound]
  rw [prioritizeTable, whole]
  split_ifs with none
  · refine ⟨table, rfl, ?_⟩
    intro j bound
    have absent : ¬ table[j].isKernel = true := by
      rw [← kernel j bound, kernelIndices, List.isEmpty_iff.mp none]
      simp
    rw [if_neg (fun both => absent both.1)]
  · obtain ⟨groups, active, down, all, holds⟩ := active_groups p table.toList
    have pairs := renumbered_pairs least most down all holds
    rw [active]
    have own : ∀ x ∈ (renumber (startPriority p groups.length) groups).flatMap
        (fun g => g.parts.map fun part => (part, g.priority)),
        x.1 < 128 ∧ x.2 ≤ 15 ∧ x.2 = newPriority p table.toList x.1 := by
      intro x member
      have ⟨⟨item, _⟩, value⟩ := (pairs x.1 x.2).mp member
      have small := topPriority_le most table.toList
      have bounded : newPriority p table.toList x.1 ≤ 15 := by
        rw [newPriority]
        omega
      exact ⟨kernelIndices_lt table item, value ▸ bounded, value⟩
    obtain ⟨after, applied, entries⟩ := foldlM_setPriorityAt own table
    refine ⟨after, applied, ?_⟩
    intro j bound
    have given : j ∈ ((renumber (startPriority p groups.length) groups).flatMap
        (fun g => g.parts.map fun part => (part, g.priority))).map Prod.fst ↔
        table[j].isKernel = true ∧ 0 < rank p table.toList j := by
      rw [List.mem_map, ← kernel j bound]
      constructor
      · rintro ⟨⟨i, v⟩, member, rfl⟩
        exact ((pairs i v).mp member).1
      · intro active
        exact ⟨(j, _), (pairs j _).mpr ⟨active, rfl⟩, rfl⟩
    rw [entries j bound]
    simp only [given]

section NewPriorities

variable {p : CgptPrioritizeParams} {table : List GptEntry}

theorem newPriority_mono {i j : Nat} (ordered : rank p table i ≤ rank p table j) :
    newPriority p table i ≤ newPriority p table j := by
  have fewer : ((ranks p table).filter (rank p table j < ·)).card ≤
      ((ranks p table).filter (rank p table i < ·)).card := by
    apply Finset.card_le_card
    exact Finset.monotone_filter_right _ (fun r _ less => ordered.trans_lt less)
  rw [newPriority, newPriority]
  omega

theorem rank_mem_ranks {i : Nat} (kernel : i ∈ kernelIndices table) :
    rank p table i ∈ ranks p table :=
  List.mem_toFinset.mpr (List.mem_map_of_mem kernel)

theorem card_above_lt {i j : Nat} (kernel : j ∈ kernelIndices table)
    (less : rank p table i < rank p table j) :
    ((ranks p table).filter (rank p table j < ·)).card <
      ((ranks p table).filter (rank p table i < ·)).card := by
  apply Finset.card_lt_card
  apply Finset.ssubset_iff_subset_ne.mpr
  apply And.intro
  · exact Finset.monotone_filter_right _ (fun r _ above => less.trans above)
  · intro same
    have member : rank p table j ∈ (ranks p table).filter (rank p table i < ·) :=
      Finset.mem_filter.mpr ⟨rank_mem_ranks kernel, less⟩
    rw [← same] at member
    exact Nat.lt_irrefl _ (Finset.mem_filter.mp member).2

theorem newPriority_lt {i j : Nat} (kernel : j ∈ kernelIndices table)
    (less : rank p table i < rank p table j) :
    newPriority p table i < newPriority p table j ∨
      newPriority p table i = 1 ∧ newPriority p table j = 1 := by
  have fewer := card_above_lt kernel less
  rw [newPriority, newPriority]
  omega

theorem rank_le (p : CgptPrioritizeParams) (table : List GptEntry) (i : Nat) :
    rank p table i ≤ 99 := by
  have small := priorityAt_lt table i
  rw [rank]
  split_ifs <;> omega

theorem newPriority_special {i : Nat} (special : rank p table i = 99)
    (start : 1 ≤ topPriority p table) : newPriority p table i = topPriority p table := by
  have none : (ranks p table).filter (rank p table i < ·) = ∅ := by
    rw [Finset.filter_eq_empty_iff, special]
    intro r member
    obtain ⟨j, _, rfl⟩ := List.mem_map.mp (List.mem_toFinset.mp member)
    exact Nat.not_lt.mpr (rank_le p table j)
  rw [newPriority, none, Finset.card_empty]
  omega

theorem newPriority_lowest {i : Nat} (kernel : i ∈ kernelIndices table)
    (positive : 0 < rank p table i) (unset : p.maxPriority = 0)
    (lowest : ∀ j ∈ kernelIndices table, 0 < rank p table j → rank p table i ≤ rank p table j) :
    newPriority p table i = 1 := by
  have split : (ranks p table).filter (0 < ·) =
      insert (rank p table i) ((ranks p table).filter (rank p table i < ·)) := by
    ext r
    rw [Finset.mem_filter, Finset.mem_insert, Finset.mem_filter]
    constructor
    · rintro ⟨member, above⟩
      obtain ⟨j, item, rfl⟩ := List.mem_map.mp (List.mem_toFinset.mp member)
      cases Nat.eq_or_lt_of_le (lowest j item above) with
      | inl same => exact Or.inl same.symm
      | inr less => exact Or.inr ⟨member, less⟩
    · rintro (rfl | ⟨member, less⟩)
      · exact ⟨rank_mem_ranks kernel, positive⟩
      · exact ⟨member, positive.trans less⟩
  have count : ((ranks p table).filter (0 < ·)).card =
      ((ranks p table).filter (rank p table i < ·)).card + 1 := by
    rw [split, Finset.card_insert_of_notMem (by simp)]
  rw [newPriority, topPriority, if_neg (not_not.mpr unset), count]
  omega

end NewPriorities

theorem getPriority_withPriority {priority : Nat} (small : priority ≤ 15) (e : GptEntry) :
    getPriority (e.withPriority priority).gptAtt = priority := by
  have read := getAttribute_set (by decide : 0 + 4 ≤ 16) (setPriority_eq small e)
  have number : (UInt32.ofNat priority).toNat = priority := UInt32.toNat_ofNat_of_lt' (by
    change priority < 2 ^ 32
    omega)
  exact read.trans number

theorem withPriority_testBit {priority : Nat} (small : priority ≤ 15) (e : GptEntry) {k : Nat}
    (above : 4 ≤ k) (bound : k < 16) :
    (e.withPriority priority).gptAtt.toNat.testBit k = e.gptAtt.toNat.testBit k := by
  have bits := setAttribute_testBit (k := 4) (setPriority_eq small e) bound
  rw [bits, if_neg (by omega)]

theorem withPriority_frame {priority : Nat} (small : priority ≤ 15) (e : GptEntry) :
    (e.withPriority priority).claim = e.claim ∧
      getTries (e.withPriority priority).gptAtt = getTries e.gptAtt ∧
      getSuccessful (e.withPriority priority).gptAtt = getSuccessful e.gptAtt := by
  have sets := setPriority_eq small e
  apply And.intro rfl
  apply And.intro
  · exact getAttribute_set_other (by decide : 4 + 4 ≤ 16) (Or.inr (by decide : 0 + 4 ≤ 4)) sets
  · exact getAttribute_set_other (by decide : 8 + 1 ≤ 16) (Or.inr (by decide : 0 + 4 ≤ 8)) sets

theorem newPriority_bounds {p : CgptPrioritizeParams} (most : p.maxPriority ≤ 15)
    (table : List GptEntry) (i : Nat) : 1 ≤ newPriority p table i ∧ newPriority p table i ≤ 15 := by
  have small := topPriority_le most table
  rw [newPriority]
  omega

theorem priorityAt_getElem (table : Entries) {j : Nat} (bound : j < 128) :
    priorityAt table.toList j = getPriority table[j].gptAtt := by
  rw [priorityAt]
  simp [bound]

theorem rank_zero {p : CgptPrioritizeParams} {table : List GptEntry} {i : Nat}
    (zero : rank p table i = 0) : priorityAt table i = 0 := by
  rw [rank] at zero
  split_ifs at zero
  all_goals exact zero

theorem topPriority_pos {p : CgptPrioritizeParams} {table : List GptEntry} {i : Nat}
    (least : 0 ≤ p.maxPriority) (kernel : i ∈ kernelIndices table) (positive : 0 < rank p table i) :
    1 ≤ topPriority p table := by
  have member : rank p table i ∈ (ranks p table).filter (0 < ·) :=
    Finset.mem_filter.mpr ⟨rank_mem_ranks kernel, positive⟩
  have count := Finset.card_pos.mpr ⟨_, member⟩
  rw [topPriority]
  split_ifs <;> omega

section Prioritized

variable {p : CgptPrioritizeParams} {table after : Entries}

theorem prioritized_priority (most : p.maxPriority ≤ 15)
    (entries : ∀ j (bound : j < 128), after[j] =
      if table[j].isKernel = true ∧ 0 < rank p table.toList j then
        table[j].withPriority (newPriority p table.toList j) else table[j])
    {j : Nat} (bound : j < 128) (kernel : table[j].isKernel = true) :
    getPriority after[j].gptAtt =
      if 0 < rank p table.toList j then newPriority p table.toList j else 0 := by
  rw [entries j bound]
  by_cases positive : 0 < rank p table.toList j
  · rw [if_pos ⟨kernel, positive⟩, if_pos positive]
    exact getPriority_withPriority (newPriority_bounds most _ j).2 _
  · rw [if_neg (fun both => positive both.2), if_neg positive, ← priorityAt_getElem table bound]
    exact rank_zero (Nat.eq_zero_of_not_pos positive)

end Prioritized

/-- `cgpt_prioritize` keeps the order of the kernels: none of them passes one of a higher rank, the
ranks that are told apart stay so unless both come down to 1, no active kernel is lowered to 0 and
no other raised from it, a kernel that is moved to the front has the highest priority, and without a
highest priority given the lowest active kernel ends at 1. Only the priorities of kernels change, in
the lowest four bits of their attributes. -/
theorem prioritizeTable_order {p : CgptPrioritizeParams} (least : 0 ≤ p.maxPriority)
    (most : p.maxPriority ≤ 15) (table : Entries) :
    ∃ after, prioritizeTable p 128 table = some after ∧
      (∀ j (bound : j < 128),
        (after[j] = table[j] ∨
          table[j].isKernel = true ∧ ∃ v ≤ 15, after[j] = table[j].withPriority v) ∧
        (∀ k, 4 ≤ k → k < 16 →
          after[j].gptAtt.toNat.testBit k = table[j].gptAtt.toNat.testBit k) ∧
        after[j].claim = table[j].claim ∧
        getTries after[j].gptAtt = getTries table[j].gptAtt ∧
        getSuccessful after[j].gptAtt = getSuccessful table[j].gptAtt ∧
        (table[j].isKernel = false → after[j] = table[j])) ∧
      (∀ i j (first : i < 128) (second : j < 128), table[i].isKernel = true →
        table[j].isKernel = true →
        (rank p table.toList i ≤ rank p table.toList j →
          getPriority after[i].gptAtt ≤ getPriority after[j].gptAtt) ∧
        (rank p table.toList i < rank p table.toList j →
          getPriority after[i].gptAtt < getPriority after[j].gptAtt ∨
            getPriority after[i].gptAtt = 1 ∧ getPriority after[j].gptAtt = 1)) ∧
      ∀ i (bound : i < 128), table[i].isKernel = true →
        (getPriority after[i].gptAtt = 0 ↔ rank p table.toList i = 0) ∧
        (rank p table.toList i = 99 → getPriority after[i].gptAtt = topPriority p table.toList) ∧
        (p.maxPriority = 0 → 0 < rank p table.toList i →
          (∀ j ∈ kernelIndices table.toList, 0 < rank p table.toList j →
            rank p table.toList i ≤ rank p table.toList j) → getPriority after[i].gptAtt = 1) := by
  obtain ⟨after, made, entries⟩ := prioritizeTable_spec least most table
  have item : ∀ j (bound : j < 128), table[j].isKernel = true → j ∈ kernelIndices table.toList := by
    intro j bound kernel
    rw [mem_kernelIndices]
    simpa [bound] using kernel
  refine ⟨after, made, ?_, ?_, ?_⟩
  · intro j bound
    rw [entries j bound]
    split_ifs with changed
    · have small := (newPriority_bounds most table.toList j).2
      have ⟨claim, tries, successful⟩ := withPriority_frame small table[j]
      refine ⟨Or.inr ⟨changed.1, _, small, rfl⟩, fun k => withPriority_testBit small table[j], claim,
        tries, successful, ?_⟩
      intro other
      rw [changed.1] at other
      cases other
    · exact ⟨Or.inl rfl, fun _ _ _ => rfl, rfl, rfl, rfl, fun _ => rfl⟩
  · intro i j first second kernel_i kernel_j
    have positive := (newPriority_bounds most table.toList j).1
    rw [prioritized_priority most entries first kernel_i,
      prioritized_priority most entries second kernel_j]
    apply And.intro
    · intro ordered
      have mono := newPriority_mono ordered
      split_ifs <;> omega
    · intro less
      have apart := newPriority_lt (item j second kernel_j) less
      split_ifs <;> omega
  · intro i bound kernel
    have positive := (newPriority_bounds most table.toList i).1
    rw [prioritized_priority most entries bound kernel]
    refine ⟨?_, ?_, ?_⟩
    · split_ifs <;> omega
    · intro special
      have active : 0 < rank p table.toList i := by omega
      rw [if_pos active]
      exact newPriority_special special (topPriority_pos least (item i bound kernel) active)
    · intro unset active lowest
      rw [if_pos active]
      exact newPriority_lowest (item i bound kernel) active unset lowest

def twoKernels : Entries :=
  let unused : GptEntry :=
    ⟨guidUnused, guidUnused, 0, 0, Vector.replicate 3 0, 0, Vector.replicate 36 0⟩
  ((Vector.replicate 128 unused).set 0 { unused with type := guidChromeosKernel, gptAtt := 2 }).set 1
    { unused with type := guidChromeosKernel, gptAtt := 1 }

theorem prioritizeTable_order_second : ∃ after, prioritizeTable ⟨2, false, 0⟩ 128 twoKernels = some after ∧
    getPriority after[0].gptAtt < getPriority after[1].gptAtt ∧
    getPriority after[1].gptAtt = topPriority ⟨2, false, 0⟩ twoKernels.toList := by
  obtain ⟨after, made, -, orders, each⟩ :=
    prioritizeTable_order (p := ⟨2, false, 0⟩) (by decide) (by decide) twoKernels
  have top := (each 1 (by decide) (by decide +kernel)).2.1 (by decide +kernel)
  have less := (orders 0 1 (by decide) (by decide) (by decide +kernel) (by decide +kernel)).2
    (by decide +kernel)
  refine ⟨after, made, ?_, top⟩
  have two : topPriority ⟨2, false, 0⟩ twoKernels.toList = 2 := by decide +kernel
  omega

end A500cg.Gpt
