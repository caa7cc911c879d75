import A500cg.Lib.Bytes

/-! A storage medium as the log of the byte stores made on it.

The content after a power cut is the replay of a prefix of the log, so a
property of every cut is a property of every prefix. -/

namespace A500cg.Lib

structure ByteWrite where
  addr : Nat
  byte : UInt8
  deriving DecidableEq, Repr

def replay (content : Buffer) : List ByteWrite → Buffer
  | [] => content
  | write :: rest => replay (Function.update content write.addr write.byte) rest

/-- The stores made by writing `len` bytes of `buf` from `addr` on, in order. -/
def writesAt (addr len : Nat) (buf : Buffer) : List ByteWrite :=
  (List.range len).map fun i => ⟨addr + i, buf i⟩

/-- `content` with `len` bytes of `buf` laid over it at `addr`. -/
def overlay (content : Buffer) (addr len : Nat) (buf : Buffer) : Buffer := fun a =>
  if addr ≤ a ∧ a < addr + len then buf (a - addr) else content a

theorem replay_append (content : Buffer) (first second : List ByteWrite) :
    replay content (first ++ second) = replay (replay content first) second := by
  induction first generalizing content with
  | nil => rfl
  | cons write rest ih => exact ih _

theorem replay_outside (content : Buffer) (writes : List ByteWrite) (a : Nat)
    (outside : ∀ write ∈ writes, write.addr ≠ a) : replay content writes a = content a := by
  induction writes generalizing content with
  | nil => rfl
  | cons write rest ih =>
      have first : a ≠ write.addr := (outside write (by simp)).symm
      rw [replay, ih _ (fun next member => outside next (by simp [member])),
        Function.update_of_ne first]

theorem replay_kept (content : Buffer) (writes : List ByteWrite) (a : Nat)
    (kept : ∀ write ∈ writes, write.addr = a → write.byte = content a) :
    replay content writes a = content a := by
  induction writes generalizing content with
  | nil => rfl
  | cons write rest ih =>
      have here : Function.update content write.addr write.byte a = content a := by
        by_cases same : a = write.addr
        · rw [same, Function.update_self, kept write List.mem_cons_self same.symm, same]
        · exact Function.update_of_ne same ..
      rw [replay, ih, here]
      intro next member same
      rw [here]
      exact kept next (List.mem_cons_of_mem _ member) same

theorem mem_writesAt (addr len : Nat) (buf : Buffer) (write : ByteWrite)
    (member : write ∈ writesAt addr len buf) :
    addr ≤ write.addr ∧ write.addr < addr + len := by
  rcases List.mem_map.mp member with ⟨i, inside, rfl⟩
  have bound := List.mem_range.mp inside
  exact ⟨by simp, by simpa using bound⟩

theorem overlay_inside (content : Buffer) (addr len : Nat) (buf : Buffer) (i : Nat)
    (bound : i < len) : overlay content addr len buf (addr + i) = buf i := by
  have inside : addr ≤ addr + i ∧ addr + i < addr + len := by omega
  rw [overlay, if_pos inside, Nat.add_sub_cancel_left]

theorem overlay_outside (content : Buffer) (addr len : Nat) (buf : Buffer) (a : Nat)
    (outside : a < addr ∨ addr + len ≤ a) : overlay content addr len buf a = content a := by
  have no : ¬ (addr ≤ a ∧ a < addr + len) := by omega
  rw [overlay, if_neg no]

theorem writesAt_succ (addr len : Nat) (buf : Buffer) :
    writesAt addr (len + 1) buf = writesAt addr len buf ++ [⟨addr + len, buf len⟩] := by
  simp [writesAt, List.range_succ]

theorem replay_writesAt (content : Buffer) (addr len : Nat) (buf : Buffer) :
    replay content (writesAt addr len buf) = overlay content addr len buf := by
  induction len with
  | zero =>
      funext a
      rw [overlay_outside _ _ _ _ _ (by omega)]
      rfl
  | succ len ih =>
      rw [writesAt_succ, replay_append, ih]
      funext a
      by_cases last : a = addr + len
      · subst last
        rw [overlay_inside _ _ _ _ _ (by omega)]
        exact Function.update_self ..
      · change Function.update _ (addr + len) _ a = _
        rw [Function.update_of_ne last]
        by_cases inside : addr ≤ a ∧ a < addr + len
        · have wider : addr ≤ a ∧ a < addr + (len + 1) := by omega
          rw [overlay, if_pos inside, overlay, if_pos wider]
        · rw [overlay_outside _ _ _ _ _ (by omega), overlay_outside _ _ _ _ _ (by omega)]

/-- How the next system call ends: it does its work, or it fails after
transferring some of its bytes (an I/O error, or the end of the device). -/
inductive Answer where
  | success
  | failure (transferred : Nat)
  deriving DecidableEq, Repr

/-- The medium with its log, and the answers the coming system calls will get.
Calls beyond the end of `answers` succeed. -/
structure World where
  initial : Buffer
  writes : List ByteWrite
  answers : List Answer

namespace World

def content (w : World) : Buffer := replay w.initial w.writes

def store (w : World) (stores : List ByteWrite) : World :=
  { w with writes := w.writes ++ stores }

@[simp] theorem store_writes (w : World) (stores : List ByteWrite) :
    (w.store stores).writes = w.writes ++ stores := rfl

theorem content_of_log {w w' : World} {addr len : Nat} {buf : Buffer}
    (initial : w'.initial = w.initial) (log : w'.writes = w.writes ++ writesAt addr len buf) :
    w'.content = overlay w.content addr len buf := by
  rw [content, initial, log, replay_append, replay_writesAt]
  rfl

@[simp] theorem store_content (w : World) (addr len : Nat) (buf : Buffer) :
    (w.store (writesAt addr len buf)).content = overlay w.content addr len buf :=
  content_of_log rfl rfl

/-- `after` is reached from `before` by stores at addresses in `region` only. -/
def Touches (region : Nat → Prop) (before after : World) : Prop :=
  after.initial = before.initial ∧
    ∃ stores, after.writes = before.writes ++ stores ∧ ∀ store ∈ stores, region store.addr

theorem Touches.refl (region : Nat → Prop) (w : World) : Touches region w w :=
  ⟨rfl, [], by simp, by simp⟩

theorem Touches.trans {region : Nat → Prop} {first second third : World}
    (front : Touches region first second) (back : Touches region second third) :
    Touches region first third := by
  rcases front with ⟨initial, stores, log, inside⟩
  rcases back with ⟨initial', stores', log', inside'⟩
  refine ⟨initial'.trans initial, stores ++ stores', ?_, ?_⟩
  · rw [log', log, List.append_assoc]
  · intro store member
    rcases List.mem_append.mp member with member | member
    · exact inside store member
    · exact inside' store member

theorem Touches.cut {region : Nat → Prop} {before after : World}
    (touched : Touches region before after) (log : List ByteWrite)
    (start : before.writes <+: log) (stop : log <+: after.writes) (a : Nat)
    (outside : ¬ region a) : replay before.initial log a = before.content a := by
  rcases touched with ⟨_, stores, grown, inside⟩
  rcases start with ⟨suffix, rfl⟩
  rw [grown, List.prefix_append_right_inj] at stop
  rw [content, replay_append]
  apply replay_outside
  intro store member same
  exact outside (same ▸ inside store (stop.subset member))

theorem Touches.content_eq {region : Nat → Prop} {before after : World}
    (touched : Touches region before after) (a : Nat) (outside : ¬ region a) :
    after.content a = before.content a := by
  have grown : before.writes <+: after.writes := by
    rcases touched with ⟨_, stores, log, _⟩
    exact ⟨stores, log.symm⟩
  rw [content, touched.1]
  exact touched.cut after.writes grown (List.prefix_refl _) a outside

/-- `after` is reached from `before` by stores that put nothing new into `region`. -/
def Preserves (region : Nat → Prop) (before after : World) : Prop :=
  after.initial = before.initial ∧ ∃ stores, after.writes = before.writes ++ stores ∧
    ∀ store ∈ stores, region store.addr → store.byte = before.content store.addr

theorem Touches.preserves {region : Nat → Prop} {before after : World}
    (touched : Touches (fun a => ¬ region a) before after) : Preserves region before after := by
  rcases touched with ⟨initial, stores, log, outside⟩
  exact ⟨initial, stores, log, fun store member inside => absurd inside (outside store member)⟩

theorem Preserves.cut {region : Nat → Prop} {before after : World}
    (preserved : Preserves region before after) (log : List ByteWrite)
    (start : before.writes <+: log) (stop : log <+: after.writes) (a : Nat)
    (inside : region a) : replay before.initial log a = before.content a := by
  rcases preserved with ⟨_, stores, grown, kept⟩
  rcases start with ⟨suffix, rfl⟩
  rw [grown, List.prefix_append_right_inj] at stop
  rw [content, replay_append]
  apply replay_kept
  intro store member same
  subst same
  exact kept store (stop.subset member) inside

theorem Preserves.content_eq {region : Nat → Prop} {before after : World}
    (preserved : Preserves region before after) (a : Nat) (inside : region a) :
    after.content a = before.content a := by
  have grown : before.writes <+: after.writes := by
    rcases preserved with ⟨_, stores, log, _⟩
    exact ⟨stores, log.symm⟩
  rw [content, preserved.1]
  exact preserved.cut after.writes grown (List.prefix_refl _) a inside

theorem Preserves.trans {region : Nat → Prop} {first second third : World}
    (front : Preserves region first second) (back : Preserves region second third) :
    Preserves region first third := by
  have same := front.content_eq
  rcases front with ⟨initial, stores, log, kept⟩
  rcases back with ⟨initial', stores', log', kept'⟩
  refine ⟨initial'.trans initial, stores ++ stores', ?_, ?_⟩
  · rw [log', log, List.append_assoc]
  · intro store member inside
    rcases List.mem_append.mp member with member | member
    · exact kept store member inside
    · rw [kept' store member inside, same store.addr inside]

/-- Nothing was stored between the two worlds. -/
def Same (before after : World) : Prop :=
  after.initial = before.initial ∧ after.writes = before.writes

theorem Same.refl (w : World) : Same w w := ⟨rfl, rfl⟩

theorem Same.trans {first second third : World} (front : Same first second)
    (back : Same second third) : Same first third :=
  ⟨back.1.trans front.1, back.2.trans front.2⟩

theorem Same.content_eq {before after : World} (same : Same before after) :
    after.content = before.content := by
  rw [content, content, same.1, same.2]

theorem Touches.same {before after : World} (touched : Touches (fun _ => False) before after) :
    Same before after := by
  rcases touched with ⟨initial, stores, log, inside⟩
  have none : stores = [] := List.eq_nil_iff_forall_not_mem.mpr inside
  rw [none, List.append_nil] at log
  exact ⟨initial, log⟩

theorem Same.touches {before after : World} (same : Same before after)
    (region : Nat → Prop) : Touches region before after :=
  ⟨same.1, [], by simp [same.2], by simp⟩

end World

end A500cg.Lib
