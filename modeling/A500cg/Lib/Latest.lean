import Mathlib.Data.List.Basic

/-! The latest value that a history of events gives, unless an event behind it discards
it. -/

namespace A500cg.Lib

variable {Event Value : Type}

def Latest (given : Event → Option Value) (discards : Event → Prop) (events : List Event)
    (value : Value) : Prop :=
  ∃ before event after, events = before ++ event :: after ∧ given event = some value ∧
    ∀ later ∈ after, given later = none ∧ ¬ discards later

variable {given : Event → Option Value} {discards : Event → Prop} {events : List Event}
  {event : Event} {value : Value}

theorem not_latest_nil : ¬ Latest given discards [] value := by
  rintro ⟨before, event, after, cut, _⟩
  exact List.append_ne_nil_of_right_ne_nil before (List.cons_ne_nil event after) cut.symm

theorem latest_concat_iff : Latest given discards (events ++ [event]) value ↔
    given event = some value ∨
      (given event = none ∧ ¬ discards event ∧ Latest given discards events value) := by
  constructor
  · rintro ⟨before, found, after, cut, gives, quiet⟩
    rcases List.eq_nil_or_concat after with rfl | ⟨after, last, rfl⟩
    · rcases List.append_inj' cut rfl with ⟨_, same⟩
      cases same
      exact .inl gives
    · rw [List.concat_eq_append, ← List.cons_append, ← List.append_assoc] at cut
      rcases List.append_inj' cut rfl with ⟨same, ends⟩
      cases ends
      have behind := quiet event (by simp)
      refine .inr ⟨behind.1, behind.2, before, found, after, same, gives, fun later member => ?_⟩
      exact quiet later (by simp [member])
  · rintro (gives | ⟨none, keeps, before, found, after, rfl, gives, quiet⟩)
    · exact ⟨events, event, [], rfl, gives, by simp⟩
    · refine ⟨before, found, after ++ [event], by simp, gives, fun later member => ?_⟩
      rcases List.mem_append.mp member with earlier | last
      · exact quiet later earlier
      · rw [List.mem_singleton.mp last]
        exact ⟨none, keeps⟩

end A500cg.Lib
