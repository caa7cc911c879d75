import Mathlib.Data.List.Basic

/-! Machines whose steps answer, and a relation under which one refines another: along every run of
events the two give the same answers. -/

namespace A500cg.Lib

variable {Concrete Abstract Event Answer : Type}

def answers {State : Type} (step : Event → State → Answer × State) :
    List Event → State → List Answer × State
  | [], state => ([], state)
  | event :: rest, state =>
      let (answer, next) := step event state
      let (later, last) := answers step rest next
      (answer :: later, last)

def Refines (concrete : Event → Concrete → Answer × Concrete)
    (abstract : Event → Abstract → Answer × Abstract) (relation : Concrete → Abstract → Prop) : Prop :=
  ∀ event c a, relation c a →
    (concrete event c).1 = (abstract event a).1 ∧ relation (concrete event c).2 (abstract event a).2

theorem Refines.run {concrete : Event → Concrete → Answer × Concrete}
    {abstract : Event → Abstract → Answer × Abstract} {relation : Concrete → Abstract → Prop}
    (refines : Refines concrete abstract relation) {c : Concrete} {a : Abstract}
    (start : relation c a) (events : List Event) :
    (answers concrete events c).1 = (answers abstract events a).1 ∧
      relation (answers concrete events c).2 (answers abstract events a).2 := by
  induction events generalizing c a with
  | nil => exact ⟨rfl, start⟩
  | cons event rest ih =>
      have ⟨same, next⟩ := refines event c a start
      have ⟨later, last⟩ := ih next
      exact ⟨congrArg₂ List.cons same later, last⟩

end A500cg.Lib
