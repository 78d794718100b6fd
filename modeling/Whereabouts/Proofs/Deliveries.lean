import Mathlib.Tactic.Lemma
import Whereabouts.Grid

/-!
# What operations deliver

An operation on a map fails when it looks up a zone that is not there, and it reports what it meets
on the way. It delivers a value when it goes through with this value and none of its events has the
level `error`, which is kept for what the caller should have ruled out.
-/

namespace Whereabouts

/-- Nothing went wrong that the caller should have ruled out. -/
def Quiet (events : List Event) : Prop :=
  ∀ event ∈ events, event.level ≠ .error

lemma quiet_nil : Quiet [] :=
  List.forall_mem_nil _

lemma quiet_singleton {event : Event} (h : event.level ≠ .error) : Quiet [event] :=
  List.forall_mem_singleton.mpr h

lemma quiet_append {events events' : List Event} :
    Quiet (events ++ events') ↔ Quiet events ∧ Quiet events' :=
  List.forall_mem_append

/-- The operation goes through with this value and meets no error. -/
def Delivers {α : Type} (x : Except OutsideGrid (Report α)) (a : α) : Prop :=
  ∃ events, x = .ok ⟨a, events⟩ ∧ Quiet events

/-- What an operation answers, besides what it makes of its surroundings. -/
def answered {α β : Type} (x : Except OutsideGrid (Report (α × β))) : Option α :=
  x.toOption.map (·.value.1)

namespace Delivers

variable {α β : Type} {x : Except OutsideGrid (Report α)} {a b : α}

lemma pure (a : α) : Delivers (.ok ⟨a, []⟩) a :=
  ⟨[], rfl, quiet_nil⟩

/-- What passes the events on delivers what it makes of the value. -/
lemma map (h : Delivers x a) (f : α → β) :
    Delivers (do let r ← x; return ⟨f r.value, r.events⟩) (f a) := by
  obtain ⟨events, rfl, hquiet⟩ := h
  exact ⟨events, rfl, hquiet⟩

lemma unique (h : Delivers x a) (h' : Delivers x b) : a = b := by
  obtain ⟨events, rfl, -⟩ := h
  obtain ⟨events', heq, -⟩ := h'
  cases heq
  rfl

lemma answered {y : Except OutsideGrid (Report (α × β))} {b : β} (h : Delivers y (a, b)) :
    answered y = some a := by
  obtain ⟨events, rfl, -⟩ := h
  rfl

end Delivers

end Whereabouts
