import CcxLexis.Event

/-!
# Values with the events that led to them

Every part of a scanner that can report something answers with a value and the events reported
on the way, oldest first.  Doing one thing after another appends the events of the second to
those of the first.
-/

namespace CcxLexis

/-- A value together with the events reported while it was computed. -/
structure Logged (α : Type) where
  value : α
  events : List Event := []

namespace Logged

variable {α β : Type}

instance : Monad Logged where
  pure value := { value }
  bind x f :=
    let y := f x.value
    { value := y.value, events := x.events ++ y.events }

/-- Reporting one event. -/
def report (event : Event) : Logged Unit :=
  { value := (), events := [event] }

/-! ## Values and events of a sequence -/

@[simp]
theorem value_pure (a : α) : (pure a : Logged α).value = a := rfl

@[simp]
theorem events_pure (a : α) : (pure a : Logged α).events = [] := rfl

@[simp]
theorem value_bind (x : Logged α) (f : α → Logged β) :
    (x >>= f).value = (f x.value).value := rfl

@[simp]
theorem events_bind (x : Logged α) (f : α → Logged β) :
    (x >>= f).events = x.events ++ (f x.value).events := rfl

@[simp]
theorem value_map (f : α → β) (x : Logged α) : (f <$> x).value = f x.value := rfl

@[simp]
theorem events_map (f : α → β) (x : Logged α) : (f <$> x).events = x.events :=
  List.append_nil x.events

@[simp]
theorem value_report (event : Event) : (report event).value = () := rfl

@[simp]
theorem events_report (event : Event) : (report event).events = [event] := rfl

theorem ext {x y : Logged α} (hvalue : x.value = y.value) (hevents : x.events = y.events) :
    x = y := by
  cases x
  cases y
  cases hvalue
  cases hevents
  rfl

instance : LawfulMonad Logged := LawfulMonad.mk' Logged
  (fun x => by cases x; simp [Functor.map])
  (fun _ _ => rfl)
  (fun _ _ _ => by simp only [bind, List.append_assoc])

end Logged

end CcxLexis
