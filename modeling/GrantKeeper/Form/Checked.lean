/-
Checked values: a value, or the issues that keep it from being one.

Checked values are combined side by side, so that the issues of all fields of a form are reported
together; a check that needs the finished value comes after (`andThen`) and is not reached when a
field has failed.
-/
import GrantKeeper.Failure

namespace GrantKeeper

/-- A value or the issues found on the way to it. -/
inductive Checked (α : Type) where
  | ok (value : α)
  | rejected (issues : List Issue)

namespace Checked

/-- A value applied to another, with the issues of both. -/
def seq (f : Checked (α → β)) (x : Unit → Checked α) : Checked β :=
  match f, x () with
  | .ok f, .ok a => .ok (f a)
  | .ok _, .rejected issues => .rejected issues
  | .rejected issues, .ok _ => .rejected issues
  | .rejected issues, .rejected more => .rejected (issues ++ more)

instance : Applicative Checked where
  pure := .ok
  seq := seq

/-- A further check of a finished value. -/
def andThen (x : Checked α) (f : α → Checked β) : Checked β :=
  match x with
  | .ok a => f a
  | .rejected issues => .rejected issues

/-- A check whose own result is still to be checked. -/
def join (x : Checked (Checked α)) : Checked α :=
  match x with
  | .ok inner => inner
  | .rejected issues => .rejected issues

def flawed (flaw : Flaw) : Checked α :=
  .rejected [⟨[], flaw⟩]

/-- A check at a step further down. -/
def under (step : Step) : Checked α → Checked α
  | .ok a => .ok a
  | .rejected issues => .rejected (issues.map (·.under step))

/-- The value, or the fault that its issues amount to. -/
def toExcept : Checked α → Except Fault α
  | .ok a => .ok a
  | .rejected issues => .error (.ofIssues issues)

@[simp] theorem pure_eq (a : α) : (pure a : Checked α) = .ok a := rfl

theorem map_eq_ok_iff {f : α → β} {x : Checked α} {b : β} :
    f <$> x = .ok b ↔ ∃ a, x = .ok a ∧ f a = b := by
  cases x <;> simp [Functor.map, seq]

theorem seq_eq_ok_iff {f : Checked (α → β)} {x : Checked α} {b : β} :
    f <*> x = .ok b ↔ ∃ g a, f = .ok g ∧ x = .ok a ∧ g a = b := by
  cases f <;> cases x <;> simp [Seq.seq, seq]

theorem andThen_eq_ok_iff {x : Checked α} {f : α → Checked β} {b : β} :
    x.andThen f = .ok b ↔ ∃ a, x = .ok a ∧ f a = .ok b := by
  cases x <;> simp [andThen]

theorem join_eq_ok_iff {x : Checked (Checked α)} {a : α} : x.join = .ok a ↔ x = .ok (.ok a) := by
  cases x <;> simp [join]

theorem under_eq_ok_iff {step : Step} {x : Checked α} {a : α} :
    x.under step = .ok a ↔ x = .ok a := by
  cases x <;> simp [under]

end Checked
end GrantKeeper
