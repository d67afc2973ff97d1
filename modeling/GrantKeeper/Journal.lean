/-
The journal: what the library reports while it works.

A `Traced` computation carries the entries it has written, in order, and either a result or a
fault. What was written before a fault is kept.
-/
import GrantKeeper.Failure

namespace GrantKeeper

/-- How serious an entry is. -/
inductive Severity where
  | debug
  | info
  | warning
  | error
  | critical
  deriving DecidableEq, Repr

def Severity.name : Severity → String
  | .debug => "DEBUG"
  | .info => "INFO"
  | .warning => "WARNING"
  | .error => "ERROR"
  | .critical => "CRITICAL"

/-- An entry of the journal. -/
structure Entry where
  severity : Severity
  message : String
  deriving DecidableEq, Repr

/-- A computation that writes to the journal and ends with a result or a fault. -/
structure Traced (α : Type) where
  entries : List Entry
  outcome : Except Fault α

namespace Traced

/-- A result without entries. -/
def pure (a : α) : Traced α :=
  ⟨[], .ok a⟩

/-- One computation after another, which is not reached after a fault. -/
def bind (x : Traced α) (f : α → Traced β) : Traced β :=
  match x.outcome with
  | .ok a => ⟨x.entries ++ (f a).entries, (f a).outcome⟩
  | .error fault => ⟨x.entries, .error fault⟩

instance : Monad Traced where
  pure := Traced.pure
  bind := Traced.bind

def fault (fault : Fault) : Traced α :=
  ⟨[], .error fault⟩

def fail (failure : Failure) : Traced α :=
  fault (.failure failure)

/-- Writes an entry. -/
def note (severity : Severity) (message : String) : Traced Unit :=
  ⟨[⟨severity, message⟩], .ok ()⟩

/-- An outcome without entries. -/
def ofExcept (outcome : Except Fault α) : Traced α :=
  ⟨[], outcome⟩

@[simp] theorem outcome_pure (a : α) : (Pure.pure a : Traced α).outcome = .ok a := rfl

@[simp] theorem entries_pure (a : α) : (Pure.pure a : Traced α).entries = [] := rfl

@[simp] theorem outcome_bind (x : Traced α) (f : α → Traced β) :
    (x >>= f).outcome = x.outcome >>= fun a => (f a).outcome := by
  show (Traced.bind x f).outcome = _
  unfold Traced.bind
  cases x.outcome <;> rfl

@[simp] theorem outcome_fault (f : Fault) : (fault f : Traced α).outcome = .error f := rfl

@[simp] theorem outcome_fail (f : Failure) :
    (fail f : Traced α).outcome = .error (.failure f) := rfl

@[simp] theorem outcome_note (s : Severity) (m : String) : (note s m).outcome = .ok () := rfl

@[simp] theorem outcome_ofExcept (o : Except Fault α) : (ofExcept o).outcome = o := rfl

@[simp] theorem outcome_map (f : α → β) (x : Traced α) : (f <$> x).outcome = f <$> x.outcome := by
  show (Traced.bind x fun a => Traced.pure (f a)).outcome = _
  unfold Traced.bind
  cases x.outcome <;> rfl

@[simp] theorem outcome_seq (f : Traced (α → β)) (x : Traced α) :
    (f <*> x).outcome = f.outcome <*> x.outcome := by
  show (Traced.bind f fun g => Traced.bind x fun a => Traced.pure (g a)).outcome = _
  unfold Traced.bind
  cases f.outcome <;> cases x.outcome <;> rfl

/-- What comes of the slots in turn does not depend on what is written on the way. -/
theorem outcome_traverse (effect : Slot → Traced α) :
    (Slot.traverse effect).outcome = Slot.traverse fun slot => (effect slot).outcome := by
  simp [Slot.traverse]

instance : LawfulMonad Traced := LawfulMonad.mk' _
  (by
    rintro α ⟨entries, outcome⟩
    show Traced.bind _ _ = _
    cases outcome <;> simp [Traced.bind, Function.comp, Traced.pure])
  (by
    intro α β a f
    show Traced.bind (Traced.pure a) f = _
    simp [Traced.bind, Traced.pure])
  (by
    rintro α β γ ⟨entries, outcome⟩ f g
    show Traced.bind (Traced.bind _ f) g = Traced.bind _ fun a => Traced.bind (f a) g
    cases outcome with
    | error => rfl
    | ok a =>
      simp only [Traced.bind]
      cases (f a).outcome <;> simp)

end Traced
end GrantKeeper
