/-
Outcomes of computations one after another: each of them ends well (`Traced.bind_eq_ok_iff`), or the
first fault is the fault of all (`Except.FailsIff.bind`, where it can be but one).
-/
import GrantKeeper.Journal

namespace GrantKeeper

/-! ## Results -/

theorem Except.map_eq_ok {ε α β : Type} {f : α → β} {x : Except ε α} {b : β}
    (h : x.map f = .ok b) : ∃ a, x = .ok a ∧ f a = b := by
  cases x with
  | error e => cases h
  | ok a => exact ⟨a, rfl, Except.ok.inj h⟩

theorem Except.bind_eq_ok {ε α β : Type} {f : α → Except ε β} {x : Except ε α} {b : β}
    (h : x >>= f = .ok b) : ∃ a, x = .ok a ∧ f a = .ok b := by
  cases x with
  | error e => cases h
  | ok a => exact ⟨a, rfl, h⟩

/-- One computation after another ends well exactly when both do. -/
theorem Traced.bind_eq_ok_iff {x : Traced α} {f : α → Traced β} {b : β} :
    (x >>= f).outcome = .ok b ↔ ∃ a, x.outcome = .ok a ∧ (f a).outcome = .ok b := by
  rw [outcome_bind]
  cases x.outcome with
  | error fault => exact ⟨fun h => (by cases h), fun ⟨_, h, _⟩ => (by cases h)⟩
  | ok a =>
    refine ⟨fun h => ⟨a, rfl, h⟩, ?_⟩
    rintro ⟨_, h, hf⟩
    cases h
    exact hf

/-- What follows a computation counts only for the result that it has. -/
theorem Traced.bind_congr {x : Traced α} {f g : α → Traced β}
    (h : ∀ a, x.outcome = .ok a → f a = g a) : x >>= f = x >>= g := by
  show Traced.bind x f = Traced.bind x g
  unfold Traced.bind
  cases hx : x.outcome with
  | ok a =>
    dsimp only
    rw [h a hx]
  | error fault => rfl

/-! ## Faults -/

/-- The fault of an outcome that is one. -/
def faultOf? : Except Fault α → Option Fault
  | .ok _ => none
  | .error fault => some fault

@[simp] theorem faultOf?_map (f : α → β) (outcome : Except Fault α) :
    faultOf? (outcome.map f) = faultOf? outcome := by
  cases outcome <;> rfl

theorem findSome?_flatMap (parts : β → List α) (find : α → Option γ) (l : List β) :
    (l.flatMap parts).findSome? find = l.findSome? fun b => (parts b).findSome? find := by
  induction l with
  | nil => rfl
  | cons b l ih =>
    rw [List.flatMap_cons, List.findSome?_append, ih, List.findSome?_cons]
    cases (parts b).findSome? find <;> rfl

/-! ## Outcomes with one fault -/

/-- An outcome is a fault exactly under a condition, and then it is this one. -/
def Except.FailsIff (x : Except ε α) (fault : ε) (P : Prop) : Prop :=
  ∀ other, x = .error other ↔ P ∧ other = fault

namespace Except.FailsIff

theorem ok (a : α) (fault : ε) : Except.FailsIff (.ok a) fault False := by
  intro other
  simp

theorem congr {x : Except ε α} {fault : ε} {P Q : Prop} (h : Except.FailsIff x fault P)
    (hPQ : P ↔ Q) : Except.FailsIff x fault Q := by
  intro other
  rw [h other, hPQ]

theorem not_of_ok {x : Except ε α} {fault : ε} {P : Prop} (h : Except.FailsIff x fault P) {a : α}
    (hx : x = .ok a) : ¬P := by
  intro hP
  rw [(h fault).mpr ⟨hP, rfl⟩] at hx
  cases hx

theorem bind {x : Except ε α} {f : α → Except ε β} {fault : ε} {P Q : Prop}
    (hx : Except.FailsIff x fault P) (hf : ∀ a, Except.FailsIff (f a) fault Q) :
    Except.FailsIff (x >>= f) fault (P ∨ Q) := by
  intro other
  rw [or_and_right, ← hx other]
  cases x with
  | error first =>
    -- The first fault is the fault of all, so what would follow adds nothing.
    have hfirst : first = fault := ((hx first).mp rfl).2
    show Except.error first = .error other ↔ _
    rw [Except.error.injEq, Except.error.injEq, hfirst]
    constructor
    · exact .inl
    · rintro (h | ⟨_, h⟩)
      · exact h
      · exact h.symm
  | ok a =>
    show f a = .error other ↔ _
    rw [hf a other]
    simp

theorem map {x : Except ε α} {fault : ε} {P : Prop} (hx : Except.FailsIff x fault P)
    (f : α → β) : Except.FailsIff (f <$> x) fault P := by
  intro other
  rw [← hx other]
  cases x with
  | error first =>
    show Except.error first = .error other ↔ _
    rw [Except.error.injEq, Except.error.injEq]
  | ok a => exact iff_of_false nofun nofun

end Except.FailsIff

end GrantKeeper
