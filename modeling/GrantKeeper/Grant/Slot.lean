/-
The four kinds of token that one authorization can hold, and the hints by which a caller may say
what a text is.
-/

namespace GrantKeeper

/-- A kind of token. An authorization has one slot for each. -/
inductive Slot where
  | code
  | access
  | id
  | refresh
  deriving DecidableEq, Repr

namespace Slot

/-- The slots in their order, in which tokens are looked for, written and read. -/
def all : List Slot := [.code, .access, .id, .refresh]

def name : Slot → String
  | .code => "authorization_code"
  | .access => "access_token"
  | .id => "id_token"
  | .refresh => "refresh_token"

def ofName? (name : String) : Option Slot :=
  all.find? (·.name == name)

/-- What the names of a slot's columns begin with. -/
def columnStem : Slot → String
  | .id => "oidc_id_token"
  | slot => slot.name

/-- Whether a token of this kind has to say when it was issued and when it expires. -/
def requiresExpiry : Slot → Bool
  | .code | .access => true
  | .id | .refresh => false

def table (code access id refresh : α) : Slot → α
  | .code => code
  | .access => access
  | .id => id
  | .refresh => refresh

/-- An effect for each slot, in the order of the slots. -/
def traverse [Applicative f] (effect : Slot → f α) : f (Slot → α) :=
  table <$> effect .code <*> effect .access <*> effect .id <*> effect .refresh

@[simp] theorem table_apply (g : Slot → α) :
    table (g .code) (g .access) (g .id) (g .refresh) = g := by
  funext slot
  cases slot <;> rfl

theorem mem_all (slot : Slot) : slot ∈ all := by
  cases slot <;> decide

/-- Slots in turn succeed exactly when each of them does. -/
theorem traverse_eq_ok_iff {effect : Slot → Except ε α} {g : Slot → α} :
    traverse effect = .ok g ↔ ∀ slot, effect slot = .ok (g slot) := by
  constructor
  · intro h
    unfold traverse at h
    cases hc : effect .code with
    | error e => rw [hc] at h; cases h
    | ok c =>
      cases ha : effect .access with
      | error e => rw [hc, ha] at h; cases h
      | ok a =>
        cases hi : effect .id with
        | error e => rw [hc, ha, hi] at h; cases h
        | ok i =>
          cases hr : effect .refresh with
          | error e => rw [hc, ha, hi, hr] at h; cases h
          | ok r =>
            rw [hc, ha, hi, hr] at h
            cases h
            intro slot
            cases slot <;> assumption
  · intro h
    unfold traverse
    rw [h .code, h .access, h .id, h .refresh]
    show Except.ok (table (g .code) (g .access) (g .id) (g .refresh)) = _
    rw [table_apply]

end Slot

/-- What a caller can say a text is when looking it up. -/
inductive Hint where
  | state
  | code
  | access
  | refresh
  deriving DecidableEq, Repr

namespace Hint

/-- The hints that can be searched by. -/
def all : List Hint := [.state, .code, .access, .refresh]

def name : Hint → String
  | .state => "state"
  | .code => "authorization_code"
  | .access => "access_token"
  | .refresh => "refresh_token"

/-- The hint a text stands for, if it can be searched by: its name, or the short form `code`. -/
def parse? (s : String) : Option Hint :=
  if s = "code" then some .code else all.find? (·.name == s)

def slot? : Hint → Option Slot
  | .state => none
  | .code => some .code
  | .access => some .access
  | .refresh => some .refresh

end Hint
end GrantKeeper
