/-
Sessions: units of work on one row of the table.

A session has a row in hand, the one of an id or a new one, and the columns are assigned to that row
one after another. What was assigned before a fault stays assigned, but only to the row in hand: it
reaches the table when the session commits, and rolling back gives it up.
-/
import GrantKeeper.Store.Basic
import GrantKeeper.Store.Written

namespace GrantKeeper

/-! ## Assignments -/

/-- The assignment of a column: a change of the row in hand, or why there is nothing to assign. -/
abbrev Assignment := Except Fault (Row → Row)

/-- Assignments in turn, up to the first that fails. The row comes back either way. -/
def Row.assignAll : List Assignment → Row → Row × Except Fault Unit
  | [], row => (row, .ok ())
  | .ok change :: rest, row => assignAll rest (change row)
  | .error fault :: _, row => (row, .error fault)

/-- A new row with nothing assigned but its id. -/
def Row.blank (id : String) : Row where
  id := id
  registeredClientId := ""
  principalName := ""
  grantType := ""
  attributes := none
  state := none
  tokens := fun _ => .empty
  accessType := none
  accessScopes := none

/-- A row with the columns of a slot changed. -/
def Row.changeToken (slot : Slot) (change : TokenColumns → TokenColumns) (row : Row) : Row :=
  row.setToken slot (change (row.tokens slot))

namespace Authorization

/-- The metadata column of a slot, null for one without a token. -/
def metadataColumn (a : Authorization) (slot : Slot) : Except Fault (Option String) :=
  match a.tokens slot with
  | some token => some <$> token.foldedMetadata.encode (Column.metadata slot).name
  | none => .ok none

/-- The assignments to the columns of a slot. -/
def slotAssignments (a : Authorization) (slot : Slot) : List Assignment :=
  let token := a.tokens slot
  [.ok (Row.changeToken slot fun c => { c with value := token.map (·.value.toUTF8) }),
    .ok (Row.changeToken slot fun c => { c with issuedAt := token.bind (·.issuedAt) }),
    .ok (Row.changeToken slot fun c => { c with expiresAt := token.bind (·.expiresAt) }),
    (a.metadataColumn slot).map fun text =>
      Row.changeToken slot fun c => { c with metadata := text }]

/-- The assignments that an authorization is written by, in their order. -/
def assignments (a : Authorization) : List Assignment :=
  [.ok fun row => { row with registeredClientId := a.registeredClientId },
    .ok fun row => { row with principalName := a.principalName },
    .ok fun row => { row with grantType := a.grantType },
    (a.attributes.encode Column.attributes.name).map fun text row =>
      { row with attributes := some text },
    .ok fun row => { row with state := a.stateColumn }] ++
  Slot.all.flatMap a.slotAssignments ++
  [.ok fun row => { row with accessType := (a.tokens .access).bind (·.tokenType) },
    .ok fun row => { row with accessScopes := (a.tokens .access).map (·.scopes.toColumn) }]

end Authorization

/-! ## Sessions -/

/-- A session: the table as it is for everyone, and the row in hand. -/
structure Session where
  table : Store
  row : Row

namespace Session

/-- A session on the row of an id: the one in the table, or a new one. -/
def start (table : Store) (id : String) : Session :=
  ⟨table, (table.find? id).getD (.blank id)⟩

/-- The table with the row in hand written to it. -/
def commit (session : Session) : Store :=
  session.table.put session.row

/-- The table without what was done to the row in hand. -/
def rollback (session : Session) : Store :=
  session.table

/-- The table after assignments to the row in hand: committed if all of them were made. -/
def assign (session : Session) (assignments : List Assignment) : Store × Except Fault Unit :=
  match Row.assignAll assignments session.row with
  | (row, .ok ()) => (commit { session with row := row }, .ok ())
  | (row, .error fault) => (rollback { session with row := row }, .error fault)

end Session
end GrantKeeper
