/-
The columns of the table of authorizations: their order, names and types.
-/
import GrantKeeper.Grant.Slot
import GrantKeeper.Number.Decimal

namespace GrantKeeper

/-- The type of a column's values. The length of a text is declared and not enforced. -/
inductive ColumnType where
  | varchar (length : Nat)
  | text
  | blob
  | datetime
  deriving DecidableEq, Repr

/-- The name of a type in a table's definition. -/
def ColumnType.name : ColumnType → String
  | .varchar length => s!"VARCHAR({String.ofList (decimal length)})"
  | .text => "TEXT"
  | .blob => "BLOB"
  | .datetime => "DATETIME"

/-- A column. Every slot has four of its own, and the access slot two more. -/
inductive Column where
  | id
  | registeredClientId
  | principalName
  | grantType
  | attributes
  | state
  | value (slot : Slot)
  | issuedAt (slot : Slot)
  | expiresAt (slot : Slot)
  | metadata (slot : Slot)
  | accessType
  | accessScopes
  deriving DecidableEq, Repr

namespace Column

def ofSlot (slot : Slot) : List Column :=
  [.value slot, .issuedAt slot, .expiresAt slot, .metadata slot] ++
    if slot = .access then [.accessType, .accessScopes] else []

/-- The columns in the order of the table. -/
def all : List Column :=
  [.id, .registeredClientId, .principalName, .grantType, .attributes, .state] ++
    Slot.all.flatMap ofSlot

def name : Column → String
  | .id => "id"
  | .registeredClientId => "registered_client_id"
  | .principalName => "principal_name"
  | .grantType => "authorization_grant_type"
  | .attributes => "attributes"
  | .state => "state"
  | .value slot => slot.columnStem ++ "_value"
  | .issuedAt slot => slot.columnStem ++ "_issued_at"
  | .expiresAt slot => slot.columnStem ++ "_expires_at"
  | .metadata slot => slot.columnStem ++ "_metadata"
  | .accessType => "access_token_type"
  | .accessScopes => "access_token_scopes"

def ofName? (name : String) : Option Column :=
  all.find? (·.name == name)

def type : Column → ColumnType
  | .id | .registeredClientId | .grantType | .accessType => .varchar 100
  | .principalName => .varchar 200
  | .state => .varchar 500
  | .accessScopes => .varchar 1000
  | .attributes | .metadata _ => .text
  | .value _ => .blob
  | .issuedAt _ | .expiresAt _ => .datetime

/-- Whether a column may be null. -/
def nullable : Column → Bool
  | .id | .registeredClientId | .principalName | .grantType => false
  | _ => true

end Column
end GrantKeeper
