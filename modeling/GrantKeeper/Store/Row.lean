/-
Rows of the table of authorizations: one for an authorization, all its tokens included.
-/
import GrantKeeper.Claim.Basic
import GrantKeeper.Store.Column

namespace GrantKeeper

/-- The columns of one slot. Times are readings of the clock of UTC. -/
structure TokenColumns where
  value : Option ByteArray
  issuedAt : Option Moment
  expiresAt : Option Moment
  metadata : Option String

/-- The columns of a slot without a token. -/
def TokenColumns.empty : TokenColumns := ⟨none, none, none, none⟩

/-- A row. -/
structure Row where
  id : String
  registeredClientId : String
  principalName : String
  grantType : String
  attributes : Option String
  state : Option String
  tokens : Slot → TokenColumns
  accessType : Option String
  accessScopes : Option String

namespace Row

/-- A short description of a row. -/
def label (row : Row) : String :=
  s!"<OAuth2AuthorizationRow(id='{row.id}', registered_client_id='{row.registeredClientId}', " ++
    s!"principal_name='{row.principalName}')>"

def setToken (row : Row) (slot : Slot) (columns : TokenColumns) : Row :=
  { row with tokens := fun s => if s = slot then columns else row.tokens s }

/-! ## Single columns -/

/-- Text or null as a value. -/
def textCell : Option String → Claim
  | some s => .text s
  | none => .null

/-- A time or null as a value. -/
def timeCell : Option Moment → Claim
  | some m => .time (.naive m)
  | none => .null

def get (row : Row) : Column → Claim
  | .id => .text row.id
  | .registeredClientId => .text row.registeredClientId
  | .principalName => .text row.principalName
  | .grantType => .text row.grantType
  | .attributes => textCell row.attributes
  | .state => textCell row.state
  | .value slot =>
    match (row.tokens slot).value with
    | some data => .binary data
    | none => .null
  | .issuedAt slot => timeCell (row.tokens slot).issuedAt
  | .expiresAt slot => timeCell (row.tokens slot).expiresAt
  | .metadata slot => textCell (row.tokens slot).metadata
  | .accessType => textCell row.accessType
  | .accessScopes => textCell row.accessScopes

/-- A value as that of a text column. -/
def textOf? : Claim → Option (Option String)
  | .null => some none
  | .text s => some (some s)
  | _ => none

/-- A value as that of a time column. -/
def timeOf? : Claim → Option (Option Moment)
  | .null => some none
  | .time t => some (some t.wall)
  | _ => none

/-- A value as that of a binary column. -/
def dataOf? : Claim → Option (Option ByteArray)
  | .null => some none
  | .binary data => some (some data)
  | _ => none

/-- The row with another value in a column, if the value is of the column's type. -/
def set? (row : Row) (column : Column) (value : Claim) : Option Row :=
  match column with
  | .id => (textOf? value).join.map fun s => { row with id := s }
  | .registeredClientId => (textOf? value).join.map fun s => { row with registeredClientId := s }
  | .principalName => (textOf? value).join.map fun s => { row with principalName := s }
  | .grantType => (textOf? value).join.map fun s => { row with grantType := s }
  | .attributes => (textOf? value).map fun s => { row with attributes := s }
  | .state => (textOf? value).map fun s => { row with state := s }
  | .value slot => (dataOf? value).map fun d =>
    row.setToken slot { row.tokens slot with value := d }
  | .issuedAt slot => (timeOf? value).map fun t =>
    row.setToken slot { row.tokens slot with issuedAt := t }
  | .expiresAt slot => (timeOf? value).map fun t =>
    row.setToken slot { row.tokens slot with expiresAt := t }
  | .metadata slot => (textOf? value).map fun s =>
    row.setToken slot { row.tokens slot with metadata := s }
  | .accessType => (textOf? value).map fun s => { row with accessType := s }
  | .accessScopes => (textOf? value).map fun s => { row with accessScopes := s }

/-- The columns that are not null, under their names. -/
def filled (row : Row) : List (String × Claim) :=
  (Column.all.map fun column => (column.name, row.get column)).filter fun
    | (_, .null) => false
    | _ => true

end Row
end GrantKeeper
