/-
The tables of a database: the table of authorizations, and the migration that makes it.
-/
import GrantKeeper.Store.Column

namespace GrantKeeper

/-- A table: its name, columns, primary key and the columns of its indexes. -/
structure Table where
  name : String
  columns : List Column
  primaryKey : List Column
  indexes : List (String × List Column)
  deriving DecidableEq

namespace Table

def authorizations : Table where
  name := "oauth2_authorization"
  columns := Column.all
  primaryKey := [.id]
  indexes := [("idx_oauth2_authorization_state", [.state])]

/-- The name of the table in which migrations are kept. -/
def migrations : String := "alembic_version"

end Table

/-- A step to or from a revision of the schema. -/
inductive Migration where
  | upgrade
  | downgrade
  deriving DecidableEq, Repr

namespace Migration

/-- The revision that the migration leads to. -/
def revision : String := "202610170001"

/-- The revision before it: none. -/
def before : Option String := none

/-- The tables after a step. A table is made only where there is none of its name, and dropped only
where there is one. -/
def apply (tables : List Table) : Migration → Option (List Table)
  | .upgrade =>
    if tables.any (·.name == Table.authorizations.name) then none
    else some (tables ++ [Table.authorizations])
  | .downgrade =>
    if tables.any (·.name == Table.authorizations.name) then
      some (tables.filter (·.name != Table.authorizations.name))
    else none

end Migration
end GrantKeeper
