/-
Finding authorizations: by id, and by a text that is the state or the value of a token.

A lookup selects rows and loads the one it selects; of two or more it loads none.
-/
import GrantKeeper.Store.Basic
import GrantKeeper.Store.Loaded

namespace GrantKeeper

/-- An argument that has to hold more than blanks. -/
def requireText (s name : String) : Traced Unit :=
  if Text.isBlankText s then Traced.fail (.precondition s!"{name} cannot be empty") else pure ()

def Row.matchesHint (row : Row) (text : String) (hint : Hint) : Bool :=
  match hint.slot? with
  | none => row.state == some text
  | some slot => (row.tokens slot).value == some text.toUTF8

namespace Store

/-- The hints to search by. Without a hint these are all; a hint that cannot be searched by gives
none at all. -/
def searched? : Option String → Option (List Hint)
  | none => some Hint.all
  | some hint => (Hint.parse? hint).map ([·])

def selected (s : Store) (text : String) (hints : List Hint) : List Row :=
  s.rows.filter fun row => hints.any (row.matchesHint text)

/-- The authorization of the only row selected. -/
def loadOnly (directory : Directory) : List Row → Traced (Option Authorization)
  | [] => pure none
  | [row] => some <$> row.load directory
  | first :: second :: _ => do
    let ids := [first.id, second.id]
    Traced.note .error s!"Token lookup matched several authorizations: {quotedList ids}"
    Traced.fail (.ambiguousToken ids)

def findById (s : Store) (directory : Directory) (id : String) : Traced (Option Authorization) := do
  requireText id "id"
  loadOnly directory (s.find? id).toList

/-- The authorization that owns a text, looked for where the hint says. Id tokens are never looked
at. -/
def findByToken (s : Store) (directory : Directory) (text : String) (hint : Option String) :
    Traced (Option Authorization) := do
  requireText text "token"
  match searched? hint with
  | none => do
    let name := hint.getD ""
    Traced.note .debug s!"Token type hint '{name}' is not searchable"
    pure none
  | some hints => loadOnly directory (s.selected text hints)

end Store
end GrantKeeper
