/-
Options of an address: names and values in pairs, in percent coding, with an ampersand between them.
-/
import GrantKeeper.Config.Percent
import GrantKeeper.Text.Pieces

namespace GrantKeeper

/-- The options of an address in their order. A name can be there several times. -/
abbrev Query := List (String × String)

namespace Query

/-- What a written name or value stands for: a plus is a blank. Bytes that are no text stand for the
character that is put where one is missing. -/
def decode (cs : List Char) : String :=
  let blank (c : Char) : Char := if c = '+' then ' ' else c
  (Percent.decode? (String.ofList (cs.map blank))).getD "\uFFFD"

/-- The pair that a piece stands for: a name, an equals sign and a value. One without a value stands
for none. -/
def pair? (piece : List Char) : Option (String × String) :=
  match piece.dropWhile (· ≠ '=') with
  | _ :: c :: value => some (decode (piece.takeWhile (· ≠ '=')), decode (c :: value))
  | _ => none

/-- The options that a text stands for. -/
def parse (cs : List Char) : Query :=
  (Text.pieces '&' cs).filterMap pair?

def values (query : Query) (name : String) : List String :=
  (query.filter fun option => option.1 = name).map Prod.snd

end Query
end GrantKeeper
