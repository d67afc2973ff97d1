/-
Claim maps as stored text: strict reading, which fails, and lenient reading, which reports an
unreadable text to the journal and goes on with an empty map.
-/
import GrantKeeper.Journal
import GrantKeeper.Json.Reader
import GrantKeeper.Json.Writer
import GrantKeeper.Text.Blank

namespace GrantKeeper

/-- The name of a claim's kind, as a report about text of the wrong kind gives it. -/
def Claim.kindName : Claim → String
  | .null => "NoneType"
  | .bool _ => "bool"
  | .int _ => "int"
  | .real _ => "float"
  | .text _ => "str"
  | .time _ => "datetime"
  | .binary _ => "bytes"
  | .handle => "object"
  | .list _ => "list"
  | .set _ => "set"
  | .map _ => "dict"

/-- Why text holds no claim map. -/
inductive DecodeFault where
  | malformed (fault : ReadFault)
  | notMap (kind : String)
  deriving DecidableEq, Repr

/-- The report about the text of a field. -/
def DecodeFault.message (field : String) : DecodeFault → String
  | .malformed fault => s!"Malformed JSON in field '{field}': {fault.message}"
  | .notMap kind => s!"Field '{field}' must hold a JSON object, got {kind}"

/-- The fault a field's unreadable text amounts to. An integer that is too long is no matter of the
text's form. -/
def DecodeFault.fault (field : String) : DecodeFault → Fault
  | .malformed .oversized => .oversizedInteger
  | fault => .failure (.serialization field (some (fault.message field)))

namespace Claims

/-- The claim map a text holds; a blank text holds the empty one. -/
def ofJson (s : String) : Except DecodeFault Claims :=
  if Text.isBlankText s then .ok []
  else
    match Json.parse s with
    | .error fault => .error (.malformed fault)
    | .ok (.map entries) => .ok entries
    | .ok claim => .error (.notMap claim.kindName)

def encode (claims : Claims) (field : String) : Except Fault String :=
  match claims.toJson with
  | .ok text => .ok text
  | .error fault =>
    .error (.failure (.serialization field
      (some s!"Unable to encode field '{field}': {fault.message}")))

/-- The claim map of a field's text, which has to be readable. No text holds the empty map. -/
def decodeStrict (text : Option String) (field : String) : Except Fault Claims :=
  match text with
  | none => .ok []
  | some s =>
    match ofJson s with
    | .ok claims => .ok claims
    | .error fault => .error (fault.fault field)

/-- The claim map of a field's stored text. Unreadable text is reported and counts as empty, so that
one damaged column does not keep the rest from being read. -/
def decode (text : Option String) (field : String) : Traced Claims :=
  match decodeStrict text field with
  | .ok claims => pure claims
  | .error (.failure failure) => do
    Traced.note .warning s!"Discarding unreadable {field}: {failure.message}"
    pure []
  | .error fault => Traced.fault fault

end Claims
end GrantKeeper
