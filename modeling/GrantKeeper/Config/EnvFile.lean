/-
Files of settings: a line gives a name and a value, which may be quoted and may refer to other names.

A line that cannot be read is passed over. Within quotes a backslash before a quote keeps it from
closing the value, unless there is no other quote to do so.
-/
import GrantKeeper.Text.Blank

namespace GrantKeeper
namespace EnvFile

open Text

/-- A name and its value. A name without an equals sign has none. -/
abbrev Binding := String × Option String

/-- A part of a line that was read, with the text behind it, or the text at which reading failed. -/
abbrev Scan (α : Type) := Except (List Char) (α × List Char)

/-- The text with every line end written as a line feed. -/
def withLineFeeds : List Char → List Char
  | '\r' :: '\n' :: rest => '\n' :: withLineFeeds rest
  | '\r' :: rest => '\n' :: withLineFeeds rest
  | c :: rest => c :: withLineFeeds rest
  | [] => []

/-- Whether a character is a blank inside a line. -/
def isInlineBlank (c : Char) : Bool :=
  isBlank c && c != '\n'

/-- The text after the blanks that begin it and do not end the line. -/
def skipBlanks (cs : List Char) : List Char :=
  cs.dropWhile isInlineBlank

/-! ## Names -/

/-- The text after the word `export`, where it begins a line. -/
def skipExport (cs : List Char) : List Char :=
  let word := "export".toList
  if word.isPrefixOf cs && (cs.drop word.length).head?.any isInlineBlank then
    skipBlanks (cs.drop word.length)
  else cs

/-- The name that begins a text; none before a comment. -/
def name (cs : List Char) : Scan (Option String) :=
  let bare := fun c : Char => !(c == '=' || c == '#' || isBlank c)
  match cs with
  | '#' :: _ => .ok (none, cs)
  | '\x27' :: rest =>
    match rest.takeWhile (· != '\x27'), rest.dropWhile (· != '\x27') with
    | c :: name, _ :: behind => .ok (some (String.ofList (c :: name)), behind)
    | _, _ => .error cs
  | _ =>
    match cs.takeWhile bare with
    | [] => .error cs
    | name => .ok (some (String.ofList name), cs.dropWhile bare)

/-! ## Values -/

/-- The text up to the first quote that no backslash precedes, and the text behind that quote. -/
def toBareQuote? (quote : Char) : Bool → List Char → Option (List Char × List Char)
  | _, [] => none
  | escaped, c :: rest =>
    if c = quote ∧ escaped = false then some ([], rest)
    else (toBareQuote? quote (c == '\\') rest).map fun (value, behind) => (c :: value, behind)

/-- The text up to the last quote, and the text behind it. -/
def toLastQuote? (quote : Char) : List Char → Option (List Char × List Char)
  | [] => none
  | c :: rest =>
    match toLastQuote? quote rest with
    | some (value, behind) => some (c :: value, behind)
    | none => if c = quote then some ([], rest) else none

/-- The value in quotes, from behind the opening one. -/
def quotedValue? (quote : Char) (cs : List Char) : Option (List Char × List Char) :=
  (toBareQuote? quote false cs).or (toLastQuote? quote cs)

/-- What a backslash and a character stand for within single quotes. -/
def singleEscape? : Char → Option Char
  | '\\' => some '\\'
  | '\x27' => some '\x27'
  | _ => none

/-- What a backslash and a character stand for within double quotes. -/
def doubleEscape? : Char → Option Char
  | '\\' => some '\\'
  | '\x27' => some '\x27'
  | '\x22' => some '\x22'
  | 'a' => some '\x07'
  | 'b' => some '\x08'
  | 'f' => some '\x0C'
  | 'n' => some '\n'
  | 'r' => some '\r'
  | 't' => some '\t'
  | 'v' => some '\x0B'
  | _ => none

/-- The text with its escapes replaced. -/
def unescaped (escape? : Char → Option Char) : List Char → List Char
  | '\\' :: c :: rest =>
    match escape? c with
    | some e => e :: unescaped escape? rest
    | none => '\\' :: unescaped escape? (c :: rest)
  | c :: rest => c :: unescaped escape? rest
  | [] => []

/-- The line without a comment that blanks precede. -/
def withoutComment : List Char → List Char
  | [] => []
  | c :: rest =>
    if isBlank c && (rest.dropWhile isBlank).head? == some '#' then [] else c :: withoutComment rest

/-- The value that begins a text, from behind the equals sign. -/
def value (cs : List Char) : Scan String :=
  let quoted (quote : Char) (escape? : Char → Option Char) (rest : List Char) : Scan String :=
    match quotedValue? quote rest with
    | some (value, behind) => .ok (String.ofList (unescaped escape? value), behind)
    | none => .error cs
  match skipBlanks cs with
  | '\x27' :: rest => quoted '\x27' singleEscape? rest
  | '\x22' :: rest => quoted '\x22' doubleEscape? rest
  | _ =>
    let bare := trimWhere isBlank (withoutComment (cs.takeWhile (· != '\n')))
    .ok (String.ofList bare, cs.dropWhile (· != '\n'))

/-! ## Lines -/

/-- The text after a comment and the end of the line, if nothing else is in the way. -/
def endOfLine (cs : List Char) : Scan Unit :=
  let rest :=
    match skipBlanks cs with
    | '#' :: comment => comment.dropWhile (· != '\n')
    | rest => rest
  match rest with
  | [] => .ok ((), [])
  | '\n' :: behind => .ok ((), behind)
  | _ => .error rest

/-- The value behind a name, if an equals sign follows it. -/
def assigned (cs : List Char) : Scan (Option String) :=
  match skipBlanks cs with
  | '=' :: rest => (value rest).map fun (v, behind) => (some v, behind)
  | rest => .ok (none, rest)

/-- The binding that begins a text; none in a line of its own comment. -/
def binding (cs : List Char) : Except (List Char) (Option Binding × List Char) := do
  let (key, behindName) ← name (skipExport cs)
  let (v, behindValue) ← assigned behindName
  let ((), rest) ← endOfLine behindValue
  return (key.map (·, v), rest)

/-- The bindings of a text, in at most `fuel` lines. -/
def bindingsWithin : Nat → List Char → List Binding
  | 0, _ => []
  | fuel + 1, cs =>
    match cs.dropWhile isBlank with
    | [] => []
    | cs =>
      match binding cs with
      | .ok (some b, rest) => b :: bindingsWithin fuel rest
      | .ok (none, rest) => bindingsWithin fuel rest
      | .error rest => bindingsWithin fuel (rest.dropWhile (· != '\n')).tail

/-- The text without the mark of its byte order at the start. -/
def withoutMark : List Char → List Char
  | '\uFEFF' :: rest => rest
  | cs => cs

/-- The bindings of a file in the order of their lines. Each line takes a character at least. -/
def bindings (s : String) : List Binding :=
  let cs := withLineFeeds (withoutMark s.toList)
  bindingsWithin (cs.length + 1) cs

/-! ## References -/

/-- A reference that begins a text behind its dollar sign and opening brace: the name, what it
stands for where the name has no value, and the text behind. -/
def reference? (cs : List Char) : Option (String × String × List Char) :=
  let name := String.ofList (cs.takeWhile fun c => c != '\x7d' && c != ':')
  match cs.dropWhile fun c => c != '\x7d' && c != ':' with
  | '\x7d' :: rest => some (name, "", rest)
  | ':' :: '-' :: rest =>
    match rest.dropWhile (· != '\x7d') with
    | _ :: behind => some (name, String.ofList (rest.takeWhile (· != '\x7d')), behind)
    | [] => none
  | _ => none

/-- The text with its references replaced, in at most `fuel` steps. -/
def expandWithin (lookup : String → Option String) : Nat → List Char → List Char
  | 0, cs => cs
  | _ + 1, [] => []
  | fuel + 1, c :: rest =>
    match c, rest with
    | '$', '\x7b' :: behind =>
      match reference? behind with
      | some (name, otherwise, rest) =>
        ((lookup name).getD otherwise).toList ++ expandWithin lookup fuel rest
      | none => c :: expandWithin lookup fuel rest
    | _, _ => c :: expandWithin lookup fuel rest

/-- The text with its references replaced. -/
def expand (lookup : String → Option String) (s : String) : String :=
  String.ofList (expandWithin lookup s.toList.length s.toList)

/-- The list with a value under a name: in the place of the value before, or at the end. -/
def put (name : String) (value : Option String) : List Binding → List Binding
  | [] => [(name, value)]
  | (n, v) :: rest => if n = name then (name, value) :: rest else (n, v) :: put name value rest

/-- The bindings with their references replaced. A reference takes the last value given above it,
or else that of the environment; of several values of one name the last counts. -/
def resolve (environment : List (String × String)) (bindings : List Binding) : List Binding :=
  bindings.foldl (fun resolved (name, value) =>
    let lookup (name : String) : Option String :=
      match resolved.lookup name with
      | some value => some (value.getD "")
      | none => environment.lookup name
    put name (value.map (expand lookup)) resolved) []

end EnvFile
end GrantKeeper
