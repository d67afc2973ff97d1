/-
Arguments as a source of settings: the rules by which they are read, and the options that follow
from these.
-/
import GrantKeeper.Config.Option
import GrantKeeper.Text.Blank
import GrantKeeper.Text.Case

namespace GrantKeeper

/-- How settings that hold or do not are set. -/
inductive SwitchStyle where
  /-- To a text, as others are. -/
  | byText
  /-- By one option for each of both. -/
  | byBoth
  /-- By an option for what they are not by themselves. -/
  | byChange
  deriving DecidableEq, Repr

/-- How arguments are read. -/
structure ArgumentRules where
  /-- Whether the case of the letters of a name counts. -/
  caseSensitive : Bool
  /-- What the names of options begin with, before those of the settings. -/
  stem : String
  /-- The characters that are the sign of an option. It is written twice, or once before one
  letter. -/
  sign : List Char
  /-- The text that stands for null. -/
  nullText : Option String
  /-- Whether names have hyphens for underscores. -/
  hyphens : Bool
  switchStyle : SwitchStyle
  /-- Other names for options. -/
  shortcuts : List (String × List String)
  /-- Whether arguments that set nothing are passed over. -/
  lenient : Bool
  /-- Whether a line that cannot be read ends the program. -/
  endsProgram : Bool

namespace ArgumentRules

/-! ## Rules among given values -/

/-- The text that stands for null: that of the environment, if there is one. -/
def nullTextOf (given : Claims) : Option String :=
  let own : Option String :=
    match given.get? "_cli_avoid_json" with
    | some (.bool true) => some "None"
    | _ => some "null"
  let ofValue (value : Claim) (otherwise : Option String) : Option String :=
    match value with
    | .text s => if s = "" then otherwise else some s
    | value => if value.truthy then none else otherwise
  let valueOf (name : String) : Claim := (given.get? name).getD .null
  ofValue (valueOf "_env_parse_none_str") (ofValue (valueOf "_cli_parse_none_str") own)

/-- What names of options begin with: names with points between them, and a point. -/
def stemOf (given : Claims) : Except SourceFault String :=
  match given.get? "_cli_prefix" with
  | some (.text s) =>
    let isPoint (c : Char) : Bool := c = '.'
    let cs := s.toList
    let letters := cs.filter (!isPoint ·)
    let isName := letters.all Text.isWord && letters.head?.any fun c => c = '_' || Text.isLetter c
    if s = "" then .ok ""
    else if cs.head?.any isPoint || cs.getLast?.any isPoint || !isName then .error .rejected
    else .ok (s ++ ".")
  | _ => .ok ""

def signOf (given : Claims) : Except SourceFault (List Char) :=
  match given.get? "_cli_flag_prefix_char" with
  | some (.text s) => if s = "" then .error .noSign else .ok s.toList
  | _ => .ok ['-']

/-- Other names for options. -/
def shortcutsOf (given : Claims) : List (String × List String) :=
  let text? : Claim → Option String
    | .text s => some s
    | _ => none
  match given.get? "_cli_shortcuts" with
  | some (.map entries) => entries.map fun (name, value) =>
    match value with
    | .list items => (name, items.filterMap text?)
    | value => (name, (text? value).toList)
  | _ => []

/-- How switches are set. -/
def switchStyleOf (given : Claims) : SwitchStyle :=
  match given.get? "_cli_implicit_flags" with
  | some (.text "toggle") => .byChange
  | some value => if value.truthy then .byBoth else .byText
  | none => .byText

/-- The rules among given values. One that is null or left out is as it is by itself. -/
def ofGiven (given : Claims) (caseSensitive : Bool) : Except SourceFault ArgumentRules := do
  let stem ← stemOf given
  let sign ← signOf given
  let holds (name : String) (otherwise : Bool) : Bool :=
    match given.get? name with
    | none | some .null => otherwise
    | some value => value.truthy
  return {
    caseSensitive, stem, sign
    nullText := nullTextOf given
    hyphens := holds "_cli_kebab_case" false
    switchStyle := switchStyleOf given
    shortcuts := shortcutsOf given
    lenient := holds "_cli_ignore_unknown_args" false
    endsProgram := holds "_cli_exit_on_error" true }

/-! ## Options -/

/-- The names of the options for a setting, without signs. There are none if the first is taken. -/
def optionNames (rules : ArgumentRules) (taken : List String) (setting : String) : List String :=
  let whole := rules.stem ++ if rules.caseSensitive then setting else Text.lower setting
  let hyphen (c : Char) : Char := if c = '_' then '-' else c
  let name := if rules.hyphens then String.ofList (whole.toList.map hyphen) else whole
  if taken.contains name then []
  else rules.shortcuts.foldl (fun names (target, others) =>
    if names.contains target then names ++ others.filter (!taken.contains ·) else names) [name]

/-- A name with its sign. `mark` stands between them if the name has more than one letter. -/
def signed (rules : ArgumentRules) (mark name : String) : String :=
  match name.toList with
  | [c] => String.ofList (rules.sign.take 1 ++ [c])
  | cs => String.ofList (rules.sign ++ rules.sign ++ mark.toList ++ cs)

/-- The options by which a setting is set. `holds` says of a switch whether it holds by itself. -/
def optionsFor (rules : ArgumentRules) (setting : String) (holds : Option Bool)
    (names : List String) : List (String × OptionUse) :=
  match rules.switchStyle, holds with
  | .byBoth, some _ =>
    let positive := names.map (rules.signed "")
    let negative := positive.filterMap fun name =>
      if "--".toList.isPrefixOf name.toList then some ("--no-" ++ (name.drop 2).toString) else none
    -- A name that begins with the negation switches off, whatever it was made of.
    let isNegative (name : String) : Bool := "--no-".toList.isPrefixOf name.toList
    (positive ++ negative).map fun name => (name, .switch setting (!isNegative name))
  | .byChange, some holds =>
    let mark := if holds then "no-" else ""
    names.map fun name => (rules.signed mark name, .switch setting (!holds))
  | _, _ => names.map fun name => (rules.signed "" name, .value setting)

def helpOptions (rules : ArgumentRules) : List (String × OptionUse) :=
  let sign := if rules.sign.contains '-' then '-' else rules.sign.headD '-'
  [(String.ofList [sign, 'h'], .help), (String.ofList (sign :: sign :: "help".toList), .help)]

/-- The options for settings, beside some that there are. -/
def addOptions (rules : ArgumentRules) :
    List (String × Option Bool) → List String → List (String × OptionUse) →
    Except SourceFault (List (String × OptionUse))
  | [], _, uses => .ok uses
  | (setting, holds) :: rest, taken, uses =>
    let names := rules.optionNames taken setting
    let options := rules.optionsFor setting holds names
    if options.any fun option => (uses.lookup option.1).isSome then .error .clash
    else rules.addOptions rest (taken ++ names) (uses ++ options)

def table (rules : ArgumentRules) (settings : List (String × Option Bool)) :
    Except SourceFault OptionTable := do
  let uses ← rules.addOptions settings [] rules.helpOptions
  return ⟨rules.sign, uses, if rules.endsProgram then .ended else .rejected⟩

/-! ## Lines -/

/-- An argument as it is compared: the letters of the name of an option are small where their case
does not count, and the line ends with the first of its lines then. -/
def compared (rules : ArgumentRules) (arg : Claim) : Except SourceFault Claim :=
  if rules.caseSensitive then .ok arg
  else
    match arg with
    | .text s =>
      let cs := s.toList
      let isPart (c : Char) : Bool := !Text.isBlank c && c != '='
      let name := cs.takeWhile isPart
      if cs.head? = rules.sign.head? && 2 ≤ name.length then
        let behind := (cs.dropWhile isPart).takeWhile (· ≠ '\n')
        .ok (.text (Text.lower (String.ofList name) ++ String.ofList behind))
      else .ok arg
    | value => if value.truthy then .error .notText else .ok (.text "")

/-- What a setting is set to: nothing by null, and an empty list counts as its text. -/
def held (rules : ArgumentRules) : Claim → Option Claim
  | .null => none
  | .list _ => some (.text "[]")
  | .text s => some (if rules.nullText = some s then .null else .text s)
  | value => some value

def fields (rules : ArgumentRules) (settings : List (String × Option Bool)) (args : List Claim) :
    Except SourceFault Claims := do
  let table ← rules.table settings
  let reading ← table.read (← args.mapM rules.compared)
  let isText : Claim → Bool
    | .text _ => true
    | _ => false
  if !rules.lenient && !reading.others.isEmpty then
    throw (if reading.others.all isText then table.unreadable else .notText)
  return reading.settings.filterMap fun (name, value) => (rules.held value).map (name, ·)

/-- The settings in the arguments among given values. False stands for arguments that are not looked
at; anything else but a list is rejected. -/
def givenFields (given : Claims) (caseSensitive : Bool) (settings : List (String × Option Bool)) :
    Except SourceFault Claims := do
  match given.get? "_cli_parse_args" with
  | none | some .null => return []
  | some args =>
    let rules ← ofGiven given caseSensitive
    match args with
    | .list args => rules.fields settings args
    | .bool _ => rules.fields settings []
    | value =>
      let _ ← rules.table settings
      if value.same (.bool false) then return [] else throw .rejected

end ArgumentRules
end GrantKeeper
