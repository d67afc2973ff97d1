/-
Options of a command line: which argument is one, and what a line of arguments says.

An option is an argument that begins with a sign. What it is set to follows it as an argument of its
own or is attached to it. Options of one letter that are set to nothing can share an argument.
-/
import GrantKeeper.Config.Source
import GrantKeeper.Text.Digit

namespace GrantKeeper

/-- What an option does. -/
inductive OptionUse where
  /-- It asks for help, which ends the program. -/
  | help
  /-- It sets something to a text. -/
  | value (setting : String)
  /-- It sets something that holds or does not. -/
  | switch (setting : String) (holds : Bool)
  deriving DecidableEq, Repr

/-- The options there are. -/
structure OptionTable where
  /-- The characters that options begin with. -/
  signs : List Char
  /-- The names of options, signs included, and what they do. -/
  uses : List (String × OptionUse)
  /-- What a line that cannot be read amounts to. -/
  unreadable : SourceFault

/-- A text attached to an option, with an equals sign between them or without. -/
structure Attachment where
  byEquals : Bool
  text : List Char
  deriving DecidableEq, Repr

/-- What an argument is. -/
inductive Mark where
  /-- One that an option can be set to. -/
  | word
  /-- The one behind which there are no options. -/
  | separator
  /-- An option by its name. -/
  | option (name : List Char) (use : OptionUse) (attached : Option Attachment)
  /-- An option that there is not. -/
  | unknown
  deriving DecidableEq, Repr

namespace OptionTable

/-! ## Marks -/

/-- Whether a text looks like a negative number, at the end of a line or not. -/
def looksNegative (cs : List Char) : Bool :=
  let isDigit (c : Char) : Bool := (Text.decimalValue? c).isSome
  let isRun (ds : List Char) : Bool := !ds.isEmpty && ds.all isDigit
  let line := if cs.getLast? = some '\n' then cs.dropLast else cs
  match line with
  | '-' :: rest =>
    match rest.dropWhile isDigit with
    | [] => isRun rest
    | '.' :: fraction => isRun fraction
    | _ => false
  | _ => false

/-- The options that a text with one sign at its beginning can be: one of a letter with the rest
attached, or one that begins with the text. -/
def shortMatches (table : OptionTable) (cs : List Char) : List Mark :=
  table.uses.filterMap fun (name, use) =>
    if name.toList = cs.take 2 then some (.option name.toList use (some ⟨false, cs.drop 2⟩))
    else if cs.isPrefixOf name.toList then some (.option name.toList use none)
    else none

/-- What a text is that begins with a sign and is no option as a whole. -/
def markSigned (table : OptionTable) (cs : List Char) : Except SourceFault Mark :=
  let name := cs.takeWhile (· ≠ '=')
  match cs.dropWhile (· ≠ '='), table.uses.lookup (String.ofList name) with
  | _ :: text, some use => .ok (.option name use (some ⟨true, text⟩))
  | _, _ =>
    let isDouble := (cs.drop 1).head?.any table.signs.contains
    match if isDouble then [] else table.shortMatches cs with
    | [mark] => .ok mark
    | _ :: _ :: _ => .error table.unreadable
    | [] =>
      let isNumber := looksNegative cs && !table.uses.any fun option => looksNegative option.1.toList
      .ok (if isNumber || cs.contains ' ' then .word else .unknown)

def markText (table : OptionTable) (s : String) : Except SourceFault Mark :=
  match s.toList, table.uses.lookup s with
  | [], _ => .ok .word
  | c :: rest, use =>
    if !table.signs.contains c then .ok .word
    else
      match use with
      | some use => .ok (.option (c :: rest) use none)
      | none => if rest.isEmpty then .ok .word else table.markSigned (c :: rest)

/-- What an argument is. One that is no text has to count as nothing. -/
def mark (table : OptionTable) : Claim → Except SourceFault Mark
  | .text s => table.markText s
  | .map (_ :: _) => .error .mapGiven
  | value => if value.truthy then .error .notText else .ok .word

def marked (table : OptionTable) : List Claim → Except SourceFault (List (Claim × Mark))
  | [] => .ok []
  | .text "--" :: rest => .ok ((.text "--", .separator) :: rest.map fun arg => (arg, .word))
  | arg :: rest => do
    let first ← table.mark arg
    return (arg, first) :: (← table.marked rest)

/-! ## Reading -/

/-- What an option leads to when it is complete. -/
inductive Act where
  | help
  | put (setting : String) (value : Claim)

/-- What remains of an argument when the options in it are read. -/
inductive Remainder where
  | nothing
  /-- A setting whose text is the next argument. -/
  | value (setting : String)
  /-- A text that is no option. -/
  | text (cs : List Char)

/-- An option without anything attached. -/
def bare : OptionUse → List Act × Remainder
  | .help => ([.help], .nothing)
  | .value setting => ([], .value setting)
  | .switch setting holds => ([.put setting (.bool holds)], .nothing)

/-- An option with a text attached. One that is set to nothing takes none, but if it has one letter,
others of one letter can follow it. -/
def withText (table : OptionTable) (name : List Char) (use : OptionUse) (byEquals : Bool) :
    List Char → Except SourceFault (List Act × Remainder)
  | [] =>
    match use with
    | .value setting => .ok ([.put setting (.text "")], .nothing)
    | _ => .error table.unreadable
  | c :: rest =>
    let acts := (bare use).1
    let isShort := !(name.drop 1).head?.any table.signs.contains
    let next := [name.headD c, c]
    match use with
    | .value setting => .ok ([.put setting (.text (String.ofList (c :: rest)))], .nothing)
    | _ =>
      if !isShort || byEquals || table.signs.contains c then .error table.unreadable
      else
        match table.uses.lookup (String.ofList next) with
        | none => .ok (acts, .text (name.headD c :: c :: rest))
        | some use =>
          let joined : List Act × Remainder → List Act × Remainder := fun (more, remainder) =>
            (acts ++ more, remainder)
          match rest with
          | [] => .ok (joined (bare use))
          | '=' :: behind => joined <$> table.withText next use true behind
          | d :: behind => joined <$> table.withText next use false (d :: behind)

/-- What a line of arguments says: what is set, and the arguments that are no part of this. -/
structure Reading where
  settings : Claims
  others : List Claim

def Reading.after (reading : Reading) : List Act → Except SourceFault Reading
  | [] => .ok reading
  | .help :: _ => .error .ended
  | .put setting value :: rest =>
    Reading.after { reading with settings := reading.settings.put setting value } rest

/-- A reading with one more argument that sets nothing. -/
def Reading.besides (reading : Reading) (arg : Claim) : Reading :=
  { reading with others := reading.others ++ [arg] }

/-- What the options in one argument lead to. -/
def optionActs (table : OptionTable) (name : List Char) (use : OptionUse) :
    Option Attachment → Except SourceFault (List Act × Remainder)
  | none => .ok (bare use)
  | some attached => table.withText name use attached.byEquals attached.text

/-- What arguments say after a reading. -/
def readMarked (table : OptionTable) :
    List (Claim × Mark) → Reading → Except SourceFault Reading
  | [], reading => .ok reading
  | (arg, mark) :: rest, reading =>
    match mark with
    | .option name use attached =>
      match table.optionActs name use attached with
      | .error fault => .error fault
      | .ok (acts, .nothing) => (reading.after acts).bind (table.readMarked rest)
      | .ok (acts, .text cs) =>
        (reading.after acts).bind fun reading =>
          table.readMarked rest (reading.besides (.text (String.ofList cs)))
      | .ok (acts, .value setting) =>
        match rest with
        | (value, .word) :: behind =>
          (reading.after (acts ++ [.put setting value])).bind (table.readMarked behind)
        | _ => .error table.unreadable
    | _ => table.readMarked rest (reading.besides arg)

/-- What a line of arguments says. -/
def read (table : OptionTable) (args : List Claim) : Except SourceFault Reading := do
  table.readMarked (← table.marked args) ⟨[], []⟩

end OptionTable
end GrantKeeper
