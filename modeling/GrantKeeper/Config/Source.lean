/-
Sources of settings: what keeps one from being read, and the rules by which the environment and the
file of settings are.
-/
import GrantKeeper.Claim.Basic
import GrantKeeper.Config.Encoding
import GrantKeeper.Config.EnvFile
import GrantKeeper.Text.Case
import GrantKeeper.Text.Pieces

namespace GrantKeeper

/-- Why a source of settings cannot be read. -/
inductive SourceFault where
  /-- The program ends: help was asked for, or its arguments cannot be read. -/
  | ended
  /-- The source, or a rule by which it is read, is rejected. -/
  | rejected
  /-- Something is no text where it has to be one. -/
  | notText
  /-- An argument is a map. -/
  | mapGiven
  /-- Two options have one name. -/
  | clash
  /-- There is no sign for options to begin with. -/
  | noSign
  /-- There is no such encoding. -/
  | unknownEncoding
  /-- The file is not in its encoding. -/
  | undecodable
  deriving DecidableEq, Repr

/-- How the environment and the file of settings are read. -/
structure SourceRules where
  /-- Whether the case of the letters of a name counts. -/
  caseSensitive : Bool
  /-- What the names of settings begin with in both. -/
  stem : String
  /-- Whether that is so for the names the settings have of their own, which are all there are. -/
  stemsNames : Bool
  /-- Whether an empty value counts as none. -/
  skipsEmpty : Bool
  /-- The text that stands for null. -/
  nullText : Option String

namespace SourceRules

/-- The names of the rules, and of some that make no difference to settings of this kind. They are
given beside the settings. -/
def names : List String := [
  "_case_sensitive", "_env_prefix", "_env_ignore_empty", "_env_parse_none_str", "_env_file",
  "_env_file_encoding", "_env_nested_delimiter", "_env_nested_max_split", "_env_parse_enums",
  "_env_prefix_target", "_nested_model_default_partial_update", "_secrets_dir", "_cli_prog_name",
  "_cli_parse_args", "_cli_settings_source", "_cli_parse_none_str", "_cli_hide_none_type",
  "_cli_avoid_json", "_cli_enforce_required", "_cli_use_class_docs_for_groups",
  "_cli_exit_on_error", "_cli_prefix", "_cli_flag_prefix_char", "_cli_implicit_flags",
  "_cli_ignore_unknown_args", "_cli_kebab_case", "_cli_shortcuts", "_build_sources"]

/-- The rules among given values. One that is null or left out is as it is by itself. -/
def ofGiven (given : Claims) : SourceRules where
  caseSensitive :=
    match given.get? "_case_sensitive" with
    | none | some .null => true
    | some value => value.truthy
  stem :=
    match given.get? "_env_prefix" with
    | some (.text s) => s
    | _ => ""
  stemsNames :=
    match given.get? "_env_prefix_target" with
    | some (.text s) => s ≠ "alias"
    | _ => true
  skipsEmpty := (given.get? "_env_ignore_empty").any (·.truthy)
  nullText :=
    match given.get? "_env_parse_none_str" with
    | some (.text s) => some s
    | _ => none

def key (rules : SourceRules) (name : String) : String :=
  if rules.caseSensitive then name else Text.lower name

def settingKey (rules : SourceRules) (name : String) : String :=
  rules.key (if rules.stemsNames then rules.stem ++ name else name)

/-- The bindings under the names that are compared. Of several with one name the last counts. -/
def assigned (rules : SourceRules) (bindings : List (String × Option String)) :
    List (String × Option String) :=
  (bindings.filter fun (_, value) => !(rules.skipsEmpty && value == some "")).foldl
    (fun assigned (name, value) => EnvFile.put (rules.key name) value assigned) []

def fieldValue (rules : SourceRules) (value : String) : Claim :=
  if rules.nullText = some value then .null else .text value

/-! ## Paths and files -/

/-- The paths that a value stands for: one, or several together. -/
def paths : Claim → Except SourceFault (List String)
  | .text s => .ok [s]
  | .list items | .set items =>
    items.mapM fun
      | .text s => .ok s
      | _ => .error .notText
  | .map entries => .ok (entries.map Prod.fst)
  | .binary data => if data.size = 0 then .ok [] else .error .notText
  | _ => .error .notText

/-- Whether a path is that of the file of settings, from the directory where the program is. -/
def isOwnFile (path : String) : Bool :=
  let steps := (Text.pieces '/' path.toList).filter fun step => step ≠ [] && step ≠ ['.']
  path.toList.head? ≠ some '/' && steps = [".env".toList]

/-- The encoding of the file of settings. -/
def encodingOf (given : Claims) : Except SourceFault Encoding :=
  match given.get? "_env_file_encoding" with
  | some (.text s) =>
    if s = "" then .ok .utf8
    else
      match Encoding.ofName? s with
      | some encoding => .ok encoding
      | none => .error .unknownEncoding
  | some value => if value.truthy then .error .notText else .ok .utf8
  | none => .ok .utf8

/-- What is read of the file of settings, if there is one. `file` is its text in UTF-8. -/
def fileText (given : Claims) (file : Option String) : Except SourceFault (Option String) := do
  let isRead ←
    match given.get? "_env_file" with
    | none => pure true
    | some .null => pure false
    | some value => do
      let named ← paths value
      pure (named.any isOwnFile)
  match file with
  | none => return none
  | some s =>
    if !isRead then return none
    match (← encodingOf given).reread? s with
    | some text => return some text
    | none => throw .undecodable

/-- Nothing, if what names of settings begin with has a length, and how far names are split is a
number or nothing. -/
def checkNames (given : Claims) : Except SourceFault Unit := do
  match (given.get? "_env_nested_max_split").getD .null with
  | .null | .bool _ | .int _ | .real _ => pure ()
  | value => if value.truthy then throw .notText
  match (given.get? "_env_prefix").getD .null with
  | .bool _ | .int _ | .real _ | .time _ | .handle => throw .notText
  | _ => pure ()

/-- Nothing, if what names of settings begin with is a text and directories of secrets are paths.
There are no settings in such directories. -/
def checkRest (given : Claims) : Except SourceFault Unit := do
  match (given.get? "_env_prefix").getD .null with
  | .null | .text _ => pure ()
  | _ => throw .rejected
  match (given.get? "_secrets_dir").getD .null with
  | .null => pure ()
  | value => discard (paths value)

end SourceRules

end GrantKeeper
