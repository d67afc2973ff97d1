/-
What can go wrong, and what is reported about it.

A `Failure` is an error of the library's own vocabulary, with a message, a status and details for
the caller. A `Fault` is anything that ends an operation without a result.
-/
import GrantKeeper.Grant.Rule

namespace GrantKeeper

/-- An error with a report for the caller. -/
inductive Failure where
  /-- An error of no particular kind. -/
  | general (message : String) (status : Int) (details : Claims)
  /-- An argument that an operation does not accept. -/
  | precondition (message : String)
  /-- Text that cannot be written or read; without a message of its own it has a standard one. -/
  | serialization (field : String) (message : Option String)
  /-- Stored data that breaks a rule of the store. -/
  | integrity (message : String) (details : Claims)
  /-- An authorization whose client is not registered. -/
  | unresolvedClient (registeredClientId : String)
  /-- A token value that several authorizations hold. -/
  | ambiguousToken (authorizationIds : List String)

namespace Failure

/-- The message of a failure. An empty message of a serialization failure counts as none. -/
def message : Failure → String
  | .general message _ _ | .precondition message | .integrity message _ => message
  | .serialization field message =>
    match message with
    | some text => if text = "" then s!"Unable to serialize field '{field}'" else text
    | none => s!"Unable to serialize field '{field}'"
  | .unresolvedClient id =>
    s!"The registered client with id '{id}' was not found in the client directory"
  | .ambiguousToken _ => "Token value matches more than one authorization"

/-- The status of a failure: 400 where the caller is at fault, 500 elsewhere. -/
def status : Failure → Int
  | .general _ status _ => status
  | .precondition _ | .serialization .. => 400
  | .integrity .. | .unresolvedClient _ | .ambiguousToken _ => 500

def details : Failure → Claims
  | .general _ _ details | .integrity _ details => details
  | .precondition _ => []
  | .serialization field _ => [("field", .text field)]
  | .unresolvedClient id => [("registered_client_id", .text id)]
  | .ambiguousToken ids => [("authorization_ids", .list (ids.map .text))]

/-- Whether a failure belongs to the family of integrity errors. -/
def isIntegrity : Failure → Bool
  | .integrity .. | .unresolvedClient _ | .ambiguousToken _ => true
  | _ => false

end Failure

/-! ## Rejected fields -/

/-- A step on the way to a rejected value: a field by its name or an item by its position. -/
inductive Step where
  | field (name : String)
  | item (position : Nat)
  deriving DecidableEq, Repr

/-- What is wrong with a value. -/
inductive Flaw where
  | missing
  | notText
  | notUnicode
  | notMap
  | notTextSet
  | notList
  | notEntry
  | notBoolean
  | unreadableBoolean
  | notInteger
  | notWhole
  | notFinite
  | unreadableInteger
  | integerTooLong
  | notTime
  | unreadableTime
  | unreadableTimeText
  | unknownField
  /-- A time that leaves the years 1 to 9999 on the way to UTC; it ends the whole reading. -/
  | timeOutOfRange
  /-- A value of the right shape that breaks a rule. -/
  | broken (rule : Rule)
  deriving DecidableEq, Repr

/-- A flaw and where it is. -/
structure Issue where
  path : List Step
  flaw : Flaw
  deriving DecidableEq, Repr

/-- An issue one step further down. -/
def Issue.under (step : Step) (issue : Issue) : Issue :=
  ⟨step :: issue.path, issue.flaw⟩

/-! ## Faults -/

/-- Why a database is not ready for use. -/
inductive Unreadiness where
  | migrationsMissing
  | unknownMode (mode : String)
  deriving DecidableEq, Repr

/-- The report about a database that is not ready. -/
def Unreadiness.message : Unreadiness → String
  | .migrationsMissing =>
    "Migration table missing. Run Alembic migrations before using the authorization store."
  | .unknownMode mode => s!"Unknown DB_INIT_MODE: {mode}"

/-- What ends an operation without a result. -/
inductive Fault where
  | failure (failure : Failure)
  | invalid (issues : List Issue)
  | timeOutOfRange
  | noEpochSeconds
  | oversizedInteger
  | notUtf8
  | unreadiness (reason : Unreadiness)

/-- The fault that rejected fields amount to. -/
def Fault.ofIssues (issues : List Issue) : Fault :=
  if issues.any (·.flaw == .timeOutOfRange) then .timeOutOfRange else .invalid issues

end GrantKeeper
