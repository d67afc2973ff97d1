/-
Claims: the values that attributes, token metadata and token claim sets are made of, and the
ordered maps that hold them.
-/
import GrantKeeper.Number.Binary64
import GrantKeeper.Time.Timestamp

namespace GrantKeeper

/-- A claim value. Timestamps, sets, binary data and opaque handles exist only in memory: the first
two have a written form, the last two have none. Several values are a list or a set and nothing
else: a tuple and a frozen set, which would be written as these but have texts of their own, are not
claims, nor is a map with a key that is not a text. -/
inductive Claim where
  | null
  | bool (b : Bool)
  | int (n : Int)
  | real (x : Binary64)
  | text (s : String)
  | time (t : Timestamp)
  | binary (data : ByteArray)
  | handle
  | list (items : List Claim)
  | set (items : List Claim)
  | map (entries : List (String × Claim))
  deriving Inhabited

/-- A claim map: entries in the order in which they are written, each key once. -/
abbrev Claims := List (String × Claim)

namespace Claims

def get? (claims : Claims) (key : String) : Option Claim :=
  (claims.find? (·.1 == key)).map (·.2)

def has (claims : Claims) (key : String) : Bool :=
  claims.any (·.1 == key)

/-- The map with a value under a key: in the place of the value before, or at the end. -/
def put (claims : Claims) (key : String) (value : Claim) : Claims :=
  match claims with
  | [] => [(key, value)]
  | (k, v) :: rest => if k = key then (key, value) :: rest else (k, v) :: put rest key value

/-- The map without a key. -/
def erase (claims : Claims) (key : String) : Claims :=
  claims.filter (·.1 != key)

/-- The map with a value under a key that has none yet. -/
def putIfAbsent (claims : Claims) (key : String) (value : Claim) : Claims :=
  if claims.has key then claims else claims.put key value

/-- The map of a sequence of entries. Of several with one key the last value counts, at the place of
the first. -/
def ofEntries (entries : List (String × Claim)) : Claims :=
  entries.foldl (fun claims (key, value) => claims.put key value) []

/-- The entries of `upper` laid over those of `lower`. -/
def overlay (lower upper : Claims) : Claims :=
  upper.foldl (fun claims (key, value) => claims.put key value) lower

@[simp] theorem get?_nil (key : String) : get? [] key = none := rfl

theorem get?_cons (entry : String × Claim) (rest : Claims) (key : String) :
    get? (entry :: rest) key = if entry.1 = key then some entry.2 else get? rest key := by
  by_cases h : entry.1 = key <;> simp [get?, h]

theorem has_eq_isSome (claims : Claims) (key : String) :
    claims.has key = (claims.get? key).isSome := by
  induction claims with
  | nil => rfl
  | cons entry rest ih =>
    rw [get?_cons, has, List.any_cons, ← has, ih]
    by_cases h : entry.1 = key <;> simp [h]

@[simp] theorem get?_put_self (claims : Claims) (key : String) (value : Claim) :
    (claims.put key value).get? key = some value := by
  induction claims with
  | nil => simp [put, get?_cons]
  | cons entry rest ih =>
    by_cases h : entry.1 = key <;> simp [put, get?_cons, h, ih]

theorem get?_put_of_ne (claims : Claims) {key other : String} (value : Claim) (h : other ≠ key) :
    (claims.put key value).get? other = claims.get? other := by
  induction claims with
  | nil => simp [put, get?_cons, Ne.symm h]
  | cons entry rest ih =>
    by_cases hk : entry.1 = key
    · simp [put, get?_cons, hk, Ne.symm h]
    · simp [put, get?_cons, hk, ih]

@[simp] theorem get?_erase_self (claims : Claims) (key : String) :
    (claims.erase key).get? key = none := by
  induction claims with
  | nil => rfl
  | cons entry rest ih =>
    by_cases h : entry.1 = key
    · rwa [erase, List.filter_cons_of_neg (by simpa using h)]
    · rw [erase, List.filter_cons_of_pos (by simpa using h), get?_cons, if_neg h]
      exact ih

/-- Of two maps laid over each other the upper one counts where it says something. -/
theorem get?_overlay (lower upper : Claims) (key : String)
    (once : (upper.map (·.1)).Nodup) :
    (lower.overlay upper).get? key = (upper.get? key).or (lower.get? key) := by
  induction upper generalizing lower with
  | nil => simp [overlay]
  | cons entry rest ih =>
    rw [List.map_cons, List.nodup_cons] at once
    have step : lower.overlay (entry :: rest) = (lower.put entry.1 entry.2).overlay rest := rfl
    rw [step, ih _ once.2, get?_cons]
    by_cases h : entry.1 = key
    · have absent : get? rest key = none := by
        have : has rest key = false := by
          rw [has, List.any_eq_false]
          intro x hx
          simp only [beq_iff_eq]
          rintro rfl
          exact once.1 (h ▸ List.mem_map_of_mem hx)
        rw [has_eq_isSome] at this
        exact Option.not_isSome_iff_eq_none.mp (by simp [this])
      simp [absent, h]
    · rw [get?_put_of_ne _ _ (Ne.symm h), if_neg h]

theorem has_erase (claims : Claims) (key other : String) :
    (claims.erase key).has other = (other != key && claims.has other) := by
  unfold has erase
  rw [List.any_filter]
  induction claims with
  | nil => simp
  | cons entry rest ih =>
    rw [List.any_cons, List.any_cons, ih]
    by_cases he : entry.1 = other
    · by_cases ho : other = key <;> simp [he, ho]
    · simp [beq_false_of_ne he]

end Claims

namespace Claim

/-- The integer a boolean or an integer counts as. -/
def asInt? : Claim → Option Int
  | .bool b => some (if b then 1 else 0)
  | .int n => some n
  | _ => none

mutual

/-- Equality by value: booleans, integers and floating-point numbers are compared as numbers, sets
and maps without regard to order, and NaN is equal to nothing. -/
def same : Claim → Claim → Bool
  | .null, .null => true
  | .real x, .real y => x.same y
  | .real x, c => (asInt? c).any x.isInt
  | c, .real y => (asInt? c).any y.isInt
  | .bool a, c => asInt? c == some (if a then 1 else 0)
  | .int n, c => asInt? c == some n
  | .text s, .text t => s == t
  | .time t, .time u => t.same u
  | .binary a, .binary b => a == b
  | .handle, .handle => true
  | .list xs, .list ys => sameItems xs ys
  | .set xs, .set ys => xs.length == ys.length && allAmong xs ys
  | .map xs, .map ys => xs.length == ys.length && allEntries xs ys
  | _, _ => false

def sameItems : List Claim → List Claim → Bool
  | [], [] => true
  | x :: xs, y :: ys => same x y && sameItems xs ys
  | _, _ => false

/-- Whether every item of the first list is equal to one of the second. -/
def allAmong : List Claim → List Claim → Bool
  | [], _ => true
  | x :: xs, ys => ys.any (fun y => same x y) && allAmong xs ys

/-- Whether every entry of the first map has an equal one in the second. -/
def allEntries : List (String × Claim) → List (String × Claim) → Bool
  | [], _ => true
  | (key, x) :: xs, ys => ys.any (fun y => y.1 == key && same x y.2) && allEntries xs ys

end

/-- The set of the given items: of equal ones the first stays. -/
def setOf (items : List Claim) : Claim :=
  .set (items.foldl (fun kept x => if kept.any (same x) then kept else kept ++ [x]) [])

/-- Whether a value counts as true: not null, false, zero, or empty. -/
def truthy : Claim → Bool
  | .null => false
  | .bool b => b
  | .int n => n != 0
  | .real x => !x.isZero
  | .text s => s != ""
  | .time _ | .handle => true
  | .binary data => data.size != 0
  | .list items | .set items => !items.isEmpty
  | .map entries => !entries.isEmpty

end Claim

/-- Equality of claim maps by value. -/
def Claims.same (a b : Claims) : Bool :=
  Claim.same (.map a) (.map b)

end GrantKeeper
