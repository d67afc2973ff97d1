/-
Claim maps written to a column and read from it again.

A map that can be written is decoded as its normal form, whatever field the text is then taken for
(`decode_of_encode`).  The normal form keeps the keys and their order, so the operations on maps
carry over to it.
-/
import GrantKeeper.Claim.Stored
import GrantKeeper.Proofs.Json.Value

namespace GrantKeeper

open Json

namespace Claims

/-! ## Round trip -/

theorem toJson_eq_ok_iff {claims : Claims} {text : String} :
    claims.toJson = .ok text ↔
      (Claim.map claims).fault? = none ∧ text = String.ofList (Claim.map claims).written := by
  unfold toJson
  cases h : (Claim.map claims).fault? with
  | none => simp [eq_comm]
  | some fault => simp

theorem encode_eq_ok_iff {claims : Claims} {field text : String} :
    claims.encode field = .ok text ↔ claims.toJson = .ok text := by
  unfold encode
  cases claims.toJson with
  | ok text => simp
  | error fault => simp

/-- What is written of a map starts with its bracket, so it is no blank text. -/
theorem not_isBlankText_written (claims : Claims) :
    Text.isBlankText (String.ofList (Claim.map claims).written) = false := by
  have hbrace : Text.isBlank '\x7b' = false := by decide
  rw [Text.isBlankText, String.toList_ofList, Claim.written, List.cons_append, List.all_cons,
    hbrace, Bool.false_and]

theorem ofJson_of_toJson {claims : Claims} {text : String} (hkeys : claims.keysOnce = true)
    (h : claims.toJson = .ok text) : ofJson text = .ok claims.normal := by
  obtain ⟨hfault, rfl⟩ := toJson_eq_ok_iff.mp h
  rw [ofJson, not_isBlankText_written, parse_written hfault hkeys]
  rfl

/-- A stored map comes back as its normal form, and nothing is reported. -/
theorem decode_of_encode {claims : Claims} {field text : String} (hkeys : claims.keysOnce = true)
    (h : claims.encode field = .ok text) (readField : String) :
    decode (some text) readField = pure claims.normal := by
  have hread := ofJson_of_toJson hkeys (encode_eq_ok_iff.mp h)
  rw [decode, decodeStrict, hread]

/-! ## Operations on normal forms -/

theorem normal_cons (entry : String × Claim) (claims : Claims) :
    normal (entry :: claims) = (entry.1, entry.2.normal) :: normal claims := rfl

theorem normal_append (a b : Claims) : normal (a ++ b) = normal a ++ normal b := by
  rw [normal, normal, normal, Claim.normalEntries_eq_map, Claim.normalEntries_eq_map,
    Claim.normalEntries_eq_map, List.map_append]

theorem get?_normal (claims : Claims) (key : String) :
    claims.normal.get? key = (claims.get? key).map Claim.normal := by
  induction claims with
  | nil => rfl
  | cons entry rest ih =>
    rw [normal_cons, get?_cons, get?_cons, ih]
    by_cases h : entry.1 = key
    · rw [if_pos h, if_pos h]
      rfl
    · rw [if_neg h, if_neg h]

theorem get?_append (a b : Claims) (key : String) :
    get? (a ++ b) key = (a.get? key).or (b.get? key) := by
  induction a with
  | nil => rfl
  | cons entry rest ih =>
    rw [List.cons_append, get?_cons, get?_cons, ih]
    by_cases h : entry.1 = key
    · rw [if_pos h, if_pos h]
      rfl
    · rw [if_neg h, if_neg h]

theorem get?_eq_none {claims : Claims} {key : String} (h : claims.has key = false) :
    claims.get? key = none := by
  rw [has_eq_isSome] at h
  simpa using h

theorem erase_append (a b : Claims) (key : String) :
    erase (a ++ b) key = a.erase key ++ b.erase key :=
  List.filter_append ..

theorem erase_of_not_has {claims : Claims} {key : String} (h : claims.has key = false) :
    claims.erase key = claims := by
  rw [has, List.any_eq_false] at h
  rw [erase, List.filter_eq_self]
  intro entry hentry
  simpa using h entry hentry

end Claims

end GrantKeeper
