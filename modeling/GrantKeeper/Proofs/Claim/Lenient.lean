/-
Lenient reading of claim maps.

What strict reading accepts lenient reading gives as it is, and what strict reading refuses with a
report counts as the empty map and is reported once (`decode_cases`).  One fault is neither: an
integer with more digits than an integer may have ends lenient reading too, so it is not total
(`decode_not_total`).
-/
import GrantKeeper.Claim.Stored
import GrantKeeper.Proofs.Json.Overlong

namespace GrantKeeper

/-! ## Reports -/

theorem append_ne_empty {s t : String} (h : s ≠ "") : s ++ t ≠ "" :=
  fun heq => h (String.append_eq_empty_iff.mp heq).1

/-- A report starts with words of its own. -/
theorem DecodeFault.message_ne_empty (field : String) (fault : DecodeFault) :
    fault.message field ≠ "" := by
  cases fault with
  | malformed fault =>
    unfold DecodeFault.message
    repeat apply append_ne_empty
    decide
  | notMap kind =>
    unfold DecodeFault.message
    repeat apply append_ne_empty
    decide

/-- The report of a text that cannot be read is the message of the failure. -/
theorem DecodeFault.message_failure (field : String) (fault : DecodeFault) :
    (Failure.serialization field (some (fault.message field))).message = fault.message field :=
  if_neg (fault.message_ne_empty field)

namespace Claims

/-- The entry with which lenient reading reports a text that it takes for the empty map. -/
def discarded (field message : String) : Entry :=
  ⟨.warning, s!"Discarding unreadable {field}: {message}"⟩

theorem parse_of_malformed {s : String} {fault : ReadFault}
    (h : ofJson s = .error (.malformed fault)) : Json.parse s = .error fault := by
  unfold ofJson at h
  split at h
  · cases h
  · split at h
    · next heq =>
      cases h
      exact heq
    · cases h
    · cases h

theorem decode_of_reported {s field : String} {fault : DecodeFault}
    (h : ofJson s = .error fault) (hfault : fault ≠ .malformed .oversized) :
    decodeStrict (some s) field =
        .error (.failure (.serialization field (some (fault.message field)))) ∧
      decode (some s) field = ⟨[discarded field (fault.message field)], .ok []⟩ := by
  have hreport : fault.fault field =
      .failure (.serialization field (some (fault.message field))) := by
    unfold DecodeFault.fault
    split
    · exact absurd rfl hfault
    · rfl
  have hstrict : decodeStrict (some s) field =
      .error (.failure (.serialization field (some (fault.message field)))) := by
    rw [decodeStrict, h, ← hreport]
  refine ⟨hstrict, ?_⟩
  rw [decode, hstrict]
  dsimp only
  rw [DecodeFault.message_failure]
  rfl

theorem decode_of_oversized {s : String} (h : ofJson s = .error (.malformed .oversized))
    (field : String) :
    decodeStrict (some s) field = .error .oversizedInteger ∧
      decode (some s) field = Traced.fault .oversizedInteger := by
  have hstrict : decodeStrict (some s) field = .error .oversizedInteger := by
    rw [decodeStrict, h]
    rfl
  rw [decode, hstrict]
  exact ⟨rfl, rfl⟩

theorem ofJson_integerEntry (name : String) {n : Int} (h : oversized n = true) :
    ofJson (String.ofList (Json.integerEntry name n)) = .error (.malformed .oversized) := by
  have hblank : Text.isBlankText (String.ofList (Json.integerEntry name n)) = false := by
    rw [Text.isBlankText, String.toList_ofList, Json.integerEntry, List.all_cons]
    rfl
  rw [ofJson, hblank, if_neg Bool.false_ne_true, Json.parse_integerEntry name h]

/-- Every text is read in one of three ways. The last of them takes a run of more digits than an
integer may have. -/
theorem decode_cases (text : Option String) (field : String) :
    (∃ claims, decodeStrict text field = .ok claims ∧ decode text field = pure claims) ∨
    (∃ message, decodeStrict text field = .error (.failure (.serialization field (some message))) ∧
      decode text field = ⟨[discarded field message], .ok []⟩) ∨
    ((∃ s ∈ text, HasLongRun s.toList) ∧ decodeStrict text field = .error .oversizedInteger ∧
      decode text field = Traced.fault .oversizedInteger) := by
  cases text with
  | none => exact .inl ⟨[], rfl, rfl⟩
  | some s =>
    cases hread : ofJson s with
    | ok claims =>
      have hstrict : decodeStrict (some s) field = .ok claims := by
        rw [decodeStrict, hread]
      refine .inl ⟨claims, hstrict, ?_⟩
      rw [decode, hstrict]
    | error fault =>
      right
      by_cases hfault : fault = .malformed .oversized
      · subst hfault
        have hrun := Json.longRun_of_parse (parse_of_malformed hread)
        exact .inr ⟨⟨s, rfl, hrun⟩, decode_of_oversized hread field⟩
      · exact .inl ⟨_, decode_of_reported hread hfault⟩

/-- Lenient reading is not total: a map with an integer of one digit more than an integer may have
ends it with a fault. -/
theorem decode_not_total :
    ¬∀ (text : Option String) (field : String),
      ∃ claims, (decode text field).outcome = .ok claims := by
  intro htotal
  have hsize : oversized ((10 ^ digitLimit : Nat) : Int) = true := by
    unfold oversized
    generalize digitLimit = limit
    rw [decide_eq_true_iff, Int.natAbs_natCast]
    exact Nat.le_refl _
  have hread := ofJson_integerEntry "n" hsize
  obtain ⟨claims, hclaims⟩ := htotal (some _) "attributes"
  rw [(decode_of_oversized hread "attributes").2] at hclaims
  cases hclaims

end Claims
end GrantKeeper
