/-
The response about an active token.

The times in a verdict about a token are those of the years 1 to 9999 on the clock of UTC, and their
seconds are too few for the rounding to a floating-point number to leave its range
(`exists_epochSeconds?`).  So there is a response to every active token, and about an access token
it tells the scopes of the token with blanks between them (`introspect_scopes`).
-/
import GrantKeeper.Proofs.Introspection.Stored
import GrantKeeper.Proofs.Time.Epoch

namespace GrantKeeper

/-! ## Seconds -/

theorem Timestamp.natAbs_sinceEpoch_lt (m : Moment) :
    ((ofUtc m).utcMicros - (Moment.epochMicros : Int)).natAbs < 2 ^ 59 := by
  have hlt : m.micros < 3652059 * 86400000000 := m.micros_lt
  have hepoch : Moment.epochMicros = 719162 * 86400000000 := rfl
  rw [utcMicros_ofUtc, hepoch]
  omega

/-- Every time on the clock of UTC has its seconds. -/
theorem Timestamp.exists_epochSeconds? (m : Moment) :
    ∃ n, (ofUtc m).epochSeconds? = some n := by
  have hlt := natAbs_sinceEpoch_lt m
  show ∃ n, (Binary64.ofIntRatio ((ofUtc m).utcMicros - (Moment.epochMicros : Int))
    microsPerSecond).truncate? = some n
  generalize (ofUtc m).utcMicros - (Moment.epochMicros : Int) = micros at hlt
  have hunits : micros.natAbs * Binary64.one / microsPerSecond <
      2 ^ (53 + (6 + Binary64.oneExponent)) := by
    have hpower : 2 ^ (53 + (6 + Binary64.oneExponent)) = 2 ^ 59 * Binary64.one := by
      rw [← Nat.add_assoc, Nat.pow_add, Binary64.one_eq]
    rw [hpower]
    exact Nat.lt_of_le_of_lt (Nat.div_le_self _ _)
      ((Nat.mul_lt_mul_right Binary64.one_pos).mpr hlt)
  obtain ⟨place, hplace⟩ := Binary64.ofRatio_finite (micros < 0) (by decide) hunits
  rw [Binary64.ofIntRatio, hplace]
  exact ⟨_, rfl⟩

/-! ## Members -/

/-- Of members that are told only if there is something to say, the one of a name is found under
it. -/
theorem Claims.get?_members_cons (name key : String) (value : Option Claim)
    (rest : List (String × Option Claim)) :
    get? (((name, value) :: rest).filterMap fun (name, value) => value.map (name, ·)) key =
      if name = key then
        value.or (get? (rest.filterMap fun (name, value) => value.map (name, ·)) key)
      else get? (rest.filterMap fun (name, value) => value.map (name, ·)) key := by
  cases value with
  | none => exact (ite_self _).symm
  | some claim => exact get?_cons (name, claim) _ key

namespace Verdict

theorem exists_seconds (m : Option Moment) :
    ∃ seconds, Verdict.seconds (m.map .ofUtc) = .ok seconds := by
  cases m with
  | none => exact ⟨none, rfl⟩
  | some m =>
    obtain ⟨n, hn⟩ := Timestamp.exists_epochSeconds? m
    rw [Option.map_some, seconds, hn]
    exact ⟨_, rfl⟩

/-- An active verdict whose times are those of UTC has a response, and that tells the scopes and the
seconds of the times. -/
theorem exists_response {v : Verdict} {issuedAt expiresAt notBefore : Option Moment}
    (hactive : v.active = true) (hissued : v.issuedAt = issuedAt.map .ofUtc)
    (hexpires : v.expiresAt = expiresAt.map .ofUtc)
    (hnotBefore : v.notBefore = notBefore.map .ofUtc) :
    ∃ members, v.response = .ok members ∧ members.get? "scope" = v.scope.map .text ∧
      seconds v.issuedAt = .ok (members.get? "iat") ∧
      seconds v.expiresAt = .ok (members.get? "exp") ∧
      seconds v.notBefore = .ok (members.get? "nbf") := by
  obtain ⟨issued, hissued'⟩ := exists_seconds issuedAt
  obtain ⟨expires, hexpires'⟩ := exists_seconds expiresAt
  obtain ⟨earliest, hnotBefore'⟩ := exists_seconds notBefore
  rw [← hissued] at hissued'
  rw [← hexpires] at hexpires'
  rw [← hnotBefore] at hnotBefore'
  rw [response, if_pos hactive, hissued', hexpires', hnotBefore']
  refine ⟨_, rfl, ?_⟩
  simp only [Claims.get?_members_cons, String.reduceEq, if_true, if_false]
  exact ⟨Option.or_none, congrArg _ Option.or_none.symm, congrArg _ Option.or_none.symm,
    congrArg _ Option.or_none.symm⟩

/-! ## Active tokens -/

theorem scopes_of_projected {claims : Claims} {clientId : String} {t : Token}
    {notBefore : Option Moment} {v : Verdict}
    (h : projected clientId .access t claims notBefore = .ok v) : v.scopes = some t.scopes := by
  unfold projected at h
  obtain ⟨subject, _, h⟩ := Except.bind_eq_ok h
  obtain ⟨audience, _, h⟩ := Except.bind_eq_ok h
  obtain ⟨issuer, _, h⟩ := Except.bind_eq_ok h
  obtain ⟨tokenId, _, h⟩ := Except.bind_eq_ok h
  cases h
  rfl

end Verdict

/-- An active verdict about an access token tells its scopes, and so does the response. -/
theorem introspect_scopes {directory : Option Directory} {clock : Timestamp}
    {requester : Option String} {value : String} {a : Authorization} {t : Token}
    (hfind : a.find? value = some (.access, t)) {v : Verdict}
    (h : (introspect directory clock requester value (some a)).outcome = .ok v)
    (hactive : v.active = true) :
    v.scopes = some t.scopes ∧ ∃ members, v.response = .ok members ∧
      members.get? "scope" = some (.text (t.scopes.textWith ' ')) := by
  rw [outcome_introspect_of_held directory clock requester hfind] at h
  obtain ⟨now, _, h⟩ := Except.bind_eq_ok h
  obtain ⟨clientId, _, h⟩ := Except.bind_eq_ok h
  obtain ⟨_, _, _, hprojected⟩ := Verdict.ofToken_active h hactive
  have hscopes := Verdict.scopes_of_projected hprojected
  have hagrees := Verdict.agrees_of_projected hprojected
  obtain ⟨members, hresponse, htold, _⟩ := Verdict.exists_response hactive hagrees.issuedAt
    hagrees.expiresAt hagrees.notBefore
  refine ⟨hscopes, members, hresponse, ?_⟩
  rw [htold, Verdict.scope, hscopes]
  rfl

end GrantKeeper
