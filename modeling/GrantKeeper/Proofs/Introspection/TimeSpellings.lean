/-
The spellings of an instant in time claims.

A clock reading and its ISO 8601 text name the same instant, and so does the text with the letter Z
where the offset is unknown.  An instant that lies a whole number of seconds after the start of 1970
is named by that number as well, as an integer, as a floating-point number and as a decimal text, and
responses tell it as that number again (`instant_spellings`).
-/
import GrantKeeper.Proofs.Introspection.ClaimFaults
import GrantKeeper.Proofs.Introspection.Response

namespace GrantKeeper

/-- An offset without seconds. -/
def Offset.WholeMinutes (offset : Offset) : Prop :=
  ((60 * microsPerSecond : Nat) : Int) ∣ offset.micros

theorem Offset.WholeMinutes.keepsOffset {offset : Offset} (h : offset.WholeMinutes) :
    Iso.KeepsOffset offset := by
  obtain ⟨minutes, hminutes⟩ := h
  unfold Iso.KeepsOffset
  unfold microsPerSecond at hminutes ⊢
  omega

namespace Claim

/-! ## Timestamps -/

theorem instant_time {t : Timestamp} {m : Moment} (h : t.toUtc? = some m) :
    (time t).instant = pure (some m) := by
  rw [instant, instantOf, h]
  rfl

theorem instant_isoText_Z (m : Moment) :
    (text ((Timestamp.naive m).isoText ++ "Z")).instant = pure (some m) := by
  rw [instant, instantOfText, Timestamp.ofText?_isoText_append, Timestamp.ofIsoText?_isoText_Z]
  dsimp only
  rw [Option.bind_some, Timestamp.toUtc?_ofUtc]

/-! ## Numbers -/

theorem instant_int {n : Int} {m : Moment} (h : m.sinceEpoch = n * (microsPerSecond : Int)) :
    (int n).instant = pure (some m) := by
  rw [instant, Moment.ofWholeSeconds?_eq_some_iff.mpr h]
  rfl

theorem instant_ofInt {n : Int} {m : Moment} (h : m.sinceEpoch = n * (microsPerSecond : Int)) :
    (real (.ofInt n)).instant = pure (some m) := by
  rw [instant, Moment.ofSeconds?_ofInt, Moment.ofWholeSeconds?_eq_some_iff.mpr h]
  rfl

/-- The text of an integer is taken for the floating-point number nearest to it. -/
theorem instant_text_int (n : Int) :
    (text (int n).toText).instant = (real (.ofInt n)).instant := by
  show instantOfText (String.ofList (decimalInt n)) = _
  rw [instantOfText, Binary64.ofText?_decimalInt]
  rfl

end Claim

/-- A time that lies a whole number of seconds after the start of 1970 is told as that number. -/
theorem Verdict.told_of_sinceEpoch {n : Int} {m : Moment}
    (h : m.sinceEpoch = n * (microsPerSecond : Int)) {time : Option Moment} {told : Option Claim}
    (htold : seconds (time.map .ofUtc) = .ok told) (htime : time = some m) :
    told = some (.int n) := by
  rw [htime, Option.map_some, seconds, Timestamp.epochSeconds?_ofUtc h] at htold
  exact (Except.ok.inj htold).symm

/-! ## Spellings -/

/-- A clock reading, of unknown offset or of one without seconds, names its instant of UTC in every
spelling, and no other spelling of it is reported. If that lies a whole number of seconds after the
start of 1970, the number names it too, in whatever form, and a response tells it as that number.
A number of seconds outside the years 1 to 9999 names none, as a number and as a text. -/
theorem instant_spellings :
    (∀ (t : Timestamp) (m : Moment), (∀ offset ∈ t.offset, offset.WholeMinutes) →
      t.toUtc? = some m →
      (Claim.time t).instant = pure (some m) ∧
      (Claim.text t.isoText).instant = pure (some m) ∧
      (t.offset = none → (Claim.text (t.isoText ++ "Z")).instant = pure (some m)) ∧
      ∀ n : Int, m.sinceEpoch = n * (microsPerSecond : Int) →
        (Claim.int n).instant = pure (some m) ∧
        (Claim.real (.ofInt n)).instant = pure (some m) ∧
        (Claim.text (Claim.int n).toText).instant = pure (some m) ∧
        ∀ (v : Verdict) (issued expires earliest : Option Moment), v.active = true →
          v.issuedAt = issued.map .ofUtc → v.expiresAt = expires.map .ofUtc →
          v.notBefore = earliest.map .ofUtc →
          ∃ members, v.response = .ok members ∧
            (issued = some m → members.get? "iat" = some (.int n)) ∧
            (expires = some m → members.get? "exp" = some (.int n)) ∧
            (earliest = some m → members.get? "nbf" = some (.int n))) ∧
    ∀ n : Int, oversized n = false →
      (∀ m : Moment, m.sinceEpoch ≠ n * (microsPerSecond : Int)) →
      (Claim.int n).instant.outcome = .ok none ∧
      (Claim.text (Claim.int n).toText).instant.outcome = .ok none := by
  refine ⟨fun t m hoffset hm => ⟨Claim.instant_time hm, ?_, ?_, fun n hn => ?_⟩, fun n hn hnone => ?_⟩
  · exact Claim.instantOfText_isoText (fun offset h => (hoffset offset h).keepsOffset) hm
  · intro hnaive
    obtain ⟨wall, _⟩ := t
    cases hnaive
    cases hm
    exact Claim.instant_isoText_Z wall
  · refine ⟨Claim.instant_int hn, Claim.instant_ofInt hn,
      (Claim.instant_text_int n).trans (Claim.instant_ofInt hn), ?_⟩
    intro v issued expires earliest hactive hissued hexpires hearliest
    obtain ⟨members, hresponse, _, hiat, hexp, hnbf⟩ :=
      Verdict.exists_response hactive hissued hexpires hearliest
    rw [hissued] at hiat
    rw [hexpires] at hexp
    rw [hearliest] at hnbf
    exact ⟨members, hresponse, Verdict.told_of_sinceEpoch hn hiat,
      Verdict.told_of_sinceEpoch hn hexp, Verdict.told_of_sinceEpoch hn hnbf⟩
  · have hseconds := Moment.ofWholeSeconds?_eq_none_iff.mpr hnone
    constructor
    · rw [Claim.instant, hseconds]
      have hshown : (Claim.int n).hasOversized = false := hn
      exact Claim.outcome_instantOrWarning hshown none
    · rw [Claim.instant_text_int, Claim.instant, Moment.ofSeconds?_ofInt, hseconds]
      have hshown : (Claim.real (.ofInt n)).hasOversized = false := rfl
      exact Claim.outcome_instantOrWarning hshown none

/-- Half an hour into 1970 by a clock that is two hours ahead of UTC. -/
def earlyClock : Timestamp :=
  ⟨⟨62135598600000000, by decide⟩, some ⟨7200000000, by decide, by decide⟩⟩

/-- The same instant on the clock of UTC, an hour and a half before 1970. -/
def earlyInstant : Moment :=
  ⟨62135591400000000, by decide⟩

/-- The instant is named by the text of the clock, by that of a reading of UTC with the letter Z and
by `-5400`, and the first second of the year 10000 is none. -/
theorem instant_spellings_sample :
    (Claim.text earlyClock.isoText).instant = pure (some earlyInstant) ∧
    (Claim.text ((Timestamp.naive earlyInstant).isoText ++ "Z")).instant =
      pure (some earlyInstant) ∧
    (Claim.text (Claim.int (-5400)).toText).instant = pure (some earlyInstant) ∧
    (∃ members, (Verdict.basic true "client-1" sampleToken).response = .ok members ∧
      members.get? "iat" = some (.int (-62135596800))) ∧
    (Claim.text (Claim.int 253402300800).toText).instant.outcome = .ok none := by
  obtain ⟨hnamed, hnone⟩ := instant_spellings
  have hwhole : ∀ offset ∈ earlyClock.offset, offset.WholeMinutes := by
    rintro offset ⟨⟩
    exact ⟨120, by decide⟩
  have hnaive : ∀ m, ∀ offset ∈ (Timestamp.naive m).offset, offset.WholeMinutes := by
    rintro m offset ⟨⟩
  obtain ⟨_, htext, _, hseconds⟩ := hnamed earlyClock earlyInstant hwhole rfl
  obtain ⟨_, _, hletter, _⟩ := hnamed (.naive earlyInstant) earlyInstant (hnaive _) rfl
  obtain ⟨_, _, _, hstart⟩ := hnamed (.naive ⟨0, by decide⟩) ⟨0, by decide⟩ (hnaive _) rfl
  obtain ⟨_, _, _, hresponse⟩ := hstart (-62135596800) (by decide)
  obtain ⟨members, hmembers, hiat, _⟩ := hresponse (.basic true "client-1" sampleToken)
    (some ⟨0, by decide⟩) (some ⟨1000000, by decide⟩) none rfl rfl rfl rfl
  have hlate : ∀ m : Moment, m.sinceEpoch ≠ 253402300800 * (microsPerSecond : Int) := by
    rw [← Moment.ofWholeSeconds?_eq_none_iff]
    decide
  exact ⟨htext, hletter rfl, (hseconds (-5400) (by decide)).2.2.1, ⟨members, hmembers, hiat rfl⟩,
    (hnone 253402300800 (by decide +kernel) hlate).2⟩

end GrantKeeper
