/-
What is read of a claim: an instant, a text, or one text or several.

What a claim says is told here apart from how it is read (`named?`, `text?`, `texts?`).  A reader
gives just that, or it fails, and each reader fails for reasons of its own.  A time claim that names
no instant of the years 1 to 9999 is ignored, with two gaps: a timestamp that leaves those years on
the way to UTC, and an integer that is too long for the warning about it (`InstantFault`).  Any other
claim that is shown must hold no such integer (`Overlong`).
-/
import GrantKeeper.Introspection.ClaimTime
import GrantKeeper.Proofs.Claim.Writable
import GrantKeeper.Proofs.Outcome
import GrantKeeper.Proofs.Time.Epoch

namespace GrantKeeper

theorem Moment.ofWholeSeconds?_of_overlong {n : Int}
    (h : digitLimit < (decimal n.natAbs).length) : ofWholeSeconds? n = none := by
  have hlarge : ¬n.natAbs < 10 ^ digitLimit := by
    rwa [← length_decimal_le_iff (by decide), Nat.not_le]
  have hpow : 10 ^ 12 ≤ 10 ^ digitLimit := Nat.pow_le_pow_right (by decide) (by decide)
  exact ofWholeSeconds?_of_large (hpow.trans (Nat.le_of_not_lt hlarge))

namespace Claim

/-! ## Instants -/

/-- The instant that a time claim names: a timestamp, a number of seconds since 1970, or a text that
is such a number or else an ISO 8601 timestamp. -/
def named? : Claim → Option Moment
  | .time t => t.toUtc?
  | .int n => Moment.ofWholeSeconds? n
  | .real x => Moment.ofSeconds? x
  | .text s =>
    match Binary64.ofText? s with
    | some seconds => Moment.ofSeconds? seconds
    | none => (Timestamp.ofIsoText? s).bind (·.toUtc?)
  | _ => none

/-- What a time claim cannot be read for. -/
inductive InstantFault : Claim → Fault → Prop where
  | outOfRange {t : Timestamp} (h : t.toUtc? = none) : InstantFault (.time t) .timeOutOfRange
  | overlong {n : Int} (h : digitLimit < (decimal n.natAbs).length) :
    InstantFault (.int n) .oversizedInteger

theorem InstantFault.unique {c : Claim} {fault fault' : Fault} (h : c.InstantFault fault)
    (h' : c.InstantFault fault') : fault = fault' := by
  cases h <;> cases h' <;> rfl

/-- Only a claim that names no instant is in the way. -/
theorem InstantFault.named? {c : Claim} {fault : Fault} (h : c.InstantFault fault) :
    c.named? = none := by
  cases h with
  | outOfRange h => exact h
  | overlong h => exact Moment.ofWholeSeconds?_of_overlong h

theorem hasOversized_int_iff {n : Int} :
    (Claim.int n).hasOversized = true ↔ digitLimit < (decimal n.natAbs).length := by
  rw [hasOversized, ← Bool.not_eq_false, oversized_eq_false_iff, Nat.not_le]

theorem outcome_instantOrWarning {number : Claim} (h : number.hasOversized = false)
    (instant : Option Moment) : (instantOrWarning number instant).outcome = .ok instant := by
  cases instant with
  | some m => rfl
  | none =>
    rw [instantOrWarning, shownQuoted, h]
    rfl

/-- A time claim is read as the instant it names, or cannot be read for one of two reasons. -/
theorem outcome_instant_cases (c : Claim) :
    ((∀ fault, ¬c.InstantFault fault) ∧ c.instant.outcome = .ok c.named?) ∨
      ∃ fault, c.InstantFault fault ∧ c.instant.outcome = .error fault := by
  cases c with
  | time t =>
    rw [instant, Traced.outcome_map, instantOf]
    cases hutc : t.toUtc? with
    | none => exact .inr ⟨_, .outOfRange hutc, rfl⟩
    | some m =>
      refine .inl ⟨?_, congrArg Except.ok hutc.symm⟩
      rintro fault ⟨h⟩
      rw [hutc] at h
      cases h
  | int n =>
    by_cases hlong : digitLimit < (decimal n.natAbs).length
    · refine .inr ⟨_, .overlong hlong, ?_⟩
      rw [instant, Moment.ofWholeSeconds?_of_overlong hlong, instantOrWarning, shownQuoted,
        hasOversized_int_iff.mpr hlong]
      rfl
    · -- An integer that names no instant is shown in the warning, which takes one that can be.
      have hshown : (Claim.int n).hasOversized = false := by
        rwa [← Bool.not_eq_true, hasOversized_int_iff]
      refine .inl ⟨?_, outcome_instantOrWarning hshown _⟩
      rintro fault (_ | h)
      exact hlong h
  | real x => exact .inl ⟨by rintro _ ⟨⟩, outcome_instantOrWarning rfl _⟩
  | text s =>
    refine .inl ⟨by rintro _ ⟨⟩, ?_⟩
    rw [instant, instantOfText, named?]
    cases Binary64.ofText? s with
    | some seconds => exact outcome_instantOrWarning rfl _
    | none => cases (Timestamp.ofIsoText? s).bind (·.toUtc?) <;> rfl
  | _ => exact .inl ⟨by rintro _ ⟨⟩, rfl⟩

theorem eq_named?_of_instant {c : Claim} {earliest : Option Moment}
    (h : c.instant.outcome = .ok earliest) : earliest = c.named? := by
  rcases c.outcome_instant_cases with ⟨_, hread⟩ | ⟨fault, _, hread⟩
  · rw [hread] at h
    exact (Except.ok.inj h).symm
  · rw [hread] at h
    cases h

/-! ## Texts -/

/-- The text that is told of a claim, none of null. -/
def text? : Claim → Option String
  | .null => none
  | c => some c.toText

theorem text?_eq_some_iff {c : Claim} {text : String} :
    c.text? = some text ↔ c ≠ .null ∧ c.toText = text := by
  cases c <;> simp [text?]

/-- Somewhere in a claim stands an integer that is too long to be shown. -/
def Overlong (c : Claim) : Prop :=
  ∃ n : Int, (Claim.int n).Within c ∧ digitLimit < (decimal n.natAbs).length

theorem hasOversized_eq_false_iff {c : Claim} : c.hasOversized = false ↔ ¬c.Overlong := by
  have hparts : ∀ c : Claim, c.hasOversized = false ↔
      (∀ n : Int, c = .int n → (decimal n.natAbs).length ≤ digitLimit) ∧
        ∀ x ∈ c.parts, x.hasOversized = false := by
    intro c
    cases c with
    | int n => simp [hasOversized, parts, oversized_eq_false_iff]
    | list items => simp [hasOversized, parts, anyOversized_eq_false_iff]
    | set items => simp [hasOversized, parts, anyOversized_eq_false_iff]
    | map entries =>
      rw [hasOversized, anyOversizedEntry_eq_false_iff, parts, List.forall_mem_map]
      exact (and_iff_right (by rintro n ⟨⟩)).symm
    | _ => simp [hasOversized, parts]
  rw [iff_forall_within hparts]
  constructor
  · rintro h ⟨n, hn, hlong⟩
    exact absurd (h _ hn n rfl) (Nat.not_le.mpr hlong)
  · rintro h x hx n rfl
    exact Nat.le_of_not_lt fun hlong => h ⟨n, hx, hlong⟩

theorem shown_eq_ok {c : Claim} (h : c.hasOversized = false) : c.shown = .ok c.toText := by
  rw [shown, h]
  rfl

theorem textIfAny_eq_ok {c : Claim} (h : c.hasOversized = false) : c.textIfAny = .ok c.text? := by
  have hshown : some <$> c.shown = .ok (some c.toText) := by
    rw [shown_eq_ok h]
    rfl
  cases c with
  | null => rfl
  | _ => exact hshown

theorem failsIff_shown (c : Claim) : Except.FailsIff c.shown .oversizedInteger c.Overlong := by
  by_cases hlong : c.Overlong
  · have hsize : c.hasOversized = true := by
      rw [← Bool.not_eq_false, hasOversized_eq_false_iff]
      exact not_not_intro hlong
    intro fault
    simp [shown, hsize, hlong, eq_comm]
  · rw [shown_eq_ok (hasOversized_eq_false_iff.mpr hlong)]
    exact (Except.FailsIff.ok _ _).congr (iff_of_false id hlong)

theorem failsIff_textIfAny (c : Claim) :
    Except.FailsIff c.textIfAny .oversizedInteger c.Overlong := by
  unfold textIfAny
  split
  · exact (Except.FailsIff.ok _ _).congr (iff_of_false id (hasOversized_eq_false_iff.mp rfl))
  · exact c.failsIff_shown.map some

theorem eq_text?_of_textIfAny {c : Claim} {text : Option String} (h : c.textIfAny = .ok text) :
    text = c.text? := by
  have hshort : ¬c.Overlong := c.failsIff_textIfAny.not_of_ok h
  rw [textIfAny_eq_ok (hasOversized_eq_false_iff.mpr hshort)] at h
  exact (Except.ok.inj h).symm

/-! ## One text or several -/

/-- Several values, one after another or in no order. -/
def IsSeveral : Claim → Prop
  | .list _ | .set _ => True
  | _ => False

/-- The texts that are told of a claim: a text alone, or those of several values in the order in
which they come. -/
def texts? : Claim → Option (List String)
  | .text s => some [s]
  | .list items | .set items => some (items.map toText)
  | _ => none

theorem shownAll_eq_ok {items : List Claim} (h : ∀ x ∈ items, x.hasOversized = false) :
    shownAll items = .ok (items.map toText) := by
  induction items with
  | nil => rfl
  | cons x xs ih =>
    rw [shownAll, shown_eq_ok (h x List.mem_cons_self),
      ih fun y hy => h y (List.mem_cons_of_mem x hy)]
    rfl

theorem audience_eq_ok {c : Claim} (h : c.IsSeveral → c.hasOversized = false) :
    c.audience = .ok c.texts? := by
  have hitems : ∀ items, anyOversized items = false →
      some <$> shownAll items = .ok (some (items.map toText)) := by
    intro items hsize
    rw [shownAll_eq_ok (anyOversized_eq_false_iff.mp hsize)]
    rfl
  cases c with
  | list items => exact hitems items (h trivial)
  | set items => exact hitems items (h trivial)
  | _ => rfl

theorem failsIff_shownAll (items : List Claim) :
    Except.FailsIff (shownAll items) .oversizedInteger (∃ x ∈ items, x.Overlong) := by
  induction items with
  | nil => exact (Except.FailsIff.ok _ _).congr (by simp)
  | cons x xs ih =>
    refine (x.failsIff_shown.bind fun text => ih.map (text :: ·)).congr ?_
    simp

theorem IsSeveral.overlong_iff {c : Claim} (h : c.IsSeveral) :
    c.Overlong ↔ ∃ x ∈ c.parts, x.Overlong := by
  constructor
  · rintro ⟨n, hn, hlong⟩
    rcases within_iff.mp hn with rfl | ⟨x, hx, hn⟩
    · exact h.elim
    · exact ⟨x, hx, n, hn, hlong⟩
  · rintro ⟨x, hx, n, hn, hlong⟩
    exact ⟨n, .part hx hn, hlong⟩

theorem failsIff_audience (c : Claim) :
    Except.FailsIff c.audience .oversizedInteger (c.IsSeveral ∧ c.Overlong) := by
  have hparts : ∀ c : Claim, c.IsSeveral → Except.FailsIff (some <$> shownAll c.parts)
      .oversizedInteger (c.IsSeveral ∧ c.Overlong) := by
    intro c hseveral
    rw [and_iff_right hseveral, hseveral.overlong_iff]
    exact (failsIff_shownAll c.parts).map some
  cases c with
  | list items => exact hparts (.list items) trivial
  | set items => exact hparts (.set items) trivial
  | _ => exact (Except.FailsIff.ok _ _).congr (iff_of_false id And.left)

theorem eq_texts?_of_audience {c : Claim} {texts : Option (List String)}
    (h : c.audience = .ok texts) : texts = c.texts? := by
  have hshort := c.failsIff_audience.not_of_ok h
  have hsize : c.IsSeveral → c.hasOversized = false := fun hseveral =>
    hasOversized_eq_false_iff.mpr fun hlong => hshort ⟨hseveral, hlong⟩
  rw [audience_eq_ok hsize] at h
  exact (Except.ok.inj h).symm

end Claim

end GrantKeeper
