/-
Reading written texts.

Every character of a written text is one that the reader takes as it is or an escape that stands for
it, so reading the text gives back its characters, whatever follows its closing quote
(`textBody_writtenText`).
-/
import GrantKeeper.Json.Reader
import GrantKeeper.Json.Writer

namespace GrantKeeper
namespace Json

open Text

/-! ## Steps of the reader -/

theorem textBody_quote (rest : List Char) : textBody (doubleQuote :: rest) = .ok ([], rest) := by
  rw [textBody]
  · rfl
  all_goals simp [doubleQuote]

theorem textBody_plain {c : Char} (hslash : c ≠ '\\') (hquote : c ≠ doubleQuote)
    (hcontrol : ¬c.toNat < 0x20) (rest : List Char) :
    textBody (c :: rest) = consText c (textBody rest) := by
  rw [textBody]
  · rw [if_neg hquote, if_neg hcontrol]
  all_goals simp [hslash]

theorem textBody_escape {c ch : Char} (hu : c ≠ 'u') (h : escape? c = some ch) (rest : List Char) :
    textBody ('\\' :: c :: rest) = consText ch (textBody rest) := by
  rw [textBody]
  · simp only [if_neg hu, h]
  all_goals simp [hu]

/-- A unit that is no half of a pair stands for its character, if the text does not end there. -/
theorem unit16_whole {n : Nat} (hn : isHighSurrogate n = false) {rest : List Char}
    (hrest : rest ≠ []) : unit16 n rest = .whole (unitChar n) := by
  unfold unit16
  split
  · rw [hn, if_neg (by simp)]
  · exact absurd rfl hrest
  · rfl

theorem hexNumber?_paddedHex {n : Nat} (h : n < 0x20) :
    ∃ a b c d, paddedHex 4 n = [a, b, c, d] ∧ hexNumber? a b c d = some n := by
  refine ⟨hexDigit (n / 16 / 16 / 16 % 16), hexDigit (n / 16 / 16 % 16), hexDigit (n / 16 % 16),
    hexDigit (n % 16), rfl, ?_⟩
  revert n
  decide

theorem textBody_control {c : Char} (h : c.toNat < 0x20) {rest : List Char} (hrest : rest ≠ []) :
    textBody ('\\' :: 'u' :: paddedHex 4 c.toNat ++ rest) = consText c (textBody rest) := by
  obtain ⟨d₁, d₂, d₃, d₄, hdigits, hvalue⟩ := hexNumber?_paddedHex h
  have hhigh : isHighSurrogate c.toNat = false := by
    simp only [isHighSurrogate, Bool.and_eq_false_iff, decide_eq_false_iff_not]
    omega
  have hlow : isLowSurrogate c.toNat = false := by
    simp only [isLowSurrogate, Bool.and_eq_false_iff, decide_eq_false_iff_not]
    omega
  have hchar : unitChar c.toNat = c := by
    rw [unitChar, hhigh, hlow, Bool.or_self, if_neg (by simp), Char.ofNat_toNat]
  rw [hdigits]
  simp only [List.cons_append, List.nil_append]
  rw [textBody]
  simp only [hvalue, unit16_whole hhigh hrest, hchar]

/-! ## Written texts -/

/-- The characters that have an escape of one letter. -/
def shortEscaped : List Char := [doubleQuote, '\\', '\n', '\r', '\t', '\x08', '\x0c']

theorem escaped_short {c : Char} (h : c ∈ shortEscaped) :
    ∃ e, escaped c = ['\\', e] ∧ e ≠ 'u' ∧ escape? e = some c := by
  simp only [shortEscaped, List.mem_cons, List.not_mem_nil, or_false] at h
  rcases h with rfl | rfl | rfl | rfl | rfl | rfl | rfl <;> exact ⟨_, rfl, by decide, rfl⟩

theorem escaped_of_not_short {c : Char} (h : c ∉ shortEscaped) :
    escaped c = if c.toNat < 0x20 then '\\' :: 'u' :: paddedHex 4 c.toNat else [c] := by
  simp only [shortEscaped, List.mem_cons, List.not_mem_nil, or_false, not_or] at h
  obtain ⟨hquote, hslash, hn, hr, ht, hb, hf⟩ := h
  have hb' : c.toNat ≠ 0x08 := fun h => hb (Char.toNat_inj.mp h)
  have hf' : c.toNat ≠ 0x0C := fun h => hf (Char.toNat_inj.mp h)
  rw [escaped, if_neg hquote, if_neg hslash, if_neg hn, if_neg hr, if_neg ht, if_neg hb',
    if_neg hf']

theorem textBody_escaped (c : Char) {rest : List Char} (hrest : rest ≠ []) :
    textBody (escaped c ++ rest) = consText c (textBody rest) := by
  by_cases hshort : c ∈ shortEscaped
  · obtain ⟨e, htext, hu, he⟩ := escaped_short hshort
    rw [htext]
    exact textBody_escape hu he rest
  · rw [escaped_of_not_short hshort]
    split
    · next h => exact textBody_control h hrest
    · next h =>
      have hslash : c ≠ '\\' := fun h => hshort (h ▸ by decide)
      have hquote : c ≠ doubleQuote := fun h => hshort (h ▸ by decide)
      exact textBody_plain hslash hquote h rest

theorem textBody_flatMap_escaped (cs rest : List Char) :
    textBody (cs.flatMap escaped ++ doubleQuote :: rest) = .ok (cs, rest) := by
  induction cs with
  | nil => exact textBody_quote rest
  | cons c cs ih =>
    rw [List.flatMap_cons, List.append_assoc, textBody_escaped c (by simp), ih]
    rfl

/-- A written text starts with its quote, and behind it the reader finds its characters. -/
theorem exists_writtenText_append (s : String) (rest : List Char) :
    ∃ body, writtenText s ++ rest = doubleQuote :: body ∧ textBody body = .ok (s.toList, rest) := by
  refine ⟨s.toList.flatMap escaped ++ doubleQuote :: rest, ?_, textBody_flatMap_escaped _ rest⟩
  simp [writtenText]

end Json
end GrantKeeper
