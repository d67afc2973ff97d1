/-
Reading numbers written by people: a sign and digits are one, and what starts with digits and a dash
is none.

Trimming, turning digits into ASCII ones and dropping underscores leave such a start as it is
(`trimWhere_append`, `dropUnderscores?_append`).  A text of digits alone is read as the number that
they stand for (`ofText?_signed`), and no number goes on with a dash after its digits
(`ofText?_dash`).
-/
import GrantKeeper.Proofs.Number.Runs
import Mathlib.Data.List.TakeWhile

namespace GrantKeeper

open Text

namespace Text

theorem trimWhere_of_forall {p : Char → Bool} {cs : List Char} (h : ∀ c ∈ cs, p c = false) :
    trimWhere p cs = cs := by
  have hkeep : ∀ {cs : List Char}, (∀ c ∈ cs, p c = false) → cs.dropWhile p = cs := by
    intro cs hall
    cases cs with
    | nil => rfl
    | cons c cs => exact List.dropWhile_cons_of_neg (by simp [hall c List.mem_cons_self])
  unfold trimWhere
  rw [hkeep h, hkeep fun c hc => h c (List.mem_reverse.mp hc), List.reverse_reverse]

theorem trimWhere_append {p : Char → Bool} {front : List Char} (hne : front ≠ [])
    (h : ∀ c ∈ front, p c = false) (rest : List Char) :
    ∃ kept, trimWhere p (front ++ rest) = front ++ kept := by
  have hkeep : ∀ {cs : List Char} (tail : List Char), cs ≠ [] → (∀ c ∈ cs, p c = false) →
      (cs ++ tail).dropWhile p = cs ++ tail := by
    intro cs tail hcs hall
    obtain ⟨c, cs, rfl⟩ := List.exists_cons_of_ne_nil hcs
    exact List.dropWhile_cons_of_neg (by simp [hall c List.mem_cons_self])
  have hback : front.reverse.dropWhile p = front.reverse := by
    have hall : ∀ c ∈ front.reverse, p c = false := fun c hc => h c (List.mem_reverse.mp hc)
    simpa using hkeep [] (by simpa using hne) hall
  unfold trimWhere
  rw [hkeep rest hne h, List.reverse_append, List.dropWhile_append]
  split
  · exact ⟨[], by rw [hback, List.reverse_reverse, List.append_nil]⟩
  · exact ⟨(rest.reverse.dropWhile p).reverse, by
      rw [List.reverse_append, List.reverse_reverse]⟩

end Text

theorem dropUnderscores?_cons {c : Char} (h : c ≠ '_') (before : Char) (cs : List Char) :
    dropUnderscores? before (c :: cs) = (dropUnderscores? c cs).map (c :: ·) := by
  rw [dropUnderscores?, if_neg h]
  intro _ _ heq _
  exact h heq

theorem dropUnderscores?_append {front : List Char} (h : ∀ c ∈ front, c ≠ '_') (before : Char)
    (rest cs : List Char) (hcs : dropUnderscores? before (front ++ rest) = some cs) :
    ∃ kept, cs = front ++ kept := by
  induction front generalizing before cs with
  | nil => exact ⟨cs, rfl⟩
  | cons c front ih =>
    rw [List.cons_append, dropUnderscores?_cons (h c List.mem_cons_self)] at hcs
    obtain ⟨tail, htail, rfl⟩ := Option.map_eq_some_iff.mp hcs
    obtain ⟨kept, rfl⟩ := ih (fun x hx => h x (List.mem_cons_of_mem c hx)) c tail htail
    exact ⟨kept, rfl⟩

theorem dropUnderscores?_eq_self {cs : List Char} (h : ∀ c ∈ cs, c ≠ '_') (before : Char) :
    dropUnderscores? before cs = some cs := by
  induction cs generalizing before with
  | nil => rfl
  | cons c cs ih =>
    rw [dropUnderscores?_cons (h c List.mem_cons_self),
      ih (fun x hx => h x (List.mem_cons_of_mem c hx)), Option.map_some]

theorem splitSign_of_isDigit {d : Char} (h : isDigit d = true) (cs : List Char) :
    splitSign (d :: cs) = (false, d :: cs) := by
  unfold splitSign
  split
  · next heq =>
    cases heq
    cases h
  · next heq =>
    cases heq
    cases h
  · rfl

namespace Binary64

theorem asciiDigit_of_isDigit {c : Char} (h : isDigit c = true) : asciiDigit c = c := by
  obtain ⟨n, hn, rfl⟩ := exists_digit h
  revert n
  decide

theorem toLower_of_isDigit {c : Char} (h : isDigit c = true) : c.toLower = c := by
  obtain ⟨n, hn, rfl⟩ := exists_digit h
  revert n
  decide

theorem not_isSpace_of_isDigit {c : Char} (h : isDigit c = true) : isSpace c = false := by
  obtain ⟨n, hn, rfl⟩ := exists_digit h
  revert n
  decide

/-- A digit is kept as it is by what is done to a text before it is read as a number. -/
theorem plain_of_isDigit {c : Char} (h : isDigit c = true) :
    isSpace c = false ∧ c ≠ '_' ∧ asciiDigit c = c := by
  refine ⟨not_isSpace_of_isDigit h, ?_, asciiDigit_of_isDigit h⟩
  rintro rfl
  cases h

/-- A run of digits with a dash behind it does not start a number. -/
theorem unsigned?_dash {ds : List Char} (hds : ∀ c ∈ ds, isDigit c = true) (negative : Bool)
    (rest : List Char) : unsigned? negative (ds ++ '-' :: rest) = none := by
  have hdash : isDigit '-' = false := by decide
  have hwhole : (ds ++ '-' :: rest).takeWhile isDigit = ds := by
    rw [List.takeWhile_append_of_pos hds, List.takeWhile_cons_of_neg (by simp [hdash]),
      List.append_nil]
  have hafter : (ds ++ '-' :: rest).dropWhile isDigit = '-' :: rest := by
    rw [List.dropWhile_append_of_pos hds, List.dropWhile_cons_of_neg (by simp [hdash])]
  have hpoint : ('-' :: rest).head? ≠ some '.' := by simp
  have hexponent : exponent? ('-' :: rest) = none := by
    unfold exponent?
    exact if_neg fun h => by rcases h.1 with h | h <;> cases h
  unfold unsigned?
  dsimp only
  rw [hafter, hwhole, if_neg hpoint, if_neg hpoint, hexponent]
  split <;> rfl

/-- What starts with a digit is neither an infinity nor a NaN. -/
theorem afterSign?_of_isDigit {d : Char} (h : isDigit d = true) (negative : Bool) (cs : List Char) :
    afterSign? negative (d :: cs) = unsigned? negative (d :: cs) := by
  have hname : ∀ name : String, name.toList.head?.all isDigit = false →
      String.ofList ((d :: cs).map Char.toLower) ≠ name := by
    rintro name hletter rfl
    rw [String.toList_ofList, List.map_cons, toLower_of_isDigit h, List.head?_cons,
      Option.all_some, h] at hletter
    cases hletter
  unfold afterSign?
  dsimp only
  rw [if_neg (not_or.mpr ⟨hname "inf" (by decide), hname "infinity" (by decide)⟩),
    if_neg (hname "nan" (by decide))]

theorem unsigned?_run {ds : List Char} (hne : ds ≠ []) (hds : ∀ c ∈ ds, isDigit c = true)
    (negative : Bool) :
    unsigned? negative ds = some (ofDecimal negative ⟨natOfDigits ds, 0⟩) := by
  have hwhole : ds.takeWhile isDigit = ds := List.takeWhile_eq_self_iff.mpr hds
  have hafter : ds.dropWhile isDigit = [] := List.dropWhile_eq_nil_iff.mpr hds
  have hpoint : ([] : List Char).head? ≠ some '.' := nofun
  unfold unsigned?
  dsimp only
  rw [hwhole, hafter, if_neg hpoint, if_neg hpoint, List.append_nil, if_neg hne]
  show some (ofDigitRuns negative ds [] 0) = _
  rw [ofDigitRuns, List.append_nil]
  rfl

/-- Digits, and a minus sign before them or none, are the number that they stand for. -/
theorem ofText?_signed {ds : List Char} (hne : ds ≠ []) (hds : ∀ c ∈ ds, isDigit c = true)
    (negative : Bool) :
    ofText? (String.ofList (minus negative ++ ds)) =
      some (ofDecimal negative ⟨natOfDigits ds, 0⟩) := by
  have hplain : ∀ c ∈ minus negative ++ ds,
      isSpace c = false ∧ c ≠ '_' ∧ asciiDigit c = c := by
    intro c hc
    rcases List.mem_append.mp hc with hc | hc
    · cases negative with
      | false => cases hc
      | true =>
        rw [List.mem_singleton.mp hc]
        exact ⟨by decide, by decide, by decide⟩
    · exact plain_of_isDigit (hds c hc)
  have hsign : splitSign (minus negative ++ ds) = (negative, ds) := by
    obtain ⟨d, tail, rfl⟩ := List.exists_cons_of_ne_nil hne
    cases negative with
    | false => exact splitSign_of_isDigit (hds d List.mem_cons_self) tail
    | true => rfl
  have hascii : (minus negative ++ ds).map asciiDigit = minus negative ++ ds :=
    (List.map_congr_left fun c hc => (hplain c hc).2.2).trans (List.map_id' _)
  unfold ofText?
  rw [String.toList_ofList, trimWhere_of_forall fun c hc => (hplain c hc).1, hascii,
    dropUnderscores?_eq_self fun c hc => (hplain c hc).2.1]
  show afterSign? (splitSign _).1 (splitSign _).2 = _
  rw [hsign]
  dsimp only
  rw [← unsigned?_run hne hds]
  obtain ⟨d, tail, rfl⟩ := List.exists_cons_of_ne_nil hne
  exact afterSign?_of_isDigit (hds d List.mem_cons_self) negative tail

/-- A text that starts with digits and a dash is no number. -/
theorem ofText?_dash {ds : List Char} (hne : ds ≠ []) (hds : ∀ c ∈ ds, isDigit c = true)
    (rest : List Char) : ofText? (String.ofList (ds ++ '-' :: rest)) = none := by
  have hfront : ∀ c ∈ ds ++ ['-'], isSpace c = false ∧ c ≠ '_' ∧ asciiDigit c = c := by
    intro c hc
    rcases List.mem_append.mp hc with hc | hc
    · exact plain_of_isDigit (hds c hc)
    · rw [List.mem_singleton.mp hc]
      exact ⟨by decide, by decide, by decide⟩
  have hsplit : ds ++ '-' :: rest = ds ++ ['-'] ++ rest := by simp
  obtain ⟨kept, htrim⟩ := trimWhere_append (by simp) (fun c hc => (hfront c hc).1) rest
  have hascii : (ds ++ ['-']).map asciiDigit = ds ++ ['-'] :=
    (List.map_congr_left fun c hc => (hfront c hc).2.2).trans (List.map_id' _)
  unfold ofText?
  rw [String.toList_ofList, hsplit, htrim, List.map_append, hascii]
  cases hdrop : dropUnderscores? ' ' (ds ++ ['-'] ++ kept.map asciiDigit) with
  | none => rfl
  | some cs =>
    obtain ⟨read, rfl⟩ := dropUnderscores?_append (fun c hc => (hfront c hc).2.1) ' ' _ cs hdrop
    obtain ⟨d, tail, rfl⟩ := List.exists_cons_of_ne_nil hne
    have hsign : splitSign (d :: tail ++ ['-'] ++ read) = (false, d :: tail ++ '-' :: read) := by
      rw [List.append_assoc, List.singleton_append, List.cons_append,
        splitSign_of_isDigit (hds d List.mem_cons_self)]
    show afterSign? (splitSign _).1 (splitSign _).2 = none
    rw [hsign]
    exact (afterSign?_of_isDigit (hds d List.mem_cons_self) false _).trans (unsigned?_dash hds ..)

end Binary64
end GrantKeeper
