/-
Reading written numbers.

Whatever ends a value inside written text ends the runs of digits of a number as well (`Closes`), so
the reader takes all of a number and nothing else: `number_decimalInt` for integers and
`number_text` for floating-point numbers.
-/
import GrantKeeper.Json.Reader
import GrantKeeper.Json.Writer
import GrantKeeper.Proofs.Number.Runs

namespace GrantKeeper

open Text

/-! ## What follows a value -/

namespace Json

/-- What can follow a value in written text: nothing, a comma, or the end of a list or a map. -/
def Closes (rest : List Char) : Prop :=
  ∀ c ∈ rest.head?, c = ',' ∨ c = ']' ∨ c = '\x7d'

theorem closes_nil : Closes [] := by
  intro c hc
  cases hc

theorem closes_cons {c : Char} {rest : List Char} (h : c = ',' ∨ c = ']' ∨ c = '\x7d') :
    Closes (c :: rest) := by
  intro d hd
  cases hd
  exact h

theorem Closes.not_digit {rest : List Char} (h : Closes rest) :
    ∀ c ∈ rest.head?, isDigit c = false := by
  intro c hc
  rcases h c hc with rfl | rfl | rfl <;> decide

end Json

/-! ## Runs of digits -/

theorem takeWhile_isDigit {ds rest : List Char} (hd : ∀ c ∈ ds, isDigit c = true)
    (hr : ∀ c ∈ rest.head?, isDigit c = false) : (ds ++ rest).takeWhile isDigit = ds := by
  rw [List.takeWhile_append_of_pos hd]
  cases rest with
  | nil => simp
  | cons c rest => rw [List.takeWhile_cons_of_neg (by simp [hr c rfl]), List.append_nil]

theorem dropWhile_isDigit {ds rest : List Char} (hd : ∀ c ∈ ds, isDigit c = true)
    (hr : ∀ c ∈ rest.head?, isDigit c = false) : (ds ++ rest).dropWhile isDigit = rest := by
  rw [List.dropWhile_append_of_pos hd]
  cases rest with
  | nil => rfl
  | cons c rest => rw [List.dropWhile_cons_of_neg (by simp [hr c rfl])]

namespace Json

theorem wholeDigits_append {ds rest : List Char} (h : WholeRun ds)
    (hr : ∀ c ∈ rest.head?, isDigit c = false) : wholeDigits (ds ++ rest) = ds := by
  obtain ⟨c, cs, rfl⟩ := List.exists_cons_of_ne_nil h.ne_nil
  by_cases hc : c = '0'
  · subst hc
    rw [h.zero_alone rfl]
    rfl
  · rw [List.cons_append, wholeDigits]
    · rw [← List.cons_append, takeWhile_isDigit h.digits hr]
    · intro tail heq
      exact hc (List.cons.inj heq).1

theorem fractionDigits_point {ds rest : List Char} (hne : ds ≠ [])
    (hd : ∀ c ∈ ds, isDigit c = true) (hr : ∀ c ∈ rest.head?, isDigit c = false) :
    fractionDigits ('.' :: ds ++ rest) = (ds, rest) := by
  obtain ⟨c, cs, rfl⟩ := List.exists_cons_of_ne_nil hne
  have hcs : ∀ x ∈ cs, isDigit x = true := fun x hx => hd x (List.mem_cons_of_mem c hx)
  simp only [List.cons_append, fractionDigits, hd c List.mem_cons_self, if_true,
    takeWhile_isDigit hcs hr, dropWhile_isDigit hcs hr]

theorem fractionDigits_none {cs : List Char} (h : cs.head? ≠ some '.') :
    fractionDigits cs = ([], cs) := by
  rw [fractionDigits]
  rintro c rest rfl
  exact h rfl

theorem exponentPart_none {cs : List Char} (h : ∀ c ∈ cs.head?, c ≠ 'e' ∧ c ≠ 'E') :
    exponentPart cs = (none, cs) := by
  cases cs with
  | nil => rfl
  | cons c cs =>
    obtain ⟨he, hE⟩ := h c rfl
    simp [exponentPart, he, hE]

theorem exponentPart_exponentText (e : Int) {rest : List Char} (hr : Closes rest) :
    exponentPart ('e' :: Binary64.exponentText e ++ rest) = (some e, rest) := by
  have hsplit : splitSign ((if e < 0 then '-' else '+') :: Binary64.exponentDigits e ++ rest) =
      (decide (e < 0), Binary64.exponentDigits e ++ rest) := by
    split
    · next h => simp [splitSign, h]
    · next h => simp [splitSign, h]
  have hdigits : ∀ c ∈ Binary64.exponentDigits e, isDigit c = true :=
    fun _ => Binary64.isDigit_of_mem_exponentDigits
  have htake := takeWhile_isDigit hdigits hr.not_digit
  have hdrop := dropWhile_isDigit hdigits hr.not_digit
  have hvalue : (if decide (e < 0) then -(natOfDigits (Binary64.exponentDigits e) : Int)
      else (natOfDigits (Binary64.exponentDigits e) : Int)) = e := by
    rw [Binary64.natOfDigits_exponentDigits]
    by_cases h : e < 0
    · rw [if_pos (by simpa using h)]
      omega
    · rw [if_neg (by simpa using h)]
      omega
  rw [Binary64.exponentText_eq, List.cons_append, exponentPart]
  simp only [hsplit, htake, hdrop, hvalue, true_or, true_and]
  exact if_pos (Binary64.exponentDigits_ne_nil e)

/-! ## Numbers -/

theorem number_minus (negative : Bool) {body : List Char} (h : body.head? ≠ some '-') :
    ((minus negative ++ body).head? == some '-') = negative ∧
      (if negative = true then (minus negative ++ body).tail else minus negative ++ body) =
        body := by
  cases negative with
  | false => simp [minus, h]
  | true => simp [minus]

/-- A run of digits that nothing continues is read as an integer, unless that is too long. -/
theorem number_run (negative : Bool) {ds rest : List Char} (h : WholeRun ds) (hr : Closes rest) :
    number (minus negative ++ ds ++ rest) =
      if oversized (natOfDigits ds) then .error .oversized
      else
        .ok (.int (if negative then -(natOfDigits ds : Int) else (natOfDigits ds : Int)), rest) := by
  obtain ⟨hsign, hbody⟩ := number_minus negative (h.head_ne_minus rest)
  have hpoint : rest.head? ≠ some '.' := by
    intro hc
    have := hr '.' hc
    revert this
    decide
  have hmark : ∀ c ∈ rest.head?, c ≠ 'e' ∧ c ≠ 'E' := by
    intro c hc
    rcases hr c hc with rfl | rfl | rfl <;> decide
  rw [List.append_assoc, number]
  simp only [hbody, hsign, wholeDigits_append h hr.not_digit, List.drop_left,
    fractionDigits_none hpoint, exponentPart_none hmark, if_neg h.ne_nil, and_self, if_true]

theorem number_whole (negative : Bool) {ds rest : List Char} (h : WholeRun ds) (hr : Closes rest)
    (hsize : oversized (natOfDigits ds) = false) :
    number (minus negative ++ ds ++ rest) =
      .ok (.int (if negative then -(natOfDigits ds : Int) else (natOfDigits ds : Int)), rest) := by
  rw [number_run negative h hr, hsize, if_neg Bool.false_ne_true]

end Json

/-! ## Floating-point numbers -/

namespace NumberRuns

theorem exponentPart_exponentMark (x : Option Int) {rest : List Char} (hr : Json.Closes rest) :
    Json.exponentPart (exponentMark x ++ rest) = (x, rest) := by
  cases x with
  | none =>
    refine Json.exponentPart_none fun c hc => ?_
    rcases hr c hc with rfl | rfl | rfl <;> decide
  | some e => exact Json.exponentPart_exponentText e hr

theorem exponentMark_head {x : Option Int} {rest : List Char} (hr : Json.Closes rest) :
    ∀ c ∈ (exponentMark x ++ rest).head?, isDigit c = false ∧ c ≠ '.' := by
  intro c hc
  cases x with
  | none => rcases hr c hc with rfl | rfl | rfl <;> decide
  | some e =>
    cases hc
    decide

theorem fractionDigits_tail (r : NumberRuns) {rest : List Char} (hr : Json.Closes rest) :
    Json.fractionDigits (r.tail ++ rest) = (r.fraction, exponentMark r.exponent ++ rest) := by
  have hhead := exponentMark_head (x := r.exponent) hr
  by_cases hf : r.fraction = []
  · rw [tail, if_pos hf, List.nil_append, hf]
    exact Json.fractionDigits_none fun h => (hhead '.' h).2 rfl
  · rw [tail, if_neg hf, List.append_assoc]
    exact Json.fractionDigits_point hf r.fractionRun fun c hc => (hhead c hc).1

theorem tail_head (r : NumberRuns) {rest : List Char} :
    ∀ c ∈ (r.tail ++ rest).head?, isDigit c = false := by
  intro c hc
  unfold tail at hc
  by_cases hf : r.fraction = []
  · rw [if_pos hf, List.nil_append] at hc
    cases hx : r.exponent with
    | none => exact absurd ⟨hf, hx⟩ r.marked
    | some e =>
      rw [hx] at hc
      cases hc
      decide
  · rw [if_neg hf] at hc
    cases hc
    decide

/-- The runs of a floating-point number are read as what they stand for. -/
theorem number_text (r : NumberRuns) (negative : Bool) {rest : List Char} (hr : Json.Closes rest) :
    Json.number (minus negative ++ r.text ++ rest) = .ok (.real (r.read negative), rest) := by
  obtain ⟨hsign, hbody⟩ :=
    Json.number_minus negative (r.wholeRun.head_ne_minus (r.tail ++ rest))
  rw [text, List.append_assoc, List.append_assoc, Json.number]
  simp only [hbody, hsign, Json.wholeDigits_append r.wholeRun r.tail_head, List.drop_left,
    r.fractionDigits_tail hr, exponentPart_exponentMark r.exponent hr, if_neg r.wholeRun.ne_nil,
    if_neg r.marked]
  rfl

end NumberRuns

/-! ## Written numbers -/

namespace Json

theorem oversized_decimal (n : Int) :
    oversized (natOfDigits (decimal n.natAbs)) = oversized n := by
  unfold oversized
  rw [natOfDigits_decimal, Int.natAbs_natCast]

theorem number_decimalInt {n : Int} (h : oversized n = false) {rest : List Char}
    (hr : Closes rest) : number (decimalInt n ++ rest) = .ok (.int n, rest) := by
  have hvalue : (if decide (n < 0) then -(n.natAbs : Int) else (n.natAbs : Int)) = n := by
    by_cases hn : n < 0
    · rw [if_pos (by simpa using hn)]
      omega
    · rw [if_neg (by simpa using hn)]
      omega
  rw [decimalInt_eq, number_whole (decide (n < 0)) (wholeRun_decimal n.natAbs) hr
    ((oversized_decimal n).trans h), natOfDigits_decimal, hvalue]

theorem number_decimalInt_of_oversized {n : Int} (h : oversized n = true) {rest : List Char}
    (hr : Closes rest) : number (decimalInt n ++ rest) = .error .oversized := by
  rw [decimalInt_eq, number_run (decide (n < 0)) (wholeRun_decimal n.natAbs) hr,
    oversized_decimal, if_pos h]

/-- A finite floating-point number is written as a sign and runs that stand for it. -/
theorem exists_runs_finite (negative : Bool) (place : Fin 0x7FF0000000000000) :
    ∃ r : NumberRuns, writtenReal (.finite negative place) = minus negative ++ r.text ∧
      r.read negative = .finite negative place := by
  obtain ⟨r, htext, hread⟩ := NumberRuns.exists_runs_text place.isLt
  refine ⟨r, ?_, hread negative⟩
  rw [htext, writtenReal, Binary64.text, minus]
  · cases negative <;> rfl
  · intro h
    cases h
  · intro _ h
    cases h

end Json
end GrantKeeper
