/-
Text with an integer that is too long.

A reader leaves the end of its text behind, and it finds an integer too long only where the text has
a run of more digits than an integer may have (`longRun_of_parse`).  Conversely an integer with more
digits is refused behind the key of a map (`parse_overlong`), so this fault does occur.
-/
import GrantKeeper.Proofs.Json.Read
import GrantKeeper.Proofs.Json.Value
import Mathlib.Data.List.TakeWhile

namespace GrantKeeper

open Text

/-! ## Long runs of digits -/

theorem ofDigits_lt {ds : List Nat} (h : ∀ d ∈ ds, d < 10) : ofDigits ds < 10 ^ ds.length := by
  induction ds with
  | nil => exact Nat.one_pos
  | cons d ds ih =>
    obtain ⟨hd, hds⟩ := List.forall_mem_cons.mp h
    have hrest := ih hds
    have hfirst : (d + 1) * 10 ^ ds.length ≤ 10 * 10 ^ ds.length := Nat.mul_le_mul_right _ hd
    rw [ofDigits, List.foldl_cons, ofDigits_from, List.length_cons, Nat.pow_succ]
    rw [Nat.add_mul, Nat.one_mul] at hfirst
    rw [Nat.zero_mul, Nat.zero_add]
    omega

theorem digitValue?_lt {c : Char} {v : Nat} (h : digitValue? c = some v) : v < 10 := by
  unfold digitValue? at h
  split at h
  · cases h
    omega
  · cases h

/-- A number has at least as many digits as its size tells. -/
theorem natOfDigits_lt {cs : List Char} (h : ∀ c ∈ cs, isDigit c = true) :
    natOfDigits cs < 10 ^ cs.length := by
  rw [← length_filterMap_digitValue? h]
  refine ofDigits_lt fun v hv => ?_
  obtain ⟨c, _, hc⟩ := List.mem_filterMap.mp hv
  exact digitValue?_lt hc

/-- In the text stand more digits one after another than an integer may have. -/
def HasLongRun (cs : List Char) : Prop :=
  ∃ digits, digits <:+: cs ∧ (∀ c ∈ digits, isDigit c = true) ∧ digitLimit < digits.length

theorem HasLongRun.of_suffix {rest cs : List Char} (h : HasLongRun rest) (hrest : rest <:+ cs) :
    HasLongRun cs := by
  obtain ⟨digits, hinfix, hdigits⟩ := h
  exact ⟨digits, hinfix.trans hrest.isInfix, hdigits⟩

/-- The digits of an integer that is too long are a long run. -/
theorem length_of_oversized {ds : List Char} (hds : ∀ c ∈ ds, isDigit c = true)
    (h : oversized (natOfDigits ds) = true) : digitLimit < ds.length := by
  rw [oversized, decide_eq_true_iff, Int.natAbs_natCast] at h
  have hpow := Nat.lt_of_le_of_lt h (natOfDigits_lt hds)
  generalize digitLimit = limit at hpow ⊢
  exact (Nat.pow_lt_pow_iff_right (by omega)).mp hpow

namespace Json

variable {α β : Type}

/-! ## What a reader leaves behind -/

/-- The outcome of a reader on a text: what it leaves behind is the end of the text, and an integer
too long is one that stands in it. -/
structure ReadsWithin (cs : List Char) (outcome : Except ReadFault (α × List Char)) : Prop where
  rest : ∀ x rest, outcome = .ok (x, rest) → rest <:+ cs
  oversized : outcome = .error .oversized → HasLongRun cs

namespace ReadsWithin

theorem ok {cs rest : List Char} (x : α) (h : rest <:+ cs) :
    ReadsWithin cs (.ok (x, rest)) where
  rest _ _ heq := by
    cases heq
    exact h
  oversized heq := by cases heq

theorem error (cs : List Char) {fault : ReadFault} (h : fault ≠ .oversized) :
    ReadsWithin (α := α) cs (.error fault) where
  rest _ _ heq := by cases heq
  oversized heq := absurd (Except.error.inj heq) h

theorem tooLong {cs : List Char} (h : HasLongRun cs) :
    ReadsWithin (α := α) cs (.error .oversized) where
  rest _ _ heq := by cases heq
  oversized _ := h

theorem of_suffix {cs after : List Char} {outcome : Except ReadFault (α × List Char)}
    (h : ReadsWithin after outcome) (hafter : after <:+ cs) : ReadsWithin cs outcome where
  rest x rest heq := (h.rest x rest heq).trans hafter
  oversized heq := (h.oversized heq).of_suffix hafter

theorem map {cs : List Char} {outcome : Except ReadFault (α × List Char)} (f : α → β)
    (h : ReadsWithin cs outcome) :
    ReadsWithin cs (outcome.map fun (x, rest) => (f x, rest)) where
  rest y rest heq := by
    obtain ⟨⟨x, after⟩, hx, hpair⟩ := Except.map_eq_ok heq
    cases hpair
    exact h.rest x rest hx
  oversized heq := by
    cases houtcome : outcome with
    | ok found =>
      rw [houtcome] at heq
      cases heq
    | error fault =>
      rw [houtcome] at heq h
      exact h.oversized (congrArg Except.error (Except.error.inj heq))

/-- Of two readers one after the other the second starts where the first ends. -/
theorem bind {cs : List Char} {outcome : Except ReadFault (α × List Char)}
    {next : α × List Char → Except ReadFault (β × List Char)} (h : ReadsWithin cs outcome)
    (hnext : ∀ x rest, ReadsWithin rest (next (x, rest))) :
    ReadsWithin cs (outcome >>= next) := by
  cases houtcome : outcome with
  | ok found =>
    obtain ⟨x, rest⟩ := found
    exact (hnext x rest).of_suffix (h.rest x rest houtcome)
  | error fault =>
    rw [houtcome] at h
    refine ⟨fun _ _ heq => (by cases heq), fun heq => ?_⟩
    exact h.oversized (congrArg Except.error (Except.error.inj heq))

end ReadsWithin

theorem skipGap_suffix (cs : List Char) : skipGap cs <:+ cs :=
  List.dropWhile_suffix isGap

/-! ## Texts and numbers -/

theorem readsWithin_consText (ch : Char) {cs rest : List Char}
    (h : ReadsWithin rest (textBody rest)) (hrest : rest <:+ cs) :
    ReadsWithin cs (consText ch (textBody rest)) :=
  (h.map (ch :: ·)).of_suffix hrest

theorem readsWithin_textBody (cs : List Char) : ReadsWithin cs (textBody cs) := by
  fun_induction textBody cs with
  | case1 | case2 | case3 | case6 | case7 | case8 | case11 => exact .error _ (by decide)
  | case4 a b c d rest _ _ ch _ ih =>
    exact readsWithin_consText ch ih ⟨['\\', 'u', a, b, c, d], rfl⟩
  | case5 a b c d rest _ _ ch _ ih =>
    exact readsWithin_consText ch ih
      ((List.drop_suffix 6 rest).trans ⟨['\\', 'u', a, b, c, d], rfl⟩)
  | case9 c rest _ ch _ _ ih => exact readsWithin_consText ch ih ⟨['\\', c], rfl⟩
  | case10 rest => exact .ok [] (List.suffix_cons doubleQuote rest)
  | case12 c rest _ _ _ _ ih => exact readsWithin_consText c ih (List.suffix_cons c rest)

theorem wholeDigits_starts (cs : List Char) : wholeDigits cs <+: cs := by
  unfold wholeDigits
  split
  · exact ⟨_, rfl⟩
  · exact List.takeWhile_prefix isDigit

theorem isDigit_of_mem_wholeDigits {cs : List Char} {c : Char} (h : c ∈ wholeDigits cs) :
    isDigit c = true := by
  unfold wholeDigits at h
  split at h
  · exact isDigit_of_mem_zero h
  · exact List.mem_takeWhile_imp h

theorem fractionDigits_suffix (cs : List Char) : (fractionDigits cs).2 <:+ cs := by
  unfold fractionDigits
  split
  · split
    · exact (List.dropWhile_suffix isDigit).trans ⟨[_, _], rfl⟩
    · exact List.suffix_rfl
  · exact List.suffix_rfl

theorem splitSign_suffix (cs : List Char) : (splitSign cs).2 <:+ cs := by
  unfold splitSign
  split
  · exact List.suffix_cons _ _
  · exact List.suffix_cons _ _
  · exact List.suffix_rfl

theorem exponentPart_suffix (cs : List Char) : (exponentPart cs).2 <:+ cs := by
  cases cs with
  | nil => exact List.suffix_rfl
  | cons mark cs =>
    rw [exponentPart]
    dsimp only
    split
    · exact ((List.dropWhile_suffix isDigit).trans (splitSign_suffix cs)).trans
        (List.suffix_cons mark cs)
    · exact List.suffix_rfl

theorem readsWithin_number (cs : List Char) : ReadsWithin cs (number cs) := by
  unfold number
  dsimp only
  generalize (cs.head? == some '-') = negative
  have hbody : (if negative = true then cs.tail else cs) <:+ cs := by
    split
    · exact List.tail_suffix cs
    · exact List.suffix_rfl
  generalize (if negative = true then cs.tail else cs) = body at hbody ⊢
  refine ReadsWithin.of_suffix ?_ hbody
  have hrest := ((exponentPart_suffix _).trans (fractionDigits_suffix _)).trans
    (List.drop_suffix (wholeDigits body).length body)
  split
  · exact .error body (by decide)
  · split
    · split
      · next hsize =>
        have hdigits : ∀ c ∈ wholeDigits body, isDigit c = true :=
          fun _ => isDigit_of_mem_wholeDigits
        exact .tooLong ⟨wholeDigits body, (wholeDigits_starts body).isInfix, hdigits,
          length_of_oversized hdigits hsize⟩
      · exact .ok _ hrest
    · exact .ok _ hrest

/-! ## Values -/

theorem after?_suffix {word : String} {cs rest : List Char} (h : after? word cs = some rest) :
    rest <:+ cs := by
  unfold after? at h
  split at h
  · cases h
    exact List.drop_suffix _ _
  · cases h

theorem readsWithin_scalar (cs : List Char) : ReadsWithin cs (scalar cs) := by
  unfold scalar
  split
  · next found hfound =>
    obtain ⟨entry, _, hentry⟩ := List.exists_of_findSome?_eq_some hfound
    obtain ⟨rest, hafter, rfl⟩ := Option.map_eq_some_iff.mp hentry
    exact .ok _ (after?_suffix hafter)
  · exact readsWithin_number cs

theorem readsWithin_key (cs : List Char) : ReadsWithin cs (key cs) := by
  unfold key
  split
  · next rest =>
    refine ((readsWithin_textBody rest).bind fun s rest => ?_).of_suffix (List.suffix_cons _ rest)
    refine ReadsWithin.of_suffix ?_ (skipGap_suffix rest)
    dsimp only
    split
    · next after heq =>
      rw [heq]
      exact .ok _ ((skipGap_suffix after).trans (List.suffix_cons _ after))
    · exact .error _ (by decide)
  · exact .error cs (by decide)

/-- Values, items and entries that are read with some fuel. -/
structure ReadersWithin (fuel : Nat) : Prop where
  value : ∀ cs, ReadsWithin cs (value fuel cs)
  items : ∀ cs, ReadsWithin cs (items fuel cs)
  entries : ∀ cs, ReadsWithin cs (entries fuel cs)

theorem readsWithin_value_succ {fuel : Nat} (ih : ReadersWithin fuel) (cs : List Char) :
    ReadsWithin cs (value (fuel + 1) cs) := by
  cases cs with
  | nil =>
    rw [value]
    exact .error [] (by decide)
    simp
  | cons c cs =>
    have hgap := (skipGap_suffix cs).trans (List.suffix_cons c cs)
    rw [value]
    split
    · exact ((readsWithin_textBody cs).map fun s => Claim.text (String.ofList s)).of_suffix
        (List.suffix_cons c cs)
    · split
      · dsimp only
        split
        · exact .ok _ ((List.tail_suffix _).trans hgap)
        · exact ((ih.items (skipGap cs)).map Claim.list).of_suffix hgap
      · split
        · dsimp only
          split
          · exact .ok _ ((List.tail_suffix _).trans hgap)
          · have hentries := ih.entries (skipGap cs)
            exact (hentries.map fun es => Claim.map (Claims.ofEntries es)).of_suffix hgap
        · exact readsWithin_scalar (c :: cs)

theorem readsWithin_items_succ {fuel : Nat} (ih : ReadersWithin fuel) (cs : List Char) :
    ReadsWithin cs (items (fuel + 1) cs) := by
  rw [items]
  refine (ih.value cs).bind fun x rest => ?_
  refine ReadsWithin.of_suffix ?_ (skipGap_suffix rest)
  dsimp only
  split
  · next after heq =>
    rw [heq]
    exact .ok _ (List.suffix_cons _ after)
  · next after heq =>
    rw [heq]
    refine ((ih.items (skipGap after)).bind fun xs rest => ?_).of_suffix ?_
    · exact .ok (x :: xs) List.suffix_rfl
    · exact (skipGap_suffix after).trans (List.suffix_cons _ after)
  · exact .error _ (by decide)

theorem readsWithin_entries_succ {fuel : Nat} (ih : ReadersWithin fuel) (cs : List Char) :
    ReadsWithin cs (entries (fuel + 1) cs) := by
  rw [entries]
  refine (readsWithin_key cs).bind fun name rest => ?_
  refine (ih.value rest).bind fun x rest => ?_
  refine ReadsWithin.of_suffix ?_ (skipGap_suffix rest)
  dsimp only
  split
  · next after heq =>
    rw [heq]
    exact .ok _ (List.suffix_cons _ after)
  · next after heq =>
    rw [heq]
    refine ((ih.entries (skipGap after)).bind fun es rest => ?_).of_suffix ?_
    · exact .ok ((name, x) :: es) List.suffix_rfl
    · exact (skipGap_suffix after).trans (List.suffix_cons _ after)
  · exact .error _ (by decide)

theorem readersWithin (fuel : Nat) : ReadersWithin fuel := by
  -- As for what is read of a text, one induction serves values, items and entries.
  induction fuel with
  | zero =>
    refine ⟨fun cs => ?_, fun cs => ?_, fun cs => ?_⟩
    · rw [value]
      exact .error cs (by decide)
    · exact .error cs (by decide)
    · exact .error cs (by decide)
  | succ fuel ih =>
    exact ⟨readsWithin_value_succ ih, readsWithin_items_succ ih, readsWithin_entries_succ ih⟩

/-- An integer that is too long stands in the text that it was read from. -/
theorem longRun_of_parse {s : String} (h : parse s = .error .oversized) : HasLongRun s.toList := by
  unfold parse at h
  split at h
  · cases h
  · dsimp only at h
    have hvalue := (readersWithin (2 * (skipGap s.toList).length + 1)).value (skipGap s.toList)
    refine HasLongRun.of_suffix ?_ (skipGap_suffix s.toList)
    cases hread : value (2 * (skipGap s.toList).length + 1) (skipGap s.toList) with
    | error fault =>
      rw [hread] at hvalue h
      exact hvalue.oversized (congrArg Except.error (Except.error.inj h))
    | ok found =>
      rw [hread] at h
      change (if skipGap found.2 = [] then _ else _) = _ at h
      split at h <;> cases h

/-! ## Integers that are refused -/

theorem value_decimalInt_of_oversized {n : Int} (h : oversized n = true) {rest : List Char}
    (hr : Closes rest) (fuel : Nat) :
    value (fuel + 1) (decimalInt n ++ rest) = .error .oversized := by
  rw [← number_decimalInt_of_oversized h hr]
  obtain ⟨c, cs, hcs⟩ := List.exists_cons_of_ne_nil (decimal_ne_nil n.natAbs)
  have hdigit : isDigit c = true := isDigit_of_mem_decimal (hcs ▸ List.mem_cons_self)
  rw [decimalInt_eq, hcs, List.append_assoc, List.cons_append]
  exact value_minus _ hdigit fuel (cs ++ rest)

theorem opens_decimalInt (n : Int) : Opens (decimalInt n) := by
  obtain ⟨c, cs, hcs⟩ := List.exists_cons_of_ne_nil (decimal_ne_nil n.natAbs)
  have hdigit : isDigit c = true := isDigit_of_mem_decimal (hcs ▸ List.mem_cons_self)
  rw [decimalInt_eq, hcs]
  exact opens_minus _ hdigit cs

/-- The text of a map whose one entry is an integer. -/
def integerEntry (name : String) (n : Int) : List Char :=
  '\x7b' :: entryText name (decimalInt n ++ ['\x7d'])

/-- An integer that is too long is refused where a map holds it. -/
theorem parse_integerEntry (name : String) {n : Int} (h : oversized n = true) :
    parse (String.ofList (integerEntry name n)) = .error .oversized := by
  have hopens := entryText_opens name (decimalInt n ++ ['\x7d'])
  have hkey := key_entryText name ((opens_decimalInt n).append ['\x7d'])
  have hclosed : Closes ['\x7d'] := closes_cons (by decide)
  have hvalue (fuel : Nat) : value (fuel + 3) (integerEntry name n) = .error .oversized := by
    rw [integerEntry, value, if_neg (by decide), if_neg (by decide), if_pos rfl]
    dsimp only
    rw [hopens.skipGap, if_neg hopens.head_ne.2, entries, hkey]
    show Except.map _ (value (fuel + 1) (decimalInt n ++ ['\x7d']) >>= _) = _
    rw [value_decimalInt_of_oversized h hclosed]
    rfl
  obtain ⟨cs, hcs⟩ : ∃ cs, integerEntry name n = '\x7b' :: cs := ⟨_, rfl⟩
  obtain ⟨fuel, hfuel⟩ : ∃ fuel, 2 * ('\x7b' :: cs).length + 1 = fuel + 3 :=
    ⟨2 * cs.length, by rw [List.length_cons]; omega⟩
  rw [hcs] at hvalue ⊢
  rw [parse_brace, hfuel, hvalue]
  rfl

end Json
end GrantKeeper
