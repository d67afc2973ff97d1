/-
Reading written claims.

A claim that can be written and holds each key once is read back as its normal form, wherever its
text stands and whatever closes the value behind it (`readsAs_written`); a whole claim map is read
back from its text (`parse_written`).

The reader's fuel is bounded by the text: what is left of it behind a value is at least twice what
is left of the text, so `ReadsAs` asks for no more than that.
-/
import GrantKeeper.Proofs.Claim.Normal
import GrantKeeper.Proofs.Json.Number
import GrantKeeper.Proofs.Json.Text

namespace GrantKeeper

open Text

namespace Json

/-! ## Texts that are read as a value -/

/-- A text that starts a value or an entry: neither with a gap nor with the end of a list or map. -/
def Opens (text : List Char) : Prop :=
  ∃ c cs, text = c :: cs ∧ isGap c = false ∧ c ≠ ']' ∧ c ≠ '\x7d'

theorem Opens.append {text : List Char} (h : Opens text) (rest : List Char) :
    Opens (text ++ rest) := by
  obtain ⟨c, cs, rfl, hends⟩ := h
  exact ⟨c, cs ++ rest, rfl, hends⟩

theorem Opens.skipGap {text : List Char} (h : Opens text) : skipGap text = text := by
  obtain ⟨c, cs, rfl, hgap, _⟩ := h
  rw [Json.skipGap, List.dropWhile_cons_of_neg (by simp [hgap])]

theorem Opens.head_ne {text : List Char} (h : Opens text) :
    text.head? ≠ some ']' ∧ text.head? ≠ some '\x7d' := by
  obtain ⟨c, cs, rfl, _, hlist, hmap⟩ := h
  exact ⟨by simpa using hlist, by simpa using hmap⟩

/-- A text that is read as a claim and to its end, with fuel for all of it and whatever closes the
value behind it. -/
structure ReadsAs (text : List Char) (c : Claim) : Prop where
  opens : Opens text
  reads : ∀ fuel rest, 2 * text.length ≤ fuel → Closes rest →
    value fuel (text ++ rest) = .ok (c, rest)

/-! ## Scalars -/

theorem value_scalar {c : Char} (hquote : c ≠ doubleQuote) (hlist : c ≠ '[') (hmap : c ≠ '\x7b')
    (fuel : Nat) (cs : List Char) : value (fuel + 1) (c :: cs) = scalar (c :: cs) := by
  rw [value, if_neg hquote, if_neg hlist, if_neg hmap]

theorem readsAs_scalar {c : Char} {cs : List Char} {x : Claim} (hgap : isGap c = false)
    (hends : c ≠ ']' ∧ c ≠ '\x7d') (hquote : c ≠ doubleQuote) (hlist : c ≠ '[') (hmap : c ≠ '\x7b')
    (h : ∀ rest, Closes rest → scalar (c :: cs ++ rest) = .ok (x, rest)) :
    ReadsAs (c :: cs) x where
  opens := ⟨c, cs, rfl, hgap, hends⟩
  reads fuel rest hfuel hr := by
    cases fuel with
    | zero => simp at hfuel
    | succ fuel => exact (value_scalar hquote hlist hmap fuel _).trans (h rest hr)

theorem scalar_of_not_word {cs : List Char}
    (h : ∀ w ∈ words, w.1.toList.isPrefixOf cs = false) : scalar cs = number cs := by
  have hnone : (words.findSome? fun w => (after? w.1 cs).map (w.2, ·)) = none := by
    rw [List.findSome?_eq_none_iff]
    intro w hw
    simp only [after?, h w hw, Bool.false_eq_true, if_false, Option.map_none]
  unfold scalar
  rw [hnone]

theorem not_isPrefixOf_digit {word : List Char} (hw : word.head?.all isDigit = false) {c : Char}
    (h : isDigit c = true) (cs : List Char) : word.isPrefixOf (c :: cs) = false := by
  cases word with
  | nil => cases hw
  | cons d ds =>
    rw [List.head?_cons, Option.all_some] at hw
    rw [List.isPrefixOf_cons_cons, Bool.and_eq_false_iff, beq_eq_false_iff_ne]
    left
    rintro rfl
    rw [h] at hw
    cases hw

/-- What starts with a digit, behind a sign or not, is none of the words. -/
theorem scalar_minus (negative : Bool) {c : Char} (h : isDigit c = true) (cs : List Char) :
    scalar (minus negative ++ c :: cs) = number (minus negative ++ c :: cs) := by
  cases negative with
  | false =>
    have hwords : ∀ w ∈ words, w.1.toList.head?.all isDigit = false := by decide
    exact scalar_of_not_word fun w hw => not_isPrefixOf_digit (hwords w hw) h cs
  | true =>
    have hwords : ∀ w ∈ words, w.1.toList ≠ [] ∧
        (w.1.toList.head? = some '-' → w.1.toList.tail.head?.all isDigit = false) := by decide
    refine scalar_of_not_word fun w hw => ?_
    obtain ⟨hne, htail⟩ := hwords w hw
    obtain ⟨d, ds, hlist⟩ := List.exists_cons_of_ne_nil hne
    rw [hlist] at htail ⊢
    show (d == '-' && ds.isPrefixOf (c :: cs)) = false
    rw [Bool.and_eq_false_iff, beq_eq_false_iff_ne]
    by_cases hd : d = '-'
    · exact Or.inr (not_isPrefixOf_digit (htail (congrArg some hd)) h cs)
    · exact Or.inl hd

theorem ne_of_isDigit {c d : Char} (h : isDigit c = true) (hd : isDigit d = false) : c ≠ d := by
  rintro rfl
  rw [h] at hd
  cases hd

theorem opens_minus (negative : Bool) {c : Char} (h : isDigit c = true) (cs : List Char) :
    Opens (minus negative ++ c :: cs) := by
  cases negative with
  | false =>
    have hgaps : ∀ d, isGap d = true → isDigit d = false := by
      intro d hd
      simp only [isGap, Bool.or_eq_true, beq_iff_eq] at hd
      rcases hd with ((rfl | rfl) | rfl) | rfl <;> decide
    have hgap : isGap c = false := by
      rw [Bool.eq_false_iff]
      exact fun hc => ne_of_isDigit h (hgaps c hc) rfl
    exact ⟨c, cs, rfl, hgap, ne_of_isDigit h (by decide), ne_of_isDigit h (by decide)⟩
  | true => exact ⟨'-', c :: cs, rfl, by decide, by decide, by decide⟩

theorem value_minus (negative : Bool) {c : Char} (h : isDigit c = true) (fuel : Nat)
    (cs : List Char) :
    value (fuel + 1) (minus negative ++ c :: cs) = number (minus negative ++ c :: cs) := by
  rw [← scalar_minus negative h]
  cases negative with
  | false =>
    exact value_scalar (ne_of_isDigit h (by decide)) (ne_of_isDigit h (by decide))
      (ne_of_isDigit h (by decide)) fuel cs
  | true => exact value_scalar (by decide) (by decide) (by decide) fuel (c :: cs)

theorem readsAs_number (negative : Bool) {c : Char} (h : isDigit c = true) (cs : List Char)
    {x : Claim} (hread : ∀ rest, Closes rest →
      number (minus negative ++ c :: cs ++ rest) = .ok (x, rest)) :
    ReadsAs (minus negative ++ c :: cs) x where
  opens := opens_minus negative h cs
  reads fuel rest hfuel hr := by
    cases fuel with
    | zero => simp at hfuel
    | succ fuel =>
      have hvalue := value_minus negative h fuel (cs ++ rest)
      rw [← List.cons_append, ← List.append_assoc] at hvalue
      exact hvalue.trans (hread rest hr)

theorem readsAs_int {n : Int} (h : oversized n = false) : ReadsAs (decimalInt n) (.int n) := by
  obtain ⟨c, cs, hcs⟩ := List.exists_cons_of_ne_nil (decimal_ne_nil n.natAbs)
  have hdigit : isDigit c = true := isDigit_of_mem_decimal (hcs ▸ List.mem_cons_self)
  have hread : ∀ rest, Closes rest → number (decimalInt n ++ rest) = .ok (.int n, rest) :=
    fun _ => number_decimalInt h
  rw [decimalInt_eq, hcs] at hread ⊢
  exact readsAs_number _ hdigit cs hread

theorem readsAs_word {w : String × Claim} (h : w ∈ words) : ReadsAs w.1.toList w.2 := by
  simp only [words, List.mem_cons, List.not_mem_nil, or_false] at h
  rcases h with rfl | rfl | rfl | rfl | rfl | rfl
  all_goals
    dsimp only
    exact readsAs_scalar (by decide) (by decide) (by decide) (by decide) (by decide) fun _ _ => rfl

theorem readsAs_real (x : Binary64) : ReadsAs (writtenReal x) (.real x) := by
  match x with
  | .nan => exact readsAs_word (show ("NaN", _) ∈ words by simp [words])
  | .infinite true => exact readsAs_word (show ("-Infinity", _) ∈ words by simp [words])
  | .infinite false => exact readsAs_word (show ("Infinity", _) ∈ words by simp [words])
  | .finite negative place =>
    obtain ⟨r, htext, hvalue⟩ := exists_runs_finite negative place
    obtain ⟨c, cs, hcs⟩ := List.exists_cons_of_ne_nil r.wholeRun.ne_nil
    have hdigit : isDigit c = true := r.wholeRun.digits c (hcs ▸ List.mem_cons_self)
    have hread : ∀ rest, Closes rest →
        number (minus negative ++ r.text ++ rest) = .ok (.real (r.read negative), rest) :=
      fun _ => r.number_text negative
    rw [NumberRuns.text, hcs, List.cons_append, hvalue] at hread
    rw [htext, NumberRuns.text, hcs, List.cons_append]
    exact readsAs_number negative hdigit _ hread

theorem readsAs_text (s : String) : ReadsAs (writtenText s) (.text s) where
  opens := ⟨doubleQuote, s.toList.flatMap escaped ++ [doubleQuote], rfl, by decide, by decide,
    by decide⟩
  reads fuel rest hfuel _ := by
    cases fuel with
    | zero => simp [writtenText] at hfuel
    | succ fuel =>
      obtain ⟨body, hbody, hread⟩ := exists_writtenText_append s rest
      rw [hbody, value, if_pos rfl, hread]
      simp [Except.map]

/-! ## Lists -/

theorem commaJoined_cons_cons (t u : List Char) (us : List (List Char)) :
    commaJoined (t :: u :: us) = t ++ ',' :: ' ' :: commaJoined (u :: us) := by
  simp [commaJoined, List.intercalate_cons_cons]

theorem commaJoined_singleton (t : List Char) : commaJoined [t] = t := by
  simp [commaJoined]

theorem commaJoined_opens {t : List Char} (h : Opens t) (ts : List (List Char)) :
    Opens (commaJoined (t :: ts)) := by
  cases ts with
  | nil => rwa [commaJoined_singleton]
  | cons u us =>
    rw [commaJoined_cons_cons]
    exact h.append _

/-- Items that are read one by one are read as a list to its end. -/
theorem items_joined (p : List Char × Claim) (ps : List (List Char × Claim))
    (h : ∀ q ∈ p :: ps, ReadsAs q.1 q.2) (fuel : Nat) (rest : List Char)
    (hfuel : 2 * (commaJoined ((p :: ps).map (·.1))).length + 1 ≤ fuel) :
    items fuel (commaJoined ((p :: ps).map (·.1)) ++ ']' :: rest) =
      .ok ((p :: ps).map (·.2), rest) := by
  induction ps generalizing p fuel with
  | nil =>
    obtain ⟨fuel, rfl⟩ : ∃ k, fuel = k + 1 := ⟨fuel - 1, by omega⟩
    rw [List.map_singleton, commaJoined_singleton] at hfuel ⊢
    have hp := (h p List.mem_cons_self).reads fuel (']' :: rest) (by omega)
      (closes_cons (by decide))
    rw [items, hp]
    rfl
  | cons q qs ih =>
    obtain ⟨fuel, rfl⟩ : ∃ k, fuel = k + 1 := ⟨fuel - 1, by omega⟩
    have htexts : commaJoined ((p :: q :: qs).map (·.1)) =
        p.1 ++ ',' :: ' ' :: commaJoined ((q :: qs).map (·.1)) := commaJoined_cons_cons _ _ _
    rw [htexts] at hfuel ⊢
    rw [List.length_append, List.length_cons, List.length_cons] at hfuel
    have hp := (h p List.mem_cons_self).reads fuel
      (',' :: ' ' :: commaJoined ((q :: qs).map (·.1)) ++ ']' :: rest) (by omega)
      (closes_cons (by decide))
    have hqs := ih q (fun r hr => h r (List.mem_cons_of_mem p hr)) fuel (by omega)
    have hq : Opens (commaJoined ((q :: qs).map (·.1)) ++ ']' :: rest) :=
      (commaJoined_opens (h q (by simp)).opens _).append _
    have hgap : skipGap (' ' :: (commaJoined ((q :: qs).map (·.1)) ++ ']' :: rest)) =
        commaJoined ((q :: qs).map (·.1)) ++ ']' :: rest := hq.skipGap
    rw [List.append_assoc, items, hp]
    show (items fuel (skipGap (' ' :: (commaJoined ((q :: qs).map (·.1)) ++ ']' :: rest))) >>=
      fun r => Except.ok (p.2 :: r.1, r.2)) = _
    rw [hgap, hqs]
    rfl

theorem readsAs_list (ps : List (List Char × Claim)) (h : ∀ p ∈ ps, ReadsAs p.1 p.2) :
    ReadsAs ('[' :: commaJoined (ps.map (·.1)) ++ [']']) (.list (ps.map (·.2))) where
  opens := ⟨'[', _, rfl, by decide, by decide, by decide⟩
  reads fuel rest hfuel _ := by
    rw [List.length_append, List.length_cons, List.length_singleton] at hfuel
    obtain ⟨fuel, rfl⟩ : ∃ k, fuel = k + 1 := ⟨fuel - 1, by omega⟩
    have htext : '[' :: commaJoined (ps.map (·.1)) ++ [']'] ++ rest =
        '[' :: (commaJoined (ps.map (·.1)) ++ ']' :: rest) := by simp
    rw [htext, value, if_neg (by decide), if_pos rfl]
    cases ps with
    | nil => rfl
    | cons p ps =>
      have hopens : Opens (commaJoined ((p :: ps).map (·.1)) ++ ']' :: rest) :=
        (commaJoined_opens (h p List.mem_cons_self).opens _).append _
      have hitems := items_joined p ps h fuel rest (by omega)
      simp only [hopens.skipGap, if_neg hopens.head_ne.1, hitems]
      rfl

/-! ## Maps -/

def entryText (key : String) (text : List Char) : List Char :=
  writtenText key ++ ':' :: ' ' :: text

theorem entryText_opens (key : String) (text : List Char) : Opens (entryText key text) := by
  obtain ⟨body, hbody, _⟩ := exists_writtenText_append key (':' :: ' ' :: text)
  exact ⟨doubleQuote, body, hbody, by decide, by decide, by decide⟩

theorem key_entryText (key : String) {text : List Char} (h : Opens text) :
    Json.key (entryText key text) = .ok (key, text) := by
  obtain ⟨body, hbody, hread⟩ := exists_writtenText_append key (':' :: ' ' :: text)
  have hcolon : skipGap (':' :: ' ' :: text) = ':' :: ' ' :: text := rfl
  have hgap : skipGap (' ' :: text) = text := h.skipGap
  rw [entryText, hbody, doubleQuote]
  simp only [Json.key, hread, bind, Except.bind, hcolon, hgap, String.ofList_toList]

theorem entryText_append (key : String) (text rest : List Char) :
    entryText key text ++ rest = entryText key (text ++ rest) := by
  simp [entryText]

theorem length_entryText (key : String) (text : List Char) :
    text.length + 4 ≤ (entryText key text).length := by
  rw [entryText, writtenText]
  simp only [List.length_append, List.length_cons, List.length_nil]
  omega

/-- Entries that are read one by one are read as a map to its end. -/
theorem entries_joined (p : String × List Char × Claim) (ps : List (String × List Char × Claim))
    (h : ∀ q ∈ p :: ps, ReadsAs q.2.1 q.2.2) (fuel : Nat) (rest : List Char)
    (hfuel : 2 * (commaJoined ((p :: ps).map fun q => entryText q.1 q.2.1)).length ≤ fuel) :
    entries fuel (commaJoined ((p :: ps).map fun q => entryText q.1 q.2.1) ++ '\x7d' :: rest) =
      .ok ((p :: ps).map fun q => (q.1, q.2.2), rest) := by
  induction ps generalizing p fuel with
  | nil =>
    have hlength := length_entryText p.1 p.2.1
    rw [List.map_singleton, commaJoined_singleton] at hfuel ⊢
    obtain ⟨fuel, rfl⟩ : ∃ k, fuel = k + 1 := ⟨fuel - 1, by omega⟩
    have hp := h p List.mem_cons_self
    have hvalue := hp.reads fuel ('\x7d' :: rest) (by omega) (closes_cons (by decide))
    rw [entryText_append, entries, key_entryText p.1 (hp.opens.append _)]
    show (value fuel (p.2.1 ++ '\x7d' :: rest) >>= _) = _
    rw [hvalue]
    rfl
  | cons q qs ih =>
    have hlength := length_entryText p.1 p.2.1
    have htexts : commaJoined ((p :: q :: qs).map fun q => entryText q.1 q.2.1) =
        entryText p.1 p.2.1 ++
          ',' :: ' ' :: commaJoined ((q :: qs).map fun q => entryText q.1 q.2.1) :=
      commaJoined_cons_cons _ _ _
    rw [htexts] at hfuel ⊢
    rw [List.length_append, List.length_cons, List.length_cons] at hfuel
    obtain ⟨fuel, rfl⟩ : ∃ k, fuel = k + 1 := ⟨fuel - 1, by omega⟩
    have hp := h p List.mem_cons_self
    have hvalue := hp.reads fuel
      (',' :: ' ' :: commaJoined ((q :: qs).map fun q => entryText q.1 q.2.1) ++ '\x7d' :: rest)
      (by omega) (closes_cons (by decide))
    have hqs := ih q (fun r hr => h r (List.mem_cons_of_mem p hr)) fuel (by omega)
    have hq : Opens (commaJoined ((q :: qs).map fun q => entryText q.1 q.2.1) ++ '\x7d' :: rest) :=
      (commaJoined_opens (entryText_opens q.1 q.2.1) _).append _
    have hgap : skipGap (' ' :: (commaJoined ((q :: qs).map fun q => entryText q.1 q.2.1) ++
        '\x7d' :: rest)) =
        commaJoined ((q :: qs).map fun q => entryText q.1 q.2.1) ++ '\x7d' :: rest := hq.skipGap
    rw [List.append_assoc, entryText_append, entries, key_entryText p.1 (hp.opens.append _)]
    show (value fuel (p.2.1 ++ (',' :: ' ' :: commaJoined _ ++ '\x7d' :: rest)) >>= _) = _
    rw [hvalue]
    show (entries fuel (skipGap (' ' :: (commaJoined _ ++ '\x7d' :: rest))) >>=
      fun r => Except.ok ((p.1, p.2.2) :: r.1, r.2)) = _
    rw [hgap, hqs]
    rfl

theorem readsAs_map (ps : List (String × List Char × Claim)) (hkeys : (ps.map (·.1)).Nodup)
    (h : ∀ p ∈ ps, ReadsAs p.2.1 p.2.2) :
    ReadsAs ('\x7b' :: commaJoined (ps.map fun p => entryText p.1 p.2.1) ++ ['\x7d'])
      (.map (ps.map fun p => (p.1, p.2.2))) where
  opens := ⟨'\x7b', _, rfl, by decide, by decide, by decide⟩
  reads fuel rest hfuel _ := by
    rw [List.length_append, List.length_cons, List.length_singleton] at hfuel
    obtain ⟨fuel, rfl⟩ : ∃ k, fuel = k + 1 := ⟨fuel - 1, by omega⟩
    have htext : '\x7b' :: commaJoined (ps.map fun p => entryText p.1 p.2.1) ++ ['\x7d'] ++ rest =
        '\x7b' :: (commaJoined (ps.map fun p => entryText p.1 p.2.1) ++ '\x7d' :: rest) := by simp
    rw [htext, value, if_neg (by decide), if_neg (by decide), if_pos rfl]
    cases ps with
    | nil => rfl
    | cons p ps =>
      have hopens : Opens (commaJoined ((p :: ps).map fun p => entryText p.1 p.2.1) ++
          '\x7d' :: rest) := (commaJoined_opens (entryText_opens p.1 p.2.1) _).append _
      have hentries := entries_joined p ps h fuel rest (by omega)
      have hmerged : Claims.ofEntries ((p :: ps).map fun p => (p.1, p.2.2)) =
          (p :: ps).map fun p => (p.1, p.2.2) :=
        Claims.ofEntries_of_nodup (by rwa [List.map_map])
      simp only [hopens.skipGap, if_neg hopens.head_ne.2, hentries]
      show Except.ok (Claim.map (Claims.ofEntries _), rest) = _
      rw [hmerged]

/-! ## All claims -/

theorem writtenEntries_eq_map (entries : List (String × Claim)) :
    Claim.writtenEntries entries = entries.map fun e => entryText e.1 e.2.written := by
  induction entries with
  | nil => rfl
  | cons e es ih =>
    obtain ⟨key, x⟩ := e
    rw [Claim.writtenEntries, ih]
    rfl

theorem readsAs_scalarClaim {c : Claim} (hfault : c.fault? = none)
    (hlist : ∀ items, c ≠ .list items) (hset : ∀ items, c ≠ .set items)
    (hmap : ∀ entries, c ≠ .map entries) : ReadsAs c.written c.normal := by
  cases c with
  | null => exact readsAs_word (show ("null", Claim.null) ∈ words by simp [words])
  | bool b =>
    cases b with
    | true => exact readsAs_word (show ("true", Claim.bool true) ∈ words by simp [words])
    | false => exact readsAs_word (show ("false", Claim.bool false) ∈ words by simp [words])
  | int n =>
    have hn : oversized n = false := by
      by_contra hn
      rw [Bool.not_eq_false] at hn
      rw [Claim.fault?, if_pos hn] at hfault
      cases hfault
    exact readsAs_int hn
  | real x => exact readsAs_real x
  | text s => exact readsAs_text s
  | time t => exact readsAs_text t.isoText
  | binary _ => cases hfault
  | handle => cases hfault
  | list items => exact absurd rfl (hlist items)
  | set items => exact absurd rfl (hset items)
  | map entries => exact absurd rfl (hmap entries)

theorem readsAs_listClaim {items : List Claim} (h : ∀ x ∈ items, ReadsAs x.written x.normal) :
    ReadsAs (Claim.list items).written (Claim.list items).normal := by
  have hlist := readsAs_list (items.map fun x => (x.written, x.normal)) (by
    intro p hp
    obtain ⟨x, hx, rfl⟩ := List.mem_map.mp hp
    exact h x hx)
  rw [List.map_map, List.map_map] at hlist
  rw [Claim.written, Claim.normal, Claim.writtenItems_eq_map, Claim.normalItems_eq_map]
  exact hlist

theorem readsAs_setClaim {items : List Claim} (h : ∀ x ∈ items, ReadsAs x.written x.normal) :
    ReadsAs (Claim.set items).written (Claim.set items).normal := by
  -- One order of the items serves what is written and what is read.
  have hlist := readsAs_list ((Claim.byText items).map fun x => (x.written, x.normal)) (by
    intro p hp
    obtain ⟨x, hx, rfl⟩ := List.mem_map.mp hp
    exact h x ((Claim.byText_perm items).mem_iff.mp hx))
  rw [List.map_map, List.map_map] at hlist
  rw [Claim.written_set, Claim.normal_set]
  exact hlist

theorem readsAs_mapClaim {entries : Claims} (hkeys : (entries.map (·.1)).Nodup)
    (h : ∀ e ∈ entries, ReadsAs e.2.written e.2.normal) :
    ReadsAs (Claim.map entries).written (Claim.map entries).normal := by
  have hmap := readsAs_map (entries.map fun e => (e.1, e.2.written, e.2.normal))
    (by rwa [List.map_map])
    (by
      intro p hp
      obtain ⟨e, he, rfl⟩ := List.mem_map.mp hp
      exact h e he)
  rw [List.map_map, List.map_map] at hmap
  rw [Claim.written, Claim.normal, writtenEntries_eq_map, Claim.normalEntries_eq_map]
  exact hmap

/-- A claim with a written form, each key once, is read back as its normal form. -/
theorem readsAs_written (c : Claim) :
    c.fault? = none → c.keysOnce = true → ReadsAs c.written c.normal := by
  induction c using Claim.induct with
  | step c ih =>
    intro hfault hkeys
    have hparts : ∀ x ∈ c.parts, ReadsAs x.written x.normal := fun x hx =>
      ih x hx (((Claim.fault?_eq_none_iff_parts c).mp hfault).2 x hx)
        (((Claim.keysOnce_iff_parts c).mp hkeys).2 x hx)
    cases c with
    | list items => exact readsAs_listClaim hparts
    | set items => exact readsAs_setClaim hparts
    | map entries =>
      exact readsAs_mapClaim (Claim.keysOnce_map_iff.mp hkeys).1
        fun e he => hparts e.2 (List.mem_map_of_mem he)
    | _ =>
      exact readsAs_scalarClaim hfault (fun _ h => by cases h) (fun _ h => by cases h)
        (fun _ h => by cases h)

/-- Text that opens a map is read with the fuel that its length allows. -/
theorem parse_brace (cs : List Char) :
    parse (String.ofList ('\x7b' :: cs)) =
      (value (2 * ('\x7b' :: cs).length + 1) ('\x7b' :: cs) >>= fun found =>
        if skipGap found.2 = [] then .ok found.1 else .error .extraData) := by
  have hmark : ('\x7b' :: cs).head? ≠ some '\ufeff' := by
    rw [List.head?_cons, Ne, Option.some_inj]
    decide
  have hgap : skipGap ('\x7b' :: cs) = '\x7b' :: cs :=
    List.dropWhile_cons_of_neg (by decide)
  rw [parse, String.toList_ofList, if_neg hmark]
  dsimp only
  rw [hgap]

theorem parse_written {claims : Claims} (hfault : (Claim.map claims).fault? = none)
    (hkeys : claims.keysOnce = true) :
    parse (String.ofList (Claim.map claims).written) = .ok (.map claims.normal) := by
  have h := readsAs_written (.map claims) hfault hkeys
  have hvalue := h.reads (2 * (Claim.map claims).written.length + 1) [] (by omega) closes_nil
  obtain ⟨cs, hcs⟩ : ∃ cs, (Claim.map claims).written = '\x7b' :: cs := ⟨_, rfl⟩
  rw [List.append_nil] at hvalue
  rw [hcs] at hvalue ⊢
  rw [parse_brace, hvalue]
  rfl

end Json
end GrantKeeper
