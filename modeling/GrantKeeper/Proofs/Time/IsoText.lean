/-
ISO 8601 texts of timestamps, read again.

The text of a timestamp names the same reading of a clock, with the offset of that clock as texts
keep it (`ofIsoText?_isoText`): one of less than a second is read as that of UTC, any other as it is.
-/
import GrantKeeper.Proofs.Number.Reader
import GrantKeeper.Proofs.Time.Calendar
import GrantKeeper.Time.Iso

namespace GrantKeeper

open Text

namespace Iso

/-! ## Numbers of a fixed width -/

theorem digits?_padded {width n : Nat} (h : n < 10 ^ width) (rest : List Char) :
    digits? width (padded width n ++ rest) = some (n, rest) := by
  have htake : (padded width n ++ rest).take width = padded width n :=
    List.take_left' (length_padded width n)
  have hdrop : (padded width n ++ rest).drop width = rest :=
    List.drop_left' (length_padded width n)
  have hlength : ((padded width n).filterMap digitValue?).length = width := by
    rw [length_filterMap_digitValue? fun _ => isDigit_of_mem_padded, length_padded]
  have hvalue : ofDigits ((padded width n).filterMap digitValue?) = n :=
    (natOfDigits_padded width n).trans (Nat.mod_eq_of_lt h)
  unfold digits?
  dsimp only
  rw [htake, hdrop, if_pos hlength, hvalue]

theorem digits?_padded_end {width n : Nat} (h : n < 10 ^ width) :
    digits? width (padded width n) = some (n, []) := by
  have hread := digits?_padded h []
  rwa [List.append_nil] at hread

/-! ## Times of day -/

theorem fraction?_padded {micro : Nat} (h : micro < microsPerSecond) :
    fraction? (padded 6 micro) = some (micro, true) := by
  unfold fraction?
  rw [length_padded]
  show (digits? 6 (padded 6 micro)).bind _ = _
  rw [digits?_padded_end h]
  simp [isEnd]

theorem components?_colon {left n : Nat} {colons : Bool} {read : List Nat} {rest : List Char}
    (hn : n < 100) (hcolons : read = [] ∨ colons = true) (hrest : rest ≠ []) :
    components? (left + 1) colons read (padded 2 n ++ ':' :: rest) =
      components? left true (read ++ [n]) rest := by
  obtain ⟨c, cs, rfl⟩ := List.exists_cons_of_ne_nil hrest
  rw [components?, digits?_padded hn]
  rcases hcolons with rfl | rfl
  · rfl
  · dsimp only
    split <;> rfl

theorem components?_end {left n : Nat} {colons : Bool} {read : List Nat} (hn : n < 100) :
    components? (left + 1) colons read (padded 2 n) = some (read ++ [n], 0, true) := by
  rw [components?, digits?_padded_end hn]

theorem components?_fraction {left n micro : Nat} {read : List Nat} (hn : n < 100)
    (hread : read ≠ []) (hmicro : micro < microsPerSecond) :
    components? (left + 1) true read (padded 2 n ++ '.' :: padded 6 micro) =
      some (read ++ [n], micro, true) := by
  obtain ⟨c, cs, hcs⟩ : ∃ c cs, padded 6 micro = c :: cs := ⟨_, _, rfl⟩
  rw [components?, digits?_padded hn, hcs]
  dsimp only
  rw [if_neg hread, ← hcs, fraction?_padded hmicro]
  rfl

/-- Hours, minutes and seconds with a fraction, where there is one. -/
def clockText (hour minute second micro : Nat) : List Char :=
  padded 2 hour ++ ':' :: (padded 2 minute ++ ':' ::
    (padded 2 second ++ Timestamp.fractionText micro))

theorem clock?_clockText {hour minute second micro : Nat} (hhour : hour < 100)
    (hminute : minute < 100) (hsecond : second < 100) (hmicro : micro < microsPerSecond) :
    clock? (clockText hour minute second micro) = some ⟨hour, minute, second, micro, true⟩ := by
  have hlast : components? 1 true [hour, minute]
      (padded 2 second ++ Timestamp.fractionText micro) =
        some ([hour, minute, second], micro, true) := by
    unfold Timestamp.fractionText
    split
    · next hzero =>
      rw [List.append_nil, components?_end hsecond, hzero]
      rfl
    · rw [components?_fraction hsecond (by simp) hmicro]
      rfl
  unfold clock? clockText
  rw [components?_colon hhour (.inl rfl), List.nil_append, components?_colon hminute (.inr rfl),
    List.cons_append, List.nil_append, hlast]
  · rfl
  · simp [padded]
  · simp

theorem clock?_short {hour minute : Nat} (hhour : hour < 100) (hminute : minute < 100) :
    clock? (padded 2 hour ++ ':' :: padded 2 minute) = some ⟨hour, minute, 0, 0, true⟩ := by
  unfold clock?
  rw [components?_colon hhour (.inl rfl), List.nil_append, components?_end hminute]
  · rfl
  · simp [padded]

theorem mem_fractionText {micro : Nat} {c : Char} (h : c ∈ Timestamp.fractionText micro) :
    isDigit c = true ∨ c = '.' := by
  unfold Timestamp.fractionText at h
  split at h
  · cases h
  · rcases List.mem_cons.mp h with rfl | h
    · exact .inr rfl
    · exact .inl (isDigit_of_mem_padded h)

theorem mem_clockText {hour minute second micro : Nat} {c : Char}
    (h : c ∈ clockText hour minute second micro) : isDigit c = true ∨ c = ':' ∨ c = '.' := by
  simp only [clockText, List.mem_append, List.mem_cons] at h
  rcases h with h | rfl | h | rfl | h | h
  · exact .inl (isDigit_of_mem_padded h)
  · exact .inr (.inl rfl)
  · exact .inl (isDigit_of_mem_padded h)
  · exact .inr (.inl rfl)
  · exact .inl (isDigit_of_mem_padded h)
  · exact (mem_fractionText h).imp_right .inr

/-! ## Offsets -/

/-- What the text of an offset is read as: one of less than a second counts as none. -/
def asRead (offset : Offset) : Offset :=
  if offset.micros.natAbs < microsPerSecond then .utc else offset

/-- An offset that reading its text does not lose: none at all, or one of a second at least. -/
def KeepsOffset (offset : Offset) : Prop :=
  offset.micros = 0 ∨ microsPerSecond ≤ offset.micros.natAbs

theorem asRead_of_keepsOffset {offset : Offset} (h : KeepsOffset offset) :
    asRead offset = offset := by
  obtain ⟨micros, lower, upper⟩ := offset
  unfold asRead
  split
  · next hsmall =>
    rcases h with h | h
    · cases h
      rfl
    · exact absurd hsmall (Nat.not_lt.mpr h)
  · rfl

theorem natAbs_lt (offset : Offset) : offset.micros.natAbs < microsPerDay := by
  have hlower := offset.lower
  have hupper := offset.upper
  omega

theorem clock?_offsetText (offset : Offset) :
    clock? (Timestamp.offsetText offset).tail =
      some ⟨offset.micros.natAbs / microsPerSecond / 3600,
        offset.micros.natAbs / microsPerSecond / 60 % 60,
        offset.micros.natAbs / microsPerSecond % 60,
        offset.micros.natAbs % microsPerSecond, true⟩ := by
  have hlt := natAbs_lt offset
  unfold Timestamp.offsetText
  dsimp only
  generalize offset.micros.natAbs = n at *
  unfold microsPerDay at hlt
  have hmicro : n % microsPerSecond < microsPerSecond := Nat.mod_lt n (by decide)
  have hseconds : n / microsPerSecond < 86400 := Nat.div_lt_of_lt_mul (by rwa [Nat.mul_comm])
  generalize n % microsPerSecond = micro at *
  generalize n / microsPerSecond = seconds at *
  rw [List.cons_append, List.cons_append, List.cons_append, List.tail_cons]
  by_cases hshort : seconds % 60 = 0 ∧ micro = 0
  · have hnone : Timestamp.fractionText micro = [] := by rw [hshort.2]; rfl
    rw [if_pos hshort, hnone, List.append_nil, List.append_nil,
      clock?_short (by omega) (by omega), hshort.1, hshort.2]
  · have htext : clock? (clockText (seconds / 3600) (seconds / 60 % 60) (seconds % 60) micro) = _ :=
      clock?_clockText (by omega) (by omega) (by omega) hmicro
    rw [if_neg hshort]
    simpa [clockText] using htext

theorem head?_offsetText (offset : Offset) :
    (Timestamp.offsetText offset).head? = some (if offset.micros < 0 then '-' else '+') := rfl

theorem mem_offsetText {offset : Offset} {c : Char} (h : c ∈ Timestamp.offsetText offset) :
    isDigit c = true ∨ c = ':' ∨ c = '.' ∨ c = '+' ∨ c = '-' := by
  unfold Timestamp.offsetText at h
  simp only [List.mem_append, List.mem_cons] at h
  rcases h with (((hsign | h) | rfl | h) | hseconds) | h
  · split at hsign
    · exact .inr (.inr (.inr (.inr hsign)))
    · exact .inr (.inr (.inr (.inl hsign)))
  · exact .inl (isDigit_of_mem_padded h)
  · exact .inr (.inl rfl)
  · exact .inl (isDigit_of_mem_padded h)
  · split at hseconds
    · cases hseconds
    · rcases List.mem_cons.mp hseconds with rfl | h
      · exact .inr (.inl rfl)
      · exact .inl (isDigit_of_mem_padded h)
  · exact (mem_fractionText h).imp_right fun h => .inr (.inl h)

theorem offset?_offsetText (offset : Offset) :
    offset? (Timestamp.offsetText offset) = some (asRead offset) := by
  have hlower := offset.lower
  have hupper := offset.upper
  -- The numbers of the text come to the size of the offset again.
  have hseconds : offset.micros.natAbs / microsPerSecond / 3600 * 3600 +
      offset.micros.natAbs / microsPerSecond / 60 % 60 * 60 +
      offset.micros.natAbs / microsPerSecond % 60 = offset.micros.natAbs / microsPerSecond := by
    omega
  have hsigned : (if (Timestamp.offsetText offset).head? = some '-'
      then -(offset.micros.natAbs : Int) else offset.micros.natAbs) = offset.micros := by
    rw [head?_offsetText]
    split
    · rw [if_pos rfl]
      omega
    · rw [if_neg (by decide)]
      omega
  unfold offset? asRead
  rw [clock?_offsetText]
  show Offset.ofMicros? _ = _
  dsimp only
  rw [hseconds, Nat.div_add_mod']
  by_cases hsmall : offset.micros.natAbs < microsPerSecond
  · have hzero : offset.micros.natAbs / microsPerSecond = 0 := Nat.div_eq_of_lt hsmall
    rw [if_pos hsmall, if_pos hzero, Int.neg_zero, ite_self]
    rfl
  · have hnonzero : offset.micros.natAbs / microsPerSecond ≠ 0 := fun hzero =>
      hsmall ((Nat.div_eq_zero_iff_lt (by decide)).mp hzero)
    rw [if_neg hsmall, if_neg hnonzero, hsigned, Offset.ofMicros?, dif_pos ⟨hlower, hupper⟩]

/-! ## Dates -/

def dateText (year month day : Nat) : List Char :=
  padded 4 year ++ '-' :: (padded 2 month ++ '-' :: padded 2 day)

@[simp] theorem length_dateText (year month day : Nat) :
    (dateText year month day).length = 10 := by
  simp only [dateText, List.length_append, List.length_cons, length_padded]

theorem drop_dateText (year month day : Nat) (c : Char) (rest : List Char) :
    (dateText year month day ++ c :: rest).drop 11 = rest := by
  rw [← List.singleton_append, ← List.append_assoc]
  exact List.drop_left' (by rw [List.length_append, length_dateText, List.length_singleton])

theorem mem_dateText {year month day : Nat} {c : Char} (h : c ∈ dateText year month day) :
    isDigit c = true ∨ c = '-' := by
  simp only [dateText, List.mem_append, List.mem_cons] at h
  rcases h with h | rfl | h | rfl | h
  · exact .inl (isDigit_of_mem_padded h)
  · exact .inr rfl
  · exact .inl (isDigit_of_mem_padded h)
  · exact .inr rfl
  · exact .inl (isDigit_of_mem_padded h)

theorem digit_ne {n : Nat} (h : n < 10) {c : Char} (hc : isDigit c = false) : digit n ≠ c := by
  rintro rfl
  rw [isDigit_digit h] at hc
  cases hc

theorem date?_dateText {year month day : Nat} (h : Calendar.isDate year month day = true)
    (rest : List Char) :
    date? 10 (dateText year month day ++ rest) = some (Calendar.dayOf year month day : Int) := by
  obtain ⟨⟨_, hyear⟩, ⟨_, hmonth⟩, _, hday⟩ := Calendar.isDate_iff.mp h
  have hdays := Calendar.daysInMonth_le year month
  have hweek : (padded 2 month ++ '-' :: (padded 2 day ++ rest)).head? ≠ some 'W' := by
    show some (digit (month / 10 % 10)) ≠ some 'W'
    rw [Ne, Option.some_inj]
    exact digit_ne (Nat.mod_lt _ (by omega)) (by decide)
  unfold date? dateText
  simp only [List.append_assoc, List.cons_append]
  rw [digits?_padded (by omega)]
  show (if (padded 2 month ++ '-' :: (padded 2 day ++ rest)).head? = some 'W' then _ else
    monthDate? year true (padded 2 month ++ '-' :: (padded 2 day ++ rest))) = _
  rw [if_neg hweek, monthDate?, digits?_padded (by omega)]
  show ((digits? 2 (padded 2 day ++ rest)).bind _) = _
  rw [digits?_padded (by omega)]
  simp [h]

theorem dateLength_dateText (year month day : Nat) (c : Char) (rest : List Char) :
    dateLength (dateText year month day ++ c :: rest) = 10 := by
  have hlength : (dateText year month day ++ c :: rest).length ≠ 7 := by
    rw [List.length_append, length_dateText]
    omega
  have hdash : (dateText year month day ++ c :: rest)[4]? = some '-' := rfl
  have hweek : (dateText year month day ++ c :: rest)[5]? ≠ some 'W' := by
    show some (digit (month / 10 % 10)) ≠ some 'W'
    rw [Ne, Option.some_inj]
    exact digit_ne (Nat.mod_lt _ (by omega)) (by decide)
  rw [dateLength, if_neg hlength, if_pos hdash, if_neg hweek]

/-! ## Times with offsets -/

theorem time?_clockText {hour minute second micro time : Nat} {zone : List Char}
    (hclock : clock? (clockText hour minute second micro) =
      some ⟨hour, minute, second, micro, true⟩)
    (htime : Moment.timeOfDay? hour minute second micro = some time)
    (hzone : ∀ c ∈ zone.head?, c = '+' ∨ c = '-') :
    time? (clockText hour minute second micro ++ zone) =
      if zone = [] then some (time, none) else (offset? zone).map fun offset => (time, some offset)
    := by
  have hsigns : ∀ c ∈ clockText hour minute second micro,
      (!(c == '+' || c == '-')) = true := by
    intro c hc
    rcases mem_clockText hc with hdigit | rfl | rfl
    · have hplus : c ≠ '+' := by rintro rfl; cases hdigit
      have hminus : c ≠ '-' := by rintro rfl; cases hdigit
      simp [hplus, hminus]
    · decide
    · decide
  have hend : zone.takeWhile (fun c => !(c == '+' || c == '-')) = [] ∧
      zone.dropWhile (fun c => !(c == '+' || c == '-')) = zone := by
    cases zone with
    | nil => exact ⟨rfl, rfl⟩
    | cons sign rest =>
      have hsign : (!(sign == '+' || sign == '-')) = false := by
        rcases hzone sign rfl with rfl | rfl <;> rfl
      exact ⟨List.takeWhile_cons_of_neg (by simp [hsign]),
        List.dropWhile_cons_of_neg (by simp [hsign])⟩
  unfold time?
  dsimp only
  rw [List.takeWhile_append_of_pos hsigns, List.dropWhile_append_of_pos hsigns, hend.1, hend.2,
    List.append_nil, hclock]
  show (Moment.timeOfDay? hour minute second micro).bind _ = _
  rw [htime]
  dsimp only [Option.bind_some]
  split
  · rfl
  · cases offset? zone <;> rfl

end Iso

/-! ## Timestamps -/

namespace Moment

theorem day_lt (m : Moment) : m.day < Calendar.dayCount :=
  Nat.div_lt_of_lt_mul (by
    rw [Nat.mul_comm]
    exact m.micros_lt)

theorem timeOfDay_lt (m : Moment) : m.timeOfDay < microsPerDay :=
  Nat.mod_lt _ (by decide)

theorem ofDay?_day (m : Moment) : ofDay? m.day m.timeOfDay = some m := by
  have hmicros : (m.day : Int) * (microsPerDay : Int) + (m.timeOfDay : Int) = (m.micros : Int) := by
    have hdiv : m.day * microsPerDay + m.timeOfDay = m.micros := Nat.div_add_mod' _ _
    rw [← hdiv]
    rfl
  have hrange : 0 ≤ (m.micros : Int) ∧ (m.micros : Int).toNat < Calendar.dayCount * microsPerDay :=
    ⟨Int.natCast_nonneg _, m.micros_lt⟩
  rw [ofDay?, hmicros, ofMicros?, dif_pos hrange]
  rfl

/-- Hours, minutes, seconds and microseconds of a moment come to its time of day. -/
theorem timeOfDay?_fields (m : Moment) :
    m.hour < 24 ∧ m.minute < 60 ∧ m.second < 60 ∧ m.micro < microsPerSecond ∧
      timeOfDay? m.hour m.minute m.second m.micro = some m.timeOfDay := by
  have htime := m.timeOfDay_lt
  unfold hour minute second micro
  generalize m.timeOfDay = time at *
  have hmicro : time % microsPerSecond < microsPerSecond := Nat.mod_lt time (by decide)
  have hsum := Nat.div_add_mod' time microsPerSecond
  have hseconds : time / microsPerSecond < 86400 := Nat.div_lt_of_lt_mul (by
    rw [Nat.mul_comm]
    exact htime)
  generalize time % microsPerSecond = micro at *
  generalize time / microsPerSecond = seconds at *
  have hparts : (seconds / 3600 * 60 + seconds / 60 % 60) * 60 + seconds % 60 = seconds := by omega
  refine ⟨by omega, by omega, by omega, hmicro, ?_⟩
  rw [timeOfDay?, if_pos ⟨by omega, by omega, by omega, hmicro⟩, hparts, hsum]

end Moment

namespace Timestamp

/-- The text behind a reading of a clock: that of its offset, where it is known. -/
def zoneText : Option Offset → List Char
  | none => []
  | some offset => offsetText offset

theorem textWith_eq (separator : Char) (t : Timestamp) :
    t.textWith separator =
      Iso.dateText t.wall.year t.wall.month t.wall.dayOfMonth ++ separator ::
        (Iso.clockText t.wall.hour t.wall.minute t.wall.second t.wall.micro ++
          zoneText t.offset) := by
  unfold textWith wallText Iso.dateText Iso.clockText zoneText
  cases t.offset <;> simp only [List.append_assoc, List.cons_append]

theorem head?_zoneText {offset : Option Offset} :
    ∀ c ∈ (zoneText offset).head?, c = '+' ∨ c = '-' := by
  intro c hc
  cases offset with
  | none => cases hc
  | some offset =>
    rw [zoneText, Iso.head?_offsetText, Option.mem_some] at hc
    rw [← hc]
    split
    · exact .inr rfl
    · exact .inl rfl

theorem time?_text (t : Timestamp) :
    Iso.time? (Iso.clockText t.wall.hour t.wall.minute t.wall.second t.wall.micro ++
      zoneText t.offset) = some (t.wall.timeOfDay, t.offset.map Iso.asRead) := by
  obtain ⟨hhour, hminute, hsecond, hmicro, htime⟩ := t.wall.timeOfDay?_fields
  have hclock := Iso.clock?_clockText (hhour.trans (by decide)) (hminute.trans (by decide))
    (hsecond.trans (by decide)) hmicro
  rw [Iso.time?_clockText hclock htime head?_zoneText]
  cases t.offset with
  | none => rfl
  | some offset =>
    have hne : zoneText (some offset) ≠ [] := by simp [zoneText, offsetText]
    rw [if_neg hne, zoneText, Iso.offset?_offsetText]
    rfl

/-- The letter Z, for which readers put an offset, is in no text. -/
theorem ne_Z_of_mem_isoText {t : Timestamp} {c : Char} (h : c ∈ t.textWith 'T') : c ≠ 'Z' := by
  have hdigit : ¬isDigit 'Z' = true := by decide
  rintro rfl
  rw [textWith_eq, List.mem_append, List.mem_cons, List.mem_append] at h
  rcases h with h | h | h | h
  · rcases Iso.mem_dateText h with h | h
    · exact hdigit h
    · cases h
  · cases h
  · rcases Iso.mem_clockText h with h | h | h
    · exact hdigit h
    · cases h
    · cases h
  · cases hoffset : t.offset with
    | none =>
      rw [hoffset] at h
      cases h
    | some offset =>
      rw [hoffset] at h
      rcases Iso.mem_offsetText h with h | h | h | h | h
      · exact hdigit h
      all_goals cases h

theorem flatMap_of_no_letter {cs : List Char} {letter : Char} (zone : List Char)
    (h : ∀ c ∈ cs, c ≠ letter) :
    (cs.flatMap fun c => if c = letter then zone else [c]) = cs := by
  induction cs with
  | nil => rfl
  | cons c cs ih =>
    rw [List.flatMap_cons, if_neg (h c List.mem_cons_self),
      ih fun x hx => h x (List.mem_cons_of_mem c hx), List.singleton_append]

theorem date?_textWith (t : Timestamp) :
    Iso.date? 10 (t.textWith 'T') = some (t.wall.day : Int) := by
  have hdate : Calendar.isDate t.wall.year t.wall.month t.wall.dayOfMonth = true :=
    Calendar.isDate_dateOf t.wall.day_lt
  have hday : Calendar.dayOf t.wall.year t.wall.month t.wall.dayOfMonth = t.wall.day :=
    Calendar.dayOf_dateOf t.wall.day_lt
  rw [textWith_eq, Iso.date?_dateText hdate, hday]

theorem dateLength_textWith (t : Timestamp) : Iso.dateLength (t.textWith 'T') = 10 := by
  rw [textWith_eq, Iso.dateLength_dateText]

theorem time?_textWith (t : Timestamp) :
    Iso.time? ((t.textWith 'T').drop 11) =
      some (t.wall.timeOfDay, t.offset.map Iso.asRead) := by
  rw [textWith_eq, Iso.drop_dateText, time?_text]

theorem lt_length_textWith (t : Timestamp) : 10 < (t.textWith 'T').length := by
  rw [textWith_eq, List.length_append, List.length_cons, Iso.length_dateText]
  omega

/-- The text of a timestamp names the timestamp, but for an offset that texts do not keep. -/
theorem ofIsoText?_isoText (t : Timestamp) :
    ofIsoText? t.isoText = some ⟨t.wall, t.offset.map Iso.asRead⟩ := by
  have hchars : t.isoText.toList = t.textWith 'T' := String.toList_ofList
  have hlong : ¬(t.textWith 'T').length ≤ 10 := Nat.not_le.mpr t.lt_length_textWith
  unfold ofIsoText?
  rw [hchars, flatMap_of_no_letter _ fun c => ne_Z_of_mem_isoText]
  dsimp only
  rw [dateLength_textWith, date?_textWith]
  dsimp only [Option.bind_eq_bind, Option.bind_some]
  rw [if_neg hlong, time?_textWith, Option.bind_some, Moment.ofDay?_day, Option.bind_some]

theorem ofIsoText?_isoText_of_keepsOffset {t : Timestamp}
    (h : ∀ offset ∈ t.offset, Iso.KeepsOffset offset) : ofIsoText? t.isoText = some t := by
  have hoffset : t.offset.map Iso.asRead = t.offset := by
    cases hsome : t.offset with
    | none => rfl
    | some offset => rw [Option.map_some, Iso.asRead_of_keepsOffset (h offset hsome)]
  rw [ofIsoText?_isoText, hoffset]

/-- The letter Z behind a clock reading stands for the offset of UTC. -/
theorem ofIsoText?_isoText_Z (m : Moment) :
    ofIsoText? ((naive m).isoText ++ "Z") = some (ofUtc m) := by
  have hkept (t : Timestamp) : (t.textWith 'T').flatMap
      (fun c => if c = 'Z' then "+00:00".toList else [c]) = t.textWith 'T' :=
    flatMap_of_no_letter _ fun c => ne_Z_of_mem_isoText
  have hutc : (naive m).textWith 'T' ++ "+00:00".toList = (ofUtc m).textWith 'T' := by
    rw [textWith_eq, textWith_eq, List.append_assoc, List.cons_append, List.append_assoc]
    rfl
  -- With the offset in place of the letter this is the text of the reading on the clock of UTC.
  have hchars : ((naive m).isoText ++ "Z").toList.flatMap
      (fun c => if c = 'Z' then "+00:00".toList else [c]) =
        (ofUtc m).isoText.toList.flatMap fun c => if c = 'Z' then "+00:00".toList else [c] := by
    have htext (t : Timestamp) : t.isoText.toList = t.textWith 'T' := String.toList_ofList
    rw [String.toList_append, htext, htext, List.flatMap_append, hkept, hkept, ← hutc]
    rfl
  have hread : ofIsoText? (ofUtc m).isoText = some (ofUtc m) :=
    ofIsoText?_isoText_of_keepsOffset fun offset hoffset => by
      cases hoffset
      exact .inl rfl
  unfold ofIsoText? at hread ⊢
  rwa [hchars]

/-- No text of a timestamp is a number, whatever stands behind it. -/
theorem ofText?_isoText_append (t : Timestamp) (rest : String) :
    Binary64.ofText? (t.isoText ++ rest) = none := by
  have hyear : padded 4 t.wall.year ≠ [] := by simp [padded]
  have hchars : t.isoText ++ rest = String.ofList (t.textWith 'T' ++ rest.toList) := by
    rw [isoText, String.ofList_append, String.ofList_toList]
  rw [hchars, textWith_eq, Iso.dateText, List.append_assoc, List.append_assoc, List.cons_append]
  exact Binary64.ofText?_dash hyear (fun _ => isDigit_of_mem_padded) _

theorem ofText?_isoText (t : Timestamp) : Binary64.ofText? t.isoText = none := by
  simpa using t.ofText?_isoText_append ""

end Timestamp
end GrantKeeper
