/-
# `EventSearch.Proofs.ToldTimestamps` — what the text of any timestamp is read as

Not every timestamp is told by its text.  A year of more than four digits is written with a sign,
which the RFC 3339 reader does not take; the forms without an offset take the sign and then leave the
offset over (`readTimestamp?_text`).  An offset is written in whole minutes, so where it has seconds
the text tells another instant, up to half a minute away.  `toldInstant?` says what is left
(`readTimestamp?_told`), and `Exact` when it is the instant that was written.
-/
import EventSearch.Proofs.TimestampReading

namespace EventSearch.Calendar

open EventSearch.Text EventSearch.Number

/-! ## Numbers in loose forms -/

theorem takeNumber?_signed {ds : List Char} (hd : Digits ds) (hne : ds ≠ []) {tail : List Char}
    (ht : ∀ c ∈ tail.head?, isAsciiDigit c = false) :
    takeNumber? 1 (ds ++ tail).length (ds ++ tail) = some (digitsValue 0 ds, tail) := by
  have hlength : ¬ ds.length < 1 := by
    have hpos := List.length_pos_iff.2 hne
    omega
  unfold takeNumber?
  simp only [List.take_length, (takeWhile_run hd tail ht).1, hlength, if_false]
  rw [List.drop_append_of_le_length (Nat.le_refl _), List.drop_length, List.nil_append]

theorem trimStart_of_starts {cs : List Char} (h : Starts cs) : trimStart cs = cs := by
  obtain ⟨c, hc, hb⟩ := h
  cases cs with
  | nil => cases hc
  | cons d cs =>
    obtain rfl := Option.some.inj hc
    rw [trimStart, List.dropWhile_cons, hb]
    rfl

theorem takeLoose?_padded {n : Nat} (h : n < 100) (tail : List Char) :
    takeLoose? 2 (padded 2 n ++ tail) = some (n, tail) := by
  rw [takeLoose?, trimStart_of_starts ((Timestamp.tight_padded 2 n).starts.append tail),
    takeNumber?_padded_of_le (by decide) (by decide) h]

/-- No sign stands in front of a digit. -/
theorem takeYear?_digits {cs : List Char} {c : Char} (hc : cs.head? = some c)
    (hd : isAsciiDigit c = true) (hs : Starts cs) :
    takeYear? cs = (takeNumber? 1 4 cs).map fun r => (Int.ofNat r.1, r.2) := by
  rw [takeYear?, trimStart_of_starts hs]
  split
  · cases hc
    exact absurd hd (by decide)
  · cases hc
    exact absurd hd (by decide)
  · rfl

/-- A year is read back in front of a date, with or without a sign. -/
theorem takeYear?_yearText (y : Int) (tail : List Char) :
    takeYear? ((Clock.yearText y).toList ++ '-' :: tail) = some (y, '-' :: tail) := by
  have hdash : ∀ c ∈ ('-' :: tail).head?, isAsciiDigit c = false := by
    intro c hc
    rw [← Option.some.inj hc]
    decide
  have hsigned := @takeNumber?_signed (padded 4 y.natAbs) (digits_padded 4 _)
    (fun h => Nat.toDigits_ne_nil (List.append_eq_nil_iff.1 h).2) ('-' :: tail) hdash
  rw [digitsValue_padded] at hsigned
  have hstarts := (Timestamp.starts_yearText y).append ('-' :: tail)
  rw [Clock.yearText] at hstarts ⊢
  by_cases hfour : 0 ≤ y ∧ y ≤ 9999
  · rw [if_pos hfour, toList_zeroPadded] at hstarts ⊢
    have hread := @takeNumber?_padded_of_le 1 4 y.toNat (by decide) (by decide) (by omega)
      ('-' :: tail)
    obtain ⟨c, cs, hp⟩ : ∃ c cs, padded 4 y.toNat = c :: cs := List.exists_cons_of_ne_nil fun h =>
      Nat.toDigits_ne_nil (List.append_eq_nil_iff.1 h).2
    have hc : isAsciiDigit c = true :=
      digits_padded 4 y.toNat c (by rw [hp]; exact List.mem_cons_self)
    have hcast : Int.ofNat y.toNat = y := Int.toNat_of_nonneg hfour.1
    rw [takeYear?_digits (by rw [hp]; rfl) hc hstarts, hread, Option.map_some, hcast]
  · rw [if_neg hfour] at hstarts ⊢
    rw [takeYear?, trimStart_of_starts hstarts]
    by_cases hneg : y < 0
    · have habs : -(y.natAbs : Int) = y := by omega
      simp only [if_pos hneg, String.toList_append, toList_zeroPadded, String.reduceToList,
        List.cons_append, List.nil_append, hsigned, Option.map_some, habs]
    · have habs : (y.natAbs : Int) = y := by omega
      simp only [if_neg hneg, String.toList_append, toList_zeroPadded, String.reduceToList,
        List.cons_append, List.nil_append, hsigned, Option.map_some, habs]

namespace Timestamp

/-! ## Forms without an offset -/

variable {t : Timestamp}

/-- The date of a text is read back in any year in use. -/
theorem takeDate?_text (t : Timestamp) : takeDate? '-' t.rfc3339.toList =
    (Date.ofYmd? t.clock.date.year t.clock.date.month t.clock.date.day).map
      (·, 'T' :: t.timeChars) := by
  obtain ⟨-, hmonth, -, hday⟩ := Date.isValid_iff.1 t.clock.date_isValid
  have hlength := monthLength_le t.clock.date.year t.clock.date.month
  have hmo := @takeLoose?_padded t.clock.date.month (by omega)
  have hd := @takeLoose?_padded t.clock.date.day (by omega)
  rw [toList_rfc3339]
  simp only [takeDate?, takeYear?_yearText, takeMark?, if_true, hmo, hd, some_then]
  cases Date.ofYmd? t.clock.date.year t.clock.date.month t.clock.date.day <;> rfl

theorem takeDate?_slash (t : Timestamp) : takeDate? '/' t.rfc3339.toList = none := by
  have hne : ¬ ('-' : Char) = '/' := by decide
  rw [toList_rfc3339]
  simp only [takeDate?, takeYear?_yearText, takeMark?, hne, if_false, some_then, none_then]

/-- A time of day is read only where nothing follows it. -/
theorem readTime?_timeChars (h : t.clock.Regular) (date : Date) :
    readTime? date t.timeChars = none := by
  have hhour := t.clock.hour_lt
  have hminute := t.clock.minute_lt
  have hh := @takeLoose?_padded t.clock.hour (by omega)
  have hmi := @takeLoose?_padded t.clock.minute (by omega)
  have hs := @takeLoose?_padded t.clock.shownSecond (shownSecond_lt h)
  have hleft : (t.clock.fractionText.toList ++ (roundedOffsetText t.offset).toList).isEmpty
      = false := by
    rw [toList_roundedOffsetText]
    simp
  simp only [readTime?, timeChars, hh, hmi, hs, takeMark?, if_true, some_then, hleft,
    Bool.false_eq_true, if_false]

/-- The forms without an offset do not take the text of a timestamp. -/
theorem readTimestamp?_text (h : t.clock.Regular) :
    readTimestamp? t.rfc3339 = readRfc3339Chars? t.rfc3339.toList := by
  have hspaced : readSpaced? '-' t.rfc3339.toList = none := by
    rw [readSpaced?, takeDate?_text]
    cases Date.ofYmd? t.clock.date.year t.clock.date.month t.clock.date.day <;> rfl
  have hjoined : readJoined? t.rfc3339.toList = none := by
    rw [readJoined?, takeDate?_text]
    cases Date.ofYmd? t.clock.date.year t.clock.date.month t.clock.date.day with
    | none => rfl
    | some date =>
      simp only [Option.map_some, some_then, takeMark?, if_true, readTime?_timeChars h date]
  have hslash : readSpaced? '/' t.rfc3339.toList = none := by
    rw [readSpaced?, takeDate?_slash]
    rfl
  have hday : readDay? t.rfc3339.toList = none := by
    rw [readDay?, takeDate?_text]
    cases Date.ofYmd? t.clock.date.year t.clock.date.month t.clock.date.day <;> rfl
  simp only [readTimestamp?, (tight_rfc3339 t).trim, hspaced, hjoined, hslash, hday, Option.map_none,
    Option.or_none]

/-! ## What is told -/

/-- A year that is written without a sign. -/
def FourDigits (t : Timestamp) : Prop := 0 ≤ t.clock.date.year ∧ t.clock.date.year ≤ 9999

instance (t : Timestamp) : Decidable t.FourDigits :=
  inferInstanceAs (Decidable (0 ≤ t.clock.date.year ∧ t.clock.date.year ≤ 9999))

/-- The instant that the text of a timestamp tells, if it is read at all. -/
def toldInstant? (t : Timestamp) : Option Clock :=
  if t.FourDigits ∧ (roundedOffset t.offset).natAbs < 86400 then
    some (t.clock.shift (-roundedOffset t.offset))
  else none

/-- A timestamp that its text tells: four digits make its year and whole minutes its offset. -/
structure Exact (t : Timestamp) : Prop where
  year : t.FourDigits
  minutes : t.offset % 60 = 0

theorem readRfc3339Chars?_signed (hyear : ¬ t.FourDigits) :
    readRfc3339Chars? t.rfc3339.toList = none := by
  have hsign {c : Char} (hc : isAsciiDigit c = false) (cs : List Char) :
      takeNumber? 4 4 (c :: cs) = none := by
    unfold takeNumber?
    rw [List.take_succ_cons, List.takeWhile_cons, hc]
    rfl
  have hminus := hsign (show isAsciiDigit '-' = false by decide)
  have hplus := hsign (show isAsciiDigit '+' = false by decide)
  have hyear : ¬ (0 ≤ t.clock.date.year ∧ t.clock.date.year ≤ 9999) := hyear
  rw [toList_rfc3339, Clock.yearText, if_neg hyear, String.toList_append]
  by_cases hneg : t.clock.date.year < 0
  · simp only [if_pos hneg, String.reduceToList, List.cons_append, List.nil_append,
      readRfc3339Chars?, hminus, none_then]
  · simp only [if_neg hneg, String.reduceToList, List.cons_append, List.nil_append,
      readRfc3339Chars?, hplus, none_then]

/-- The text of a timestamp is read as the instant it tells. -/
theorem readTimestamp?_told (hclock : t.clock.Regular) (hoffset : t.offset.natAbs < 86400) :
    (readTimestamp? t.rfc3339).map (·.utc) = t.toldInstant? := by
  rw [readTimestamp?_text hclock, toldInstant?]
  by_cases hyear : t.FourDigits
  · rw [readRfc3339Chars?_text hyear hclock, readOffset?_text hoffset]
    by_cases hday : (roundedOffset t.offset).natAbs < 86400
    · rw [if_pos hday, if_pos ⟨hyear, hday⟩]
      rfl
    · rw [if_neg hday, if_neg fun h => hday h.2]
      rfl
  · rw [readRfc3339Chars?_signed hyear, if_neg fun h => hyear h.1]
    rfl

theorem Exact.toldInstant? (h : t.Exact) (hoffset : t.offset.natAbs < 86400) :
    t.toldInstant? = some t.utc := by
  rw [Timestamp.toldInstant?, roundedOffset_eq_self h.minutes, if_pos ⟨h.year, hoffset⟩, clock,
    Clock.shift, Clock.shift, Int.add_neg_cancel_right]

end Timestamp

end EventSearch.Calendar
