/-
# `EventSearch.Proofs.TimestampReading` — the text of a timestamp is read as that timestamp

A padded number is read back in front of any text (`takeNumber?_padded`), so are a fraction
(`takeFraction?_fraction`) and an offset (`readOffset?_rounded`).  A timestamp of a year of four
digits at an offset of whole minutes is therefore what its RFC 3339 text is read as
(`readTimestamp?_rfc3339`).
-/
import EventSearch.Calendar.TimestampText
import EventSearch.Proofs.ClockBuckets
import EventSearch.Proofs.Numerals

namespace EventSearch.Calendar

open EventSearch.Text EventSearch.Number

/-! ## Steps of a reader -/

-- `Option.bind_eq_bind` rewrites all steps of a reader at once, these only the one that is next
theorem some_then {α β : Type} (a : α) (f : α → Option β) : (some a >>= f) = f a := rfl

theorem none_then {α β : Type} (f : α → Option β) : (none >>= f) = none := rfl

/-! ## Padded numbers -/

/-- The characters of a number of a width. -/
def padded (width n : Nat) : List Char :=
  List.replicate (width - (Nat.toDigits 10 n).length) '0' ++ Nat.toDigits 10 n

theorem toList_zeroPadded (width n : Nat) : (zeroPadded width n).toList = padded width n :=
  String.toList_ofList

theorem digits_padded (width n : Nat) : Digits (padded width n) :=
  (digits_replicate _).append (digits_toDigits n)

theorem digitsValue_padded (width n : Nat) : digitsValue 0 (padded width n) = n := by
  rw [padded, digitsValue_append, digitsValue_replicate, Nat.mul_zero, digitsValue_toDigits]

theorem length_padded {width n : Nat} (hw : 0 < width) (h : n < 10 ^ width) :
    (padded width n).length = width := by
  have hle := (Nat.length_toDigits_le_iff (by decide : 1 < 10) hw).2 h
  rw [padded, List.length_append, List.length_replicate]
  omega

/-- A padded number is read back, also where fewer digits would do. -/
theorem takeNumber?_padded_of_le {least width n : Nat} (hl : least ≤ width) (hw : 0 < width)
    (h : n < 10 ^ width) (tail : List Char) :
    takeNumber? least width (padded width n ++ tail) = some (n, tail) := by
  have hlength := length_padded hw h
  have htake : (padded width n ++ tail).take width = padded width n := by
    rw [List.take_append_of_le_length (by omega), List.take_of_length_le (by omega)]
  obtain ⟨hwhile, -⟩ := takeWhile_run (digits_padded width n) [] fun c hc => by cases hc
  rw [List.append_nil] at hwhile
  unfold takeNumber?
  simp only [htake, hwhile, hlength, Nat.not_lt.2 hl, if_false, digitsValue_padded]
  rw [List.drop_append_of_le_length (by omega), List.drop_of_length_le (by omega), List.nil_append]

theorem takeNumber?_padded {width n : Nat} (hw : 0 < width) (h : n < 10 ^ width)
    (tail : List Char) :
    takeNumber? width width (padded width n ++ tail) = some (n, tail) :=
  takeNumber?_padded_of_le (Nat.le_refl width) hw h tail

/-! ## Fractions -/

theorem nanosOf_padded {width n : Nat} (hw : 0 < width) (h9 : width ≤ 9) (h : n < 10 ^ width) :
    nanosOf (padded width n) = n * 10 ^ (9 - width) := by
  have hlength := length_padded hw h
  have htake : (padded width n).take 9 = padded width n :=
    List.take_of_length_le (by omega)
  simp only [nanosOf, htake, digitsValue_padded, hlength, Nat.pow_eq]

theorem takeFraction?_padded {width n : Nat} (hw : 0 < width) (h9 : width ≤ 9) (h : n < 10 ^ width)
    {tail : List Char} (ht : ∀ c ∈ tail.head?, isAsciiDigit c = false) :
    takeFraction? ('.' :: (padded width n ++ tail)) = some (n * 10 ^ (9 - width), tail) := by
  obtain ⟨hwhile, -⟩ := takeWhile_run (digits_padded width n) tail ht
  have hlength := length_padded hw h
  have hne : (padded width n).isEmpty = false := by
    rw [List.isEmpty_eq_false_iff]
    intro he
    rw [he] at hlength
    exact absurd hlength (Nat.ne_of_lt hw)
  simp only [takeFraction?, hwhile, hne, Bool.false_eq_true, if_false, nanosOf_padded hw h9 h]
  rw [List.drop_append_of_le_length (Nat.le_refl _), List.drop_length, List.nil_append]

/-- The fraction of a second is read back. -/
theorem takeFraction?_fraction (c : Clock) {tail : List Char}
    (ht : ∀ d ∈ tail.head?, isAsciiDigit d = false ∧ d ≠ '.') :
    takeFraction? (c.fractionText.toList ++ tail) = some (c.nanos % Clock.billion, tail) := by
  have hlt : c.nanos % Clock.billion < 1000000000 := Nat.mod_lt _ (by decide)
  have hdot (s : String) : ("." ++ s).toList = '.' :: s.toList := by
    rw [String.toList_append]
    rfl
  have hdigit := fun d hd => (ht d hd).1
  have hmilli : 10 ^ (9 - 3) = 1000000 := rfl
  have hmicro : 10 ^ (9 - 6) = 1000 := rfl
  unfold Clock.fractionText
  simp only
  split
  · next h =>
    rw [h]
    cases tail with
    | nil => rfl
    | cons d tail =>
      have hd := (ht d rfl).2
      rw [show ("" : String).toList ++ d :: tail = d :: tail from rfl, takeFraction?.eq_def]
      split
      · next he => exact absurd (List.cons.inj he).1 hd
      · rfl
  · split
    · next h =>
      rw [hdot, toList_zeroPadded, List.cons_append,
        takeFraction?_padded (by decide) (by decide) (by omega) hdigit, hmilli,
        Nat.div_mul_cancel (Nat.dvd_of_mod_eq_zero h)]
    · split
      · next h =>
        rw [hdot, toList_zeroPadded, List.cons_append,
          takeFraction?_padded (by decide) (by decide) (by omega) hdigit, hmicro,
          Nat.div_mul_cancel (Nat.dvd_of_mod_eq_zero h)]
      · rw [hdot, toList_zeroPadded, List.cons_append,
          takeFraction?_padded (by decide) (by decide) (by omega) hdigit, Nat.sub_self, Nat.pow_zero,
          Nat.mul_one]

/-! ## Offsets -/

theorem toList_roundedOffsetText (offset : Int) : (Timestamp.roundedOffsetText offset).toList
    = (if offset < 0 then '-' else '+') ::
      (padded 2 ((offset.natAbs + 30) / 60 / 60) ++ ':' ::
        padded 2 ((offset.natAbs + 30) / 60 % 60)) := by
  simp only [Timestamp.roundedOffsetText, Timestamp.signText, String.toList_append,
    toList_zeroPadded]
  split <;> simp

/-- The offset that a text of hours and minutes tells: rounded to the nearest minute. -/
def roundedOffset (offset : Int) : Int :=
  let n : Int := (offset.natAbs + 30) / 60 * 60
  if offset < 0 then -n else n

theorem roundedOffset_eq_self {offset : Int} (h : offset % 60 = 0) :
    roundedOffset offset = offset := by
  unfold roundedOffset
  simp only
  split <;> omega

/-- An offset is read as the rounded one, which must be less than a day. -/
theorem readOffset?_text {offset : Int} (h : offset.natAbs < 86400) :
    readOffset? (Timestamp.roundedOffsetText offset).toList =
      if (roundedOffset offset).natAbs < 86400 then some (roundedOffset offset) else none := by
  have hhours := @takeNumber?_padded 2 ((offset.natAbs + 30) / 60 / 60) (by decide) (by omega)
  have hminutes := @takeNumber?_padded 2 ((offset.natAbs + 30) / 60 % 60) (by decide) (by omega) []
  rw [List.append_nil] at hminutes
  have hminute : (offset.natAbs + 30) / 60 % 60 < 60 := Nat.mod_lt _ (by decide)
  have hday : (offset.natAbs + 30) / 60 / 60 < 24 ↔ (roundedOffset offset).natAbs < 86400 := by
    unfold roundedOffset
    simp only
    split <;> omega
  have hsum : (((offset.natAbs + 30) / 60 / 60 : Nat) : Int) * 3600
      + ((offset.natAbs + 30) / 60 % 60 : Nat) * 60 = ((offset.natAbs : Int) + 30) / 60 * 60 := by
    omega
  have htail (negative : Bool) : readOffsetTail? negative
      (padded 2 ((offset.natAbs + 30) / 60 / 60) ++ ':' ::
        padded 2 ((offset.natAbs + 30) / 60 % 60))
      = if (roundedOffset offset).natAbs < 86400 then
          some (if negative then -(((offset.natAbs : Int) + 30) / 60 * 60)
            else ((offset.natAbs : Int) + 30) / 60 * 60) else none := by
    simp only [readOffsetTail?, hhours, takeMark?, if_true, hminutes, Option.bind_eq_bind,
      Option.bind_some, List.isEmpty_nil, Bool.true_and, hminute, hsum, decide_true, Bool.and_true,
      decide_eq_true_eq, hday]
    split <;> rfl
  rw [toList_roundedOffsetText]
  by_cases hn : offset < 0
  · have hrounded : roundedOffset offset = -(((offset.natAbs : Int) + 30) / 60 * 60) := if_pos hn
    rw [if_pos hn]
    simp only [readOffset?, htail, if_true, hrounded]
  · have hrounded : roundedOffset offset = ((offset.natAbs : Int) + 30) / 60 * 60 := if_neg hn
    rw [if_neg hn]
    simp only [readOffset?, htail, Bool.false_eq_true, if_false, hrounded]

/-- An offset of whole minutes is read back. -/
theorem readOffset?_rounded {offset : Int} (hm : offset % 60 = 0) (hd : offset.natAbs < 86400) :
    readOffset? (Timestamp.roundedOffsetText offset).toList = some offset := by
  rw [readOffset?_text hd, roundedOffset_eq_self hm, if_pos hd]

/-! ## Clocks -/

namespace Clock

/-- Nanoseconds within their second, or within a leap second that follows second 59. -/
def Regular (c : Clock) : Prop :=
  c.nanos < billion ∨ (c.nanos < 2 * billion ∧ c.second = 59)

/-- The parts of a reading make it again. -/
theorem clockAt?_parts {c : Clock} (h : c.Regular) :
    clockAt? c.date c.hour c.minute c.shownSecond (c.nanos % billion) = some c := by
  have hday : (ofDate c.date (c.hour * 3600 + c.minute * 60 + c.second) c.nanos) = c := by
    rw [← c.secondOfDay_eq, ofDate, ← c.seconds_eq]
  have hhour := c.hour_lt
  have hminute := c.minute_lt
  have hsecond := c.second_lt
  unfold clockAt? shownSecond
  rcases h with h | ⟨h, h59⟩
  · have hdiv : c.nanos / billion = 0 := Nat.div_eq_of_lt h
    rw [hdiv, Nat.add_zero, Nat.mod_eq_of_lt h, if_pos ⟨hhour, hminute, by omega⟩,
      if_neg (by omega), hday]
  · by_cases hlt : c.nanos < billion
    · have hdiv : c.nanos / billion = 0 := Nat.div_eq_of_lt hlt
      rw [hdiv, Nat.add_zero, Nat.mod_eq_of_lt hlt, if_pos ⟨hhour, hminute, by omega⟩,
        if_neg (by omega), hday]
    · have hdiv : c.nanos / billion = 1 := by
        unfold billion at *
        omega
      have hmod : billion + c.nanos % billion = c.nanos := by
        unfold billion at *
        omega
      rw [hdiv, h59, if_pos ⟨hhour, hminute, by omega⟩, if_pos rfl, hmod]
      rw [h59] at hday
      rw [hday]

end Clock

/-! ## Timestamps -/

namespace Timestamp

/-- A timestamp that its RFC 3339 text says all about: its year has four digits, its offset is of
whole minutes. -/
structure Writable (t : Timestamp) : Prop where
  year : 0 ≤ t.clock.date.year ∧ t.clock.date.year ≤ 9999
  clock : t.clock.Regular
  minutes : t.offset % 60 = 0
  offset : t.offset.natAbs < 86400

theorem monthLength_le (y : Int) (m : Nat) : monthLength y m ≤ 31 := by
  unfold monthLength
  split
  · split <;> decide
  · split <;> decide

/-- The date of a year of four digits is read back. -/
theorem ofYmd?_date {c : Clock} (h : 0 ≤ c.date.year ∧ c.date.year ≤ 9999) :
    Date.ofYmd? c.date.year.toNat c.date.month c.date.day = some c.date := by
  have hyear : (c.date.year.toNat : Int) = c.date.year := Int.toNat_of_nonneg h.1
  have hvalid := c.date_isValid
  have hrange : c.date.inRange = true := by
    rw [Date.inRange, Bool.and_eq_true, decide_eq_true_eq, decide_eq_true_eq]
    unfold minYear maxYear
    omega
  unfold Date.ofYmd?
  simp only [hyear]
  rw [if_pos (Bool.and_eq_true_iff.2 ⟨hvalid, hrange⟩)]

/-- The characters behind the date of a text and its mark. -/
def timeChars (t : Timestamp) : List Char :=
  padded 2 t.clock.hour ++ ':' :: (padded 2 t.clock.minute ++ ':' ::
    (padded 2 t.clock.shownSecond ++ (t.clock.fractionText.toList ++
      (roundedOffsetText t.offset).toList)))

/-- The characters of the text of a timestamp. -/
theorem toList_rfc3339 (t : Timestamp) :
    t.rfc3339.toList = (Clock.yearText t.clock.date.year).toList ++ '-' ::
      (padded 2 t.clock.date.month ++ '-' :: (padded 2 t.clock.date.day ++ 'T' :: t.timeChars)) := by
  simp [rfc3339, clockText, Clock.dateText, Clock.timeText, toList_zeroPadded, timeChars]

theorem toList_yearText {y : Int} (h : 0 ≤ y ∧ y ≤ 9999) :
    (Clock.yearText y).toList = padded 4 y.toNat := by
  rw [Clock.yearText, if_pos h, toList_zeroPadded]

/-- What is behind the clock of a text, no digit of it. -/
theorem head_roundedOffsetText (offset : Int) :
    ∀ c ∈ (roundedOffsetText offset).toList.head?, isAsciiDigit c = false ∧ c ≠ '.' := by
  intro c hc
  rw [toList_roundedOffsetText] at hc
  rw [← Option.some.inj hc]
  split <;> decide

theorem shownSecond_lt {c : Clock} (h : c.Regular) : c.shownSecond < 100 := by
  have hsecond := c.second_lt
  have hnanos : c.nanos < 2 * Clock.billion := by
    rcases h with hn | ⟨hn, -⟩ <;> unfold Clock.billion at * <;> omega
  unfold Clock.shownSecond Clock.billion at *
  omega

/-- A text with a year of four digits is read as its clock says, at the offset it tells. -/
theorem readRfc3339Chars?_text {t : Timestamp}
    (hyear : 0 ≤ t.clock.date.year ∧ t.clock.date.year ≤ 9999) (hclock : t.clock.Regular) :
    readRfc3339Chars? t.rfc3339.toList = (readOffset? (roundedOffsetText t.offset).toList).map
      fun offset => ⟨t.clock.shift (-offset), offset⟩ := by
  obtain ⟨-, hmonth, -, hday⟩ := Date.isValid_iff.1 t.clock.date_isValid
  have hlength := monthLength_le t.clock.date.year t.clock.date.month
  have hhour := t.clock.hour_lt
  have hminute := t.clock.minute_lt
  have hy := @takeNumber?_padded 4 t.clock.date.year.toNat (by decide) (by omega)
  have hmo := @takeNumber?_padded 2 t.clock.date.month (by decide) (by omega)
  have hd := @takeNumber?_padded 2 t.clock.date.day (by decide) (by omega)
  have hh := @takeNumber?_padded 2 t.clock.hour (by decide) (by omega)
  have hmi := @takeNumber?_padded 2 t.clock.minute (by decide) (by omega)
  have hs := @takeNumber?_padded 2 t.clock.shownSecond (by decide) (shownSecond_lt hclock)
  rw [toList_rfc3339, toList_yearText hyear, timeChars]
  simp only [readRfc3339Chars?, hy, hmo, hd, hh, hmi, hs, takeMark?, takeDateEnd?, if_true, true_or,
    takeFraction?_fraction t.clock (head_roundedOffsetText t.offset), ofYmd?_date hyear,
    Clock.clockAt?_parts hclock, some_then]
  cases readOffset? (roundedOffsetText t.offset).toList <;> rfl

/-- The text of a timestamp is read as that timestamp. -/
theorem readRfc3339Chars?_rfc3339 {t : Timestamp} (h : t.Writable) :
    readRfc3339Chars? t.rfc3339.toList = some t := by
  have hback : t.clock.shift (-t.offset) = t.utc := by
    rw [clock, Clock.shift, Clock.shift, Int.add_neg_cancel_right]
  rw [readRfc3339Chars?_text h.year h.clock, readOffset?_rounded h.minutes h.offset, Option.map_some,
    hback]

/-- A number starts and ends with digits. -/
theorem tight_padded (width n : Nat) : Tight (padded width n) := by
  have hne : padded width n ≠ [] := fun h => Nat.toDigits_ne_nil (List.append_eq_nil_iff.1 h).2
  have hunbroken := (digits_padded width n).unbroken
  exact ⟨⟨_, List.head?_eq_some_head hne, hunbroken _ (List.head_mem hne)⟩,
    ⟨_, List.getLast?_eq_some_getLast hne, hunbroken _ (List.getLast_mem hne)⟩⟩

theorem starts_yearText (y : Int) : Starts (Clock.yearText y).toList := by
  unfold Clock.yearText
  split
  · rw [toList_zeroPadded]
    exact (tight_padded 4 _).starts
  · rw [String.toList_append]
    split
    · exact (starts_cons (by decide) []).append _
    · exact (starts_cons (by decide) []).append _

theorem tight_rfc3339 (t : Timestamp) : Tight t.rfc3339.toList := by
  have hoffset : Ends (roundedOffsetText t.offset).toList := by
    rw [toList_roundedOffsetText]
    exact ((tight_padded 2 _).ends.append [':']).append (_ :: _)
  constructor
  · rw [toList_rfc3339]
    exact (starts_yearText _).append _
  · rw [rfc3339, String.toList_append]
    exact hoffset.append _

/-- The text of a timestamp is read as that timestamp by both readers. -/
theorem readTimestamp?_rfc3339 {t : Timestamp} (h : t.Writable) :
    readTimestamp? t.rfc3339 = some t := by
  simp only [readTimestamp?, (tight_rfc3339 t).trim, readRfc3339Chars?_rfc3339 h,
    Option.some_or]

/-- At offsets of whole minutes the full text is the RFC 3339 text. -/
theorem fullText_eq_rfc3339 {t : Timestamp} (h : t.offset % 60 = 0) : t.fullText = t.rfc3339 := by
  have hseconds : t.offset.natAbs % 60 = 0 := by omega
  have hround : (t.offset.natAbs + 30) / 60 = t.offset.natAbs / 60 := by omega
  have hhours : t.offset.natAbs / 60 / 60 = t.offset.natAbs / 3600 := by omega
  rw [fullText, rfc3339, offsetText, roundedOffsetText]
  simp only [hseconds, if_true, hround, hhours, String.append_empty]

/-- Timestamps with one full text are equal. -/
theorem fullText_injective {t u : Timestamp} (ht : t.Writable) (hu : u.Writable)
    (h : t.fullText = u.fullText) : t = u := by
  rw [fullText_eq_rfc3339 ht.minutes, fullText_eq_rfc3339 hu.minutes] at h
  have hread := readTimestamp?_rfc3339 ht
  rw [h, readTimestamp?_rfc3339 hu] at hread
  exact (Option.some.inj hread).symm

/-- The same instant is the same reading of a UTC clock. -/
theorem same_iff {t u : Timestamp} : t.same u = true ↔ t.utc = u.utc := by
  have horder : t.same u = true ↔ t.order u = .eq := decide_eq_true_iff
  rw [horder, order, Clock.order, Ordering.then_eq_eq, Int.compare_eq_eq, Nat.compare_eq_eq]
  constructor
  · rintro ⟨hs, hn⟩
    cases ht : t.utc
    cases hu : u.utc
    rw [ht, hu] at hs hn
    exact congr (congrArg Clock.mk hs) hn
  · intro h
    rw [h]
    exact ⟨rfl, rfl⟩

end Timestamp

end EventSearch.Calendar
