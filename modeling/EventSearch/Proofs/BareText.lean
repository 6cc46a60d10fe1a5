/-
# `EventSearch.Proofs.BareText` — bare values are taken whole

A value that needs no quotes (`Bare`) is taken whole in front of whatever may follow a value
(`Follows`), and stands for itself: it holds no wildcard and no backslash.

Any value that was taken once is taken again in front of a text that ends it (`scan_before`), for
example in front of a closing parenthesis (`scan_again`).  Only an open backslash at its end
(`endsOpen`) can prevent that: it protects the character behind it (`scan_open`).
-/
import EventSearch.Query.Quoting
import EventSearch.Query.BareText

namespace EventSearch.Text

theorem hasPart_cons {part : List Char} {c : Char} {cs : List Char}
    (h : hasPart part (c :: cs) = false) : hasPart part cs = false := by
  simp only [hasPart, Bool.or_eq_false_iff] at h
  exact h.2

end EventSearch.Text

namespace EventSearch.Query

open EventSearch.Text

/-- What follows a value: nothing, or something that ends it. -/
def Follows (cs : List Char) : Prop := ∀ c, cs.head? = some c → c ∈ [' ', ')', ']', '}']

theorem follows_nil : Follows [] := fun _ h => by cases h

theorem follows_cons {c : Char} (h : c ∈ [' ', ')', ']', '}']) (cs : List Char) :
    Follows (c :: cs) := fun d hd => by cases hd; exact h

/-- What follows a value in the text of a term: a modifier, or what follows the term. -/
def FollowsOperand (cs : List Char) : Prop :=
  ∀ c, cs.head? = some c → c ∈ [' ', ')', ']', '}', '^', '~']

theorem Follows.operand {cs : List Char} (h : Follows cs) : FollowsOperand cs := by
  intro c hc
  have hm := h c hc
  simp only [List.mem_cons, List.not_mem_nil, or_false] at hm
  rcases hm with rfl | rfl | rfl | rfl <;> decide

/-- A value that can stand without quotes. -/
structure Bare (cs : List Char) : Prop where
  nonempty : cs ≠ []
  not_and : cs ≠ ['A', 'N', 'D']
  not_or : cs ≠ ['O', 'R']
  not_not : cs ≠ ['N', 'O', 'T']
  not_quote : cs.head? ≠ some '\''
  single_and : hasPart ['&', '&'] cs = false
  single_or : hasPart ['|', '|'] cs = false
  marks : ∀ c ∈ cs, isBlank c = false ∧ c ∉ quotedMarks

theorem bare_of_needsQuotes {v : String} (h : needsQuotes v = false) : Bare v.toList := by
  simp only [needsQuotes, Bool.or_eq_false_iff, List.isEmpty_eq_false_iff, decide_eq_false_iff_not,
    List.any_eq_false, List.contains_eq_mem, Bool.not_eq_true] at h
  obtain ⟨⟨⟨⟨⟨hne, hk⟩, hq⟩, ha⟩, ho⟩, hm⟩ := h
  have hword : ∀ w ∈ keywords, v.toList ≠ w.toList := by
    intro w hw he
    exact hk (String.toList_injective he ▸ hw)
  exact ⟨hne, hword "AND" (by decide), hword "OR" (by decide), hword "NOT" (by decide), hq, ha, ho,
    fun c hc => by simpa using hm c hc⟩

theorem Bare.not_mem {cs : List Char} (h : Bare cs) {c : Char} (hc : c ∈ quotedMarks) : c ∉ cs :=
  fun hm => (h.marks c hm).2 hc

theorem Bare.cons {cs : List Char} (h : Bare cs) : ∃ c rest, cs = c :: rest := by
  cases cs with
  | nil => exact absurd rfl h.nonempty
  | cons c rest => exact ⟨c, rest, rfl⟩

/-- The first character of a value without quotes opens neither a quoted text nor a pattern. -/
theorem Bare.head {cs : List Char} (h : Bare cs) :
    ∃ c rest, cs = c :: rest ∧ c ∉ ['"', '\'', '/'] ∧ isBlank c = false ∧ c ∉ quotedMarks := by
  obtain ⟨c, rest, rfl⟩ := h.cons
  obtain ⟨hb, hq⟩ := h.marks c List.mem_cons_self
  refine ⟨c, rest, rfl, ?_, hb, hq⟩
  intro hm
  simp only [List.mem_cons, List.not_mem_nil, or_false] at hm
  rcases hm with rfl | rfl | rfl
  · exact hq (by decide)
  · exact h.not_quote rfl
  · exact hq (by decide)

namespace BareText

/-! ## Extent -/

theorem scan_lone : scan ['\\'] = (['\\'], []) := by
  rw [scan.eq_def]
  rfl

theorem scan_backslash (d : Char) (rest : List Char) :
    scan ('\\' :: d :: rest) =
      if escapable.contains d then ('\\' :: d :: (scan rest).1, (scan rest).2)
      else ('\\' :: (scan (d :: rest)).1, (scan (d :: rest)).2) := by
  rw [scan.eq_def]
  rfl

theorem scan_cons {c : Char} (hc : c ≠ '\\') (rest : List Char) :
    scan (c :: rest) =
      if ends c rest then ([], c :: rest) else (c :: (scan rest).1, (scan rest).2) := by
  rw [scan.eq_def]
  split
  · next h => cases h
  · next h => exact absurd (List.cons.inj h).1 hc
  · next h =>
    obtain ⟨rfl, rfl⟩ := List.cons.inj h
    rfl

theorem ends_backslash (rest : List Char) : ends '\\' rest = false := by
  simp [ends, reserved, isBlank]

theorem scan_ends {c : Char} {rest : List Char} (h : ends c rest = true) :
    scan (c :: rest) = ([], c :: rest) := by
  have hc : c ≠ '\\' := by
    rintro rfl
    simp [ends_backslash] at h
  rw [scan_cons hc, if_pos h]

theorem ends_reserved {c : Char} (h : c ∈ reserved) (rest : List Char) : ends c rest = true := by
  simp [ends, h]

theorem scan_reserved {c : Char} (h : c ∈ reserved) (rest : List Char) :
    scan (c :: rest) = ([], c :: rest) := scan_ends (ends_reserved h rest)

theorem scan_of_followsOperand {tail : List Char} (h : FollowsOperand tail) :
    scan tail = ([], tail) := by
  cases tail with
  | nil => rw [scan.eq_def]
  | cons c rest =>
    refine scan_ends ?_
    have hc := h c rfl
    simp only [List.mem_cons, List.not_mem_nil, or_false] at hc
    rcases hc with rfl | rfl | rfl | rfl | rfl | rfl <;> simp [ends, reserved, isBlank]

theorem scan_of_follows {tail : List Char} (h : Follows tail) : scan tail = ([], tail) :=
  scan_of_followsOperand h.operand

theorem mem_quotedMarks_of_reserved {c : Char} (h : c ∈ reserved) : c ∈ quotedMarks := by
  simp only [reserved, List.mem_cons, List.not_mem_nil, or_false] at h
  rcases h with rfl | rfl | rfl | rfl | rfl | rfl | rfl | rfl | rfl | rfl | rfl | rfl | rfl <;>
    decide

/-- A value without blanks, reserved characters and doubled connectives is taken whole. -/
theorem scan_append {cs tail : List Char} (hm : ∀ c ∈ cs, isBlank c = false ∧ c ∉ quotedMarks)
    (ha : hasPart ['&', '&'] cs = false) (ho : hasPart ['|', '|'] cs = false)
    (ht : Follows tail) : scan (cs ++ tail) = (cs, tail) := by
  induction cs with
  | nil => exact scan_of_follows ht
  | cons c cs ih =>
    obtain ⟨hb, hq⟩ := hm c List.mem_cons_self
    have ih := ih (fun d hd => hm d (List.mem_cons_of_mem c hd)) (hasPart_cons ha) (hasPart_cons ho)
    have hc : c ≠ '\\' := fun he => hq (he ▸ by decide)
    have hr : c ∉ reserved := fun hr => hq (mem_quotedMarks_of_reserved hr)
    have hd : (c = '&' ∨ c = '|') → (cs ++ tail).head? ≠ some c := by
      intro hcc hh
      cases cs with
      | nil =>
        have := ht c hh
        rcases hcc with rfl | rfl <;> simp at this
      | cons d cs =>
        simp only [List.cons_append, List.head?_cons, Option.some.injEq] at hh
        subst hh
        rcases hcc with rfl | rfl
        · simp [hasPart] at ha
        · simp [hasPart] at ho
    have he : ends c (cs ++ tail) = false := by simpa [ends, hb, hr] using hd
    rw [List.cons_append, scan_cons hc, he, ih]
    rfl

theorem scan_bare {cs tail : List Char} (h : Bare cs) (ht : Follows tail) :
    scan (cs ++ tail) = (cs, tail) := scan_append h.marks h.single_and h.single_or ht

/-! ## Steps -/

/-- How a value is taken from a text, character by character. -/
inductive Scanned : List Char → List Char → List Char → Prop where
  /-- The text is over. -/
  | done : Scanned [] [] []
  /-- A backslash at the very end. -/
  | lone : Scanned ['\\'] ['\\'] []
  /-- A backslash and the character that it protects. -/
  | escape {d : Char} {cs raw rest : List Char} (hd : escapable.contains d = true)
      (h : Scanned cs raw rest) : Scanned ('\\' :: d :: cs) ('\\' :: d :: raw) rest
  /-- A backslash in front of a character that it does not protect. -/
  | backslash {d : Char} {cs raw rest : List Char} (hd : ¬ escapable.contains d = true)
      (h : Scanned (d :: cs) raw rest) : Scanned ('\\' :: d :: cs) ('\\' :: raw) rest
  /-- A character that ends the value. -/
  | stop {c : Char} {cs : List Char} (he : ends c cs = true) : Scanned (c :: cs) [] (c :: cs)
  /-- A character of the value. -/
  | take {c : Char} {cs raw rest : List Char} (hc : c ≠ '\\') (he : ends c cs = false)
      (h : Scanned cs raw rest) : Scanned (c :: cs) (c :: raw) rest

theorem scanned_scan (cs : List Char) : Scanned cs (scan cs).1 (scan cs).2 := by
  induction cs using scan.induct with
  | case1 =>
    rw [scan.eq_def]
    exact .done
  | case2 d rest hd raw after hs ih =>
    rw [scan_backslash, if_pos hd]
    exact .escape hd ih
  | case3 d rest hd raw after hs ih =>
    rw [scan_backslash, if_neg hd]
    exact .backslash hd ih
  | case4 c rest hb he =>
    rw [scan_ends he]
    exact .stop he
  | case5 c rest hb he raw after hs ih =>
    by_cases hc : c = '\\'
    · subst hc
      cases rest with
      | nil =>
        rw [scan_lone]
        exact .lone
      | cons d rest => exact absurd rfl (hb d rest rfl)
    · rw [scan_cons hc, if_neg he]
      exact .take hc (Bool.eq_false_iff.2 he) ih

theorem scanned_iff {cs raw rest : List Char} : Scanned cs raw rest ↔ scan cs = (raw, rest) := by
  constructor
  · intro h
    induction h with
    | done => rw [scan.eq_def]
    | lone => exact scan_lone
    | escape hd _ ih => rw [scan_backslash, if_pos hd, ih]
    | backslash hd _ ih => rw [scan_backslash, if_neg hd, ih]
    | stop he => exact scan_ends he
    | take hc he _ ih => rw [scan_cons hc, he, ih]; rfl
  · intro h
    have hs := scanned_scan cs
    rwa [h] at hs

theorem Scanned.join {cs raw rest : List Char} (h : Scanned cs raw rest) : raw ++ rest = cs := by
  induction h with
  | done | lone | stop => rfl
  | escape _ _ ih => rw [List.cons_append, List.cons_append, ih]
  | backslash _ _ ih => rw [List.cons_append, ih]
  | take _ _ _ ih => rw [List.cons_append, ih]

/-- Nothing is lost. -/
theorem scan_join (cs : List Char) : (scan cs).1 ++ (scan cs).2 = cs := (scanned_scan cs).join

theorem Scanned.ends {cs raw rest : List Char} (h : Scanned cs raw rest) {e : Char}
    {after : List Char} (hr : rest = e :: after) : ends e after = true := by
  induction h with
  | done | lone => cases hr
  | escape _ _ ih => exact ih hr
  | backslash _ _ ih => exact ih hr
  | stop he =>
    obtain ⟨rfl, rfl⟩ := List.cons.inj hr
    exact he
  | take _ _ _ ih => exact ih hr

/-- What is left starts with a character that ends a value. -/
theorem ends_of_scan {cs raw rest : List Char} {e : Char} (h : scan cs = (raw, e :: rest)) :
    ends e rest = true := (scanned_iff.2 h).ends rfl

theorem not_blank_of_escapable {d : Char} (h : escapable.contains d = true) : isBlank d = false := by
  have hall : escapable.all (fun c => !isBlank c) = true := by decide
  simpa using List.all_eq_true.1 hall d (by simpa using h)

theorem Scanned.not_blank {cs raw rest : List Char} (h : Scanned cs raw rest) :
    ∀ c ∈ raw, isBlank c = false := by
  induction h with
  | done | stop => exact List.forall_mem_nil _
  | lone => exact List.forall_mem_singleton.2 (by decide)
  | escape hd _ ih =>
    exact List.forall_mem_cons.2
      ⟨by decide, List.forall_mem_cons.2 ⟨not_blank_of_escapable hd, ih⟩⟩
  | backslash _ _ ih => exact List.forall_mem_cons.2 ⟨by decide, ih⟩
  | take _ he _ ih =>
    simp only [BareText.ends, Bool.or_eq_false_iff] at he
    exact List.forall_mem_cons.2 ⟨he.1.1, ih⟩

/-- Nothing that is taken is blank. -/
theorem not_blank_of_scan {cs raw rest : List Char} (h : scan cs = (raw, rest)) :
    ∀ c ∈ raw, isBlank c = false := (scanned_iff.2 h).not_blank

/-! ## Values that are there -/

theorem take?_eq_some {cs raw rest : List Char} :
    take? cs = some (raw, rest) ↔ scan cs = (raw, rest) ∧ raw ≠ [] := by
  rw [take?, Option.ite_none_left_eq_some, Option.some.injEq, List.isEmpty_iff, and_comm]
  exact and_congr_right fun hs => by rw [hs]

/-- There is no value where the text is over or breaks at once. -/
theorem take?_eq_none {cs : List Char} :
    take? cs = none ↔ ∀ c rest, cs = c :: rest → ends c rest = true := by
  have hempty : take? cs = none ↔ (scan cs).1 = [] := by simp [take?]
  rw [hempty]
  constructor
  · rintro h c rest rfl
    have hs := scanned_scan (c :: rest)
    generalize (scan (c :: rest)).2 = left at hs
    rw [h] at hs
    cases hs with
    | stop he => exact he
  · intro h
    cases cs with
    | nil => rw [scan.eq_def]
    | cons c rest => rw [scan_ends (h c rest rfl)]

/-! ## Ends -/

/-- A backslash at the very end that no backslash in front of it protects. -/
def endsOpen : List Char → Bool
  | ['\\'] => true
  | '\\' :: _ :: rest => endsOpen rest
  | _ :: rest => endsOpen rest
  | [] => false

theorem endsOpen_backslash (d : Char) (rest : List Char) :
    endsOpen ('\\' :: d :: rest) = endsOpen rest := rfl

theorem endsOpen_cons {c : Char} (hc : c ≠ '\\') (rest : List Char) :
    endsOpen (c :: rest) = endsOpen rest := by
  cases rest <;> simp [endsOpen, hc]

theorem not_escapable_backslash {d : Char} (h : ¬ escapable.contains d = true) : d ≠ '\\' := by
  rintro rfl
  exact h (by decide)

/-- A value starts as its text does, unless nothing of it is taken. -/
theorem Scanned.head {d : Char} {cs raw rest : List Char} (h : Scanned (d :: cs) raw rest) :
    (raw = [] ∧ rest = d :: cs) ∨ ∃ raw', raw = d :: raw' := by
  cases h with
  | lone => exact .inr ⟨_, rfl⟩
  | escape => exact .inr ⟨_, rfl⟩
  | backslash => exact .inr ⟨_, rfl⟩
  | stop => exact .inl ⟨rfl, rfl⟩
  | take => exact .inr ⟨_, rfl⟩

theorem Scanned.not_endsOpen {cs raw rest : List Char} (h : Scanned cs raw rest) {e : Char}
    (he : rest.head? = some e) (hesc : e ∈ escapable) : endsOpen raw = false := by
  induction h with
  | done | lone => cases he
  | stop => rfl
  | escape _ _ ih => rw [endsOpen_backslash, ih he]
  | backslash hd h ih =>
    rcases h.head with ⟨rfl, rfl⟩ | ⟨raw', rfl⟩
    · -- then the backslash stands right in front of `e`, and would protect it
      obtain rfl := Option.some.inj he
      exact absurd (by simpa using hesc) hd
    · rw [endsOpen_backslash, ← ih he, endsOpen_cons (not_escapable_backslash hd)]
  | take hc _ _ ih => rw [endsOpen_cons hc, ih he]

/-- In front of a character that can be protected, no last backslash is open. -/
theorem not_endsOpen_of_scan {cs raw rest : List Char} {e : Char}
    (h : scan cs = (raw, e :: rest)) (he : e ∈ escapable) : endsOpen raw = false :=
  (scanned_iff.2 h).not_endsOpen rfl he

/-- Whether a character ends a value is decided by the character behind it. -/
theorem ends_congr {c : Char} {cs ds : List Char} (h : cs.head? = ds.head?) :
    ends c cs = ends c ds := by
  rw [ends, ends, h]

/-- A character of a value stays one in front of a text that does not double it. -/
theorem Scanned.not_ends {c : Char} {cs raw rest tail : List Char} (h : Scanned cs raw rest)
    (he : BareText.ends c cs = false)
    (hd : raw = [] → tail.head? ≠ some '&' ∧ tail.head? ≠ some '|') :
    BareText.ends c (raw ++ tail) = false := by
  cases raw with
  | nil =>
    obtain ⟨hand, hor⟩ := hd rfl
    have hdouble : c = '&' ∨ c = '|' → tail.head? ≠ some c := by
      rintro (rfl | rfl)
      · exact hand
      · exact hor
    simp only [BareText.ends, Bool.or_eq_false_iff] at he
    simp only [List.nil_append, BareText.ends, he.1.1, he.1.2, Bool.false_or]
    simpa using hdouble
  | cons d raw => rw [← he, ← h.join]; exact ends_congr rfl

/-- A backslash ends a value in front of what it does not protect. -/
theorem scanned_lone {tail : List Char} (ht : scan tail = ([], tail))
    (ho : ∀ c, tail.head? = some c → c ∉ escapable) : Scanned ('\\' :: tail) ['\\'] tail := by
  cases tail with
  | nil => exact .lone
  | cons e tail =>
    have hesc : ¬ escapable.contains e = true := by simpa using ho e rfl
    exact .backslash hesc (scanned_iff.2 ht)

theorem Scanned.before {cs raw rest tail : List Char} (h : Scanned cs raw rest)
    (ht : scan tail = ([], tail)) (hd : tail.head? ≠ some '&' ∧ tail.head? ≠ some '|')
    (ho : endsOpen raw = true → ∀ c, tail.head? = some c → c ∉ escapable) :
    Scanned (raw ++ tail) raw tail := by
  induction h with
  | done | stop => exact scanned_iff.2 ht
  | lone => exact scanned_lone ht (ho rfl)
  | escape hesc _ ih => exact .escape hesc (ih ho)
  | backslash hesc h ih =>
    rcases h.head with ⟨rfl, -⟩ | ⟨raw', rfl⟩
    · exact scanned_lone ht (ho rfl)
    · rw [endsOpen_backslash, ← endsOpen_cons (not_escapable_backslash hesc)] at ho
      exact .backslash hesc (ih ho)
  | take hc he h ih =>
    rw [endsOpen_cons hc] at ho
    exact .take hc (h.not_ends he fun _ => hd) (ih ho)

/-- What has been taken of a text is taken again in front of a text that ends it, unless its last
backslash is open and would protect what follows. -/
theorem scan_before {cs raw rest tail : List Char} (h : scan cs = (raw, rest))
    (ht : scan tail = ([], tail)) (hd : tail.head? ≠ some '&' ∧ tail.head? ≠ some '|')
    (ho : endsOpen raw = true → ∀ c, tail.head? = some c → c ∉ escapable) :
    scan (raw ++ tail) = (raw, tail) := scanned_iff.1 ((scanned_iff.2 h).before ht hd ho)

/-- What has been taken of a text is a value in itself. -/
theorem scan_whole {cs raw rest : List Char} (h : scan cs = (raw, rest)) : scan raw = (raw, []) := by
  have hnil : scan [] = ([], []) := by rw [scan.eq_def]
  have hb := scan_before h hnil ⟨by simp, by simp⟩ fun _ c hc => by cases hc
  rwa [List.append_nil] at hb

theorem Scanned.opened {cs raw rest tail : List Char} (h : Scanned cs raw rest)
    (ho : endsOpen raw = true) {e : Char} (he : e ∈ escapable) (ht : scan tail = ([], tail)) :
    Scanned (raw ++ e :: tail) (raw ++ [e]) tail := by
  have hesc : escapable.contains e = true := by simpa using he
  induction h with
  | done | stop => cases ho
  | lone => exact .escape hesc (scanned_iff.2 ht)
  | escape hd _ ih => exact .escape hd (ih ho)
  | backslash hd h ih =>
    rcases h.head with ⟨rfl, -⟩ | ⟨raw', rfl⟩
    · exact .escape hesc (scanned_iff.2 ht)
    · rw [endsOpen_backslash, ← endsOpen_cons (not_escapable_backslash hd)] at ho
      exact .backslash hd (ih ho)
  | take hc hends h ih =>
    rw [endsOpen_cons hc] at ho
    refine .take hc (h.not_ends hends ?_) (ih ho)
    rintro rfl
    cases ho

/-- An open backslash takes the character behind it into the value. -/
theorem scan_open {cs raw rest tail : List Char} {e : Char} (h : scan cs = (raw, rest))
    (ho : endsOpen raw = true) (he : e ∈ escapable) (ht : scan tail = ([], tail)) :
    scan (raw ++ e :: tail) = (raw ++ [e], tail) :=
  scanned_iff.1 ((scanned_iff.2 h).opened ho he ht)

/-- What stands in front of a closing parenthesis is taken again there, whatever follows it. -/
theorem scan_again {cs raw after : List Char} (h : scan cs = (raw, ')' :: after))
    (after' : List Char) : scan (raw ++ ')' :: after') = (raw, ')' :: after') := by
  refine scan_before h (scan_reserved (by decide) after') ⟨by simp, by simp⟩ ?_
  intro ho
  rw [not_endsOpen_of_scan h (by decide)] at ho
  cases ho

/-! ## Readings -/

theorem resolved_eq_self {cs : List Char} (h : '\\' ∉ cs) : resolved cs = cs := by
  induction cs with
  | nil => rfl
  | cons c cs ih =>
    obtain ⟨hc, hcs⟩ := List.ne_and_not_mem_of_not_mem_cons h
    cases cs <;> simp [resolved, Ne.symm hc, ih hcs]

theorem hasWildcard_eq_false {cs : List Char} (hb : '\\' ∉ cs) (hs : '*' ∉ cs) (hq : '?' ∉ cs) :
    hasWildcard cs = false := by
  induction cs with
  | nil => rfl
  | cons c cs ih =>
    obtain ⟨hbc, hb⟩ := List.ne_and_not_mem_of_not_mem_cons hb
    obtain ⟨hsc, hs⟩ := List.ne_and_not_mem_of_not_mem_cons hs
    obtain ⟨hqc, hq⟩ := List.ne_and_not_mem_of_not_mem_cons hq
    have ih := ih hb hs hq
    cases cs <;> simp [hasWildcard, Ne.symm hbc, Ne.symm hsc, Ne.symm hqc, ih]

theorem resolved_ne_nil {cs : List Char} (h : cs ≠ []) : resolved cs ≠ [] := by
  fun_cases resolved cs <;> simp_all

end BareText

end EventSearch.Query
