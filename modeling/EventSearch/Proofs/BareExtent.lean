/-
# `EventSearch.Proofs.BareExtent` — how far a bare value goes

A value without quotes goes up to the first place where the text breaks (`BreaksAt`): there stands
a blank, a reserved character or the first of two equal connectives, and no backslash protects it.
Whether one does (`escapedAt`) is told here by looking back from the place, while a value is taken
from the left with each backslash and what it protects in one step; `scan_eq_iff` says that both
come to the same.

| text | value | what is left |
|---|---|---|
| `a\:b c` | `a\:b` | ` c` |
| `a\\:b` | `a\\` | `:b` |
| `a\ b` | `a\` | ` b` |
| `a\&&b` | `a\&&b` | nothing |
| `a\&&&b` | `a\&` | `&&b` |

No backslash protects a blank, and of three connectives behind one the last two are doubled.

A text has one such value at most (`take?_eq_some_iff`), and none only where it is over or breaks at
once (`take?_eq_none`).  The value is taken again when it stands alone or in front of a blank
(`takes_extent`).  Bare operands are such values, and so is an index of a path that starts with no
digit.
-/
import EventSearch.Proofs.BareText

namespace EventSearch.Query.BareText

open EventSearch.Text

/-! ## Places -/

/-- The character at a place stands behind a backslash that can protect it and that is not
protected itself. -/
def escapedAt (cs : List Char) : Nat → Bool
  | 0 => false
  | i + 1 => cs[i]? = some '\\' && !escapedAt cs i && cs[i + 1]?.any (escapable.contains ·)

/-- A character is a backslash that can protect the one behind it. -/
def Shields (c : Char) (rest : List Char) : Prop :=
  c = '\\' ∧ ∃ d ∈ rest.head?, d ∈ escapable

/-- The character at a place ends a value: it is one that does, and nothing protects it. -/
def BreaksAt (cs : List Char) (i : Nat) : Prop :=
  escapedAt cs i = false ∧ ∃ c, cs[i]? = some c ∧ ends c (cs.drop (i + 1)) = true

theorem ends_iff {c : Char} {rest : List Char} :
    ends c rest = true ↔
      isBlank c = true ∨ c ∈ reserved ∨ c ∈ ['&', '|'] ∧ rest.head? = some c := by
  simp [ends, or_assoc]

section Places

variable {c d : Char} {cs raw rest : List Char} {i : Nat}

/-- A character that does not protect the next one changes nothing behind it. -/
theorem escapedAt_cons (h : ¬ Shields c cs) (i : Nat) :
    escapedAt (c :: cs) (i + 1) = escapedAt cs i := by
  induction i with
  | zero =>
    cases cs with
    | nil => simp [escapedAt]
    | cons d cs =>
      have hd : c = '\\' → d ∉ escapable := fun hc hesc => h ⟨hc, d, rfl, hesc⟩
      simpa [escapedAt] using hd
  | succ i ih =>
    rw [escapedAt, ih]
    rfl

/-- A protected character protects nothing. -/
theorem escapedAt_escape (hd : d ∈ escapable) (cs : List Char) (i : Nat) :
    escapedAt ('\\' :: d :: cs) (i + 2) = escapedAt cs i := by
  induction i with
  | zero => simp [escapedAt, hd]
  | succ i ih =>
    rw [escapedAt, ih]
    rfl

theorem escapedAt_append (h : i < cs.length) (more : List Char) :
    escapedAt (cs ++ more) i = escapedAt cs i := by
  induction i with
  | zero => rfl
  | succ i ih =>
    have hi : i < cs.length := Nat.lt_of_succ_lt h
    rw [escapedAt, escapedAt, ih hi, List.getElem?_append_left hi, List.getElem?_append_left h]

theorem breaksAt_zero : BreaksAt (c :: cs) 0 ↔ ends c cs = true := by simp [BreaksAt, escapedAt]

theorem breaksAt_cons (h : ¬ Shields c cs) :
    BreaksAt (c :: cs) (i + 1) ↔ BreaksAt cs i := by
  rw [BreaksAt, escapedAt_cons h]
  rfl

theorem breaksAt_escape (hd : d ∈ escapable) :
    BreaksAt ('\\' :: d :: cs) (i + 2) ↔ BreaksAt cs i := by
  rw [BreaksAt, escapedAt_escape hd]
  rfl

theorem not_breaksAt_escaped (hd : d ∈ escapable) : ¬ BreaksAt ('\\' :: d :: cs) 1 := by
  simp [BreaksAt, escapedAt, hd]

/-- A place inside of the first part of a text, told by that part and by the character behind the
place, which may be the first one of the other part. -/
theorem breaksAt_append (hi : i < raw.length) : BreaksAt (raw ++ rest) i ↔
    escapedAt raw i = false ∧ ∃ c, raw[i]? = some c ∧
      (isBlank c = true ∨ c ∈ reserved ∨ c ∈ ['&', '|'] ∧ (raw ++ rest)[i + 1]? = some c) := by
  simp only [BreaksAt, escapedAt_append hi, List.getElem?_append_left hi, ends_iff, List.head?_drop]

/-- The first place of the other part. -/
theorem breaksAt_length : BreaksAt (raw ++ c :: rest) raw.length ↔
    escapedAt (raw ++ c :: rest) raw.length = false ∧
      (isBlank c = true ∨ c ∈ reserved ∨ c ∈ ['&', '|'] ∧ rest.head? = some c) := by
  simp [BreaksAt, ends_iff]

end Places

/-! ## The first break -/

/-- A place is the first one where a text breaks, or its end. -/
structure StopsAt (cs : List Char) (n : Nat) : Prop where
  before : ∀ i < n, ¬ BreaksAt cs i
  here : n < cs.length → BreaksAt cs n

namespace StopsAt

variable {c d : Char} {cs : List Char} {m n : Nat}

theorem nil : StopsAt [] 0 where
  before i hi := absurd hi (Nat.not_lt_zero i)
  here hn := absurd hn (Nat.lt_irrefl 0)

theorem zero (he : ends c cs = true) : StopsAt (c :: cs) 0 where
  before i hi := absurd hi (Nat.not_lt_zero i)
  here _ := breaksAt_zero.2 he

theorem cons (hs : StopsAt cs n) (h : ¬ Shields c cs) (he : ends c cs = false) :
    StopsAt (c :: cs) (n + 1) where
  before
    | 0, _, hb => by
      rw [breaksAt_zero, he] at hb
      cases hb
    | i + 1, hi, hb => hs.before i (Nat.lt_of_succ_lt_succ hi) ((breaksAt_cons h).1 hb)
  here hn := (breaksAt_cons h).2 (hs.here (Nat.lt_of_succ_lt_succ hn))

theorem escape (hs : StopsAt cs n) (hd : d ∈ escapable) :
    StopsAt ('\\' :: d :: cs) (n + 2) where
  before
    | 0, _, hb => by
      rw [breaksAt_zero, ends_backslash] at hb
      cases hb
    | 1, _, hb => not_breaksAt_escaped hd hb
    | i + 2, hi, hb => hs.before i (by omega) ((breaksAt_escape hd).1 hb)
  here hn := (breaksAt_escape hd).2 (hs.here (by simpa using hn))

theorem unique (hm : StopsAt cs m) (hn : StopsAt cs n) (hml : m ≤ cs.length)
    (hnl : n ≤ cs.length) : m = n := by
  rcases Nat.lt_trichotomy m n with hlt | heq | hgt
  · exact absurd (hm.here (by omega)) (hn.before m hlt)
  · exact heq
  · exact absurd (hn.here (by omega)) (hm.before n hgt)

end StopsAt

theorem Scanned.stopsAt {cs raw rest : List Char} (h : Scanned cs raw rest) :
    StopsAt cs raw.length := by
  -- a backslash that protects nothing is a character like others, and one that protects the next
  -- character moves all places behind the two alike
  induction h with
  | done => exact .nil
  | lone =>
    refine StopsAt.nil.cons ?_ (ends_backslash [])
    rintro ⟨-, d, hd, -⟩
    cases hd
  | escape hd _ ih => exact ih.escape (by simpa using hd)
  | backslash hd _ ih =>
    refine ih.cons ?_ (ends_backslash _)
    rintro ⟨-, e, he, hesc⟩
    obtain rfl := Option.some.inj he
    exact hd (by simpa using hesc)
  | stop he => exact .zero he
  | take hc he _ ih => exact ih.cons (fun h => hc h.1) he

/-- What is taken is what stands in front of the first break. -/
theorem scan_eq_iff {cs raw rest : List Char} :
    scan cs = (raw, rest) ↔ raw ++ rest = cs ∧ StopsAt cs raw.length := by
  constructor
  · intro h
    have hs := scanned_iff.2 h
    exact ⟨hs.join, hs.stopsAt⟩
  · rintro ⟨hjoin, hstop⟩
    have hs := scanned_scan cs
    -- the scan stops at a first break as well, and there is only one
    have hlen : (scan cs).1.length = raw.length := by
      refine hs.stopsAt.unique hstop ?_ ?_
      · simp [← congrArg List.length hs.join]
      · simp [← congrArg List.length hjoin]
    obtain ⟨hraw, hrest⟩ := List.append_inj (hs.join.trans hjoin.symm) hlen
    exact Prod.ext hraw hrest

/-! ## Extents -/

/-- The value that a text starts with and what follows it. -/
structure Extent (cs raw rest : List Char) : Prop where
  nonempty : raw ≠ []
  join : raw ++ rest = cs
  /-- Blanks and reserved characters of the value are protected. -/
  marks : ∀ i c, raw[i]? = some c → isBlank c = true ∨ c ∈ reserved → escapedAt raw i = true
  /-- So is the first of two equal connectives, the second of which may follow the value. -/
  connectives : ∀ i, ∀ c ∈ ['&', '|'], i < raw.length → cs[i]? = some c → cs[i + 1]? = some c →
    escapedAt raw i = true
  /-- What follows starts with a character that ends the value and is not protected. -/
  stops : ∀ c after, rest = c :: after → escapedAt cs raw.length = false ∧
    (isBlank c = true ∨ c ∈ reserved ∨ c ∈ ['&', '|'] ∧ after.head? = some c)

section Extent

variable {cs raw rest : List Char}

theorem extent_of_stopsAt (hne : raw ≠ []) (h : StopsAt (raw ++ rest) raw.length) :
    Extent (raw ++ rest) raw rest where
  nonempty := hne
  join := rfl
  marks i c hc hmark := by
    obtain ⟨hi, -⟩ := List.getElem?_eq_some_iff.1 hc
    rw [← Bool.not_eq_false]
    intro hfree
    exact h.before i hi ((breaksAt_append hi).2 ⟨hfree, c, hc, hmark.imp_right .inl⟩)
  connectives i c hcon hi hc hnext := by
    rw [List.getElem?_append_left hi] at hc
    rw [← Bool.not_eq_false]
    intro hfree
    exact h.before i hi ((breaksAt_append hi).2 ⟨hfree, c, hc, .inr (.inr ⟨hcon, hnext⟩)⟩)
  stops c after hr := by
    subst hr
    exact breaksAt_length.1 (h.here (by simp))

theorem Extent.stopsAt (h : Extent cs raw rest) : StopsAt cs raw.length := by
  obtain rfl := h.join
  constructor
  · intro i hi hb
    obtain ⟨hfree, c, hc, hend⟩ := (breaksAt_append hi).1 hb
    have hescaped : escapedAt raw i = true := by
      rcases hend with hblank | hreserved | ⟨hcon, hnext⟩
      · exact h.marks i c hc (.inl hblank)
      · exact h.marks i c hc (.inr hreserved)
      · exact h.connectives i c hcon hi (by rwa [List.getElem?_append_left hi]) hnext
    rw [hfree] at hescaped
    cases hescaped
  · intro hlt
    obtain ⟨c, after, rfl⟩ : ∃ c after, rest = c :: after :=
      List.exists_cons_of_ne_nil (by rintro rfl; simp at hlt)
    exact breaksAt_length.2 (h.stops c after rfl)

theorem take?_eq_some_iff : take? cs = some (raw, rest) ↔ Extent cs raw rest := by
  rw [take?_eq_some, scan_eq_iff]
  constructor
  · rintro ⟨⟨rfl, hstop⟩, hne⟩
    exact extent_of_stopsAt hne hstop
  · intro h
    exact ⟨⟨h.join, h.stopsAt⟩, h.nonempty⟩

/-- A value is taken again in front of a blank: a blank doubles no connective, and an open backslash
at the end of the value does not protect it. -/
theorem take?_before_blank (h : take? cs = some (raw, rest)) {c : Char} (hc : isBlank c = true)
    (tail : List Char) : take? (raw ++ c :: tail) = some (raw, c :: tail) := by
  obtain ⟨hs, hne⟩ := take?_eq_some.1 h
  have hends : scan (c :: tail) = ([], c :: tail) := scan_ends (ends_iff.2 (.inl hc))
  have hdouble : c ≠ '&' ∧ c ≠ '|' := by
    constructor <;> rintro rfl <;> exact absurd hc (by decide)
  have hfree : c ∉ escapable := by
    intro hesc
    have hplain := not_blank_of_escapable (by simpa using hesc)
    rw [hc] at hplain
    cases hplain
  refine take?_eq_some.2 ⟨scan_before hs hends (by simpa using hdouble) ?_, hne⟩
  intro _ d hd
  obtain rfl := Option.some.inj hd
  exact hfree

/-- What is taken of a text is the value that it starts with, and this value is taken again when it
stands alone or in front of a blank. -/
theorem takes_extent :
    take? cs = some (raw, rest) ↔ Extent cs raw rest ∧ take? raw = some (raw, []) ∧
      ∀ c tail, isBlank c = true → take? (raw ++ c :: tail) = some (raw, c :: tail) := by
  constructor
  · intro h
    obtain ⟨hs, hne⟩ := take?_eq_some.1 h
    exact ⟨take?_eq_some_iff.1 h, take?_eq_some.2 ⟨scan_whole hs, hne⟩,
      fun c tail hc => take?_before_blank h hc tail⟩
  · rintro ⟨hextent, -⟩
    exact take?_eq_some_iff.2 hextent

end Extent

/-- Of three connectives behind a backslash the value keeps the first one. -/
theorem takes_extent_connectives :
    take? "a\\&&&b".toList = some ("a\\&".toList, "&&b".toList) ∧
      Extent "a\\&&&b".toList "a\\&".toList "&&b".toList ∧
      take? "a\\&".toList = some ("a\\&".toList, []) ∧
      ∀ c tail, isBlank c = true →
        take? ("a\\&".toList ++ c :: tail) = some ("a\\&".toList, c :: tail) := by
  have htake : take? "a\\&&&b".toList = some ("a\\&".toList, "&&b".toList) := by decide
  exact ⟨htake, takes_extent.1 htake⟩

example : take? "a\\ b".toList = some ("a\\".toList, " b".toList) := by decide

end EventSearch.Query.BareText
