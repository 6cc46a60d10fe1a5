/-
# `EventSearch.Proofs.PatternMoves` — where patterns lead

From places of a text a pattern leads to others.  Most patterns lead over a stretch of the text that
has some form, from wherever it stands (`LeadsOver`): a character or a class over one character
(`leadsOver_past`), any number of characters of a class over such characters (`leadsOver_repeated`),
patterns one behind another over one such stretch behind another (`LeadsOver.comp`).  Marks for the
start and the end of the text lead nowhere; between them a pattern is found in a text exactly where
the whole of it has the form (`foundIn_anchored`).

The places that a repetition leads to are found in rounds, each from what the one before it found.
A step leads one place on, so what is found last is nearer to the end in each round, and when the
rounds are used up nothing behind it can be missing (`spread_closed`).
-/
import EventSearch.Pattern.Flags
import EventSearch.Pattern.Matching

namespace EventSearch.Pattern

open EventSearch.Text

/-! ## Places -/

theorem places_after (text : List Char) (i : Nat) :
    (places text)[i]?.bind (·.after) = text[i]? := by
  have hfrom : ∀ before, (placesFrom before text)[i]?.bind (·.after) = text[i]? := by
    induction text generalizing i with
    | nil => intro before; cases i <;> rfl
    | cons c rest ih =>
      intro before
      cases i with
      | zero => rfl
      | succ i => exact ih i (some c)
  exact hfrom none

theorem length_places (text : List Char) : (places text).length = text.length + 1 := by
  have hfrom : ∀ before, (placesFrom before text).length = text.length + 1 := by
    induction text with
    | nil => exact fun _ => rfl
    | cons c rest ih => exact fun _ => congrArg (· + 1) (ih (some c))
  exact hfrom none

theorem testBit_everywhere (text : List Char) (i : Nat) :
    (PlaceSet.select (fun _ => true) (places text)).testBit i = true ↔ i ≤ text.length := by
  rw [PlaceSet.testBit_select, Option.any_true, Option.isSome_iff_exists]
  constructor
  · rintro ⟨p, hp⟩
    obtain ⟨hlt, -⟩ := List.getElem?_eq_some_iff.1 hp
    rw [length_places] at hlt
    omega
  · intro hi
    exact ⟨_, List.getElem?_eq_getElem (by rw [length_places]; omega)⟩

/-- Only the first place has nothing before it. -/
theorem before_isNone (text : List Char) (i : Nat) :
    (places text)[i]?.any (·.before.isNone) = true ↔ i = 0 := by
  have hlater : ∀ (c : Char) (rest : List Char) (i : Nat),
      (placesFrom (some c) rest)[i]?.any (·.before.isNone) = false := by
    intro c rest
    induction rest generalizing c with
    | nil => intro i; cases i <;> rfl
    | cons d rest ih =>
      intro i
      cases i with
      | zero => rfl
      | succ i => exact ih d i
  cases i with
  | zero => cases text <;> simp [places, placesFrom]
  | succ i =>
    cases text with
    | nil => simp [places, placesFrom]
    | cons c rest =>
      have hsucc : (places (c :: rest))[i + 1]? = (placesFrom (some c) rest)[i]? := rfl
      rw [hsucc, hlater c rest i]
      simp

/-- Only the last place has nothing after it. -/
theorem after_isNone (text : List Char) (i : Nat) :
    (places text)[i]?.any (·.after.isNone) = true ↔ i = text.length := by
  have hafter := places_after text i
  have hlength := length_places text
  cases hp : (places text)[i]? with
  | none =>
    have hle := List.getElem?_eq_none_iff.1 hp
    exact iff_of_false (by simp) (by omega)
  | some p =>
    obtain ⟨hlt, -⟩ := List.getElem?_eq_some_iff.1 hp
    rw [hp, Option.bind_some] at hafter
    rw [Option.any_some, hafter, Option.isNone_iff_eq_none, List.getElem?_eq_none_iff]
    omega

theorem testBit_textStart (text : List Char) (s : PlaceSet) (i : Nat) :
    ((moves (places text) (.anchor .textStart)).next s).testBit i = true ↔
      s.testBit i = true ∧ i = 0 := by
  have hheld : Anchor.textStart.holds = fun p => p.before.isNone := rfl
  simp only [moves, Moves.stay, Nat.testBit_and, PlaceSet.testBit_select, Bool.and_eq_true, hheld,
    before_isNone]

theorem testBit_textEnd (text : List Char) (s : PlaceSet) (i : Nat) :
    ((moves (places text) (.anchor .textEnd)).next s).testBit i = true ↔
      s.testBit i = true ∧ i = text.length := by
  have hheld : Anchor.textEnd.holds = fun p => p.after.isNone := rfl
  simp only [moves, Moves.stay, Nat.testBit_and, PlaceSet.testBit_select, Bool.and_eq_true, hheld,
    after_isNone]

/-! ## Stretches of a text -/

/-- What a text starts with, told by its first character. -/
theorem prefix_drop_cons {c : Char} {part text : List Char} {i : Nat} :
    c :: part <+: text.drop i ↔ text[i]? = some c ∧ part <+: text.drop (i + 1) := by
  rw [← List.head?_drop, ← List.tail_drop]
  cases text.drop i with
  | nil => simp
  | cons d rest => simp [List.cons_prefix_cons, eq_comm]

/-- What a text starts with, told by two parts. -/
theorem prefix_drop_append {u v text : List Char} {i : Nat} :
    u ++ v <+: text.drop i ↔ u <+: text.drop i ∧ v <+: text.drop (i + u.length) := by
  induction u generalizing i with
  | nil => simp
  | cons c u ih =>
    rw [List.cons_append, prefix_drop_cons, ih, prefix_drop_cons, List.length_cons, and_assoc,
      Nat.add_assoc, Nat.add_comm 1]

/-- From any place, over a stretch of the text of some form. -/
def LeadsOver (text : List Char) (f : PlaceSet → PlaceSet) (form : List Char → Prop) : Prop :=
  ∀ s j, (f s).testBit j = true ↔
    ∃ i u, j = i + u.length ∧ s.testBit i = true ∧ u <+: text.drop i ∧ form u

variable {text : List Char}

theorem LeadsOver.congr {f : PlaceSet → PlaceSet} {form form' : List Char → Prop}
    (h : LeadsOver text f form) (hform : ∀ u, form u ↔ form' u) : LeadsOver text f form' := by
  intro s j
  simp only [h s j, hform]

theorem leadsOver_id (text : List Char) : LeadsOver text id (· = []) := by
  intro s j
  constructor
  · exact fun hj => ⟨j, [], rfl, hj, List.nil_prefix, rfl⟩
  · rintro ⟨i, _, rfl, hi, -, rfl⟩
    exact hi

/-- One stretch behind another. -/
theorem LeadsOver.comp {f g : PlaceSet → PlaceSet} {form form' : List Char → Prop}
    (hf : LeadsOver text f form) (hg : LeadsOver text g form') :
    LeadsOver text (fun s => g (f s)) fun w => ∃ u v, w = u ++ v ∧ form u ∧ form' v := by
  intro s j
  rw [hg (f s) j]
  constructor
  · rintro ⟨_, v, rfl, hi, hv, hform'⟩
    obtain ⟨i, u, rfl, hs, hu, hform⟩ := (hf s _).1 hi
    exact ⟨i, u ++ v, by rw [List.length_append, Nat.add_assoc], hs,
      prefix_drop_append.2 ⟨hu, hv⟩, u, v, rfl, hform, hform'⟩
  · rintro ⟨i, _, rfl, hs, hw, u, v, rfl, hform, hform'⟩
    obtain ⟨hu, hv⟩ := prefix_drop_append.1 hw
    exact ⟨i + u.length, v, by rw [List.length_append, Nat.add_assoc],
      (hf s _).2 ⟨i, u, rfl, hs, hu, hform⟩, hv, hform'⟩

/-- A step leads over one character that passes a test. -/
theorem leadsOver_past (text : List Char) (test : Char → Bool) :
    LeadsOver text (Moves.past (places text) test).next fun u => ∃ c, u = [c] ∧ test c = true := by
  intro s j
  have hdoor : ∀ i : Nat, (places text)[i]?.any (fun p => p.after.any test) = true ↔
      ∃ c, text[i]? = some c ∧ test c = true := by
    intro i
    rw [← places_after text i]
    cases (places text)[i]? with
    | none => simp
    | some p => simp [Option.any_eq_true]
  simp only [Moves.past, PlaceSet.testBit_behind, Nat.testBit_and, PlaceSet.testBit_select,
    Bool.and_eq_true, decide_eq_true_eq, hdoor]
  constructor
  · rintro ⟨hj, hs, c, hc, htest⟩
    exact ⟨j - 1, [c], (Nat.sub_add_cancel hj).symm, hs,
      prefix_drop_cons.2 ⟨hc, List.nil_prefix⟩, c, rfl, htest⟩
  · rintro ⟨i, _, rfl, hs, hp, c, rfl, htest⟩
    exact ⟨Nat.le_add_left 1 i, hs, c, (prefix_drop_cons.1 hp).1, htest⟩

theorem leadsOver_char (text : List Char) (c : Char) :
    LeadsOver text (moves (places text) (.char c)).next (· = [c]) :=
  (leadsOver_past text (· = c)).congr fun u => by simp

/-! ## Repetition -/

section Spread

variable {step : PlaceSet → PlaceSet} {rounds : Nat} {fresh seen : PlaceSet}

/-- Places that were seen stay. -/
theorem testBit_spread {i : Nat} (h : seen.testBit i = true) :
    (spread step rounds fresh seen).testBit i = true := by
  induction rounds generalizing fresh seen with
  | zero => exact h
  | succ rounds ih =>
    simp only [spread]
    split
    · exact h
    · exact ih (by rw [Nat.testBit_or, h, Bool.or_true])

/-- What is new was found and not seen. -/
theorem testBit_new (found seen : PlaceSet) (i : Nat) :
    ((found ||| seen) ^^^ seen).testBit i = true ↔
      found.testBit i = true ∧ ¬ seen.testBit i = true := by
  rw [Nat.testBit_xor, Nat.testBit_or]
  cases found.testBit i <;> cases seen.testBit i <;> decide

/-- What no step leaves is not left by any number of them. -/
theorem spread_subset {R : Nat → Prop}
    (hstep : ∀ s : PlaceSet, (∀ i, s.testBit i = true → R i) → ∀ j, (step s).testBit j = true → R j)
    (hfresh : ∀ i, fresh.testBit i = true → R i) (hseen : ∀ i, seen.testBit i = true → R i) :
    ∀ j, (spread step rounds fresh seen).testBit j = true → R j := by
  induction rounds generalizing fresh seen with
  | zero => exact hseen
  | succ rounds ih =>
    have hfound : ∀ i, (step fresh ||| seen).testBit i = true → R i := by
      intro i hi
      rw [Nat.testBit_or, Bool.or_eq_true] at hi
      exact hi.elim (hstep fresh hfresh i) (hseen i)
    simp only [spread]
    split
    · exact hseen
    · exact ih (fun i hi => hstep fresh hfresh i ((testBit_new _ _ i).1 hi).1) hfound

/-- Where a step leads one place on, the rounds suffice: what they reach lies inside what they
reach.  A place of which that is not known yet was found last, and so few rounds are left only when
it is near to the end of the text. -/
theorem spread_closed {test : Char → Bool}
    (hstep : LeadsOver text step fun u => ∃ c, u = [c] ∧ test c = true)
    (hpast : ∀ i c, seen.testBit i = true → ¬ fresh.testBit i = true → text[i]? = some c →
      test c = true → seen.testBit (i + 1) = true)
    (hrounds : ∀ i, fresh.testBit i = true → text.length ≤ i + rounds) :
    ∀ i c, (spread step rounds fresh seen).testBit i = true → text[i]? = some c → test c = true →
      (spread step rounds fresh seen).testBit (i + 1) = true := by
  have hnext : ∀ {s : PlaceSet} {i c}, s.testBit i = true → text[i]? = some c → test c = true →
      (step s).testBit (i + 1) = true := by
    intro s i c hi hc htest
    exact (hstep s _).2
      ⟨i, [c], rfl, hi, prefix_drop_cons.2 ⟨hc, List.nil_prefix⟩, c, rfl, htest⟩
  induction rounds generalizing fresh seen with
  | zero =>
    intro i c hi hc htest
    refine hpast i c hi (fun hfresh => ?_) hc htest
    obtain ⟨hlt, -⟩ := List.getElem?_eq_some_iff.1 hc
    have hle := hrounds i hfresh
    omega
  | succ rounds ih =>
    have hfound : ∀ i c, seen.testBit i = true → text[i]? = some c → test c = true →
        (step fresh ||| seen).testBit (i + 1) = true := by
      intro i c hi hc htest
      rw [Nat.testBit_or, Bool.or_eq_true]
      by_cases hfresh : fresh.testBit i = true
      · exact .inl (hnext hfresh hc htest)
      · exact .inr (hpast i c hi hfresh hc htest)
    simp only [spread]
    split
    · next he =>
      rw [he] at hfound
      exact hfound
    · refine ih (fun i c hi hnew hc htest => ?_) fun i hi => ?_
      · -- what was not found just now was seen before
        refine hfound i c (Classical.byContradiction fun hseen => hnew ?_) hc htest
        rw [Nat.testBit_or, Bool.or_eq_true] at hi
        exact (testBit_new _ _ i).2 ⟨hi.resolve_right hseen, hseen⟩
      · obtain ⟨k, _, rfl, hk, -, c, rfl, -⟩ := (hstep fresh i).1 ((testBit_new _ _ i).1 hi).1
        have hle := hrounds k hk
        simp only [List.length_singleton]
        omega

end Spread

/-- A repetition leads over any number of characters that pass a test. -/
theorem leadsOver_repeated (text : List Char) (test : Char → Bool) :
    LeadsOver text ((Moves.past (places text) test).repeated (places text) 0 none).next
      fun u => ∀ c ∈ u, test c = true := by
  intro s j
  have hstep := leadsOver_past text test
  have hnext : ((Moves.past (places text) test).repeated (places text) 0 none).next s
      = spread (Moves.past (places text) test).next (places text).length s s := rfl
  rw [hnext]
  constructor
  · intro hj
    refine spread_subset (R := fun j => ∃ i u, j = i + u.length ∧ s.testBit i = true ∧
      u <+: text.drop i ∧ ∀ c ∈ u, test c = true) ?_ ?_ ?_ j hj
    · intro t ht k hnext
      obtain ⟨k, _, rfl, hk, hp, c, rfl, hc⟩ := (hstep t k).1 hnext
      obtain ⟨i, u, rfl, hi, hu, htest⟩ := ht k hk
      exact ⟨i, u ++ [c], by rw [List.length_append, Nat.add_assoc], hi,
        prefix_drop_append.2 ⟨hu, hp⟩, by simpa [or_imp, forall_and] using ⟨htest, hc⟩⟩
    all_goals exact fun i hi => ⟨i, [], rfl, hi, List.nil_prefix, List.forall_mem_nil _⟩
  · rintro ⟨i, u, rfl, hi, hu, htest⟩
    have hrounds : ∀ i, s.testBit i = true → text.length ≤ i + (places text).length := by
      intro i _
      rw [length_places]
      omega
    have hclosed := spread_closed hstep (fun i c hseen hfresh => absurd hseen hfresh) hrounds
    have hplace : (spread (Moves.past (places text) test).next (places text).length s s).testBit i
        = true := testBit_spread hi
    -- one character of the stretch after another
    clear hi
    induction u generalizing i with
    | nil => exact hplace
    | cons c u ih =>
      obtain ⟨hc, hu⟩ := prefix_drop_cons.1 hu
      obtain ⟨htest, hrest⟩ := List.forall_mem_cons.1 htest
      rw [List.length_cons, Nat.add_comm u.length, ← Nat.add_assoc]
      exact ih (i + 1) hu hrest (hclosed i c hplace hc htest)

/-! ## Lists of patterns -/

/-- The places that the patterns of a list lead to one behind another. -/
def through (ps : List Place) (parts : List Pattern) (s : PlaceSet) : PlaceSet :=
  parts.foldl (fun s p => (moves ps p).next s) s

theorem next_sequence (ps : List Place) (parts : List Pattern) (s : PlaceSet) :
    (moves ps (sequence parts)).next s = through ps parts s := by
  induction parts generalizing s with
  | nil => rfl
  | cons a rest ih =>
    cases rest with
    | nil => rfl
    | cons b rest => exact ih ((moves ps a).next s)

theorem through_append (ps : List Place) (parts parts' : List Pattern) (s : PlaceSet) :
    through ps (parts ++ parts') s = through ps parts' (through ps parts s) :=
  List.foldl_append

/-- A pattern that leads over some form is found where a stretch of that form is. -/
theorem LeadsOver.foundIn {p : Pattern} {form : List Char → Prop}
    (h : LeadsOver text (moves (places text) p).next form) :
    p.foundIn text = true ↔ ∃ i u, i ≤ text.length ∧ u <+: text.drop i ∧ form u := by
  rw [Pattern.foundIn, decide_eq_true_eq]
  constructor
  · intro hne
    obtain ⟨j, hj⟩ := Nat.exists_testBit_of_ne_zero hne
    obtain ⟨i, u, -, hi, hu, hform⟩ := (h _ j).1 hj
    exact ⟨i, u, (testBit_everywhere text i).1 hi, hu, hform⟩
  · rintro ⟨i, u, hi, hu, hform⟩ hzero
    have hbit := (h _ (i + u.length)).2 ⟨i, u, rfl, (testBit_everywhere text i).2 hi, hu, hform⟩
    rw [hzero, Nat.zero_testBit] at hbit
    cases hbit

/-- Between the marks for its start and its end the whole text has the form. -/
theorem foundIn_anchored {parts : List Pattern} {form : List Char → Prop}
    (h : LeadsOver text (through (places text) parts) form) :
    (sequence (.anchor .textStart :: (parts ++ [.anchor .textEnd]))).foundIn text = true ↔
      form text := by
  have hnext : ∀ s, (moves (places text)
      (sequence (.anchor .textStart :: (parts ++ [.anchor .textEnd])))).next s
      = (moves (places text) (.anchor .textEnd)).next (through (places text) parts
          ((moves (places text) (.anchor .textStart)).next s)) := by
    intro s
    rw [next_sequence, ← List.singleton_append, through_append, through_append]
    rfl
  rw [Pattern.foundIn, decide_eq_true_eq, hnext]
  constructor
  · intro hne
    obtain ⟨j, hj⟩ := Nat.exists_testBit_of_ne_zero hne
    obtain ⟨hj, rfl⟩ := (testBit_textEnd text _ j).1 hj
    obtain ⟨i, u, hlength, hi, hu, hform⟩ := (h _ _).1 hj
    obtain ⟨-, rfl⟩ := (testBit_textStart text _ i).1 hi
    rw [List.drop_zero] at hu
    rwa [hu.eq_of_length (by omega)] at hform
  · intro hform hzero
    have hstart := (testBit_textStart text _ 0).2
      ⟨(testBit_everywhere text 0).2 (Nat.zero_le _), rfl⟩
    have hbit := (testBit_textEnd text _ _).2
      ⟨(h _ text.length).2 ⟨0, text, (Nat.zero_add _).symm, hstart, List.prefix_rfl, hform⟩, rfl⟩
    rw [hzero, Nat.zero_testBit] at hbit
    cases hbit

/-! ## Characters of a line -/

/-- Any character inside a line. -/
def oneOnLine : Pattern := .set (CharSet.compl (.single '\n')) true 0

/-- Any number of characters inside a line. -/
def anyOnLine : Pattern := .times oneOnLine 0 none true

theorem has_line (c : Char) : (CharSet.compl (.single '\n')).has c = decide (c ≠ '\n') := by
  have hspans : CharSet.compl (.single '\n') = ⟨[⟨0, 9⟩, ⟨11, maxCode⟩]⟩ := rfl
  have hmax : c.toNat ≤ maxCode := by
    have hvalid := c.valid
    simp only [UInt32.isValidChar, Nat.isValidChar] at hvalid
    simp only [Char.toNat, maxCode]
    omega
  have hfeed : c = '\n' ↔ c.toNat = 10 := by
    rw [← Char.toNat_inj]
    rfl
  rw [hspans, Bool.eq_iff_iff, decide_eq_true_iff, ne_eq, hfeed]
  simp only [CharSet.has, CharSet.hasCode, List.any_cons, List.any_nil, Bool.or_false,
    Bool.or_eq_true, Span.has_iff]
  omega

theorem leadsOver_oneOnLine (text : List Char) :
    LeadsOver text (moves (places text) oneOnLine).next fun u => ∃ c, u = [c] ∧ c ≠ '\n' :=
  (leadsOver_past text (CharSet.compl (.single '\n')).has).congr fun u => by
    simp only [has_line, decide_eq_true_eq]

theorem leadsOver_anyOnLine (text : List Char) :
    LeadsOver text (moves (places text) anyOnLine).next fun u => ∀ c ∈ u, c ≠ '\n' :=
  (leadsOver_repeated text (CharSet.compl (.single '\n')).has).congr fun u => by
    simp only [has_line, decide_eq_true_eq]

end EventSearch.Pattern
