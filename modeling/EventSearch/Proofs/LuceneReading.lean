/-
# `EventSearch.Proofs.LuceneReading` — written terms of a `lucene` query are read off

Signs, fields and connectives as the writer of criteria puts them, in front of whatever may follow
them.  A term is read from behind its field: by its value (`takeTerm_value`) or by both ends of its
range (`takeTerm_inclusive`, `takeTerm_exclusive`, `takeBounds?_boundsText`).
-/
import EventSearch.Proofs.LuceneFields
import EventSearch.Proofs.LuceneValues

namespace EventSearch.Query

open EventSearch.Text

namespace LuceneTree

/-! ## Signs -/

theorem takeLayout?_starts {cs : List Char} (h : Starts cs) : takeLayout? cs = none := by
  simp [takeLayout?, h.skipLayout]

theorem takeSign_minus (cs : List Char) : takeSign ('-' :: cs) = (some .minus, cs) := by
  simp [takeSign, after?]

theorem takeSign_none {c : Char} (h : c ∉ ['N', '!', '-', '+']) (cs : List Char) :
    takeSign (c :: cs) = (none, c :: cs) := by
  simp only [List.mem_cons, List.not_mem_nil, or_false, not_or] at h
  obtain ⟨hN, hb, hm, hp⟩ := h
  simp [takeSign, after?_ne hN, hb, hm, hp]

theorem not_keyword_raw {raw rest tail : List Char} (h : BareText.scan raw = (raw, rest))
    (ht : ∀ c, tail.head? = some c → c ∉ ['N', 'O', 'T'])
    (hn : raw = ['N', 'O', 'T'] → takeLayout? tail = none) :
    (after? ['N', 'O', 'T'] (raw ++ tail)).bind takeLayout? = none := by
  cases ha : after? ['N', 'O', 'T'] (raw ++ tail) with
  | none => rfl
  | some left =>
    rcases List.append_eq_append_iff.1 (after?_eq_some.1 ha) with ⟨v, hv, htail⟩ | ⟨v, rfl, rfl⟩
    · cases v with
      | nil =>
        obtain rfl : tail = left := htail
        exact hn (by simpa using hv.symm)
      | cons c v =>
        have hc : c ∈ ['N', 'O', 'T'] := by simp [hv]
        exact absurd hc (ht c (by rw [htail]; rfl))
    · cases v with
      | nil => exact hn (List.append_nil _)
      | cons c v =>
        have hc : isBlank c = false := BareText.not_blank_of_scan h c (by simp)
        exact takeLayout?_starts (starts_cons hc _)

/-- Nothing of a bare value is taken for a sign, the word `NOT` in front of layout apart. -/
theorem takeSign_raw {raw rest tail : List Char} (h : BareText.scan raw = (raw, rest))
    (hne : raw ≠ []) (ht : ∀ c, tail.head? = some c → c ∉ ['N', 'O', 'T'])
    (hn : raw = ['N', 'O', 'T'] → takeLayout? tail = none) :
    takeSign (raw ++ tail) = (none, raw ++ tail) := by
  have hnot := not_keyword_raw h ht hn
  obtain ⟨c, raw, rfl⟩ := List.exists_cons_of_ne_nil hne
  have hc : c ∉ BareText.reserved := by
    intro hm
    rw [BareText.scan_reserved hm] at h
    cases (Prod.mk.inj h).1
  have hb : c ≠ '!' := fun he => hc (he ▸ by decide)
  have hm : c ≠ '-' := fun he => hc (he ▸ by decide)
  have hp : c ≠ '+' := fun he => hc (he ▸ by decide)
  rw [List.cons_append] at hnot ⊢
  rw [takeSign, hnot]
  · simp [hb]
  · exact fun _ he => hm (List.cons.inj he).1
  · exact fun _ he => hp (List.cons.inj he).1

theorem takeSign_bare {cs tail : List Char} (h : Bare cs) (ht : Follows tail) :
    takeSign (cs ++ tail) = (none, cs ++ tail) := by
  have hs : BareText.scan cs = (cs, []) := by simpa using BareText.scan_bare h follows_nil
  refine takeSign_raw hs h.nonempty (fun c hc hm => ?_) fun he => absurd he h.not_not
  have hf := ht c hc
  simp only [List.mem_cons, List.not_mem_nil, or_false] at hm hf
  rcases hm with rfl | rfl | rfl <;> simp at hf

/-! ## Terms -/

/-- Text that is taken neither for a sign nor for a field. -/
structure Unmarked (cs : List Char) : Prop where
  sign : takeSign cs = (none, cs)
  field : takeField cs = (none, cs)

theorem unmarked_cons {c : Char} (hc : c ∉ ['N', '!', '-', '+']) (hl : isAsciiLower c = false)
    (cs : List Char) : Unmarked (c :: cs) :=
  ⟨takeSign_none hc cs, takeField_of_not_lower fun d hd => by cases hd; exact hl⟩

theorem unmarked_luceneValue (v : String) {tail : List Char} (ht : Follows tail) :
    Unmarked ((luceneValue v).toList ++ tail) := by
  unfold luceneValue
  split
  · simpa [doubleQuoted] using unmarked_cons (by decide) (by decide) _
  · next h =>
    have hb := bare_of_needsQuotes (Bool.eq_false_iff.2 h)
    exact ⟨takeSign_bare hb ht, takeField_bare hb ht⟩

/-- A field, if there is one, with a path that is read whole. -/
def FieldReadable (field : Option FieldPath) : Prop := ∀ p, field = some p → p.Readable

theorem takeField_written {field : Option FieldPath} (h : FieldReadable field) {cs : List Char}
    (hn : field = none → takeField cs = (none, cs)) :
    takeField ((fieldText field).toList ++ cs) = (field, cs) := by
  cases field with
  | none => simpa [fieldText] using hn rfl
  | some p => simpa [fieldText] using takeField_path (h p rfl) cs

theorem takeField_fieldText {field : Option FieldPath} (h : FieldReadable field) {cs : List Char}
    (hu : Unmarked cs) : takeField ((fieldText field).toList ++ cs) = (field, cs) :=
  takeField_written h fun _ => hu.field

/-- What is written for a negation. -/
def signText (negated : Bool) : String := if negated then "-" else ""

theorem takeSign_signText (negated : Bool) {field : Option FieldPath} (h : FieldReadable field)
    {cs : List Char} (hu : Unmarked cs) :
    takeSign ((signText negated).toList ++ ((fieldText field).toList ++ cs))
      = (if negated then some .minus else none, (fieldText field).toList ++ cs) := by
  cases negated with
  | true => simpa [signText] using takeSign_minus _
  | false =>
    cases field with
    | none => simpa [signText, fieldText] using hu.sign
    | some p =>
      obtain ⟨d, text, hp, hl⟩ := head_path (h p rfl)
      have hd : d ∉ ['N', '!', '-', '+'] := by
        intro hm
        simp only [List.mem_cons, List.not_mem_nil, or_false] at hm
        rcases hm with rfl | rfl | rfl | rfl <;> exact absurd hl (by decide)
      simpa [signText, fieldText, hp] using takeSign_none hd _

theorem takeModifier_of_follows {tail : List Char} (h : Follows tail) :
    takeModifier tail = (none, tail) := by
  cases tail with
  | nil => rfl
  | cons c tail =>
    have hc := h c rfl
    simp only [List.mem_cons, List.not_mem_nil, or_false] at hc
    rcases hc with rfl | rfl | rfl | rfl <;> rfl

/-- The first character of a text starts neither a range nor a group. -/
def OpensValue (cs : List Char) : Prop :=
  ∃ c, cs.head? = some c ∧ isBlank c = false ∧ c ∉ ['(', '[', '{']

theorem OpensValue.append {cs : List Char} (h : OpensValue cs) (tail : List Char) :
    OpensValue (cs ++ tail) := by
  obtain ⟨c, hc, hb, hn⟩ := h
  exact ⟨c, by simp [List.head?_append, hc], hb, hn⟩

theorem OpensValue.starts {cs : List Char} (h : OpensValue cs) : Starts cs := by
  obtain ⟨c, hc, hb, -⟩ := h
  exact ⟨c, hc, hb⟩

theorem opensValue_cons {c : Char} (hb : isBlank c = false) (hn : c ∉ ['(', '[', '{'])
    (cs : List Char) : OpensValue (c :: cs) := ⟨c, rfl, hb, hn⟩

theorem opensValue_luceneValue (v : String) : OpensValue (luceneValue v).toList := by
  unfold luceneValue
  split
  · simpa [doubleQuoted] using opensValue_cons (c := '"') (by decide) (by decide) _
  · next h =>
    obtain ⟨c, rest, he, -, hb, hq⟩ := (bare_of_needsQuotes (Bool.eq_false_iff.2 h)).head
    refine ⟨c, by rw [he]; rfl, hb, fun hm => hq ?_⟩
    simp only [List.mem_cons, List.not_mem_nil, or_false] at hm
    rcases hm with rfl | rfl | rfl <;> decide

/-- Text behind a field that no range starts with. -/
theorem takeRange?_none {cs rest : List Char} {field : Option FieldPath}
    (hf : takeField cs = (field, rest)) (ho : OpensValue rest) : takeRange? cs = none := by
  obtain ⟨c, hc, hb, hn⟩ := ho
  cases rest with
  | nil => cases hc
  | cons d rest =>
    obtain rfl := Option.some.inj hc
    simp only [List.mem_cons, List.not_mem_nil, or_false, not_or] at hn
    simp [takeRange?, hf, skipLayout_cons (isLayout_of_not_blank hb), hn.2.1, hn.2.2]

theorem takeTerm_value {cs rest tail : List Char} {field : Option FieldPath} {o : Operand}
    (hf : takeField cs = (field, rest)) (hv : OpensValue rest)
    (ho : takeOperand rest = .ok (o, tail)) (ht : Follows tail) :
    takeTerm cs = .ok (.value field o none, tail) := by
  simp [takeTerm, takeRange?_none hf hv, takeValue, hf, ho, takeModifier_of_follows ht]

/-- Behind a field that no range starts with, a term is a value. -/
theorem takeTerm_value_inv {cs rest tail : List Char} {field : Option FieldPath} {t : Term}
    (hf : takeField cs = (field, rest)) (hv : OpensValue rest)
    (h : takeTerm cs = .ok (t, tail)) :
    ∃ o after modifier, takeOperand rest = .ok (o, after) ∧ t = .value field o modifier := by
  simp only [takeTerm, takeRange?_none hf hv, takeValue, hf] at h
  split at h
  · cases h
  · next o after ho =>
    cases h
    exact ⟨o, after, _, ho, rfl⟩

theorem takeTerm_inclusive {cs rest tail : List Char} {field : Option FieldPath}
    {low high : Operand} (hf : takeField cs = (field, '[' :: rest))
    (hr : takeBounds? ']' rest = some ((low, high), tail)) :
    takeTerm cs = .ok (.inclusive field low high, tail) := by
  simp [takeTerm, takeRange?, hf, skipLayout_cons (c := '[') (by decide), hr]

theorem takeTerm_exclusive {cs rest tail : List Char} {field : Option FieldPath}
    {low high : Operand} (hf : takeField cs = (field, '{' :: rest))
    (hr : takeBounds? '}' rest = some ((low, high), tail)) :
    takeTerm cs = .ok (.exclusive field low high, tail) := by
  simp [takeTerm, takeRange?, hf, skipLayout_cons (c := '{') (by decide), hr]

/-- Behind a bracket a term is a range. -/
theorem takeTerm_inclusive_inv {cs rest tail : List Char} {field : Option FieldPath} {t : Term}
    (hf : takeField cs = (field, '[' :: rest)) (h : takeTerm cs = .ok (t, tail)) :
    ∃ low high, takeBounds? ']' rest = some ((low, high), tail) ∧
      t = .inclusive field low high := by
  have ho := takeOperand_reserved (c := '[') (by decide) (by decide) rest
  cases hb : takeBounds? ']' rest with
  | none =>
    simp [takeTerm, takeRange?, hf, skipLayout_cons (c := '[') (by decide), hb, takeValue, ho] at h
  | some p =>
    obtain ⟨⟨low, high⟩, after⟩ := p
    rw [takeTerm_inclusive hf hb] at h
    cases h
    exact ⟨low, high, rfl, rfl⟩

/-- Behind a brace a term is a range. -/
theorem takeTerm_exclusive_inv {cs rest tail : List Char} {field : Option FieldPath} {t : Term}
    (hf : takeField cs = (field, '{' :: rest)) (h : takeTerm cs = .ok (t, tail)) :
    ∃ low high, takeBounds? '}' rest = some ((low, high), tail) ∧
      t = .exclusive field low high := by
  have ho := takeOperand_reserved (c := '{') (by decide) (by decide) rest
  cases hb : takeBounds? '}' rest with
  | none =>
    simp [takeTerm, takeRange?, hf, skipLayout_cons (c := '{') (by decide), hb, takeValue, ho] at h
  | some p =>
    obtain ⟨⟨low, high⟩, after⟩ := p
    rw [takeTerm_exclusive hf hb] at h
    cases h
    exact ⟨low, high, rfl, rfl⟩

/-- What is read of a range. -/
theorem takeBounds?_eq_some {close : Char} {cs rest : List Char} {low high : Operand}
    (h : takeBounds? close cs = some ((low, high), rest)) :
    ∃ a b c d e, takeOperand (skipLayout cs) = .ok (low, a) ∧ takeLayout? a = some b ∧
      after? ['T', 'O'] b = some c ∧ takeLayout? c = some d ∧ takeOperand d = .ok (high, e) ∧
      after? [close] (skipLayout e) = some rest := by
  simp only [takeBounds?, Option.bind_eq_bind, Option.bind_eq_some_iff, Option.pure_def,
    Option.some.injEq, Prod.exists, Prod.mk.injEq] at h
  obtain ⟨l, a, hl, b, hb, c, hc, d, hd, u, e, hu, f, hf, ⟨rfl, rfl⟩, rfl⟩ := h
  exact ⟨a, b, c, d, e, eq_ok_of_toOption hl, hb, hc, hd, eq_ok_of_toOption hu, hf⟩

/-- What stands between the ends of a range. -/
theorem takeTo {cs : List Char} (h : Starts cs) :
    ∃ b c, takeLayout? (" TO ".toList ++ cs) = some b ∧ after? ['T', 'O'] b = some c ∧
      takeLayout? c = some cs := by
  refine ⟨['T', 'O'] ++ ' ' :: cs, ' ' :: cs, ?_, after?_eq_some.2 rfl, ?_⟩
  · simp [takeLayout?, skipLayout_space, skipLayout_cons (c := 'T') (by decide)]
  · simp [takeLayout?, skipLayout_space, h.skipLayout]

/-- The text of one end of a range. -/
structure RangeEnd (text : List Char) (o : Operand) : Prop where
  starts : Starts text
  reads : ∀ tail, Follows tail → takeOperand (text ++ tail) = .ok (o, tail)

theorem rangeEnd_star : RangeEnd ['*'] (.bare "*") :=
  ⟨starts_cons (by decide) [], fun _ h => takeOperand_star h⟩

theorem rangeEnd_luceneValue {v : String} (h : ¬ EndsInBackslash v.toList) :
    RangeEnd (luceneValue v).toList (operandOf v) :=
  ⟨(opensValue_luceneValue v).starts, fun _ ht => takeOperand_luceneValue h ht⟩

/-- The text of a range up to its closing mark. -/
def boundsText (low high : List Char) (rest : List Char) : List Char :=
  low ++ (" TO ".toList ++ (high ++ rest))

/-- Both ends of a range are read off, each in front of what stands behind it. -/
theorem takeBounds?_ends (close : Char) {lowText highText rest left : List Char}
    {low high : Operand} (hls : Starts lowText) (hhs : Starts highText)
    (hl : takeOperand (lowText ++ (" TO ".toList ++ (highText ++ rest)))
      = .ok (low, " TO ".toList ++ (highText ++ rest)))
    (hh : takeOperand (highText ++ rest) = .ok (high, left)) :
    takeBounds? close (boundsText lowText highText rest)
      = (after? [close] (skipLayout left)).map fun after => ((low, high), after) := by
  obtain ⟨b, c, hb, hc, hd⟩ := takeTo (hhs.append rest)
  simp only [takeBounds?, boundsText, (hls.append _).skipLayout, hl, hb, hc, hd, hh,
    Except.toOption, Option.bind_eq_bind, Option.bind_some, Option.pure_def]
  cases after? [close] (skipLayout left) <;> rfl

theorem after?_close {close : Char} (hc : close ∈ [']', '}']) (tail : List Char) :
    after? [close] (skipLayout (close :: tail)) = some tail := by
  have hl : isLayout close = false := by
    simp only [List.mem_cons, List.not_mem_nil, or_false] at hc
    rcases hc with rfl | rfl <;> decide
  simp [skipLayout_cons hl, after?]

theorem takeBounds?_boundsText {close : Char} (hc : close ∈ [']', '}']) {lowText highText : List Char}
    {low high : Operand} (hl : RangeEnd lowText low) (hh : RangeEnd highText high)
    (tail : List Char) :
    takeBounds? close (boundsText lowText highText (close :: tail)) = some ((low, high), tail) := by
  have hclose : Follows (close :: tail) := by
    refine follows_cons ?_ tail
    simp only [List.mem_cons, List.not_mem_nil, or_false] at hc
    rcases hc with rfl | rfl <;> decide
  have hto : Follows (" TO ".toList ++ (highText ++ close :: tail)) := follows_cons (by decide) _
  rw [takeBounds?_ends close hl.starts hh.starts (hl.reads _ hto) (hh.reads _ hclose),
    after?_close hc]
  rfl

/-! ## Connectives -/

/-- A connective as it is written between criteria is read off. -/
theorem takeConnective?_written (op : Connective) {rest : List Char} (h : Starts rest) :
    takeConnective? ((" " ++ op.toText ++ " ").toList ++ rest) = some (op, rest) := by
  have hl : takeLayout? (' ' :: rest) = some rest := by
    simp [takeLayout?, skipLayout_space, h.skipLayout]
  cases op with
  | and =>
    have hs : skipLayout ((" " ++ Connective.and.toText ++ " ").toList ++ rest)
        = ['A', 'N', 'D'] ++ ' ' :: rest := by
      simp [Connective.toText, skipLayout_space, skipLayout_cons (c := 'A') (by decide)]
    have ha : after? ['A', 'N', 'D'] (['A', 'N', 'D'] ++ ' ' :: rest) = some (' ' :: rest) :=
      after?_eq_some.2 rfl
    simp only [takeConnective?, takeSymbol?, takeKeyword?, hs, ha, Option.bind_some, hl]
    simp [after?]
  | or =>
    have hs : skipLayout ((" " ++ Connective.or.toText ++ " ").toList ++ rest)
        = ['O', 'R'] ++ ' ' :: rest := by
      simp [Connective.toText, skipLayout_space, skipLayout_cons (c := 'O') (by decide)]
    have ha : after? ['O', 'R'] (['O', 'R'] ++ ' ' :: rest) = some (' ' :: rest) :=
      after?_eq_some.2 rfl
    simp only [takeConnective?, takeSymbol?, takeKeyword?, hs, ha, Option.bind_some, hl]
    simp [after?]

theorem follows_of_ends {cs : List Char} (h : EndsParts cs) : Follows cs :=
  fun c hc => by rw [h c hc]; decide

theorem takeConnective?_none {cs : List Char} (h : EndsParts cs) :
    takeConnective? cs = none := by
  cases cs with
  | nil => rfl
  | cons c cs =>
    obtain rfl := h c rfl
    have hs : skipLayout (')' :: cs) = ')' :: cs := skipLayout_cons (by decide) cs
    simp [takeConnective?, takeSymbol?, takeKeyword?, takeLayout?, hs, after?]

/-! ## Parentheses -/

theorem takeCriterion_nil (fuel : Nat) : takeCriterion fuel [] = takeSigned [] := by
  cases fuel <;> rw [takeCriterion.eq_def]

theorem takeCriterion_of_ne {c : Char} (h : c ≠ '(') (fuel : Nat) (cs : List Char) :
    takeCriterion fuel (c :: cs) = takeSigned (c :: cs) := by
  rw [takeCriterion.eq_def]
  split
  · next he => exact absurd (List.cons.inj he).1 h
  · rfl

/-- No term starts with a parenthesis. -/
theorem takeSigned_bracket {c : Char} (h : c ∈ ['(', ')']) (cs : List Char) :
    takeSigned (c :: cs) = .error (c :: cs) := by
  simp only [List.mem_cons, List.not_mem_nil, or_false] at h
  have hl : isAsciiLower c = false := by
    rcases h with rfl | rfl <;> decide
  have hs : takeSign (c :: cs) = (none, c :: cs) := by
    rcases h with rfl | rfl <;> exact takeSign_none (by decide) cs
  have hf : takeField (c :: cs) = (none, c :: cs) :=
    takeField_of_not_lower fun d hd => by cases hd; exact hl
  have ho : takeOperand (c :: cs) = .error (c :: cs) := by
    rcases h with rfl | rfl <;> exact takeOperand_reserved (by decide) (by decide) cs
  have hr : takeRange? (c :: cs) = none := by
    rcases h with rfl | rfl <;>
      simp [takeRange?, hf, skipLayout_cons (c := '(') (by decide),
        skipLayout_cons (c := ')') (by decide)]
  simp only [takeSigned, hs, takeTerm, hr, takeValue, hf, ho]

/-- What is no group is no term either. -/
theorem takeSigned_paren (cs : List Char) : takeSigned ('(' :: cs) = .error ('(' :: cs) :=
  takeSigned_bracket (by decide) cs

theorem takeCriterion_paren (fuel : Nat) (cs : List Char) :
    takeCriterion (fuel + 1) ('(' :: cs) =
      match takeCriteria fuel (skipLayout cs) with
      | .error _ => .error ('(' :: cs)
      | .ok (inner, rest) =>
        match skipLayout rest with
        | ')' :: after => .ok (.group inner, after)
        | _ => .error ('(' :: cs) := by
  rw [takeCriterion.eq_def, ← takeSigned_paren cs]
  rfl

end LuceneTree

end EventSearch.Query
