/-
# `EventSearch.Proofs.LuceneContinued` — a `lucene` query with more text behind it

A query that is read whole is read the same way when more follows it (`takeChain_continued`,
`takeCriteria_continued`), as far as its values let it.  What follows starts with a space or a
closing parenthesis (`Continues`).  Three things can go wrong, and all of them are seen in the tree
of the query alone:

    'a, /a      a quote or slash that was not closed may be closed by what follows
    NOT         as the last word it negates what follows
    a\          in front of a parenthesis, a last backslash protects it

A tree is `Firm` in front of a text that closes no such quote or slash; `EndsBefore` rules out the
others.
-/
import EventSearch.Proofs.LuceneLeafText

namespace EventSearch.Query

open EventSearch.Text

/-! ## Texts that follow -/

/-- Text that may be put behind a query. -/
def Continues (more : List Char) : Prop := ∃ c cs, more = c :: cs ∧ c ∈ [' ', ')']

theorem Continues.head {more : List Char} (h : Continues more) {c : Char}
    (hc : more.head? = some c) : c ∈ [' ', ')'] := by
  obtain ⟨d, cs, rfl, hd⟩ := h
  exact Option.some.inj hc ▸ hd

namespace LuceneTree

theorem takeLayout?_eq_some {cs rest : List Char} (h : takeLayout? cs = some rest) :
    skipLayout cs = rest ∧ rest.length < cs.length := by
  simp only [takeLayout?] at h
  split at h
  · next hlt => exact Option.some.inj h ▸ ⟨rfl, hlt⟩
  · cases h

theorem takeLayout?_continued {cs rest : List Char} (h : takeLayout? cs = some rest)
    (hr : rest ≠ []) (more : List Char) : takeLayout? (cs ++ more) = some (rest ++ more) := by
  obtain ⟨rfl, hlt⟩ := takeLayout?_eq_some h
  have hlt' : (skipLayout cs ++ more).length < (cs ++ more).length := by simpa using hlt
  simp only [takeLayout?, skipLayout_continued hr, hlt', if_true]

theorem takeLayout?_none_continued {c : Char} {cs : List Char} (h : takeLayout? (c :: cs) = none)
    (more : List Char) : takeLayout? (c :: cs ++ more) = none := by
  have hc : isLayout c = false := by
    cases hl : isLayout c with
    | false => rfl
    | true =>
      have hle : (skipLayout cs).length ≤ cs.length := (List.dropWhile_sublist _).length_le
      have hs : skipLayout (c :: cs) = skipLayout cs := by simp [skipLayout, hl]
      simp only [takeLayout?, hs, List.length_cons, Nat.lt_succ_of_le hle, if_true] at h
      cases h
  rw [List.cons_append]
  simp [takeLayout?, skipLayout_cons hc]

end LuceneTree

/-! ## Values -/

namespace BareText

theorem ends_append {c : Char} {cs : List Char} (h : ends c cs = true) (more : List Char) :
    ends c (cs ++ more) = true := by
  cases cs with
  | nil =>
    -- a single `&` or `|` does not end a value
    simp only [ends, List.head?_nil, Bool.or_eq_true, Bool.and_eq_true] at h
    simp only [ends, Bool.or_eq_true]
    exact .inl (by simpa using h)
  | cons d cs => exact (ends_congr rfl).trans h

theorem Scanned.inside {cs raw rest : List Char} (h : Scanned cs raw rest) (hr : rest ≠ [])
    (more : List Char) : Scanned (cs ++ more) raw (rest ++ more) := by
  induction h with
  | done | lone => exact absurd rfl hr
  | escape hd _ ih => exact .escape hd (ih hr)
  | backslash hd _ ih => exact .backslash hd (ih hr)
  | stop he => exact .stop (ends_append he more)
  | @take _ cs _ _ hc he h ih =>
    refine .take hc ?_ (ih hr)
    have hcs : cs ≠ [] := by
      rintro rfl
      exact hr (List.append_eq_nil_iff.1 h.join).2
    obtain ⟨d, ds, rfl⟩ := List.exists_cons_of_ne_nil hcs
    exact (ends_congr rfl).trans he

/-- A bare value that ends inside of a text ends there whatever follows. -/
theorem scan_inside {cs raw rest : List Char} (h : scan cs = (raw, rest)) (hr : rest ≠ [])
    (more : List Char) : scan (cs ++ more) = (raw, rest ++ more) :=
  scanned_iff.1 ((scanned_iff.2 h).inside hr more)

/-- A bare value that ends with its text ends in front of a space. -/
theorem scan_space {cs : List Char} (h : scan cs = (cs, [])) (more : List Char) :
    scan (cs ++ ' ' :: more) = (cs, ' ' :: more) := by
  have hspace : scan (' ' :: more) = ([], ' ' :: more) :=
    scan_of_follows (follows_cons (by decide) more)
  refine scan_before h hspace ⟨by simp, by simp⟩ fun _ c hc => ?_
  rw [← Option.some.inj hc]
  decide

end BareText

/-- The marks that a bare value may start with. -/
def LuceneTree.openers : List Char := ['\'', '/']

namespace Operand

open LuceneTree

/-- A value of which some text closes no quote or slash that was left open. -/
def Firm (more : List Char) : Operand → Prop
  | .bare raw => ∀ mark ∈ openers, raw.toList.head? = some mark → Sealed mark more
  | _ => True

/-- A value that ends where some text follows it. -/
def EndsBefore (more : List Char) : Operand → Prop
  | .bare raw => BareText.scan (raw.toList ++ more) = (raw.toList, more)
  | _ => True

end Operand

namespace LuceneTree

theorem takeQuoted?_continued {mark : Char} (hm : mark ≠ '\\') {cs text rest : List Char}
    (h : takeQuoted? mark cs = some (text, rest)) (more : List Char) :
    takeQuoted? mark (cs ++ more) = some (text, rest ++ more) := by
  fun_induction takeQuoted? mark cs generalizing text rest with
  | case1 => cases h
  | case2 cs ih =>
    obtain ⟨⟨t, after⟩, ht, he⟩ := Option.map_eq_some_iff.1 h
    obtain ⟨rfl, rfl⟩ := Prod.mk.inj he
    simp [ih ht]
  | case3 c cs hc ih =>
    obtain ⟨⟨t, after⟩, ht, he⟩ := Option.map_eq_some_iff.1 h
    obtain ⟨rfl, rfl⟩ := Prod.mk.inj he
    have ih := ih ht
    rw [List.cons_append] at ih
    simp [takeQuoted?, hc, ih]
  | case4 cs hs =>
    obtain ⟨rfl, rfl⟩ := Prod.mk.inj (Option.some.inj h)
    exact takeQuoted?_close hm _
  | case5 c cs hs hc ih =>
    obtain ⟨⟨t, after⟩, ht, he⟩ := Option.map_eq_some_iff.1 h
    obtain ⟨rfl, rfl⟩ := Prod.mk.inj he
    cases cs with
    | nil => simp [takeQuoted?] at ht
    | cons d cs =>
      have hb : c ≠ '\\' := fun he => hs d cs he rfl
      have ih := ih ht
      rw [List.cons_append] at ih
      simp [takeQuoted?, hc, hb, ih]

theorem takeEnclosed?_continued {mark : Char} (hm : mark ≠ '\\') {cs rest : List Char}
    {text : String} (h : takeEnclosed? mark cs = some (text, rest)) (more : List Char) :
    takeEnclosed? mark (cs ++ more) = some (text, rest ++ more) := by
  cases cs with
  | nil => cases h
  | cons c cs =>
    by_cases hc : c = mark
    · subst hc
      rw [takeEnclosed?_mark, Option.map_eq_some_iff] at h
      obtain ⟨⟨body, after⟩, hq, he⟩ := h
      obtain ⟨rfl, rfl⟩ := Prod.mk.inj he
      rw [List.cons_append, takeEnclosed?_mark, takeQuoted?_continued hm hq]
      rfl
    · rw [takeEnclosed?_ne hc] at h
      cases h

/-- A bare value ends where it did. -/
theorem scan_continued {cs raw rest more : List Char} (h : BareText.scan cs = (raw, rest))
    (he : rest = [] → BareText.scan (raw ++ more) = (raw, more)) :
    BareText.scan (cs ++ more) = (raw, rest ++ more) := by
  by_cases hr : rest = []
  · subst hr
    have hj := BareText.scan_join cs
    rw [h, List.append_nil] at hj
    rw [← hj]
    exact he rfl
  · exact BareText.scan_inside h hr more

theorem takeBare_continued {cs rest more : List Char} {o : Operand}
    (h : takeBare cs = .ok (o, rest)) (he : rest = [] → o.EndsBefore more) :
    takeBare (cs ++ more) = .ok (o, rest ++ more) := by
  obtain ⟨raw, hs, rfl, hne, ha, ho⟩ := takeBare_eq_ok h
  refine takeBare_of_scan (scan_continued hs fun hr => ?_) hne ha ho
  simpa [Operand.EndsBefore] using he hr

/-- The value of a text between two marks. -/
def enclosedOperand (mark : Char) (text : String) : Operand :=
  if mark = '"' then .double text else if mark = '\'' then .single text else .pattern text

/-- A text that starts with a mark is read up to its second, or else as a bare value. -/
theorem takeOperand_mark {mark : Char} (hm : mark ∈ ['"', '\'', '/']) (cs : List Char) :
    takeOperand (mark :: cs) =
      match takeEnclosed? mark (mark :: cs) with
      | some (text, rest) => .ok (enclosedOperand mark text, rest)
      | none => takeBare (mark :: cs) := by
  simp only [List.mem_cons, List.not_mem_nil, or_false] at hm
  unfold takeOperand
  rcases hm with rfl | rfl | rfl
  · rw [takeEnclosed?_ne (show '"' ≠ '\'' by decide), takeEnclosed?_ne (show '"' ≠ '/' by decide)]
    cases takeEnclosed? '"' ('"' :: cs) <;> rfl
  · rw [takeEnclosed?_ne (show '\'' ≠ '"' by decide), takeEnclosed?_ne (show '\'' ≠ '/' by decide)]
    cases takeEnclosed? '\'' ('\'' :: cs) <;> rfl
  · rw [takeEnclosed?_ne (show '/' ≠ '"' by decide), takeEnclosed?_ne (show '/' ≠ '\'' by decide)]
    cases takeEnclosed? '/' ('/' :: cs) <;> rfl

/-- A bare value starts as its text does. -/
theorem head_of_takeBare {cs rest : List Char} {o : Operand} (h : takeBare cs = .ok (o, rest)) :
    ∃ raw, o = .bare raw ∧ raw.toList.head? = cs.head? := by
  obtain ⟨raw, hs, rfl, hne, -, -⟩ := takeBare_eq_ok h
  have hj := BareText.scan_join cs
  rw [hs] at hj
  obtain ⟨c, raw, rfl⟩ := List.exists_cons_of_ne_nil hne
  exact ⟨_, rfl, by simp [← hj]⟩

/-- A mark that was not closed is not closed by a sealed text. -/
theorem takeEnclosed?_open {mark : Char} (hm : mark ≠ '\\') {cs more : List Char}
    (h : takeEnclosed? mark (mark :: cs) = none) (hs : Sealed mark more) :
    takeEnclosed? mark (mark :: cs ++ more) = none := by
  rw [takeEnclosed?_mark, Option.map_eq_none_iff, takeQuoted?_eq_none hm] at h
  rw [List.cons_append, takeEnclosed?_mark, Option.map_eq_none_iff, takeQuoted?_eq_none hm]
  exact h.append hs

/-- A bare value that starts with a mark starts with a quote or a slash. -/
theorem mark_of_takeBare {mark : Char} (hm : mark ∈ ['"', '\'', '/']) {cs rest : List Char}
    {o : Operand} (h : takeBare (mark :: cs) = .ok (o, rest)) : mark ∈ openers := by
  rcases List.mem_cons.1 hm with rfl | hm
  · rw [takeBare_reserved (by decide)] at h
    cases h
  · exact hm

theorem takeOperand_continued {cs rest more : List Char} {o : Operand}
    (h : takeOperand cs = .ok (o, rest)) (hf : o.Firm more) (he : rest = [] → o.EndsBefore more) :
    takeOperand (cs ++ more) = .ok (o, rest ++ more) := by
  cases cs with
  | nil => 
    have hn : takeOperand [] = .error [] := rfl
    rw [hn] at h
    cases h
  | cons c cs =>
    by_cases hc : c ∈ ['"', '\'', '/']
    · have hb : c ≠ '\\' := by
        rintro rfl
        exact absurd hc (by decide)
      rw [takeOperand_mark hc] at h
      rw [List.cons_append, takeOperand_mark hc]
      split at h
      · next text after ht =>
        rw [← List.cons_append, takeEnclosed?_continued hb ht]
        cases h
        rfl
      · next hopen =>
        obtain ⟨raw, rfl, hhead⟩ := head_of_takeBare h
        have hmore : Sealed c more := hf c (mark_of_takeBare hc h) hhead
        rw [← List.cons_append, takeEnclosed?_open hb hopen hmore]
        exact takeBare_continued h he
    · rw [takeOperand_bare hc] at h
      rw [List.cons_append, takeOperand_bare hc]
      exact takeBare_continued h he

/-! ## Modifiers and ranges -/

theorem takeDigits_continued {more : List Char} (hm : Continues more) (cs : List Char) :
    takeDigits (cs ++ more) = ((takeDigits cs).1, (takeDigits cs).2 ++ more) := by
  obtain ⟨c, more, rfl, hc⟩ := hm
  have hdigit : isAsciiDigit c = false := by
    simp only [List.mem_cons, List.not_mem_nil, or_false] at hc
    rcases hc with rfl | rfl <;> decide
  obtain ⟨htake, hdrop⟩ := takeWhile_stop hdigit cs more
  exact Prod.ext htake hdrop

theorem takeModifier_continued {more : List Char} (hm : Continues more) (cs : List Char) :
    takeModifier (cs ++ more) = ((takeModifier cs).1, (takeModifier cs).2 ++ more) := by
  have hd := takeDigits_continued hm
  cases cs with
  | nil =>
    obtain ⟨c, more, rfl, hc⟩ := hm
    simp only [List.mem_cons, List.not_mem_nil, or_false] at hc
    rcases hc with rfl | rfl <;> rfl
  | cons c cs =>
    by_cases hb : c = '^'
    · subst hb
      simp only [List.cons_append, takeModifier, hd]
      split <;> rfl
    · by_cases hf : c = '~'
      · subst hf
        simp only [List.cons_append, takeModifier, hd]
      · simp [takeModifier, hb, hf]

theorem opensValue_of_scan {cs raw rest : List Char} (h : BareText.scan cs = (raw, rest))
    (hne : raw ≠ []) : OpensValue cs := by
  cases cs with
  | nil =>
    rw [BareText.scan.eq_def] at h
    exact absurd (Prod.mk.inj h).1.symm hne
  | cons c cs =>
    have hends : BareText.ends c cs = false := by
      cases he : BareText.ends c cs with
      | false => rfl
      | true =>
        rw [BareText.scan_ends he] at h
        exact absurd (Prod.mk.inj h).1.symm hne
    simp only [BareText.ends, Bool.or_eq_false_iff] at hends
    refine opensValue_cons hends.1.1 (fun hm => ?_) cs
    simp only [List.mem_cons, List.not_mem_nil, or_false] at hm
    rcases hm with rfl | rfl | rfl <;> exact absurd hends.1.2 (by decide)

/-- A value starts with a character that is neither layout nor an opening bracket. -/
theorem opensValue_of_takeOperand {cs rest : List Char} {o : Operand}
    (h : takeOperand cs = .ok (o, rest)) : OpensValue cs := by
  cases cs with
  | nil => exact nomatch (show Except.error [] = _ from h)
  | cons c cs =>
    by_cases hc : c ∈ ['"', '\'', '/']
    · simp only [List.mem_cons, List.not_mem_nil, or_false] at hc
      rcases hc with rfl | rfl | rfl <;> exact opensValue_cons (by decide) (by decide) cs
    · rw [takeOperand_bare hc] at h
      obtain ⟨raw, hs, -, hne, -, -⟩ := takeBare_eq_ok h
      exact opensValue_of_scan hs hne

theorem takeOperand_ne_nil {cs rest : List Char} {o : Operand}
    (h : takeOperand cs = .ok (o, rest)) : cs ≠ [] := by
  rintro rfl
  exact nomatch (show Except.error [] = _ from h)

theorem after?_ne_nil {l : Char} {lead cs rest : List Char}
    (h : after? (l :: lead) cs = some rest) : cs ≠ [] := by
  rintro rfl
  cases h

theorem takeBounds?_continued {close : Char} {cs rest more : List Char} {low high : Operand}
    (hm : Continues more) (hclose : close ∈ [']', '}'])
    (h : takeBounds? close cs = some ((low, high), rest)) (hl : low.Firm more)
    (hh : high.Firm more) :
    takeBounds? close (cs ++ more) = some ((low, high), rest ++ more) := by
  obtain ⟨a, b, c, d, e, hlow, hab, hbc, hcd, hhigh, hend⟩ := takeBounds?_eq_some h
  have hto : ∀ x ∈ more.head?, x ∉ ['T', 'O'] := by
    intro x hx hx'
    have := hm.head hx
    simp only [List.mem_cons, List.not_mem_nil, or_false] at hx' this
    rcases hx' with rfl | rfl <;> simp at this
  have hto' : ∀ x ∈ more.head?, x ∉ [close] := by
    intro x hx hx'
    have := hm.head hx
    rw [List.mem_singleton.1 hx'] at this
    simp only [List.mem_cons, List.not_mem_nil, or_false] at hclose this
    rcases hclose with rfl | rfl <;> simp at this
  -- each part of the range is followed by another one, so nothing ends with the text
  have hdne := takeOperand_ne_nil hhigh
  have hbne := after?_ne_nil hbc
  have hene : skipLayout e ≠ [] := after?_ne_nil hend
  have hane : a ≠ [] := by
    rintro rfl
    cases hab
  have hene' : e ≠ [] := by
    rintro rfl
    exact hene rfl
  have h1 : takeOperand (skipLayout cs ++ more) = .ok (low, a ++ more) :=
    takeOperand_continued hlow hl fun he => absurd he hane
  have h2 : takeOperand (d ++ more) = .ok (high, e ++ more) :=
    takeOperand_continued hhigh hh fun he => absurd he hene'
  simp only [takeBounds?, skipLayout_continued (takeOperand_ne_nil hlow) more, h1,
    takeLayout?_continued hab hbne more, after?_continued hto, hbc, Option.map_some,
    takeLayout?_continued hcd hdne more, h2, skipLayout_continued hene more,
    after?_continued hto', hend, Except.toOption, Option.bind_eq_bind, Option.bind_some,
    Option.pure_def]

/-! ## Fields -/

theorem takeField_some_continued {cs rest : List Char} {p : FieldPath}
    (h : takeField cs = (some p, rest)) (more : List Char) :
    takeField (cs ++ more) = (some p, rest ++ more) := by
  unfold takeField at h
  split at h
  · next q after hq =>
    obtain ⟨hp, rfl⟩ := Prod.mk.inj h
    obtain rfl := Option.some.inj hp
    rw [← takePath?_join hq, List.append_assoc]
    exact takeField_path (readable_of_takePath? hq) (after ++ more)
  · exact nomatch (Prod.mk.inj h).1

/-- Characters of a path that a bare value may hold as well. -/
def isPlainChar (c : Char) : Bool := isAsciiLower c || isAsciiDigit c || c = '_' || c = '.'

/-- A text whose plain characters are followed by one that a path goes on with, but no bare
value. -/
def Stops (cs : List Char) : Prop :=
  ∃ c, (cs.dropWhile isPlainChar).head? = some c ∧ c ∈ ['-', '(', ':']

theorem stops_cons {c : Char} (h : c ∈ ['-', '(', ':']) (cs : List Char) : Stops (c :: cs) := by
  have hc : isPlainChar c = false := by
    simp only [List.mem_cons, List.not_mem_nil, or_false] at h
    rcases h with rfl | rfl | rfl <;> decide
  exact ⟨c, by simp [hc], h⟩

theorem Stops.cons {c : Char} {cs : List Char} (h : Stops cs)
    (hc : isPlainChar c = true ∨ c = '-') : Stops (c :: cs) := by
  rcases hc with hc | rfl
  · obtain ⟨d, hd, hm⟩ := h
    exact ⟨d, by simpa [hc] using hd, hm⟩
  · exact stops_cons (by decide) cs

theorem Stops.append {cs : List Char} (h : Stops cs) {lead : List Char}
    (hl : ∀ c ∈ lead, isPlainChar c = true ∨ c = '-') : Stops (lead ++ cs) := by
  induction lead with
  | nil => exact h
  | cons c lead ih =>
    exact (ih fun d hd => hl d (List.mem_cons_of_mem c hd)).cons (hl c List.mem_cons_self)

theorem Stops.segment {cs rest : List Char} {s : PathSegment} (hs : takeSegment? cs = some (s, rest))
    (h : Stops rest) : Stops cs := by
  obtain ⟨name, after, hn, hcase⟩ := takeSegment?_eq_some hs
  have hafter : Stops after := by
    rcases hcase with ⟨-, rfl⟩ | ⟨inner, index, rfl, -⟩
    · exact h
    · exact stops_cons (by decide) inner
  rw [← takeName?_join hn]
  obtain ⟨c, cs', rfl, hc, hcs⟩ := isName_of_takeName? hn
  refine hafter.append fun d hd => ?_
  rcases List.mem_cons.1 hd with rfl | hd
  · exact .inl (by simp [isPlainChar, hc])
  · have hname := hcs d hd
    simp only [isNameChar, Bool.or_eq_true, decide_eq_true_eq] at hname
    simp only [isPlainChar, Bool.or_eq_true, decide_eq_true_eq]
    rcases hname with ((hd | hd) | hd) | hd
    · exact .inl (.inl (.inl (.inl hd)))
    · exact .inl (.inl (.inl (.inr hd)))
    · exact .inr hd
    · exact .inl (.inl (.inr hd))

theorem Stops.segments {fuel : Nat} {cs rest : List Char} {ss : List PathSegment}
    (hs : takeSegments fuel cs = (ss, rest)) (h : Stops rest) : Stops cs := by
  fun_induction takeSegments fuel cs generalizing ss rest with
  | case1 fuel cs hn =>
    cases hs
    exact h
  | case2 fuel cs s after hn segments after' hr ih =>
    obtain ⟨rfl, rfl⟩ := Prod.mk.inj hs
    exact (Stops.segment hn (ih hr h)).cons (.inl (by decide))
  | case3 fuel cs hn =>
    cases hs
    exact h

theorem stops_of_takeField {cs rest : List Char} {p : FieldPath}
    (h : takeField cs = (some p, rest)) : Stops cs := by
  unfold takeField at h
  split at h
  · next q after hq =>
    obtain ⟨s, ss, after', hs, hss, rfl⟩ := takePath?_eq_some hq
    exact .segment hs (.segments hss (stops_cons (by decide) after))
  · exact nomatch (Prod.mk.inj h).1

theorem not_blank_of_plain {c : Char} (h : isPlainChar c = true) : isBlank c = false := by
  simp only [isPlainChar, Bool.or_eq_true, decide_eq_true_eq] at h
  rcases h with ((hc | hc) | rfl) | rfl
  · exact not_blank_of_lower hc
  · simp only [isAsciiDigit, Bool.and_eq_true, decide_eq_true_eq] at hc
    have hlow : 48 ≤ c.toNat := hc.1
    have hhigh : c.toNat ≤ 57 := hc.2
    exact not_blank_of_printable (by omega) (by omega)
  · decide
  · decide

theorem ends_plain {c : Char} (h : isPlainChar c = true) (cs : List Char) :
    BareText.ends c cs = false := by
  have hne {d : Char} (hd : isPlainChar d = false) : c ≠ d := by
    rintro rfl
    rw [h] at hd
    cases hd
  have hreserved : c ∉ BareText.reserved := by
    intro hm
    simp only [BareText.reserved, List.mem_cons, List.not_mem_nil, or_false] at hm
    rcases hm with rfl | rfl | rfl | rfl | rfl | rfl | rfl | rfl | rfl | rfl | rfl | rfl | rfl <;>
      exact absurd h (by decide)
  have hand : c ≠ '&' := hne (by decide)
  have hor : c ≠ '|' := hne (by decide)
  simp [BareText.ends, not_blank_of_plain h, hreserved, hand, hor]

/-- A bare value goes as far as the plain characters of a path. -/
theorem scan_of_stops {cs : List Char} (h : Stops cs) :
    ∃ c, (BareText.scan cs).2.head? = some c ∧ c ∈ ['-', '(', ':'] := by
  induction cs with
  | nil => obtain ⟨c, hc, -⟩ := h; cases hc
  | cons d cs ih =>
    obtain ⟨c, hc, hm⟩ := h
    cases hd : isPlainChar d with
    | false =>
      obtain rfl : d = c := by simpa [hd] using hc
      have hr : d ∈ BareText.reserved := by
        simp only [List.mem_cons, List.not_mem_nil, or_false] at hm
        rcases hm with rfl | rfl | rfl <;> decide
      exact ⟨d, by rw [BareText.scan_reserved hr]; rfl, hm⟩
    | true =>
      have hends := ends_plain hd cs
      have hb : d ≠ '\\' := by
        rintro rfl
        exact absurd hd (by decide)
      rw [BareText.scan_cons hb, hends]
      exact ih ⟨c, by simpa [hd] using hc, hm⟩

end LuceneTree

/-! ## Terms -/

namespace Term

/-- A term all of whose values are. -/
def Firm (more : List Char) (t : Term) : Prop := ∀ o ∈ t.operands, o.Firm more

/-- A term that ends where some text follows it. -/
def EndsBefore (more : List Char) : Term → Prop
  | .value _ operand none => operand.EndsBefore more
  | _ => True

end Term

namespace LuceneTree

/-- What is left behind a term when all of it was read. -/
def FollowsTerm (rest : List Char) : Prop := ∀ c, rest.head? = some c → c ∉ ['-', '(', ':']

theorem takeField_eq_none {cs rest : List Char} (h : takeField cs = (none, rest)) : rest = cs := by
  unfold takeField at h
  split at h
  · exact nomatch (Prod.mk.inj h).1
  · exact (Prod.mk.inj h).2.symm

theorem takeField_of_not_stops {cs : List Char}
    (h : ∀ c, (BareText.scan cs).2.head? = some c → c ∉ ['-', '(', ':']) :
    takeField cs = (none, cs) := by
  cases hf : takeField cs with
  | mk field rest =>
    cases field with
    | none => rw [takeField_eq_none hf]
    | some p =>
      obtain ⟨c, hc, hm⟩ := scan_of_stops (stops_of_takeField hf)
      exact absurd hm (h c hc)

theorem not_lower_of_head {c d : Char} {cs : List Char} (h : (c :: cs).head? = some d)
    (hc : isAsciiLower c = false) : isAsciiLower d = false := by
  obtain rfl := Option.some.inj h
  exact hc

/-- Behind a value that names no field there is still none when more follows. -/
theorem takeField_none_continued {cs after more : List Char} {o : Operand} (hm : Continues more)
    (ho : takeOperand cs = .ok (o, after)) (he : after = [] → o.EndsBefore more)
    (ha : FollowsTerm after) (h : takeField cs = (none, cs)) :
    takeField (cs ++ more) = (none, cs ++ more) := by
  cases cs with
  | nil => exact absurd rfl (takeOperand_ne_nil ho)
  | cons c cs =>
    by_cases hc : c ∈ ['"', '\'', '/']
    · have hlower : isAsciiLower c = false := by
        simp only [List.mem_cons, List.not_mem_nil, or_false] at hc
        rcases hc with rfl | rfl | rfl <;> decide
      exact takeField_of_not_lower fun d hd => not_lower_of_head hd hlower
    · rw [takeOperand_bare hc] at ho
      obtain ⟨raw, hs, rfl, -, -, -⟩ := takeBare_eq_ok ho
      have hs' : BareText.scan (c :: cs ++ more) = (raw, after ++ more) :=
        scan_continued hs fun hr => by simpa [Operand.EndsBefore] using he hr
      refine takeField_of_not_stops fun d hd => ?_
      rw [hs'] at hd
      cases after with
      | nil =>
        have hd := hm.head (c := d) hd
        simp only [List.mem_cons, List.not_mem_nil, or_false] at hd
        rcases hd with rfl | rfl <;> decide
      | cons e after => exact ha d hd

/-- Layout and brackets are no letters. -/
theorem not_lower_of_bracket {cs : List Char} {c : Char} (h : (skipLayout cs).head? = some c)
    (hc : c ∈ ['[', '{']) (more : List Char) {d : Char} (hd : (cs ++ more).head? = some d) :
    isAsciiLower d = false := by
  cases cs with
  | nil => cases h
  | cons e cs =>
    obtain rfl := Option.some.inj hd
    cases hl : isLayout e with
    | true =>
      simp only [isLayout, Bool.or_eq_true, decide_eq_true_eq] at hl
      rcases hl with ((rfl | rfl) | rfl) | rfl <;> decide
    | false =>
      rw [skipLayout_cons hl] at h
      obtain rfl := Option.some.inj h
      simp only [List.mem_cons, List.not_mem_nil, or_false] at hc
      rcases hc with rfl | rfl <;> decide

theorem takeRange?_continued {cs rest more : List Char} {t : Term} (hm : Continues more)
    (h : takeRange? cs = some (t, rest)) (hf : t.Firm more) :
    takeRange? (cs ++ more) = some (t, rest ++ more) := by
  cases hfield : takeField cs with
  | mk field after =>
    have hbracket : ∃ c, skipLayout after ≠ [] ∧ (skipLayout after).head? = some c ∧
        c ∈ ['[', '{'] := by
      simp only [takeRange?, hfield] at h
      split at h
      · next he => exact ⟨'[', by simp [he], by simp [he], by decide⟩
      · next he => exact ⟨'{', by simp [he], by simp [he], by decide⟩
      · cases h
    obtain ⟨c, hne, hc, hmem⟩ := hbracket
    have hfield' : takeField (cs ++ more) = (field, after ++ more) := by
      cases field with
      | some p => exact takeField_some_continued hfield more
      | none =>
        obtain rfl := takeField_eq_none hfield
        exact takeField_of_not_lower fun d hd => not_lower_of_bracket hc hmem more hd
    simp only [takeRange?, hfield] at h
    simp only [takeRange?, hfield', skipLayout_continued hne more]
    split at h
    · next inner he =>
      obtain ⟨⟨⟨low, high⟩, r⟩, hb, ht⟩ := Option.map_eq_some_iff.1 h
      obtain ⟨rfl, rfl⟩ := Prod.mk.inj ht
      have hb' := takeBounds?_continued hm (by decide) hb (hf low (by simp [Term.operands]))
        (hf high (by simp [Term.operands]))
      simp [he, hb']
    · next inner he =>
      obtain ⟨⟨⟨low, high⟩, r⟩, hb, ht⟩ := Option.map_eq_some_iff.1 h
      obtain ⟨rfl, rfl⟩ := Prod.mk.inj ht
      have hb' := takeBounds?_continued hm (by decide) hb (hf low (by simp [Term.operands]))
        (hf high (by simp [Term.operands]))
      simp [he, hb']
    · cases h

/-- What is left behind a value: its modifier, if it has one, and the rest. -/
theorem takeValue_eq_ok {cs rest : List Char} {t : Term} (h : takeValue cs = .ok (t, rest)) :
    ∃ field after o left modifier, takeField cs = (field, after) ∧
      takeOperand after = .ok (o, left) ∧ takeModifier left = (modifier, rest) ∧
      t = .value field o modifier := by
  cases hf : takeField cs with
  | mk field after =>
    simp only [takeValue, hf] at h
    split at h
    · cases h
    · next o left ho =>
      cases h
      exact ⟨field, after, o, left, _, rfl, ho, rfl, rfl⟩

/-- A modifier starts with one of two characters; without one nothing is taken. -/
theorem takeModifier_cases {cs rest : List Char} {modifier : Option Modifier}
    (h : takeModifier cs = (modifier, rest)) :
    (modifier = none ∧ rest = cs) ∨ ∃ c, cs.head? = some c ∧ c ∈ ['^', '~'] := by
  cases cs with
  | nil => exact .inl ⟨(Prod.mk.inj h).1.symm, (Prod.mk.inj h).2.symm⟩
  | cons c cs =>
    by_cases hc : c ∈ ['^', '~']
    · exact .inr ⟨c, rfl, hc⟩
    · simp only [List.mem_cons, List.not_mem_nil, or_false, not_or] at hc
      have hn : takeModifier (c :: cs) = (none, c :: cs) := by simp [takeModifier, hc.1, hc.2]
      rw [hn] at h
      exact .inl ⟨(Prod.mk.inj h).1.symm, (Prod.mk.inj h).2.symm⟩

theorem takeValue_continued {cs rest more : List Char} {t : Term} (hm : Continues more)
    (h : takeValue cs = .ok (t, rest)) (hf : t.Firm more) (hr : FollowsTerm rest)
    (he : rest = [] → t.EndsBefore more) :
    takeValue (cs ++ more) = .ok (t, rest ++ more) ∧ takeRange? (cs ++ more) = none := by
  obtain ⟨field, after, o, left, modifier, hfield, ho, hmod, rfl⟩ := takeValue_eq_ok h
  have hofirm : o.Firm more := hf o (by simp [Term.operands])
  have hleft : FollowsTerm left := by
    rcases takeModifier_cases hmod with ⟨rfl, rfl⟩ | ⟨c, hc, hm⟩
    · exact hr
    · intro d hd
      obtain rfl := Option.some.inj (hc.symm.trans hd)
      simp only [List.mem_cons, List.not_mem_nil, or_false] at hm
      rcases hm with rfl | rfl <;> decide
  have hends : left = [] → o.EndsBefore more := by
    rintro rfl
    obtain ⟨rfl, rfl⟩ := Prod.mk.inj (show (none, []) = (modifier, rest) from hmod)
    exact he rfl
  have hfield' : takeField (cs ++ more) = (field, after ++ more) := by
    cases field with
    | some p => exact takeField_some_continued hfield more
    | none =>
      obtain rfl := takeField_eq_none hfield
      exact takeField_none_continued hm ho hends hleft hfield
  have ho' := takeOperand_continued ho hofirm hends
  refine ⟨?_, takeRange?_none hfield' ((opensValue_of_takeOperand ho).append more)⟩
  simp only [takeValue, hfield', ho', takeModifier_continued hm, hmod]

theorem takeTerm_continued {cs rest more : List Char} {t : Term} (hm : Continues more)
    (h : takeTerm cs = .ok (t, rest)) (hf : t.Firm more) (hr : FollowsTerm rest)
    (he : rest = [] → t.EndsBefore more) : takeTerm (cs ++ more) = .ok (t, rest ++ more) := by
  unfold takeTerm at h ⊢
  split at h
  · next found hrange =>
    cases h
    rw [takeRange?_continued hm hrange hf]
  · obtain ⟨hvalue, hnone⟩ := takeValue_continued hm h hf hr he
    rw [hnone]
    exact hvalue

/-! ## Signs -/

/-- The word `NOT` as a value. -/
def bareNot : Term := .value none (.bare "NOT") none

/-- A sign of one character. -/
def takeMark : List Char → Option Sign × List Char
  | '!' :: rest => (some .bang, rest)
  | '-' :: rest => (some .minus, rest)
  | '+' :: rest => (some .plus, rest)
  | cs => (none, cs)

theorem takeSign_eq (cs : List Char) : takeSign cs =
    match (after? ['N', 'O', 'T'] cs).bind takeLayout? with
    | some rest => (some .not, rest)
    | none => takeMark cs := by
  unfold takeSign takeMark
  rfl

theorem takeMark_continued {cs : List Char} (h : cs ≠ []) (more : List Char) :
    takeMark (cs ++ more) = ((takeMark cs).1, (takeMark cs).2 ++ more) := by
  obtain ⟨c, cs, rfl⟩ := List.exists_cons_of_ne_nil h
  by_cases hb : c = '!'
  · subst hb
    rfl
  · by_cases hm : c = '-'
    · subst hm
      rfl
    · by_cases hp : c = '+'
      · subst hp
        rfl
      · simp [takeMark, hb, hm, hp]

theorem takeTerm_not : takeTerm ['N', 'O', 'T'] = .ok (bareNot, []) := by
  have hs : BareText.scan ['N', 'O', 'T'] = (['N', 'O', 'T'], []) := by decide +kernel
  have hf : takeField ['N', 'O', 'T'] = (none, ['N', 'O', 'T']) := rfl
  have ho : takeOperand ['N', 'O', 'T'] = .ok (.bare "NOT", []) := by
    rw [takeOperand_bare (by decide), takeBare_of_scan hs (by decide) (by decide) (by decide)]
  exact takeTerm_value hf (opensValue_cons (by decide) (by decide) _) ho follows_nil

/-- The word of a sign, and the layout behind it. -/
def takeWord? (cs : List Char) : Option (List Char) :=
  (after? ['N', 'O', 'T'] cs).bind takeLayout?

section Word

variable {cs more : List Char} (hm : Continues more)

include hm

theorem after?_not_continued :
    after? ['N', 'O', 'T'] (cs ++ more) = (after? ['N', 'O', 'T'] cs).map (· ++ more) := by
  refine after?_continued (fun x hx hx' => ?_) cs
  have hhead := hm.head hx
  simp only [List.mem_cons, List.not_mem_nil, or_false] at hx' hhead
  rcases hx' with rfl | rfl | rfl <;> simp at hhead

theorem takeWord?_continued {after : List Char} (h : takeWord? cs = some after) (ha : after ≠ []) :
    takeWord? (cs ++ more) = some (after ++ more) := by
  obtain ⟨left, hnot, hlayout⟩ := Option.bind_eq_some_iff.1 h
  rw [takeWord?, after?_not_continued hm, hnot, Option.map_some, Option.bind_some,
    takeLayout?_continued hlayout ha more]

/-- Only the word `NOT` at the end of a text may become a sign when more follows. -/
theorem takeWord?_none_continued (h : takeWord? cs = none)
    (hn : cs = ['N', 'O', 'T'] → more.head? ≠ some ' ') : takeWord? (cs ++ more) = none := by
  rw [takeWord?, after?_not_continued hm]
  cases hnot : after? ['N', 'O', 'T'] cs with
  | none => rfl
  | some left =>
    have hlayout : takeLayout? left = none := by
      rwa [takeWord?, hnot, Option.bind_some] at h
    cases left with
    | nil =>
      -- the text ends in the word, so no space may follow it
      obtain ⟨c, more, rfl, hc⟩ := hm
      have hspace : c ≠ ' ' := fun he => hn (after?_eq_some.1 hnot) (by rw [he]; rfl)
      obtain rfl : c = ')' := by simpa [hspace] using hc
      simp [takeLayout?, skipLayout_cons (c := ')') (by decide)]
    | cons c left => exact takeLayout?_none_continued hlayout more

theorem takeSign_continued {after : List Char} {sign : Option Sign}
    (h : takeSign cs = (sign, after)) (ha : after ≠ [])
    (hn : cs = ['N', 'O', 'T'] → more.head? ≠ some ' ') :
    takeSign (cs ++ more) = (sign, after ++ more) := by
  rw [takeSign_eq] at h ⊢
  cases hword : takeWord? cs with
  | some left =>
    rw [← takeWord?, hword] at h
    obtain ⟨rfl, rfl⟩ := Prod.mk.inj h
    rw [← takeWord?, takeWord?_continued hm hword ha]
  | none =>
    rw [← takeWord?, hword] at h
    have hcs : cs ≠ [] := by
      rintro rfl
      exact ha (Prod.mk.inj h).2.symm
    have hmark : takeMark cs = (sign, after) := h
    rw [← takeWord?, takeWord?_none_continued hm hword hn, takeMark_continued hcs, hmark]

end Word

theorem takeTerm_ne_nil {cs rest : List Char} {t : Term} (h : takeTerm cs = .ok (t, rest)) :
    cs ≠ [] := by
  rintro rfl
  cases h

theorem takeSigned_eq_ok {cs rest : List Char} {tree : LuceneTree}
    (h : takeSigned cs = .ok (tree, rest)) : ∃ sign after t, takeSign cs = (sign, after) ∧
      takeTerm after = .ok (t, rest) ∧ tree = .signed sign t := by
  cases hs : takeSign cs with
  | mk sign after =>
    simp only [takeSigned, hs] at h
    split at h
    · cases h
    · next t left ht =>
      cases h
      exact ⟨sign, after, t, rfl, ht, rfl⟩

/-- A tree that ends where some text follows it.  The word `NOT` does not end in front of a
space. -/
def EndsBefore (more : List Char) : LuceneTree → Prop
  | .combine _ _ right => right.EndsBefore more
  | .signed sign t => t.EndsBefore more ∧
      (sign = none → t = bareNot → more.head? ≠ some ' ')
  | .group _ => True

/-- A tree all of whose values are. -/
def Firm (more : List Char) (tree : LuceneTree) : Prop := ∀ t ∈ tree.terms, t.Firm more

theorem takeSigned_continued {cs rest more : List Char} {tree : LuceneTree} (hm : Continues more)
    (h : takeSigned cs = .ok (tree, rest)) (hf : tree.Firm more) (hr : FollowsTerm rest)
    (he : rest = [] → tree.EndsBefore more) : takeSigned (cs ++ more) = .ok (tree, rest ++ more) := by
  obtain ⟨sign, after, t, hs, ht, rfl⟩ := takeSigned_eq_ok h
  have hnot : cs = ['N', 'O', 'T'] → more.head? ≠ some ' ' := by
    rintro rfl
    have hsign : takeSign ['N', 'O', 'T'] = (none, ['N', 'O', 'T']) := rfl
    rw [hsign] at hs
    obtain ⟨rfl, rfl⟩ := Prod.mk.inj hs
    rw [takeTerm_not] at ht
    cases ht
    exact (he rfl).2 rfl rfl
  have hs' := takeSign_continued hm hs (takeTerm_ne_nil ht) hnot
  have ht' := takeTerm_continued hm ht (hf t (by simp [terms])) hr fun hrest => (he hrest).1
  simp only [takeSigned, hs', ht']

end LuceneTree

end EventSearch.Query
