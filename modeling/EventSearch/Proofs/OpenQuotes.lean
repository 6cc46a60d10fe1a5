/-
# `EventSearch.Proofs.OpenQuotes` — quotes that are never closed

A quote or slash that no other one closes starts a bare value.  Whether it is closed depends on
all that follows: it is not when each later mark stands right behind a backslash (`Sealed`,
`takeQuoted?_eq_none`).  The text of what was read keeps every value as it was typed and puts no
mark between them, so what was sealed stays so (`Milder`, `Kept`).  A term that was read is
therefore spelled as the reader makes terms, its text is as mild as its source, and what its values
start with stays open in front of any text that is as mild as what was left behind it (`TermRead`,
`termRead_of_takeTerm`).
-/
import EventSearch.Proofs.LuceneSpelling
import EventSearch.Proofs.LuceneLeftover

namespace EventSearch.Query.LuceneTree

open EventSearch.Text EventSearch.Number

/-! ## Milder texts -/

/-- Where one text closes no mark, the other closes none either. -/
def Milder (cs ds : List Char) : Prop := ∀ mark ∈ openers, Sealed mark cs → Sealed mark ds

section Milder

variable {cs ds es : List Char}

theorem Milder.refl (cs : List Char) : Milder cs cs := fun _ _ h => h

theorem Milder.trans (h : Milder cs ds) (h' : Milder ds es) : Milder cs es :=
  fun mark hm hs => h' mark hm (h mark hm hs)

theorem Milder.append (h : Milder cs ds) (h' : Milder cs es) : Milder cs (ds ++ es) :=
  fun mark hm hs => (h mark hm hs).append (h' mark hm hs)

/-- A text without marks closes none. -/
theorem milder_of_plain (cs : List Char) (h : ∀ mark ∈ openers, mark ∉ ds) : Milder cs ds :=
  fun mark hm _ => sealed_of_not_mem (h mark hm)

theorem milder_left (cs ds : List Char) : Milder (cs ++ ds) cs := fun _ _ h => h.left

theorem milder_right (hcut : ¬ EndsInBackslash cs ∨ ∀ mark ∈ openers, ds.head? ≠ some mark) :
    Milder (cs ++ ds) ds :=
  fun mark hm h => h.right (hcut.imp_right fun hd => hd mark hm)

theorem milder_cons {c : Char} (hc : c ≠ '\\') (cs : List Char) : Milder (c :: cs) cs := by
  have hcut : ¬ EndsInBackslash [c] := fun he => hc (Option.some.inj he)
  have h : Milder ([c] ++ cs) cs := milder_right (.inl hcut)
  exact h

theorem milder_dropWhile {p : Char → Bool} (hp : p '\\' = false) (cs : List Char) :
    Milder cs (cs.dropWhile p) := by
  have hcut : ¬ EndsInBackslash (cs.takeWhile p) := by
    intro he
    have hmem := List.all_eq_true.1 List.all_takeWhile '\\' (List.mem_of_getLast? he)
    rw [hp] at hmem
    cases hmem
  have h : Milder (cs.takeWhile p ++ cs.dropWhile p) (cs.dropWhile p) := milder_right (.inl hcut)
  rwa [List.takeWhile_append_dropWhile] at h

theorem milder_skipLayout (cs : List Char) : Milder cs (skipLayout cs) :=
  milder_dropWhile (by decide) cs

theorem milder_after? {lead : List Char} (hl : ¬ EndsInBackslash lead)
    (h : after? lead cs = some ds) : Milder cs ds := by
  rw [after?_eq_some.1 h]
  exact milder_right (.inl hl)

theorem milder_takeLayout? (h : takeLayout? cs = some ds) : Milder cs ds :=
  (takeLayout?_eq_some h).1 ▸ milder_skipLayout cs

end Milder

/-- What was read of a text closes no mark that was open in it, and neither does what is left. -/
structure Kept (cs text rest : List Char) : Prop where
  text : Milder cs text
  rest : Milder cs rest

section Kept

variable {cs ds es text more : List Char}

theorem Kept.append (h : Kept cs text ds) (h' : Kept ds more es) : Kept cs (text ++ more) es :=
  ⟨h.text.append (h.rest.trans h'.text), h.rest.trans h'.rest⟩

/-- The text of what was read, in front of a text as mild as what is left. -/
theorem Kept.before (h : Kept cs text ds) {after : List Char} (ha : Milder ds after) :
    Milder cs (text ++ after) := h.text.append (h.rest.trans ha)

/-- What stands between the values has no marks. -/
theorem kept_of_plain (h : Milder cs ds) (ht : ∀ mark ∈ openers, mark ∉ text) : Kept cs text ds :=
  ⟨milder_of_plain cs ht, h⟩

theorem plain_of_all (h : text.all (fun c => !openers.contains c) = true) :
    ∀ mark ∈ openers, mark ∉ text := by
  intro mark hm ht
  have hc := List.all_eq_true.1 h mark ht
  simp [hm] at hc

end Kept

/-! ## Values -/

theorem kept_field {cs rest : List Char} {field : Option FieldPath}
    (h : takeField cs = (field, rest)) : Kept cs (fieldText field).toList rest := by
  cases field with
  | none =>
    rw [takeField_eq_none h]
    exact kept_of_plain (.refl cs) fun _ _ => by simp [fieldText]
  | some p =>
    unfold takeField at h
    split at h
    · next q after hq =>
      obtain ⟨hp, rfl⟩ := Prod.mk.inj h
      obtain rfl := Option.some.inj hp
      have hsplit : cs = (fieldText (some q)).toList ++ after := by
        rw [← takePath?_join hq]
        simp [fieldText]
      have hends : ¬ EndsInBackslash (fieldText (some q)).toList := by
        simp [EndsInBackslash, fieldText]
      rw [hsplit]
      exact ⟨milder_left _ _, milder_right (.inl hends)⟩
    · cases (Prod.mk.inj h).1

/-- Nothing of a quoted text is lost. -/
theorem takeQuoted?_join {mark : Char} (hm : mark ≠ '\\') {cs text rest : List Char}
    (h : takeQuoted? mark cs = some (text, rest)) :
    cs = escapeChar mark text ++ mark :: rest := by
  fun_induction takeQuoted? mark cs generalizing text rest with
  | case1 => cases h
  | case2 cs ih =>
    obtain ⟨⟨t, after⟩, ht, he⟩ := Option.map_eq_some_iff.1 h
    obtain ⟨rfl, rfl⟩ := Prod.mk.inj he
    rw [escapeChar_self, List.cons_append, List.cons_append, ← ih ht]
  | case3 c cs hc ih =>
    obtain ⟨⟨t, after⟩, ht, he⟩ := Option.map_eq_some_iff.1 h
    obtain ⟨rfl, rfl⟩ := Prod.mk.inj he
    rw [escapeChar_of_ne (Ne.symm hm), List.cons_append, ← ih ht]
  | case4 cs hs =>
    obtain ⟨rfl, rfl⟩ := Prod.mk.inj (Option.some.inj h)
    rfl
  | case5 c cs hs hc ih =>
    obtain ⟨⟨t, after⟩, ht, he⟩ := Option.map_eq_some_iff.1 h
    obtain ⟨rfl, rfl⟩ := Prod.mk.inj he
    rw [escapeChar_of_ne hc, List.cons_append, ← ih ht]

/-- A value is read between two marks, or else as a bare one. -/
theorem takeOperand_eq_ok {cs rest : List Char} {o : Operand}
    (h : takeOperand cs = .ok (o, rest)) :
    (∃ mark ∈ ['"', '\'', '/'], ∃ body text, cs = mark :: body ∧
      takeQuoted? mark body = some (text, rest) ∧ o = enclosedOperand mark (String.ofList text)) ∨
    (takeBare cs = .ok (o, rest) ∧ ∀ mark ∈ ['"', '\'', '/'], ∀ body, cs = mark :: body →
      takeQuoted? mark body = none) := by
  cases cs with
  | nil => exact absurd rfl (takeOperand_ne_nil h)
  | cons c cs =>
    by_cases hc : c ∈ ['"', '\'', '/']
    · rw [takeOperand_mark hc, takeEnclosed?_mark] at h
      cases hq : takeQuoted? c cs with
      | some p =>
        rw [hq] at h
        cases h
        exact .inl ⟨c, hc, cs, p.1, rfl, hq, rfl⟩
      | none =>
        rw [hq] at h
        refine .inr ⟨h, fun mark _ body he => ?_⟩
        obtain ⟨rfl, rfl⟩ := List.cons.inj he
        exact hq
    · rw [takeOperand_bare hc] at h
      refine .inr ⟨h, fun mark hmark body he => ?_⟩
      rw [(List.cons.inj he).1] at hc
      exact absurd hmark hc

theorem toText_enclosedOperand {mark : Char} (hm : mark ∈ ['"', '\'', '/']) (text : String) :
    (enclosedOperand mark text).toText = enclosed mark text := by
  simp only [List.mem_cons, List.not_mem_nil, or_false] at hm
  rcases hm with rfl | rfl | rfl <;> rfl

theorem not_backslash_of_mark {mark : Char} (hm : mark ∈ ['"', '\'', '/']) : mark ≠ '\\' := by
  rintro rfl
  exact absurd hm (by decide)

theorem spelled_of_takeOperand {cs rest : List Char} {o : Operand}
    (h : takeOperand cs = .ok (o, rest)) : o.Spelled := by
  rcases takeOperand_eq_ok h with ⟨mark, hmark, body, text, rfl, hq, rfl⟩ | ⟨hb, -⟩
  · have hends : ¬ EndsInBackslash (String.ofList text).toList := by
      simpa using not_backslash_of_takeQuoted? (not_backslash_of_mark hmark) hq
    simp only [List.mem_cons, List.not_mem_nil, or_false] at hmark
    rcases hmark with rfl | rfl | rfl <;> exact hends
  · obtain ⟨raw, hs, rfl, hne, ha, ho⟩ := takeBare_eq_ok hb
    simpa [Operand.Spelled, hne, ha, ho] using BareText.scan_whole hs

/-- No bare value ends in front of an opener. -/
theorem head_of_scan {cs raw rest : List Char} (h : BareText.scan cs = (raw, rest)) :
    ∀ mark ∈ openers, rest.head? ≠ some mark := by
  intro mark hm he
  cases rest with
  | nil => cases he
  | cons c rest =>
    have hends := BareText.ends_of_scan h
    rw [Option.some.inj he] at hends
    simp only [openers, List.mem_cons, List.not_mem_nil, or_false] at hm
    rcases hm with rfl | rfl
    · simp [BareText.ends, BareText.reserved, isBlank] at hends
    · simp [BareText.ends, BareText.reserved, isBlank] at hends

theorem kept_operand {cs rest : List Char} {o : Operand} (h : takeOperand cs = .ok (o, rest)) :
    Kept cs o.toText.toList rest := by
  rcases takeOperand_eq_ok h with ⟨mark, hmark, body, text, rfl, hq, rfl⟩ | ⟨hb, -⟩
  · have hm := not_backslash_of_mark hmark
    have hsplit : mark :: body = (enclosed mark (String.ofList text)).toList ++ rest := by
      rw [takeQuoted?_join hm hq]
      simp [enclosed]
    have hends : ¬ EndsInBackslash (enclosed mark (String.ofList text)).toList := by
      rw [EndsInBackslash, enclosed, String.toList_ofList, List.getLast?_concat]
      exact fun he => hm (Option.some.inj he)
    rw [hsplit, toText_enclosedOperand hmark]
    exact ⟨milder_left _ _, milder_right (.inl hends)⟩
  · obtain ⟨raw, hs, rfl, -, -, -⟩ := takeBare_eq_ok hb
    have hj := BareText.scan_join cs
    rw [hs] at hj
    have hraw : (Operand.bare (String.ofList raw)).toText.toList = raw := String.toList_ofList
    rw [hraw, ← hj]
    exact ⟨milder_left _ _, milder_right (.inr (head_of_scan hs))⟩

/-- What a bare value starts with stays open in front of a milder text. -/
theorem unclosed_of_takeOperand {cs rest tail : List Char} {o : Operand}
    (h : takeOperand cs = .ok (o, rest)) (ht : Milder rest tail) : o.Unclosed tail := by
  rcases takeOperand_eq_ok h with ⟨mark, hmark, body, text, rfl, hq, rfl⟩ | ⟨hb, hnone⟩
  · simp only [List.mem_cons, List.not_mem_nil, or_false] at hmark
    rcases hmark with rfl | rfl | rfl <;> trivial
  · obtain ⟨raw, hs, rfl, -, -, -⟩ := takeBare_eq_ok hb
    have hj := BareText.scan_join cs
    rw [hs] at hj
    intro mark hmark body he
    rw [String.toList_ofList] at he
    subst he
    have hmark' : mark ∈ ['"', '\'', '/'] := List.mem_cons_of_mem _ hmark
    have hm := not_backslash_of_mark hmark'
    have hsealed : Sealed mark (body ++ rest) :=
      (takeQuoted?_eq_none hm).1 (hnone mark hmark' (body ++ rest) hj.symm)
    have hrest : Sealed mark rest := hsealed.right (.inr (head_of_scan hs mark hmark))
    exact (takeQuoted?_eq_none hm).2 (hsealed.left.append (ht mark hmark hrest))

/-! ## Terms -/

theorem not_mem_digits {n : Nat} : ∀ mark ∈ openers, mark ∉ Nat.toDigits 10 n := by
  intro mark hm hd
  have hdigit := digits_toDigits n mark hd
  simp only [openers, List.mem_cons, List.not_mem_nil, or_false] at hm
  rcases hm with rfl | rfl <;> cases hdigit

theorem plain_modifierText (modifier : Option Modifier) :
    ∀ mark ∈ openers, mark ∉ modifierText modifier := by
  intro mark hm
  have hsigns : mark ≠ '^' ∧ mark ≠ '~' := by
    simp only [openers, List.mem_cons, List.not_mem_nil, or_false] at hm
    rcases hm with rfl | rfl <;> exact ⟨by decide, by decide⟩
  have hdigits (n : Nat) := not_mem_digits mark hm (n := n)
  cases modifier with
  | none => exact List.not_mem_nil
  | some m =>
    cases m with
    | boost n => simpa [modifierText, Modifier.toText, Nat.toList_repr, hsigns.1] using hdigits n
    | fuzzy count =>
      cases count with
      | none => simp [modifierText, Modifier.toText, hsigns.2]
      | some n => simpa [modifierText, Modifier.toText, Nat.toList_repr, hsigns.2] using hdigits n

theorem milder_takeDigits (cs : List Char) : Milder cs (takeDigits cs).2 :=
  milder_dropWhile (by decide) cs

theorem kept_modifier {cs rest : List Char} {modifier : Option Modifier}
    (h : takeModifier cs = (modifier, rest)) : Kept cs (modifierText modifier) rest := by
  refine kept_of_plain ?_ (plain_modifierText modifier)
  unfold takeModifier at h
  split at h
  · next digits =>
    simp only at h
    split at h
    · obtain ⟨-, rfl⟩ := Prod.mk.inj h
      exact (milder_cons (by decide) digits).trans (milder_takeDigits digits)
    · obtain ⟨-, rfl⟩ := Prod.mk.inj h
      exact .refl _
  · next digits =>
    obtain ⟨-, rfl⟩ := Prod.mk.inj h
    exact (milder_cons (by decide) digits).trans (milder_takeDigits digits)
  · obtain ⟨-, rfl⟩ := Prod.mk.inj h
    exact .refl _

/-- What is known of both ends of a range that was read. -/
structure BoundsRead (close : Char) (cs rest : List Char) (low high : Operand) : Prop where
  lower : low.Spelled
  upper : high.Spelled
  kept : Kept cs (boundsText low.toText.toList high.toText.toList [close]) rest
  unclosed : ∀ after, Milder rest after →
    low.Unclosed (" TO ".toList ++ (high.toText.toList ++ close :: after)) ∧
      high.Unclosed (close :: after)

theorem boundsRead {close : Char} (hc : close ∈ [']', '}']) {cs rest : List Char}
    {low high : Operand} (h : takeBounds? close cs = some ((low, high), rest)) :
    BoundsRead close cs rest low high := by
  obtain ⟨a, b, c, d, e, hlow, hab, hbc, hcd, hhigh, hend⟩ := takeBounds?_eq_some h
  have hplain : ∀ mark ∈ openers, mark ∉ [close] := by
    intro mark hm he
    rw [List.mem_singleton.1 he] at hm
    simp only [List.mem_cons, List.not_mem_nil, or_false] at hc
    rcases hc with rfl | rfl <;> exact absurd hm (by decide)
  have hback : ¬ EndsInBackslash [close] := by
    intro he
    have hb : close = '\\' := Option.some.inj he
    rw [hb] at hc
    exact absurd hc (by decide)
  have hlead : Kept cs [] (skipLayout cs) :=
    kept_of_plain (milder_skipLayout cs) fun _ _ => List.not_mem_nil
  have hto : Kept a " TO ".toList d := by
    refine kept_of_plain ?_ (plain_of_all (by decide))
    exact ((milder_takeLayout? hab).trans (milder_after? (by decide) hbc)).trans
      (milder_takeLayout? hcd)
  have hclose : Kept e [close] rest :=
    kept_of_plain ((milder_skipLayout e).trans (milder_after? hback hend)) hplain
  have hupper := (kept_operand hhigh).append hclose
  refine ⟨spelled_of_takeOperand hlow, spelled_of_takeOperand hhigh, ?_, fun after ha => ⟨?_, ?_⟩⟩
  · exact hlead.append ((kept_operand hlow).append (hto.append hupper))
  · have hbefore := (hto.append hupper).before ha
    refine unclosed_of_takeOperand hlow ?_
    simpa using hbefore
  · exact unclosed_of_takeOperand hhigh (hclose.before ha)

/-- What is known of a term that was read. -/
structure TermRead (cs rest : List Char) (t : Term) : Prop where
  spelled : t.Spelled
  kept : Kept cs t.toText.toList rest
  unclosed : ∀ after, Milder rest after → t.Unclosed after

theorem termRead_of_takeRange? {cs rest : List Char} {t : Term}
    (h : takeRange? cs = some (t, rest)) : TermRead cs rest t := by
  cases hf : takeField cs with
  | mk field left =>
    have hfield := kept_field hf
    have hlead : Kept left [] (skipLayout left) :=
      kept_of_plain (milder_skipLayout left) fun _ _ => List.not_mem_nil
    simp only [takeRange?, hf] at h
    split at h
    · next inner he =>
      obtain ⟨⟨⟨low, high⟩, r⟩, hb, ht⟩ := Option.map_eq_some_iff.1 h
      obtain ⟨rfl, rfl⟩ := Prod.mk.inj ht
      have hr := boundsRead (by decide) hb
      have hopen : Kept ('[' :: inner) ['['] inner :=
        kept_of_plain (milder_cons (by decide) inner) (plain_of_all (by decide))
      rw [he] at hlead
      refine ⟨⟨fieldReadable_of_takeField hf, hr.lower, hr.upper⟩, ?_, hr.unclosed⟩
      rw [Term.toList_toText]
      exact hfield.append (hlead.append (hopen.append hr.kept))
    · next inner he =>
      obtain ⟨⟨⟨low, high⟩, r⟩, hb, ht⟩ := Option.map_eq_some_iff.1 h
      obtain ⟨rfl, rfl⟩ := Prod.mk.inj ht
      have hr := boundsRead (by decide) hb
      have hopen : Kept ('{' :: inner) ['{'] inner :=
        kept_of_plain (milder_cons (by decide) inner) (plain_of_all (by decide))
      rw [he] at hlead
      refine ⟨⟨fieldReadable_of_takeField hf, hr.lower, hr.upper⟩, ?_, hr.unclosed⟩
      rw [Term.toList_toText]
      exact hfield.append (hlead.append (hopen.append hr.kept))
    · cases h

/-- No value with a modifier has an open backslash. -/
theorem not_endsOpen_of_modifier {cs left rest : List Char} {o : Operand} {m : Modifier}
    (ho : takeOperand cs = .ok (o, left)) (hm : takeModifier left = (some m, rest)) :
    ¬ o.EndsOpen := by
  intro hopen
  rcases takeOperand_eq_ok ho with ⟨mark, hmark, body, text, rfl, hq, rfl⟩ | ⟨hb, -⟩
  · simp only [List.mem_cons, List.not_mem_nil, or_false] at hmark
    rcases hmark with rfl | rfl | rfl <;> exact hopen
  · obtain ⟨raw, hs, rfl, -, -, -⟩ := takeBare_eq_ok hb
    rcases takeModifier_cases hm with ⟨he, -⟩ | ⟨c, hc, hsign⟩
    · cases he
    · obtain ⟨more, rfl⟩ : ∃ more, left = c :: more := by
        cases left with
        | nil => cases hc
        | cons d more => exact ⟨more, by rw [Option.some.inj hc]⟩
      have hesc : c ∈ BareText.escapable := by
        simp only [List.mem_cons, List.not_mem_nil, or_false] at hsign
        rcases hsign with rfl | rfl <;> decide
      have hclosed := BareText.not_endsOpen_of_scan hs hesc
      rw [Operand.EndsOpen, String.toList_ofList, hclosed] at hopen
      cases hopen

theorem termRead_of_takeTerm {cs rest : List Char} {t : Term}
    (h : takeTerm cs = .ok (t, rest)) : TermRead cs rest t := by
  unfold takeTerm at h
  split at h
  · next hr =>
    cases h
    exact termRead_of_takeRange? hr
  · obtain ⟨field, after, o, left, modifier, hfield, ho, hmod, rfl⟩ := takeValue_eq_ok h
    have hkept := (kept_operand ho).append (kept_modifier hmod)
    refine ⟨⟨fieldReadable_of_takeField hfield, spelled_of_takeOperand ho, ?_⟩, ?_, ?_⟩
    · rintro m rfl
      exact ⟨spelled_of_takeModifier hmod, not_endsOpen_of_modifier ho hmod⟩
    · rw [Term.toList_toText]
      exact (kept_field hfield).append hkept
    · intro more hmore
      exact unclosed_of_takeOperand ho ((kept_modifier hmod).before hmore)

/-! ## Signs and connectives -/

theorem plain_signChars (sign : Option Sign) : ∀ mark ∈ openers, mark ∉ signChars sign := by
  cases sign with
  | none => exact fun _ _ => List.not_mem_nil
  | some sign => exact plain_of_all (by cases sign <;> decide)

theorem kept_sign {cs rest : List Char} {sign : Option Sign} (h : takeSign cs = (sign, rest)) :
    Kept cs (signChars sign) rest := by
  refine kept_of_plain ?_ (plain_signChars sign)
  rw [takeSign_eq] at h
  split at h
  · next left hl =>
    obtain ⟨-, rfl⟩ := Prod.mk.inj h
    obtain ⟨word, hw, hl⟩ := Option.bind_eq_some_iff.1 hl
    exact (milder_after? (by decide) hw).trans (milder_takeLayout? hl)
  · unfold takeMark at h
    split at h
    · obtain ⟨-, rfl⟩ := Prod.mk.inj h
      exact milder_cons (by decide) _
    · obtain ⟨-, rfl⟩ := Prod.mk.inj h
      exact milder_cons (by decide) _
    · obtain ⟨-, rfl⟩ := Prod.mk.inj h
      exact milder_cons (by decide) _
    · obtain ⟨-, rfl⟩ := Prod.mk.inj h
      exact .refl _

theorem milder_takeSymbol? {symbol cs rest : List Char} (hs : ¬ EndsInBackslash symbol)
    (h : takeSymbol? symbol cs = some rest) : Milder cs rest := by
  obtain ⟨after, ha, rfl⟩ := Option.map_eq_some_iff.1 h
  exact ((milder_skipLayout cs).trans (milder_after? hs ha)).trans (milder_skipLayout after)

theorem milder_takeKeyword? {word cs rest : List Char} (hw : ¬ EndsInBackslash word)
    (h : takeKeyword? word cs = some rest) : Milder cs rest := by
  rw [takeKeyword?_eq] at h
  obtain ⟨after, ha, hr⟩ := Option.bind_eq_some_iff.1 h
  have hword := (milder_skipLayout cs).trans (milder_after? hw ha)
  split at hr
  · exact Option.some.inj hr ▸ hword
  · exact hword.trans (milder_takeLayout? hr)

theorem kept_connective {cs rest : List Char} {op : Connective}
    (h : takeConnective? cs = some (op, rest)) :
    Kept cs (separator op) rest := by
  refine kept_of_plain ?_ (plain_of_all (by cases op <;> decide))
  rcases takeConnective?_eq_some h with ⟨-, h⟩ | ⟨-, -, h⟩ | ⟨-, -, -, h⟩ | ⟨-, -, -, -, h⟩ |
    ⟨-, -, -, -, -, h⟩
  · exact milder_takeSymbol? (by decide) h
  · exact milder_takeSymbol? (by decide) h
  · exact milder_takeKeyword? (by decide) h
  · exact milder_takeKeyword? (by decide) h
  · exact milder_takeLayout? h

end EventSearch.Query.LuceneTree
