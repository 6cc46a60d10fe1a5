/-
# `EventSearch.Proofs.LuceneSpelling` — the text of a term is read again

A term that was read has a known spelling (`Term.Spelled`): its path is one, its quoted values do
not end in a backslash, and each bare value is taken whole by itself.  Whether its text is read
again depends on what stands behind it, in three ways:

    Unclosed    a quote or slash that a bare value starts with is not closed behind it
    EndsOpen    a last backslash of a bare value protects a bracket that follows
    bareNot     the word `NOT` negates what follows a space

If nothing of that happens, the text is read as the term (`takeSigned_spelled`).  An open
backslash makes another term of it (`takeSigned_endsOpen`), or no term when it stands inside of a
range (`takeSigned_reprints`); the word makes no term either (`takeSigned_bareNot`).
-/
import EventSearch.Proofs.Numerals
import EventSearch.Proofs.LuceneCriteriaContinued

namespace EventSearch.Query

open EventSearch.Text EventSearch.Number

/-! ## Values -/

namespace Operand

/-- A value as the reader makes it. -/
def Spelled : Operand → Prop
  | .single s | .double s | .pattern s => ¬ EndsInBackslash s.toList
  | .bare raw => BareText.scan raw.toList = (raw.toList, []) ∧
      raw.toList ∉ [[], ['A', 'N', 'D'], ['O', 'R']]

/-- A bare value with a backslash at its end that protects nothing. -/
def EndsOpen : Operand → Prop
  | .bare raw => BareText.endsOpen raw.toList = true
  | _ => False

instance : (o : Operand) → Decidable o.EndsOpen
  | .bare _ => inferInstanceAs (Decidable (_ = true))
  | .single _ | .double _ | .pattern _ => inferInstanceAs (Decidable False)

/-- What a bare value starts with is not closed behind it. -/
def Unclosed (tail : List Char) : Operand → Prop
  | .bare raw => ∀ mark ∈ ['\'', '/'], ∀ body, raw.toList = mark :: body →
      LuceneTree.takeQuoted? mark (body ++ tail) = none
  | _ => True

theorem endsBefore_of_follows {o : Operand} (h : o.Spelled) {tail : List Char}
    (ht : FollowsOperand tail) (ho : o.EndsOpen → ∀ c ∈ tail.head?, c = ' ') :
    o.EndsBefore tail := by
  cases o with
  | bare raw =>
    have hhead {c : Char} (hc : tail.head? = some c) : c ≠ '&' ∧ c ≠ '|' := by
      have hm := ht c hc
      simp only [List.mem_cons, List.not_mem_nil, or_false] at hm
      rcases hm with rfl | rfl | rfl | rfl | rfl | rfl <;> exact ⟨by decide, by decide⟩
    refine BareText.scan_before h.1 (BareText.scan_of_followsOperand ht)
      ⟨fun hc => (hhead hc).1 rfl, fun hc => (hhead hc).2 rfl⟩ fun hopen c hc => ?_
    rw [ho hopen c hc]
    decide
  | single s => trivial
  | double s => trivial
  | pattern s => trivial

end Operand

namespace LuceneTree

/-- A text between two marks is read as what the marks make of it. -/
theorem takeOperand_enclosed {mark : Char} (hm : mark ∈ ['"', '\'', '/']) {text : String}
    (h : ¬ EndsInBackslash text.toList) (tail : List Char) :
    takeOperand ((enclosed mark text).toList ++ tail) = .ok (enclosedOperand mark text, tail) := by
  have hb : mark ≠ '\\' := by
    rintro rfl
    exact absurd hm (by decide)
  have hcs : (enclosed mark text).toList ++ tail
      = mark :: (escapeChar mark text.toList ++ mark :: tail) := by simp [enclosed]
  rw [hcs, takeOperand_mark hm, takeEnclosed?_mark, takeQuoted?_lucene hb h]
  simp

/-- A bare value that starts with no quote or slash that is closed is taken as far as it goes. -/
theorem takeOperand_unclosed {raw raw' tail left : List Char} (hne : raw ≠ [])
    (hu : (Operand.bare (String.ofList raw)).Unclosed tail)
    (hs : BareText.scan (raw ++ tail) = (raw', left))
    (hw : raw' ∉ [[], ['A', 'N', 'D'], ['O', 'R']]) :
    takeOperand (raw ++ tail) = .ok (.bare (String.ofList raw'), left) := by
  simp only [List.mem_cons, List.not_mem_nil, or_false, not_or] at hw
  have hbare := takeBare_of_scan hs hw.1 hw.2.1 hw.2.2
  obtain ⟨c, body, rfl⟩ := List.exists_cons_of_ne_nil hne
  rw [List.cons_append] at hs hbare ⊢
  by_cases hc : c ∈ ['"', '\'', '/']
  · by_cases hq : c = '"'
    · subst hq
      rw [BareText.scan_reserved (by decide)] at hs
      exact absurd (Prod.mk.inj hs).1.symm hw.1
    · have hmark : c ∈ ['\'', '/'] := by simpa [hq] using hc
      rw [takeOperand_mark hc, takeEnclosed?_mark, hu c hmark body (by simp)]
      exact hbare
  · rw [takeOperand_bare hc]
    exact hbare

theorem takeOperand_spelled {o : Operand} (h : o.Spelled) {tail : List Char}
    (hu : o.Unclosed tail) (he : o.EndsBefore tail) :
    takeOperand (o.toText.toList ++ tail) = .ok (o, tail) := by
  cases o with
  | single s => exact takeOperand_enclosed (by decide) h tail
  | double s => exact takeOperand_enclosed (by decide) h tail
  | pattern s => exact takeOperand_enclosed (by decide) h tail
  | bare raw =>
    have hne : raw.toList ≠ [] := fun hn => h.2 (by rw [hn]; decide)
    have hr := takeOperand_unclosed hne (by rwa [String.ofList_toList]) he h.2
    rwa [String.ofList_toList] at hr

/-- An open backslash protects the character behind it. -/
theorem takeOperand_endsOpen {raw : String} (h : (Operand.bare raw).Spelled)
    (ho : (Operand.bare raw).EndsOpen) {e : Char} (he : e ∈ BareText.escapable) {tail : List Char}
    (ht : FollowsOperand tail) (hu : (Operand.bare raw).Unclosed (e :: tail)) :
    takeOperand (raw.toList ++ e :: tail)
      = .ok (.bare (String.ofList (raw.toList ++ [e])), tail) := by
  have hne : raw.toList ≠ [] := fun hn => h.2 (by rw [hn]; decide)
  refine takeOperand_unclosed hne (by rwa [String.ofList_toList])
    (BareText.scan_open h.1 ho he (BareText.scan_of_followsOperand ht)) fun hw => ?_
  have hlast : (raw.toList ++ [e]).getLast? = some e := List.getLast?_concat
  simp only [List.mem_cons, List.not_mem_nil, or_false] at hw
  rcases hw with hw | hw | hw
  · exact absurd hw (by simp)
  · rw [hw] at hlast
    obtain rfl : 'D' = e := Option.some.inj hlast
    exact absurd he (by decide)
  · rw [hw] at hlast
    obtain rfl : 'R' = e := Option.some.inj hlast
    exact absurd he (by decide)

theorem opensValue_spelled {o : Operand} (h : o.Spelled) : OpensValue o.toText.toList := by
  cases o with
  | single s => simpa [Operand.toText, enclosed] using opensValue_cons (c := '\'') (by decide) (by decide) _
  | double s => simpa [Operand.toText, enclosed] using opensValue_cons (c := '"') (by decide) (by decide) _
  | pattern s => simpa [Operand.toText, enclosed] using opensValue_cons (c := '/') (by decide) (by decide) _
  | bare raw => exact opensValue_of_scan h.1 fun hn => h.2 (by rw [hn]; decide)

/-! ## Modifiers -/

/-- The characters of a modifier, if there is one. -/
def modifierText (modifier : Option Modifier) : List Char :=
  ((modifier.map (·.toText)).getD "").toList

end LuceneTree

/-- A modifier as the reader makes it. -/
def Modifier.Spelled : Modifier → Prop
  | .boost n | .fuzzy (some n) => n ≤ maxCount
  | .fuzzy none => True

namespace LuceneTree

theorem le_of_countOf? {digits : List Char} {n : Nat} (h : countOf? digits = some n) :
    n ≤ maxCount := by
  unfold countOf? at h
  split at h
  · cases h
  · exact readNat_le (eq_ok_of_toOption h)

theorem countOf?_toDigits {n : Nat} (h : n ≤ maxCount) :
    countOf? (Nat.toDigits 10 n) = some n := by
  have hne : (Nat.toDigits 10 n).isEmpty = false :=
    List.isEmpty_eq_false_iff.2 Nat.toDigits_ne_nil
  simp [countOf?, hne, readNat_toDigits h, Except.toOption]

theorem spelled_fuzzy (digits : List Char) : (Modifier.fuzzy (countOf? digits)).Spelled := by
  cases hn : countOf? digits with
  | none => trivial
  | some n => exact le_of_countOf? hn

theorem spelled_of_takeModifier {cs rest : List Char} {m : Modifier}
    (h : takeModifier cs = (some m, rest)) : m.Spelled := by
  unfold takeModifier at h
  split at h
  · simp only at h
    split at h
    · next n hn =>
      obtain rfl := Option.some.inj (Prod.mk.inj h).1
      exact le_of_countOf? hn
    · cases (Prod.mk.inj h).1
  · next digits =>
    obtain rfl := Option.some.inj (Prod.mk.inj h).1
    exact spelled_fuzzy _
  · cases (Prod.mk.inj h).1

theorem takeDigits_toDigits (n : Nat) {tail : List Char} (ht : Follows tail) :
    takeDigits (Nat.toDigits 10 n ++ tail) = (Nat.toDigits 10 n, tail) := by
  obtain ⟨htake, hdrop⟩ := takeWhile_run (digits_toDigits n) tail fun c hc => by
    have hm := ht c hc
    simp only [List.mem_cons, List.not_mem_nil, or_false] at hm
    rcases hm with rfl | rfl | rfl | rfl <;> decide
  exact Prod.ext htake hdrop

theorem takeModifier_modifierText {modifier : Option Modifier} (h : ∀ m ∈ modifier, m.Spelled)
    {tail : List Char} (ht : Follows tail) :
    takeModifier (modifierText modifier ++ tail) = (modifier, tail) := by
  cases modifier with
  | none => exact takeModifier_of_follows ht
  | some m =>
    have hm := h m rfl
    cases m with
    | boost n =>
      have htext : modifierText (some (.boost n)) = '^' :: Nat.toDigits 10 n := by
        simp [modifierText, Modifier.toText, Nat.toList_repr]
      simp only [htext, List.cons_append, takeModifier, takeDigits_toDigits n ht,
        countOf?_toDigits hm]
    | fuzzy count =>
      cases count with
      | none =>
        have hdigits : takeDigits tail = ([], tail) := by
          cases tail with
          | nil => rfl
          | cons c tail =>
            have hc := ht c rfl
            simp only [List.mem_cons, List.not_mem_nil, or_false] at hc
            rcases hc with rfl | rfl | rfl | rfl <;> rfl
        have htext : modifierText (some (.fuzzy none)) = ['~'] := rfl
        simp only [htext, List.cons_append, List.nil_append, takeModifier, hdigits]
        rfl
      | some n =>
        have htext : modifierText (some (.fuzzy (some n))) = '~' :: Nat.toDigits 10 n := by
          simp [modifierText, Modifier.toText, Nat.toList_repr]
        simp only [htext, List.cons_append, takeModifier, takeDigits_toDigits n ht,
          countOf?_toDigits hm]

theorem head_modifierText (m : Modifier) :
    ∃ c cs, modifierText (some m) = c :: cs ∧ c ∈ ['^', '~'] := by
  cases m with
  | boost n => exact ⟨'^', _, by simp [modifierText, Modifier.toText]; rfl, by decide⟩
  | fuzzy count =>
    cases count with
    | none => exact ⟨'~', [], rfl, by decide⟩
    | some n => exact ⟨'~', _, by simp [modifierText, Modifier.toText]; rfl, by decide⟩

theorem followsOperand_modifierText (modifier : Option Modifier) {tail : List Char}
    (ht : Follows tail) : FollowsOperand (modifierText modifier ++ tail) := by
  cases modifier with
  | none => exact ht.operand
  | some m =>
    obtain ⟨c, cs, he, hc⟩ := head_modifierText m
    intro d hd
    rw [he] at hd
    obtain rfl := Option.some.inj hd
    simp only [List.mem_cons, List.not_mem_nil, or_false] at hc
    rcases hc with rfl | rfl <;> decide

end LuceneTree

/-! ## Terms -/

namespace Term

/-- A term as the reader makes it. -/
def Spelled : Term → Prop
  | .value field operand modifier => LuceneTree.FieldReadable field ∧ operand.Spelled ∧
      ∀ m ∈ modifier, m.Spelled ∧ ¬ operand.EndsOpen
  | .inclusive field low high | .exclusive field low high =>
      LuceneTree.FieldReadable field ∧ low.Spelled ∧ high.Spelled

/-- What the values of a term start with is not closed behind them. -/
def Unclosed (after : List Char) : Term → Prop
  | .value _ operand modifier => operand.Unclosed (LuceneTree.modifierText modifier ++ after)
  | .inclusive _ low high =>
      low.Unclosed (" TO ".toList ++ (high.toText.toList ++ ']' :: after)) ∧
        high.Unclosed (']' :: after)
  | .exclusive _ low high =>
      low.Unclosed (" TO ".toList ++ (high.toText.toList ++ '}' :: after)) ∧
        high.Unclosed ('}' :: after)

/-- A term whose last character is a backslash that protects nothing. -/
def EndsOpen : Term → Prop
  | .value _ operand none => operand.EndsOpen
  | _ => False

/-- The upper end of a range does not protect the bracket behind it. -/
def Reprints : Term → Prop
  | .value _ _ _ => True
  | .inclusive _ _ high | .exclusive _ _ high => ¬ high.EndsOpen

instance : (t : Term) → Decidable t.EndsOpen
  | .value _ operand none => inferInstanceAs (Decidable operand.EndsOpen)
  | .value _ _ (some _) | .inclusive _ _ _ | .exclusive _ _ _ => inferInstanceAs (Decidable False)

instance : (t : Term) → Decidable t.Reprints
  | .value _ _ _ => inferInstanceAs (Decidable True)
  | .inclusive _ _ high | .exclusive _ _ high => inferInstanceAs (Decidable (¬ high.EndsOpen))

/-- The characters of a term behind its field. -/
def body : Term → List Char
  | .value _ operand modifier => operand.toText.toList ++ LuceneTree.modifierText modifier
  | .inclusive _ low high =>
      '[' :: LuceneTree.boundsText low.toText.toList high.toText.toList [']']
  | .exclusive _ low high =>
      '{' :: LuceneTree.boundsText low.toText.toList high.toText.toList ['}']

theorem toList_toText (t : Term) : t.toText.toList = (fieldText t.field).toList ++ t.body := by
  cases t <;> simp [toText, body, field, LuceneTree.modifierText, LuceneTree.boundsText, rangeText]

theorem EndsOpen.value {t : Term} (h : t.EndsOpen) : ∃ field raw,
    t = .value field (.bare raw) none ∧ (Operand.bare raw).EndsOpen := by
  cases t with
  | inclusive field low high => exact h.elim
  | exclusive field low high => exact h.elim
  | value field o modifier =>
    cases modifier with
    | some m => exact h.elim
    | none =>
      cases o with
      | bare raw => exact ⟨field, raw, rfl, h⟩
      | single s => exact h.elim
      | double s => exact h.elim
      | pattern s => exact h.elim

theorem Spelled.field {t : Term} (h : t.Spelled) : LuceneTree.FieldReadable t.field := by
  cases t <;> exact h.1

end Term

namespace LuceneTree

/-- Nothing of a value is taken for a field, if what is behind a bare value may follow a term. -/
theorem takeField_operand {o : Operand} (h : o.Spelled) {tail : List Char}
    (hs : ∀ raw, o = .bare raw → FollowsTerm (BareText.scan (raw.toList ++ tail)).2) :
    takeField (o.toText.toList ++ tail) = (none, o.toText.toList ++ tail) := by
  have hlower {c : Char} (hc : isAsciiLower c = false) (cs : List Char) :
      takeField (c :: cs) = (none, c :: cs) :=
    takeField_of_not_lower fun d hd => not_lower_of_head hd hc
  cases o with
  | single s => simpa [Operand.toText, enclosed] using hlower (c := '\'') (by decide) _
  | double s => simpa [Operand.toText, enclosed] using hlower (c := '"') (by decide) _
  | pattern s => simpa [Operand.toText, enclosed] using hlower (c := '/') (by decide) _
  | bare raw => exact takeField_of_not_stops (hs raw rfl)

/-- A value is read behind its field, with its modifier. -/
theorem takeTerm_operand {field : Option FieldPath} (hf : FieldReadable field)
    {cs left rest : List Char} {o : Operand} {modifier : Option Modifier} (hv : OpensValue cs)
    (hn : field = none → takeField cs = (none, cs)) (ho : takeOperand cs = .ok (o, left))
    (hm : takeModifier left = (modifier, rest)) :
    takeTerm ((fieldText field).toList ++ cs) = .ok (.value field o modifier, rest) := by
  have hfield := takeField_written hf hn
  simp only [takeTerm, takeRange?_none hfield hv, takeValue, hfield, ho, hm]

/-- No bracket of a range is taken for a field. -/
theorem takeField_bracket {field : Option FieldPath} (hf : FieldReadable field) {c : Char}
    (hc : c ∈ ['[', '{']) (cs : List Char) :
    takeField ((fieldText field).toList ++ c :: cs) = (field, c :: cs) := by
  refine takeField_written hf fun _ => takeField_of_not_lower fun d hd => ?_
  refine not_lower_of_head hd ?_
  simp only [List.mem_cons, List.not_mem_nil, or_false] at hc
  rcases hc with rfl | rfl <;> decide

theorem followsTerm_of_followsOperand {cs : List Char} (h : FollowsOperand cs) :
    FollowsTerm cs := by
  intro c hc
  have hm := h c hc
  simp only [List.mem_cons, List.not_mem_nil, or_false] at hm
  rcases hm with rfl | rfl | rfl | rfl | rfl | rfl <;> decide

theorem followsOperand_close {close : Char} (hc : close ∈ [']', '}']) (tail : List Char) :
    FollowsOperand (close :: tail) := by
  refine (follows_cons ?_ tail).operand
  simp only [List.mem_cons, List.not_mem_nil, or_false] at hc
  rcases hc with rfl | rfl <;> decide

theorem body_inclusive (field : Option FieldPath) (low high : Operand) (after : List Char) :
    (Term.inclusive field low high).body ++ after
      = '[' :: boundsText low.toText.toList high.toText.toList (']' :: after) := by
  simp [Term.body, boundsText]

theorem body_exclusive (field : Option FieldPath) (low high : Operand) (after : List Char) :
    (Term.exclusive field low high).body ++ after
      = '{' :: boundsText low.toText.toList high.toText.toList ('}' :: after) := by
  simp [Term.body, boundsText]

/-- Both ends of a range are read again when the upper one does not protect the bracket. -/
theorem takeBounds?_spelled {close : Char} (hc : close ∈ [']', '}']) {low high : Operand}
    (hl : low.Spelled) (hh : high.Spelled) {after : List Char}
    (hlu : low.Unclosed (" TO ".toList ++ (high.toText.toList ++ close :: after)))
    (hhu : high.Unclosed (close :: after)) (ho : ¬ high.EndsOpen) :
    takeBounds? close (boundsText low.toText.toList high.toText.toList (close :: after))
      = some ((low, high), after) := by
  have hto : FollowsOperand (" TO ".toList ++ (high.toText.toList ++ close :: after)) :=
    (follows_cons (by decide) _).operand
  have hlow := takeOperand_spelled hl hlu
    (Operand.endsBefore_of_follows hl hto fun _ c hc => (Option.some.inj hc).symm)
  have hhigh := takeOperand_spelled hh hhu
    (Operand.endsBefore_of_follows hh (followsOperand_close hc after) fun he => absurd he ho)
  rw [takeBounds?_ends close (opensValue_spelled hl).starts (opensValue_spelled hh).starts hlow
    hhigh, after?_close hc]
  rfl

/-- The text of a term is read as the term. -/
theorem takeTerm_spelled {t : Term} (h : t.Spelled) {after : List Char} (hf : Follows after)
    (hu : t.Unclosed after) (hr : t.Reprints) (ho : t.EndsOpen → ∀ c ∈ after.head?, c = ' ') :
    takeTerm (t.toText.toList ++ after) = .ok (t, after) := by
  rw [Term.toList_toText, List.append_assoc]
  cases t with
  | value field o modifier =>
    obtain ⟨hfield, hspelled, hmod⟩ := h
    have hfollows := followsOperand_modifierText modifier hf
    have hends : o.EndsBefore (modifierText modifier ++ after) := by
      refine Operand.endsBefore_of_follows hspelled hfollows fun hopen => ?_
      cases modifier with
      | none => exact ho hopen
      | some m => exact absurd hopen (hmod m rfl).2
    have hread := takeOperand_spelled hspelled hu hends
    rw [Term.body, List.append_assoc]
    refine takeTerm_operand hfield ((opensValue_spelled hspelled).append _) (fun _ => ?_) hread
      (takeModifier_modifierText (fun m hm => (hmod m hm).1) hf)
    refine takeField_operand hspelled ?_
    rintro raw rfl
    rw [show BareText.scan (raw.toList ++ _) = _ from hends]
    exact followsTerm_of_followsOperand hfollows
  | inclusive field low high =>
    obtain ⟨hfield, hl, hh⟩ := h
    have hb := takeBounds?_spelled (show ']' ∈ [']', '}'] by decide) hl hh hu.1 hu.2 hr
    rw [body_inclusive]
    exact takeTerm_inclusive (takeField_bracket hfield (by decide) _) hb
  | exclusive field low high =>
    obtain ⟨hfield, hl, hh⟩ := h
    have hb := takeBounds?_spelled (show '}' ∈ [']', '}'] by decide) hl hh hu.1 hu.2 hr
    rw [body_exclusive]
    exact takeTerm_exclusive (takeField_bracket hfield (by decide) _) hb

/-! ## Signs -/

/-- The characters of a sign, if there is one. -/
def signChars (sign : Option Sign) : List Char := ((sign.map (·.toText)).getD "").toList

theorem toList_signed (sign : Option Sign) (t : Term) :
    (LuceneTree.signed sign t).toText.toList = signChars sign ++ t.toText.toList := by
  simp [LuceneTree.toText, signChars]

/-- The first character of a term opens no group. -/
theorem head_term {t : Term} (h : t.Spelled) :
    ∃ c, t.toText.toList.head? = some c ∧ isBlank c = false ∧ c ≠ '(' := by
  rw [Term.toList_toText]
  have hfield := h.field
  cases hf : t.field with
  | some p =>
    obtain ⟨c, cs, hp, hc⟩ := head_path (hfield p hf)
    refine ⟨c, by simp [fieldText, hp], not_blank_of_lower hc, ?_⟩
    rintro rfl
    exact absurd hc (by decide)
  | none =>
    cases t with
    | value field o modifier =>
      obtain ⟨c, hc, hb, hn⟩ := (opensValue_spelled h.2.1).append (modifierText modifier)
      refine ⟨c, by simpa [fieldText, Term.body] using hc, hb, ?_⟩
      rintro rfl
      exact hn (by decide)
    | inclusive field low high => exact ⟨'[', rfl, by decide, by decide⟩
    | exclusive field low high => exact ⟨'{', rfl, by decide, by decide⟩

theorem starts_term {t : Term} (h : t.Spelled) : Starts t.toText.toList := by
  obtain ⟨c, hc, hb, -⟩ := head_term h
  exact ⟨c, hc, hb⟩

/-- No layout stands behind a value, unless a connective follows it. -/
theorem takeLayout?_modifierText {modifier : Option Modifier} {after : List Char}
    (hf : Follows after) (hn : modifier = none → after.head? ≠ some ' ') :
    takeLayout? (modifierText modifier ++ after) = none := by
  cases modifier with
  | some m =>
    obtain ⟨c, cs, he, hc⟩ := head_modifierText m
    rw [he]
    simp only [List.mem_cons, List.not_mem_nil, or_false] at hc
    rcases hc with rfl | rfl <;> exact takeLayout?_starts (starts_cons (by decide) _)
  | none =>
    have hspace := hn rfl
    cases after with
    | nil => rfl
    | cons c after =>
      have hc := hf c rfl
      simp only [List.mem_cons, List.not_mem_nil, or_false] at hc
      rcases hc with rfl | rfl | rfl | rfl
      · exact absurd rfl hspace
      · exact takeLayout?_starts (starts_cons (by decide) after)
      · exact takeLayout?_starts (starts_cons (by decide) after)
      · exact takeLayout?_starts (starts_cons (by decide) after)

/-- Nothing of a term is taken for a sign, the word `NOT` in front of a space apart. -/
theorem takeSign_term {t : Term} (h : t.Spelled) {after : List Char} (hf : Follows after)
    (hn : t = bareNot → after.head? ≠ some ' ') :
    takeSign (t.toText.toList ++ after) = (none, t.toText.toList ++ after) := by
  rw [Term.toList_toText, List.append_assoc]
  cases hfield : t.field with
  | some p =>
    obtain ⟨c, cs, hp, hc⟩ := head_path (h.field p hfield)
    have hsign : c ∉ ['N', '!', '-', '+'] := by
      intro hm
      simp only [List.mem_cons, List.not_mem_nil, or_false] at hm
      rcases hm with rfl | rfl | rfl | rfl <;> exact absurd hc (by decide)
    simpa [fieldText, hp] using takeSign_none hsign _
  | none =>
    cases t with
    | inclusive field low high => exact takeSign_none (by decide) _
    | exclusive field low high => exact takeSign_none (by decide) _
    | value field o modifier =>
      obtain rfl : field = none := hfield
      cases o with
      | single s => simpa [fieldText, Term.body, Operand.toText, enclosed] using
          takeSign_none (c := '\'') (by decide) _
      | double s => simpa [fieldText, Term.body, Operand.toText, enclosed] using
          takeSign_none (c := '"') (by decide) _
      | pattern s => simpa [fieldText, Term.body, Operand.toText, enclosed] using
          takeSign_none (c := '/') (by decide) _
      | bare raw =>
        obtain ⟨-, hs, -⟩ := h
        have hlayout (hraw : raw.toList = ['N', 'O', 'T']) :
            takeLayout? (modifierText modifier ++ after) = none := by
          refine takeLayout?_modifierText hf fun hm => hn ?_
          rw [hm, bareNot, ← String.ofList_toList (s := raw), hraw]
        have hword : ∀ c, (modifierText modifier ++ after).head? = some c → c ∉ ['N', 'O', 'T'] := by
          intro c hc hm
          have hfollows := followsOperand_modifierText modifier hf c hc
          simp only [List.mem_cons, List.not_mem_nil, or_false] at hm hfollows
          rcases hm with rfl | rfl | rfl <;> simp at hfollows
        have hne : raw.toList ≠ [] := fun he => hs.2 (by rw [he]; decide)
        simpa [fieldText, Term.body, Operand.toText] using takeSign_raw hs.1 hne hword hlayout

/-- A sign is read off, and none where there is none. -/
theorem takeSign_signChars {sign : Option Sign} {cs : List Char} (hs : Starts cs)
    (hn : sign = none → takeSign cs = (none, cs)) :
    takeSign (signChars sign ++ cs) = (sign, cs) := by
  cases sign with
  | none => exact hn rfl
  | some sign =>
    cases sign with
    | not =>
      have hnot : signChars (some .not) = ['N', 'O', 'T', ' '] := rfl
      have hl : takeLayout? (' ' :: cs) = some cs := by
        simp [takeLayout?, skipLayout_space, hs.skipLayout]
      simp [hnot, takeSign, after?, hl]
    | bang => simp [signChars, Sign.toText, takeSign, after?]
    | minus => exact takeSign_minus cs
    | plus => simp [signChars, Sign.toText, takeSign, after?]

/-- The text of a term with its sign is read as both. -/
theorem takeSigned_spelled {sign : Option Sign} {t : Term} (h : t.Spelled) {after : List Char}
    (hf : Follows after) (hu : t.Unclosed after) (hr : t.Reprints)
    (ho : t.EndsOpen → ∀ c ∈ after.head?, c = ' ')
    (hn : sign = none → t = bareNot → after.head? ≠ some ' ') :
    takeSigned ((LuceneTree.signed sign t).toText.toList ++ after)
      = .ok (.signed sign t, after) := by
  have hsign : takeSign (signChars sign ++ (t.toText.toList ++ after))
      = (sign, t.toText.toList ++ after) :=
    takeSign_signChars ((starts_term h).append after) fun he => takeSign_term h hf (hn he)
  rw [toList_signed, List.append_assoc]
  simp only [takeSigned, hsign, takeTerm_spelled h hf hu hr ho]

/-! ## Terms that are not read again -/

/-- The text between two criteria. -/
def separator (op : Connective) : List Char := (" " ++ op.toText ++ " ").toList

/-- It is a word between spaces. -/
theorem separator_eq (op : Connective) : ∃ word,
    word ∈ [['A', 'N', 'D'], ['O', 'R']] ∧ separator op = ' ' :: (word ++ [' ']) := by
  cases op with
  | and => exact ⟨['A', 'N', 'D'], by decide, rfl⟩
  | or => exact ⟨['O', 'R'], by decide, rfl⟩

theorem head_separator (op : Connective) (cs : List Char) :
    (separator op ++ cs).head? = some ' ' := by
  obtain ⟨word, -, he⟩ := separator_eq op
  rw [he]
  rfl

/-- Behind the space no bracket follows. -/
theorem skipLayout_separator (op : Connective) (cs : List Char) :
    ∃ c ds, skipLayout (separator op ++ cs) = c :: ds ∧ c ∉ [')', ']', '}'] := by
  obtain ⟨word, hw, he⟩ := separator_eq op
  rw [he, List.cons_append, skipLayout_space, List.append_assoc]
  simp only [List.mem_cons, List.not_mem_nil, or_false] at hw
  rcases hw with rfl | rfl
  · exact ⟨'A', _, skipLayout_cons (by decide) _, by decide⟩
  · exact ⟨'O', _, skipLayout_cons (by decide) _, by decide⟩

/-- What stands behind a criterion in the text of a tree. -/
inductive Behind : List Char → Prop
  | nothing : Behind []
  | close {after : List Char} (h : Behind after) : Behind (')' :: after)
  | connective (op : Connective) {rest : List Char} (h : Starts rest) :
      Behind (separator op ++ rest)

theorem Behind.head {after : List Char} (h : Behind after) {c : Char} (hc : after.head? = some c) :
    c ∈ [' ', ')'] := by
  cases h with
  | nothing => cases hc
  | close _ =>
    rw [← Option.some.inj hc]
    decide
  | connective op _ =>
    rw [head_separator] at hc
    rw [← Option.some.inj hc]
    decide

theorem Behind.follows {after : List Char} (h : Behind after) : Follows after := by
  intro c hc
  have hm := h.head hc
  simp only [List.mem_cons, List.not_mem_nil, or_false] at hm
  rcases hm with rfl | rfl <;> decide

/-- No range is closed behind a criterion. -/
theorem Behind.not_bracket {after : List Char} (h : Behind after) {close : Char}
    (hc : close ∈ [']', '}']) : after? [close] (skipLayout after) = none := by
  have hne {c : Char} (hn : c ∉ [']', '}']) (cs : List Char) : after? [close] (c :: cs) = none := by
    refine after?_ne ?_ [] cs
    rintro rfl
    exact hn hc
  cases h with
  | nothing => rfl
  | close _ =>
    rw [skipLayout_cons (by decide)]
    exact hne (by decide) _
  | connective op _ =>
    obtain ⟨c, ds, he, hn⟩ := skipLayout_separator op _
    rw [he]
    exact hne (fun hm => hn (List.mem_cons_of_mem _ hm)) ds

/-- A range whose upper end protects the bracket is not closed. -/
theorem takeBounds?_endsOpen {close : Char} (hc : close ∈ [']', '}']) {low high : Operand}
    (hl : low.Spelled) (hh : high.Spelled) {after : List Char} (hb : Behind after)
    (hlu : low.Unclosed (" TO ".toList ++ (high.toText.toList ++ close :: after)))
    (hhu : high.Unclosed (close :: after)) (ho : high.EndsOpen) :
    takeBounds? close (boundsText low.toText.toList high.toText.toList (close :: after)) = none := by
  have hto : FollowsOperand (" TO ".toList ++ (high.toText.toList ++ close :: after)) :=
    (follows_cons (by decide) _).operand
  have hlow := takeOperand_spelled hl hlu
    (Operand.endsBefore_of_follows hl hto fun _ c hc => (Option.some.inj hc).symm)
  have hesc : close ∈ BareText.escapable := by
    simp only [List.mem_cons, List.not_mem_nil, or_false] at hc
    rcases hc with rfl | rfl <;> decide
  cases high with
  | bare raw =>
    have hhigh := takeOperand_endsOpen hh ho hesc hb.follows.operand hhu
    have hends := takeBounds?_ends close (opensValue_spelled hl).starts
      (opensValue_spelled hh).starts hlow hhigh
    rw [hends, hb.not_bracket hc]
    rfl
  | single s => exact ho.elim
  | double s => exact ho.elim
  | pattern s => exact ho.elim

/-- A range whose upper end protects the bracket is not read. -/
theorem reprints_of_takeTerm {t t' : Term} (h : t.Spelled) {after rest : List Char}
    (hb : Behind after) (hu : t.Unclosed after)
    (hr : takeTerm (t.toText.toList ++ after) = .ok (t', rest)) : t.Reprints := by
  rw [Term.toList_toText, List.append_assoc] at hr
  cases t with
  | value field o modifier => trivial
  | inclusive field low high =>
    intro ho
    rw [body_inclusive] at hr
    obtain ⟨low', high', hbounds, -⟩ :=
      takeTerm_inclusive_inv (takeField_bracket h.1 (by decide) _) hr
    rw [takeBounds?_endsOpen (by decide) h.2.1 h.2.2 hb hu.1 hu.2 ho] at hbounds
    cases hbounds
  | exclusive field low high =>
    intro ho
    rw [body_exclusive] at hr
    obtain ⟨low', high', hbounds, -⟩ :=
      takeTerm_exclusive_inv (takeField_bracket h.1 (by decide) _) hr
    rw [takeBounds?_endsOpen (by decide) h.2.1 h.2.2 hb hu.1 hu.2 ho] at hbounds
    cases hbounds

/-- A value with an open backslash takes the parenthesis behind it. -/
theorem takeTerm_endsOpen {field : Option FieldPath} {raw : String}
    (h : (Term.value field (.bare raw) none).Spelled) (ho : (Operand.bare raw).EndsOpen)
    {after : List Char} (hb : Behind after) (hu : (Operand.bare raw).Unclosed (')' :: after)) :
    takeTerm ((Term.value field (.bare raw) none).toText.toList ++ ')' :: after)
      = .ok (.value field (.bare (String.ofList (raw.toList ++ [')']))) none, after) := by
  obtain ⟨hfield, hspelled, -⟩ := h
  have hfollows := hb.follows.operand
  have hscan : BareText.scan (raw.toList ++ ')' :: after) = (raw.toList ++ [')'], after) :=
    BareText.scan_open hspelled.1 ho (by decide) (BareText.scan_of_followsOperand hfollows)
  have hnone : takeField (raw.toList ++ ')' :: after) = (none, raw.toList ++ ')' :: after) := by
    refine takeField_of_not_stops ?_
    rw [hscan]
    exact followsTerm_of_followsOperand hfollows
  have hopens : OpensValue (raw.toList ++ ')' :: after) := (opensValue_spelled hspelled).append _
  have hread := takeTerm_operand hfield hopens (fun _ => hnone)
    (takeOperand_endsOpen hspelled ho (by decide) hfollows hu) (takeModifier_of_follows hb.follows)
  simpa [Term.toText, Operand.toText] using hread

/-- What is read of a term with an open backslash in front of a parenthesis is another term. -/
theorem takeSigned_endsOpen (sign : Option Sign) {t : Term} (h : t.Spelled) (ho : t.EndsOpen)
    {after : List Char} (hb : Behind after) (hu : t.Unclosed (')' :: after)) :
    ∃ t', t' ≠ t ∧ takeSigned ((LuceneTree.signed sign t).toText.toList ++ ')' :: after)
      = .ok (.signed sign t', after) := by
  obtain ⟨field, raw, rfl, hopen⟩ := ho.value
  have hclose : Follows (')' :: after) := follows_cons (by decide) after
  have hsign := @takeSign_signChars sign _ ((starts_term h).append (')' :: after))
    fun _ => takeSign_term h hclose fun _ => by simp
  refine ⟨.value field (.bare (String.ofList (raw.toList ++ [')']))) none, fun he => ?_, ?_⟩
  · have hraw := congrArg String.toList (Operand.bare.inj (Term.value.inj he).2.1)
    simp at hraw
  · rw [toList_signed, List.append_assoc]
    simp only [takeSigned, hsign, takeTerm_endsOpen h hopen hb hu]

/-- A term that is not a range that can be read is read as nothing. -/
theorem takeSigned_reprints {sign : Option Sign} {t : Term} (h : t.Spelled) {after rest : List Char}
    {tree : LuceneTree} (hb : Behind after) (hu : t.Unclosed after)
    (hn : sign = none → t = bareNot → after.head? ≠ some ' ')
    (hr : takeSigned ((LuceneTree.signed sign t).toText.toList ++ after) = .ok (tree, rest)) :
    t.Reprints := by
  have hsign := @takeSign_signChars sign _ ((starts_term h).append after)
    fun he => takeSign_term h hb.follows (hn he)
  rw [toList_signed, List.append_assoc] at hr
  obtain ⟨sign', left, t', hs, ht, -⟩ := takeSigned_eq_ok hr
  obtain ⟨-, rfl⟩ := Prod.mk.inj (hsign.symm.trans hs)
  exact reprints_of_takeTerm h hb hu ht

/-- The word of a connective is no term. -/
theorem takeTerm_connective {word : List Char} (hw : word ∈ [['A', 'N', 'D'], ['O', 'R']])
    (rest : List Char) : takeTerm (word ++ ' ' :: rest) = .error (word ++ ' ' :: rest) := by
  have hscan : BareText.scan word = (word, []) := by
    simp only [List.mem_cons, List.not_mem_nil, or_false] at hw
    rcases hw with rfl | rfl <;> decide +kernel
  obtain ⟨c, cs, rfl, hc, hl⟩ : ∃ c cs, word = c :: cs ∧ c ∉ ['"', '\'', '/'] ∧
      isAsciiLower c = false := by
    simp only [List.mem_cons, List.not_mem_nil, or_false] at hw
    rcases hw with rfl | rfl
    · exact ⟨'A', ['N', 'D'], rfl, by decide, by decide⟩
    · exact ⟨'O', ['R'], rfl, by decide, by decide⟩
  have hf : takeField (c :: cs ++ ' ' :: rest) = (none, c :: cs ++ ' ' :: rest) :=
    takeField_of_not_lower fun d hd => not_lower_of_head hd hl
  have hv : OpensValue (c :: cs ++ ' ' :: rest) :=
    opensValue_of_scan (BareText.scan_space hscan rest) (List.cons_ne_nil c cs)
  have ho : takeOperand (c :: cs ++ ' ' :: rest) = .error (c :: cs ++ ' ' :: rest) := by
    have htake := BareText.take?_eq_some.2 ⟨BareText.scan_space hscan rest, List.cons_ne_nil c cs⟩
    rw [List.cons_append, takeOperand_bare hc, ← List.cons_append, takeBare, htake]
    simp only [List.mem_cons, List.not_mem_nil, or_false] at hw
    exact if_pos hw
  simp only [takeTerm, takeRange?_none hf hv, takeValue, hf, ho]

/-- The word `NOT` in front of a connective is read as nothing. -/
theorem takeSigned_bareNot (op : Connective) (rest : List Char) : ∃ place,
    takeSigned ((LuceneTree.signed none bareNot).toText.toList ++ (separator op ++ rest))
      = .error place := by
  obtain ⟨word, hw, he⟩ := separator_eq op
  have hstarts : Starts (word ++ ' ' :: rest) := by
    simp only [List.mem_cons, List.not_mem_nil, or_false] at hw
    rcases hw with rfl | rfl <;> exact starts_cons (by decide) _
  have hsign := @takeSign_signChars (some .not) _ hstarts fun h => nomatch h
  have hnot : (LuceneTree.signed none bareNot).toText.toList ++ [' '] = signChars (some .not) := rfl
  have htext : (LuceneTree.signed none bareNot).toText.toList ++ (separator op ++ rest)
      = signChars (some .not) ++ (word ++ ' ' :: rest) := by
    rw [he, ← hnot]
    simp
  refine ⟨word ++ ' ' :: rest, ?_⟩
  rw [htext]
  simp only [takeSigned, hsign, takeTerm_connective hw rest]

end LuceneTree

end EventSearch.Query
