/-
# `EventSearch.Proofs.LuceneLeftover` — what reading leaves of a `lucene` query

Each reader takes something from the front of its text and leaves an end of it
(`takeCriteria_suffix`).  The text of a query is trimmed first, so its last character is not blank,
and a query that is read is read to its end (`takeCriteria_of_read`).
-/
import EventSearch.Proofs.LuceneCriteriaContinued

namespace EventSearch.Query

open EventSearch.Text

namespace LuceneTree

/-! ## Terms -/

theorem takeLayout?_suffix {cs rest : List Char} (h : takeLayout? cs = some rest) : rest <:+ cs :=
  (takeLayout?_eq_some h).1 ▸ skipLayout_suffix cs

theorem takeQuoted?_suffix {mark : Char} {cs text rest : List Char}
    (h : takeQuoted? mark cs = some (text, rest)) : rest <:+ cs := by
  fun_induction takeQuoted? mark cs generalizing text rest with
  | case1 => cases h
  | case2 cs ih =>
    obtain ⟨⟨t, after⟩, ht, he⟩ := Option.map_eq_some_iff.1 h
    obtain ⟨-, rfl⟩ := Prod.mk.inj he
    exact ((ih ht).trans (List.suffix_cons _ _)).trans (List.suffix_cons _ _)
  | case3 c cs hc ih =>
    obtain ⟨⟨t, after⟩, ht, he⟩ := Option.map_eq_some_iff.1 h
    obtain ⟨-, rfl⟩ := Prod.mk.inj he
    exact (ih ht).trans (List.suffix_cons _ _)
  | case4 cs hs =>
    obtain ⟨-, rfl⟩ := Prod.mk.inj (Option.some.inj h)
    exact List.suffix_cons _ _
  | case5 c cs hs hc ih =>
    obtain ⟨⟨t, after⟩, ht, he⟩ := Option.map_eq_some_iff.1 h
    obtain ⟨-, rfl⟩ := Prod.mk.inj he
    exact (ih ht).trans (List.suffix_cons _ _)

theorem takeBare_suffix {cs rest : List Char} {o : Operand} (h : takeBare cs = .ok (o, rest)) :
    rest <:+ cs := by
  obtain ⟨raw, hs, -⟩ := takeBare_eq_ok h
  have hj := BareText.scan_join cs
  rw [hs] at hj
  exact ⟨raw, hj⟩

theorem takeOperand_suffix {cs rest : List Char} {o : Operand}
    (h : takeOperand cs = .ok (o, rest)) : rest <:+ cs := by
  cases cs with
  | nil => exact absurd rfl (takeOperand_ne_nil h)
  | cons c cs =>
    by_cases hc : c ∈ ['"', '\'', '/']
    · rw [takeOperand_mark hc] at h
      split at h
      · next text after ht =>
        rw [takeEnclosed?_mark, Option.map_eq_some_iff] at ht
        obtain ⟨⟨body, left⟩, hq, he⟩ := ht
        obtain ⟨-, rfl⟩ := Prod.mk.inj he
        cases h
        exact (takeQuoted?_suffix hq).trans (List.suffix_cons c cs)
      · exact takeBare_suffix h
    · rw [takeOperand_bare hc] at h
      exact takeBare_suffix h

theorem takeField_suffix {cs rest : List Char} {field : Option FieldPath}
    (h : takeField cs = (field, rest)) : rest <:+ cs := by
  cases field with
  | none => exact takeField_eq_none h ▸ List.suffix_refl cs
  | some p =>
    unfold takeField at h
    split at h
    · next q after hq =>
      obtain ⟨-, rfl⟩ := Prod.mk.inj h
      exact (List.suffix_cons ':' after).trans ⟨_, takePath?_join hq⟩
    · exact nomatch (Prod.mk.inj h).1

theorem takeModifier_suffix {cs rest : List Char} {modifier : Option Modifier}
    (h : takeModifier cs = (modifier, rest)) : rest <:+ cs := by
  have hdigits (ds : List Char) : (takeDigits ds).2 <:+ ds := List.dropWhile_suffix isAsciiDigit
  cases cs with
  | nil =>
    obtain ⟨-, rfl⟩ := Prod.mk.inj (show (none, []) = (modifier, rest) from h)
    exact List.suffix_refl []
  | cons c cs =>
    by_cases hb : c = '^'
    · subst hb
      simp only [takeModifier] at h
      split at h
      · obtain ⟨-, rfl⟩ := Prod.mk.inj h
        exact (hdigits cs).trans (List.suffix_cons _ _)
      · obtain ⟨-, rfl⟩ := Prod.mk.inj h
        exact List.suffix_refl _
    · by_cases hf : c = '~'
      · subst hf
        obtain ⟨-, rfl⟩ := Prod.mk.inj h
        exact (hdigits cs).trans (List.suffix_cons _ _)
      · have hn : takeModifier (c :: cs) = (none, c :: cs) := by simp [takeModifier, hb, hf]
        rw [hn] at h
        obtain ⟨-, rfl⟩ := Prod.mk.inj h
        exact List.suffix_refl _

theorem takeBounds?_suffix {close : Char} {cs rest : List Char} {low high : Operand}
    (h : takeBounds? close cs = some ((low, high), rest)) : rest <:+ cs := by
  obtain ⟨a, b, c, d, e, hlow, hab, hbc, hcd, hhigh, hend⟩ := takeBounds?_eq_some h
  have he : rest <:+ e := (after?_suffix hend).trans (skipLayout_suffix e)
  have hc : e <:+ c := (takeOperand_suffix hhigh).trans (takeLayout?_suffix hcd)
  have ha : c <:+ a := (after?_suffix hbc).trans (takeLayout?_suffix hab)
  have hcs : a <:+ cs := (takeOperand_suffix hlow).trans (skipLayout_suffix cs)
  exact ((he.trans hc).trans ha).trans hcs

theorem takeRange?_suffix {cs rest : List Char} {t : Term}
    (h : takeRange? cs = some (t, rest)) : rest <:+ cs := by
  cases hfield : takeField cs with
  | mk field after =>
    have hlead := (skipLayout_suffix after).trans (takeField_suffix hfield)
    simp only [takeRange?, hfield] at h
    split at h
    · next inner he =>
      obtain ⟨⟨⟨low, high⟩, r⟩, hb, ht⟩ := Option.map_eq_some_iff.1 h
      obtain ⟨-, rfl⟩ := Prod.mk.inj ht
      rw [he] at hlead
      exact ((takeBounds?_suffix hb).trans (List.suffix_cons _ _)).trans hlead
    · next inner he =>
      obtain ⟨⟨⟨low, high⟩, r⟩, hb, ht⟩ := Option.map_eq_some_iff.1 h
      obtain ⟨-, rfl⟩ := Prod.mk.inj ht
      rw [he] at hlead
      exact ((takeBounds?_suffix hb).trans (List.suffix_cons _ _)).trans hlead
    · cases h

theorem takeTerm_suffix {cs rest : List Char} {t : Term} (h : takeTerm cs = .ok (t, rest)) :
    rest <:+ cs := by
  unfold takeTerm at h
  split at h
  · next found hr =>
    cases h
    exact takeRange?_suffix hr
  · obtain ⟨field, after, o, left, modifier, hfield, ho, hmod, -⟩ := takeValue_eq_ok h
    exact ((takeModifier_suffix hmod).trans (takeOperand_suffix ho)).trans (takeField_suffix hfield)

theorem takeMark_suffix (cs : List Char) : (takeMark cs).2 <:+ cs := by
  unfold takeMark
  split
  · exact List.suffix_cons _ _
  · exact List.suffix_cons _ _
  · exact List.suffix_cons _ _
  · exact List.suffix_refl _

theorem takeSigned_suffix {cs rest : List Char} {tree : LuceneTree}
    (h : takeSigned cs = .ok (tree, rest)) : rest <:+ cs := by
  obtain ⟨sign, after, t, hs, ht, -⟩ := takeSigned_eq_ok h
  refine (takeTerm_suffix ht).trans ?_
  rw [takeSign_eq] at hs
  split at hs
  · next left hl =>
    obtain ⟨-, rfl⟩ := Prod.mk.inj hs
    obtain ⟨word, hw, hl⟩ := Option.bind_eq_some_iff.1 hl
    exact (takeLayout?_suffix hl).trans (after?_suffix hw)
  · obtain rfl : (takeMark cs).2 = after := by rw [hs]
    exact takeMark_suffix cs

/-! ## Criteria -/

theorem takeSymbol?_suffix {symbol cs rest : List Char} (h : takeSymbol? symbol cs = some rest) :
    rest <:+ cs := by
  obtain ⟨after, ha, rfl⟩ := Option.map_eq_some_iff.1 h
  exact ((skipLayout_suffix after).trans (after?_suffix ha)).trans (skipLayout_suffix cs)

theorem takeKeyword?_suffix {word cs rest : List Char} (h : takeKeyword? word cs = some rest) :
    rest <:+ cs := by
  rw [takeKeyword?_eq] at h
  obtain ⟨after, ha, hr⟩ := Option.bind_eq_some_iff.1 h
  refine List.IsSuffix.trans ?_ ((after?_suffix ha).trans (skipLayout_suffix cs))
  split at hr
  · exact Option.some.inj hr ▸ List.suffix_refl after
  · exact takeLayout?_suffix hr

theorem takeConnective?_suffix {cs rest : List Char} {op : Connective}
    (h : takeConnective? cs = some (op, rest)) : rest <:+ cs := by
  rcases takeConnective?_eq_some h with ⟨-, h⟩ | ⟨-, -, h⟩ | ⟨-, -, -, h⟩ | ⟨-, -, -, -, h⟩ |
    ⟨-, -, -, -, -, h⟩
  · exact takeSymbol?_suffix h
  · exact takeSymbol?_suffix h
  · exact takeKeyword?_suffix h
  · exact takeKeyword?_suffix h
  · exact takeLayout?_suffix h

/-- How much of a text criteria leave. -/
structure Leaves (fuel : Nat) : Prop where
  criterion : ∀ {cs rest : List Char} {tree : LuceneTree},
    takeCriterion fuel cs = .ok (tree, rest) → rest <:+ cs
  chain : ∀ {cs rest : List Char} {first tree : LuceneTree},
    takeChain fuel first cs = (tree, rest) → rest <:+ cs
  criteria : ∀ {cs rest : List Char} {tree : LuceneTree},
    takeCriteria fuel cs = .ok (tree, rest) → rest <:+ cs

theorem leaves (fuel : Nat) : Leaves fuel := by
  induction fuel using Nat.strongRecOn with
  | ind fuel ih =>
    constructor
    case criterion =>
      intro cs rest tree h
      rcases takeCriterion_eq_ok h with h | ⟨n, inner, left, body, rfl, rfl, -, hi, hl⟩
      · exact takeSigned_suffix h
      · have hleft : ')' :: rest <:+ left := hl ▸ skipLayout_suffix left
        have hbody := (skipLayout_suffix body).trans (List.suffix_cons '(' body)
        have hinner := (ih n (Nat.lt_succ_self n)).criteria hi
        exact ((List.suffix_cons _ _).trans (hleft.trans hinner)).trans hbody
    case chain =>
      intro cs rest first tree h
      rcases takeChain_cases h with ⟨-, rfl⟩ | ⟨n, op, left, right, after, rfl, hc, hr, hchain⟩
      · exact List.suffix_refl cs
      · have hn := ih n (Nat.lt_succ_self n)
        exact ((hn.chain hchain).trans (hn.criterion hr)).trans (takeConnective?_suffix hc)
    case criteria =>
      intro cs rest tree h
      obtain ⟨n, first, left, rfl, hc, hchain⟩ := takeCriteria_eq_ok h
      have hn := ih n (Nat.lt_succ_self n)
      exact (hn.chain hchain).trans (hn.criterion hc)

theorem takeCriteria_suffix {fuel : Nat} {cs rest : List Char} {tree : LuceneTree}
    (h : takeCriteria fuel cs = .ok (tree, rest)) : rest <:+ cs :=
  (leaves fuel).criteria h

/-- A query that is read is read to its end. -/
theorem takeCriteria_of_read {s : String} {tree : LuceneTree} (h : read s = .ok tree) :
    takeCriteria (fuelFor (trim s.toList)) (trim s.toList) = .ok (tree, []) := by
  simp only [read] at h
  split at h
  · cases h
  · next t rest hc =>
    split at h
    · next hb =>
      cases h
      rw [hc, eq_nil_of_suffix_trim (takeCriteria_suffix hc) hb]
    · cases h

end LuceneTree

end EventSearch.Query
