/-
# `EventSearch.Proofs.LuceneValues` — written values of a `lucene` query are read off

A value stands bare or in double quotes (`operandOf`).  In front of whatever may follow it, it
comes back as that operand unless it ends in a backslash (`takeOperand_luceneValue`); one that does
is not read, or read as another value (`takeOperand_backslash`).
-/
import EventSearch.Proofs.Layout
import EventSearch.Proofs.Quoting
import EventSearch.Proofs.BareText
import EventSearch.Query.Compiler

namespace EventSearch.Query

open EventSearch.Text

/-! ## Values -/

/-- The operand that a written value is read as. -/
def operandOf (v : String) : Operand := if needsQuotes v then .double v else .bare v

theorem operandOf_text (v : String) : (operandOf v).text = v := by
  unfold operandOf
  split
  · rfl
  · next h =>
    have hb := bare_of_needsQuotes (Bool.eq_false_iff.2 h)
    simp only [Operand.text, BareText.resolved_eq_self (hb.not_mem (by decide)),
      String.ofList_toList]

theorem operandOf_comparison (v : String) : Term.comparison (operandOf v) = ("==", v) := by
  have ht := operandOf_text v
  unfold operandOf at *
  split
  · rfl
  · next h =>
    have hb := bare_of_needsQuotes (Bool.eq_false_iff.2 h)
    have hw := BareText.hasWildcard_eq_false (hb.not_mem (by decide)) (hb.not_mem (by decide))
      (hb.not_mem (by decide))
    rw [if_neg h] at ht
    simp [Term.comparison, Operand.hasWildcard, hw, ht]

theorem operandOf_isOpenBound (v : String) : (operandOf v).isOpenBound = false := by
  unfold operandOf
  split
  · simp [Operand.isOpenBound]
  · next h =>
    have hs := (bare_of_needsQuotes (Bool.eq_false_iff.2 h)).not_mem (c := '*') (by decide)
    have hv : v ≠ "*" := by
      rintro rfl
      exact hs (by decide)
    simp [Operand.isOpenBound, hv]

theorem operandOf_isEmptyText {v : String} (h : v ≠ "") : (operandOf v).isEmptyText = false := by
  unfold operandOf
  split <;> simp [Operand.isEmptyText, h]

namespace LuceneTree

theorem takeEnclosed?_ne {mark c : Char} (h : c ≠ mark) (cs : List Char) :
    takeEnclosed? mark (c :: cs) = none := by
  simp [takeEnclosed?, h]

theorem takeEnclosed?_mark (mark : Char) (cs : List Char) :
    takeEnclosed? mark (mark :: cs)
      = (takeQuoted? mark cs).map fun p => (String.ofList p.1, p.2) := by
  simp [takeEnclosed?]

/-- Text that starts with no quote and no slash is tried as a bare value. -/
theorem takeOperand_bare {c : Char} (h : c ∉ ['"', '\'', '/']) (cs : List Char) :
    takeOperand (c :: cs) = takeBare (c :: cs) := by
  simp only [List.mem_cons, List.not_mem_nil, or_false, not_or] at h
  simp [takeOperand, takeEnclosed?_ne h.1, takeEnclosed?_ne h.2.1, takeEnclosed?_ne h.2.2]

theorem takeBare_eq_ok {cs rest : List Char} {o : Operand} (h : takeBare cs = .ok (o, rest)) :
    ∃ raw, BareText.scan cs = (raw, rest) ∧ o = .bare (String.ofList raw) ∧ raw ≠ [] ∧
      raw ≠ ['A', 'N', 'D'] ∧ raw ≠ ['O', 'R'] := by
  unfold takeBare at h
  split at h
  · cases h
  · next raw after ht =>
    obtain ⟨hs, hne⟩ := BareText.take?_eq_some.1 ht
    split at h
    · cases h
    · next hw =>
      cases h
      obtain ⟨ha, ho⟩ := not_or.1 hw
      exact ⟨raw, hs, rfl, hne, ha, ho⟩

theorem takeBare_of_scan {cs raw rest : List Char} (h : BareText.scan cs = (raw, rest))
    (hne : raw ≠ []) (ha : raw ≠ ['A', 'N', 'D']) (ho : raw ≠ ['O', 'R']) :
    takeBare cs = .ok (.bare (String.ofList raw), rest) := by
  simp [takeBare, BareText.take?_eq_some.2 ⟨h, hne⟩, ha, ho]

/-- No bare value starts with a reserved character. -/
theorem takeBare_reserved {c : Char} (h : c ∈ BareText.reserved) (cs : List Char) :
    takeBare (c :: cs) = .error (c :: cs) := by
  have hnone : BareText.take? (c :: cs) = none := by
    refine BareText.take?_eq_none.2 fun d rest he => ?_
    obtain ⟨rfl, rfl⟩ := List.cons.inj he
    exact BareText.ends_reserved h cs
  rw [takeBare, hnone]

/-- No value starts with a reserved character other than a double quote. -/
theorem takeOperand_reserved {c : Char} (h : c ∈ BareText.reserved) (hq : c ≠ '"')
    (cs : List Char) : takeOperand (c :: cs) = .error (c :: cs) := by
  have hc : c ∉ ['"', '\'', '/'] := by
    intro hm
    simp only [List.mem_cons, List.not_mem_nil, or_false] at hm
    rcases hm with rfl | rfl | rfl
    · exact hq rfl
    · exact absurd h (by decide)
    · exact absurd h (by decide)
  rw [takeOperand_bare hc, takeBare_reserved h]

theorem takeOperand_star {tail : List Char} (h : Follows tail) :
    takeOperand ('*' :: tail) = .ok (.bare "*", tail) := by
  have hs : BareText.scan ('*' :: tail) = (['*'], tail) := by
    rw [BareText.scan_cons (by decide), BareText.scan_of_follows h]
    simp [BareText.ends, BareText.reserved, isBlank]
  rw [takeOperand_bare (by decide), takeBare_of_scan hs (by decide) (by decide) (by decide)]

/-- A value without a final backslash comes back from double quotes. -/
theorem takeOperand_double {cs : List Char} (h : ¬ EndsInBackslash cs) (tail : List Char) :
    takeOperand ((doubleQuoted cs).toList ++ tail) = .ok (.double (String.ofList cs), tail) := by
  have hq := takeQuoted?_lucene (show '"' ≠ '\\' by decide) h tail
  simp [takeOperand, doubleQuoted, takeEnclosed?_mark, hq]

/-- A search pattern without a final backslash comes back from between slashes. -/
theorem takeOperand_slashed {cs : List Char} (h : ¬ EndsInBackslash cs) (tail : List Char) :
    takeOperand ((slashed cs).toList ++ tail) = .ok (.pattern (String.ofList cs), tail) := by
  have hq := takeQuoted?_lucene (show '/' ≠ '\\' by decide) h tail
  have h1 : '/' ≠ '"' := by decide
  have h2 : '/' ≠ '\'' := by decide
  simp [takeOperand, slashed, takeEnclosed?_mark, takeEnclosed?_ne h1, takeEnclosed?_ne h2, hq]

theorem takeBare_bare {cs tail : List Char} (h : Bare cs) (ht : Follows tail) :
    takeBare (cs ++ tail) = .ok (.bare (String.ofList cs), tail) :=
  takeBare_of_scan (BareText.scan_bare h ht) h.nonempty h.not_and h.not_or

/-- A value comes back unless it ends in a backslash. -/
theorem takeOperand_luceneValue {v : String} {tail : List Char} (h : ¬ EndsInBackslash v.toList)
    (ht : Follows tail) :
    takeOperand ((luceneValue v).toList ++ tail) = .ok (operandOf v, tail) := by
  unfold luceneValue operandOf
  split
  · rw [takeOperand_double h, String.ofList_toList]
  · next hq =>
    have hb := bare_of_needsQuotes (Bool.eq_false_iff.2 hq)
    obtain ⟨c, rest, he, hc, -⟩ := hb.head
    have hr := takeBare_bare hb ht
    rw [he, List.cons_append, takeOperand_bare hc, ← List.cons_append, ← he, hr,
      String.ofList_toList]

theorem luceneValue_backslash {v : String} (h : EndsInBackslash v.toList) :
    luceneValue v = doubleQuoted v.toList := by
  have hm : '\\' ∈ v.toList := List.mem_of_getLast? h
  cases hq : needsQuotes v with
  | true => simp [luceneValue, hq]
  | false => exact absurd hm ((bare_of_needsQuotes hq).not_mem (by decide))

/-- A value that ends in a backslash is not read, or is read as another one. -/
theorem takeOperand_backslash {v : String} (h : EndsInBackslash v.toList) {tail rest : List Char}
    {o : Operand} (hr : takeOperand ((luceneValue v).toList ++ tail) = .ok (o, rest)) :
    ∃ text, o = .double text ∧ text ≠ v := by
  rw [luceneValue_backslash h] at hr
  have hcs : (doubleQuoted v.toList).toList ++ tail
      = '"' :: (escapeChar '"' v.toList ++ '"' :: tail) := by simp [doubleQuoted]
  rw [hcs] at hr
  cases hq : takeQuoted? '"' (escapeChar '"' v.toList ++ '"' :: tail) with
  | none =>
    have h1 : '"' ≠ '\'' := by decide
    have h2 : '"' ≠ '/' := by decide
    simp only [takeOperand, takeEnclosed?_mark, hq, Option.map_none, takeEnclosed?_ne h1,
      takeEnclosed?_ne h2, takeBare_reserved (c := '"') (by decide)] at hr
    cases hr
  | some p =>
    simp only [takeOperand, takeEnclosed?_mark, hq, Option.map_some, Except.ok.injEq,
      Prod.mk.injEq] at hr
    refine ⟨_, hr.1.symm, fun he => ?_⟩
    refine takeQuoted?_backslash (show '"' ≠ '\\' by decide) h hq ?_
    rw [← he, String.toList_ofList]

end LuceneTree

end EventSearch.Query
