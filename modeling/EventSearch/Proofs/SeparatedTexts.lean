/-
# `EventSearch.Proofs.SeparatedTexts` — texts put together with a mark between

A text that is put together with a character between its parts falls into these parts again, as long
as no part holds the character: two parts at its first occurrence, where the second part may hold it
(`splitOnce?_joined`), and a list of parts at all of them (`splitAt_joined`).
-/
import EventSearch.Proofs.Layout

namespace EventSearch.Text

variable {mark : Char}

/-! ## Two parts -/

theorem cut?_of_not_mem {before : List Char} (h : mark ∉ before) (after : List Char) :
    cut? [mark] (before ++ mark :: after) = some (before, after) := by
  induction before with
  | nil => simp [cut?, after?]
  | cons c before ih =>
    obtain ⟨hc, hbefore⟩ := List.ne_and_not_mem_of_not_mem_cons h
    rw [List.cons_append, cut?, after?_ne (Ne.symm hc), ih hbefore]
    rfl

theorem splitOnce?_joined {between : String} (hb : between.toList = [mark]) {a : String}
    (h : mark ∉ a.toList) (b : String) : splitOnce? mark (a ++ between ++ b) = some (a, b) := by
  have hlist : (a ++ between ++ b).toList = a.toList ++ mark :: b.toList := by
    simp [hb]
  rw [splitOnce?, hlist, cut?_of_not_mem h, Option.map_some, String.ofList_toList,
    String.ofList_toList]

/-! ## Lists of parts -/

theorem splitAt_of_not_mem {piece : List Char} (h : mark ∉ piece) : splitAt mark piece = [piece] := by
  induction piece with
  | nil => rfl
  | cons c piece ih =>
    obtain ⟨hc, hpiece⟩ := List.ne_and_not_mem_of_not_mem_cons h
    rw [splitAt, if_neg (Ne.symm hc), ih hpiece]

theorem splitAt_append {piece : List Char} (h : mark ∉ piece) (rest : List Char) :
    splitAt mark (piece ++ mark :: rest) = piece :: splitAt mark rest := by
  induction piece with
  | nil => rw [List.nil_append, splitAt, if_pos rfl]
  | cons c piece ih =>
    obtain ⟨hc, hpiece⟩ := List.ne_and_not_mem_of_not_mem_cons h
    rw [List.cons_append, splitAt, if_neg (Ne.symm hc), ih hpiece]

theorem splitAt_joined {between : String} (hb : between.toList = [mark]) {piece : String}
    {pieces : List String} (h : ∀ p ∈ piece :: pieces, mark ∉ p.toList) :
    splitAt mark (between.intercalate (piece :: pieces)).toList
      = (piece :: pieces).map String.toList := by
  obtain ⟨hpiece, hpieces⟩ := List.forall_mem_cons.1 h
  rw [toList_intercalate_cons, hb]
  induction pieces generalizing piece with
  | nil => rw [List.flatMap_nil, List.append_nil, splitAt_of_not_mem hpiece]; rfl
  | cons next pieces ih =>
    obtain ⟨hnext, hmore⟩ := List.forall_mem_cons.1 hpieces
    rw [List.flatMap_cons, List.singleton_append, List.cons_append, splitAt_append hpiece,
      ih hpieces hnext hmore]
    rfl

end EventSearch.Text
