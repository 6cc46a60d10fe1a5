/-
# `EventSearch.Proofs.Quoting` — quoted values read back

A value between marks is written with a backslash before every mark inside it.  The two languages
differ in what else a backslash does, and so in which values come back.

* In `criterion` a backslash is written twice, and every value comes back
  (`takeQuoted?_criterion`).
* In `lucene` a backslash is written once.  A value that ends in one would escape its own closing
  mark; every other value comes back (`takeQuoted?_lucene`), and that one never does
  (`takeQuoted?_backslash`).

Conversely no text that is read between marks in `lucene` ends in a backslash
(`not_backslash_of_takeQuoted?`).  A mark stays open when each later one stands right behind a
backslash (`Sealed`, `takeQuoted?_eq_none`).
-/
import EventSearch.Query.CriterionTree
import EventSearch.Query.CriteriaText

namespace EventSearch.Text

/-! ## Escapes -/

@[simp] theorem escapeChar_nil (mark : Char) : escapeChar mark [] = [] := rfl

@[simp] theorem escapeChar_self (mark : Char) (cs : List Char) :
    escapeChar mark (mark :: cs) = '\\' :: mark :: escapeChar mark cs := by
  simp [escapeChar]

theorem escapeChar_of_ne {mark c : Char} (h : c ≠ mark) (cs : List Char) :
    escapeChar mark (c :: cs) = c :: escapeChar mark cs := by
  simp [escapeChar, h]

/-- A text with its marks escaped does not start with a mark. -/
theorem escapeChar_append_head {mark : Char} (hm : mark ≠ '\\') {cs rest : List Char}
    (h : cs ≠ []) : (escapeChar mark cs ++ rest).head? ≠ some mark := by
  cases cs with
  | nil => exact absurd rfl h
  | cons c cs =>
    by_cases hc : c = mark
    · subst hc
      simpa using Ne.symm hm
    · simpa [escapeChar_of_ne hc] using hc

end EventSearch.Text

namespace EventSearch.Query

open EventSearch.Text

/-- A value that ends in a backslash. -/
def EndsInBackslash (cs : List Char) : Prop := cs.getLast? = some '\\'

instance (cs : List Char) : Decidable (EndsInBackslash cs) :=
  inferInstanceAs (Decidable (_ = _))

theorem endsInBackslash_cons_iff {c : Char} {cs : List Char} :
    EndsInBackslash (c :: cs) ↔ (cs = [] ∧ c = '\\') ∨ EndsInBackslash cs := by
  cases cs <;> simp [EndsInBackslash]

theorem not_backslash_cons {c : Char} {cs : List Char} (hc : cs = [] → c ≠ '\\')
    (h : ¬ EndsInBackslash cs) : ¬ EndsInBackslash (c :: cs) := by
  intro he
  rcases endsInBackslash_cons_iff.1 he with ⟨hn, hb⟩ | he
  · exact hc hn hb
  · exact h he

/-! ## `lucene` -/

namespace LuceneTree

/-- One character of a quoted text that neither closes nor escapes a mark. -/
theorem takeQuoted?_plain {mark c : Char} {rest : List Char} (hc : c ≠ mark)
    (hb : c = '\\' → rest.head? ≠ some mark) :
    takeQuoted? mark (c :: rest) = (takeQuoted? mark rest).map fun p => (c :: p.1, p.2) := by
  cases rest with
  | nil => simp [takeQuoted?, hc]
  | cons d rest =>
    by_cases hs : c = '\\'
    · subst hs
      have hd : d ≠ mark := by simpa using hb rfl
      simp [takeQuoted?, hd]
    · simp [takeQuoted?, hc, hs]

@[simp] theorem takeQuoted?_escaped (mark : Char) (rest : List Char) :
    takeQuoted? mark ('\\' :: mark :: rest)
      = (takeQuoted? mark rest).map fun p => (mark :: p.1, p.2) := by
  simp [takeQuoted?]

theorem takeQuoted?_close {mark : Char} (hm : mark ≠ '\\') (rest : List Char) :
    takeQuoted? mark (mark :: rest) = some ([], rest) := by
  cases rest with
  | nil => simp [takeQuoted?]
  | cons d rest => simp [takeQuoted?, hm]

/-- An escaped text is read off as it was, unless its last character is a backslash that the text
behind it turns into the escape of a mark. -/
theorem takeQuoted?_escapeChar {mark : Char} (hm : mark ≠ '\\') (s rest : List Char)
    (h : EndsInBackslash s → rest.head? ≠ some mark) :
    takeQuoted? mark (escapeChar mark s ++ rest)
      = (takeQuoted? mark rest).map fun p => (s ++ p.1, p.2) := by
  induction s with
  | nil => simp
  | cons c s ih =>
    have ih := ih fun hs => h (endsInBackslash_cons_iff.2 (.inr hs))
    by_cases hc : c = mark
    · subst hc
      simp [ih, Function.comp_def]
    · have hb : c = '\\' → (escapeChar mark s ++ rest).head? ≠ some mark := by
        intro hcb
        cases s with
        | nil => exact h (by simp [EndsInBackslash, hcb])
        | cons d s => exact escapeChar_append_head hm (by simp)
      rw [escapeChar_of_ne hc, List.cons_append, takeQuoted?_plain hc hb, ih]
      simp [Function.comp_def]

/-- A value that does not end in a backslash comes back. -/
theorem takeQuoted?_lucene {mark : Char} (hm : mark ≠ '\\') {s : List Char}
    (h : ¬ EndsInBackslash s) (rest : List Char) :
    takeQuoted? mark (escapeChar mark s ++ mark :: rest) = some (s, rest) := by
  rw [takeQuoted?_escapeChar hm s _ fun hs => absurd hs h, takeQuoted?_close hm]
  simp

/-- A value that ends in a backslash does not come back: its closing mark is read as part of it. -/
theorem takeQuoted?_backslash {mark : Char} (hm : mark ≠ '\\') {s text rest after : List Char}
    (h : EndsInBackslash s)
    (hr : takeQuoted? mark (escapeChar mark s ++ mark :: rest) = some (text, after)) :
    text ≠ s := by
  obtain ⟨body, rfl⟩ : ∃ body, s = body ++ ['\\'] := by
    have hl := List.getLast?_eq_some_iff.1 h
    exact hl
  have he : escapeChar mark (body ++ ['\\']) ++ mark :: rest
      = escapeChar mark body ++ ('\\' :: mark :: rest) := by
    simp [escapeChar, Ne.symm hm]
  rw [he, takeQuoted?_escapeChar hm body _ (by simp [Ne.symm hm]), takeQuoted?_escaped,
    Option.map_map, Option.map_eq_some_iff] at hr
  obtain ⟨p, -, hp⟩ := hr
  obtain ⟨rfl, -⟩ := Prod.mk.inj hp
  simp only [ne_eq, List.append_cancel_left_eq, List.cons.injEq, not_and]
  exact fun hc => absurd hc hm

/-- Only a closing mark leaves nothing to read. -/
theorem takeQuoted?_eq_nil {mark c : Char} {cs rest : List Char} (hc : c ≠ mark) :
    takeQuoted? mark (c :: cs) ≠ some ([], rest) := by
  intro h
  cases cs with
  | nil => simp [takeQuoted?, hc] at h
  | cons d cs =>
    by_cases hd : c = '\\' ∧ d = mark
    · obtain ⟨rfl, rfl⟩ := hd
      simp at h
    · rw [takeQuoted?_plain hc (by simpa using fun hb => not_and.1 hd hb)] at h
      simp at h

/-- What is read between marks does not end in a backslash. -/
theorem not_backslash_of_takeQuoted? {mark : Char} (hm : mark ≠ '\\') {cs text rest : List Char}
    (h : takeQuoted? mark cs = some (text, rest)) : ¬ EndsInBackslash text := by
  fun_induction takeQuoted? mark cs generalizing text rest with
  | case1 => cases h
  | case2 cs ih =>
    obtain ⟨⟨t, after⟩, ht, he⟩ := Option.map_eq_some_iff.1 h
    obtain ⟨rfl, rfl⟩ := Prod.mk.inj he
    exact not_backslash_cons (fun _ => hm) (ih ht)
  | case3 c cs hc ih =>
    obtain ⟨⟨t, after⟩, ht, he⟩ := Option.map_eq_some_iff.1 h
    obtain ⟨rfl, rfl⟩ := Prod.mk.inj he
    have hne : t ≠ [] := fun hn => takeQuoted?_eq_nil hc (hn ▸ ht)
    exact not_backslash_cons (fun hn => absurd hn hne) (ih ht)
  | case4 cs => 
    obtain ⟨rfl, -⟩ := Prod.mk.inj (Option.some.inj h)
    simp [EndsInBackslash]
  | case5 c cs hs hc ih =>
    obtain ⟨⟨t, after⟩, ht, he⟩ := Option.map_eq_some_iff.1 h
    obtain ⟨rfl, rfl⟩ := Prod.mk.inj he
    -- a backslash that nothing follows closes no text
    have hb : c ≠ '\\' := by
      rintro rfl
      cases cs with
      | nil => simp [takeQuoted?] at ht
      | cons d cs => exact hs d cs rfl rfl
    exact not_backslash_cons (fun _ => hb) (ih ht)

/-! ## Sealed texts in `lucene` -/

/-- Each of the marks in a text stands right behind a backslash. -/
def Sealed (mark : Char) (cs : List Char) : Prop :=
  ∀ lead rest, cs = lead ++ mark :: rest → EndsInBackslash lead

section Sealed

variable {mark : Char} {cs ds : List Char}

theorem sealed_of_not_mem (h : mark ∉ cs) : Sealed mark cs := by
  rintro lead rest rfl
  exact absurd (by simp) h

theorem endsInBackslash_append (cs : List Char) {ds : List Char} (h : EndsInBackslash ds) :
    EndsInBackslash (cs ++ ds) := by
  rw [EndsInBackslash, List.getLast?_append, h]
  rfl

theorem endsInBackslash_of_append {cs ds : List Char} (h : EndsInBackslash (cs ++ ds))
    (hd : ds ≠ []) : EndsInBackslash ds := by
  rw [EndsInBackslash, List.getLast?_append, List.getLast?_eq_some_getLast hd] at h
  rw [EndsInBackslash, List.getLast?_eq_some_getLast hd]
  exact h

theorem Sealed.append (hc : Sealed mark cs) (hd : Sealed mark ds) : Sealed mark (cs ++ ds) := by
  intro lead rest he
  rcases List.append_eq_append_iff.1 he with ⟨v, rfl, hv⟩ | ⟨v, rfl, hv⟩
  · exact endsInBackslash_append cs (hd v rest hv)
  · cases v with
    | nil =>
      have hnil := hd [] rest (by simpa using hv.symm)
      cases hnil
    | cons e v =>
      obtain ⟨rfl, -⟩ := List.cons.inj hv
      exact hc lead v rfl

theorem Sealed.left (h : Sealed mark (cs ++ ds)) : Sealed mark cs := by
  rintro lead rest rfl
  exact h lead (rest ++ ds) (by simp)

/-- The end of a sealed text is sealed, unless it was cut between a backslash and a mark. -/
theorem Sealed.right (h : Sealed mark (cs ++ ds))
    (hcut : ¬ EndsInBackslash cs ∨ ds.head? ≠ some mark) : Sealed mark ds := by
  rintro lead rest rfl
  have hends := h (cs ++ lead) rest (by simp)
  cases lead with
  | cons c lead => exact endsInBackslash_of_append hends (List.cons_ne_nil c lead)
  | nil =>
    rw [List.append_nil] at hends
    rcases hcut with hcut | hcut
    · exact absurd hends hcut
    · exact absurd rfl hcut

theorem Sealed.head_ne (h : Sealed mark cs) : cs.head? ≠ some mark := by
  intro hc
  obtain ⟨ds, rfl⟩ : ∃ ds, cs = mark :: ds := by
    cases cs with
    | nil => cases hc
    | cons d ds => exact ⟨ds, by rw [Option.some.inj hc]⟩
  have hnil := h [] ds rfl
  cases hnil

/-- A quoted text is not closed exactly when what follows is sealed. -/
theorem takeQuoted?_eq_none (hm : mark ≠ '\\') : takeQuoted? mark cs = none ↔ Sealed mark cs := by
  fun_induction takeQuoted? mark cs with
  | case1 => exact iff_of_true rfl (sealed_of_not_mem List.not_mem_nil)
  | case2 cs ih =>
    have hsplit : '\\' :: mark :: cs = ['\\', mark] ++ cs := rfl
    have hmark : ¬ EndsInBackslash ['\\', mark] := fun he => hm (Option.some.inj he)
    have hlead : Sealed mark ['\\', mark] := by
      intro lead rest he
      cases lead with
      | nil => exact absurd (List.cons.inj he).1.symm hm
      | cons c lead =>
        obtain ⟨rfl, he⟩ := List.cons.inj he
        cases lead with
        | nil => rfl
        | cons d lead => exact absurd (List.cons.inj he).2 (by simp)
    rw [Option.map_eq_none_iff, ih, hsplit]
    exact ⟨hlead.append, fun h => h.right (.inl hmark)⟩
  | case3 c cs hc ih =>
    have hsplit : '\\' :: c :: cs = ['\\'] ++ c :: cs := rfl
    have hlead : Sealed mark ['\\'] := sealed_of_not_mem (by simpa using hm)
    rw [Option.map_eq_none_iff, ih, hsplit]
    exact ⟨hlead.append, fun h => h.right (.inr (by simpa using hc))⟩
  | case4 cs hs => exact iff_of_false (by simp) fun h => h.head_ne rfl
  | case5 c cs hs hc ih =>
    have hsplit : c :: cs = [c] ++ cs := rfl
    have hlead : Sealed mark [c] := sealed_of_not_mem (by simpa using Ne.symm hc)
    have hcut : ¬ EndsInBackslash [c] ∨ cs.head? ≠ some mark := by
      cases cs with
      | nil => exact .inr (by simp)
      | cons d cs => exact .inl fun he => hs d cs (Option.some.inj he) rfl
    rw [Option.map_eq_none_iff, ih, hsplit]
    exact ⟨hlead.append, fun h => h.right hcut⟩

end Sealed

end LuceneTree

/-! ## `criterion` -/

namespace CriterionTree

@[simp] theorem takeQuoted?_escaped (mark : Char) (rest : List Char) :
    takeQuoted? mark ('\\' :: mark :: rest)
      = (takeQuoted? mark rest).map fun p => (mark :: p.1, p.2) := by
  simp [takeQuoted?]

@[simp] theorem takeQuoted?_doubled (mark : Char) (rest : List Char) :
    takeQuoted? mark ('\\' :: '\\' :: rest)
      = (takeQuoted? mark rest).map fun p => ('\\' :: p.1, p.2) := by
  simp [takeQuoted?]

theorem takeQuoted?_plain {mark c : Char} (hc : c ≠ mark) (hb : c ≠ '\\') (rest : List Char) :
    takeQuoted? mark (c :: rest) = (takeQuoted? mark rest).map fun p => (c :: p.1, p.2) := by
  cases rest <;> simp [takeQuoted?, hc, hb]

theorem takeQuoted?_close {mark : Char} (hm : mark ≠ '\\') (rest : List Char) :
    takeQuoted? mark (mark :: rest) = some ([], rest) := by
  cases rest <;> simp [takeQuoted?, hm]

/-- Every value comes back. -/
theorem takeQuoted?_criterion {mark : Char} (hm : mark ≠ '\\') (s rest : List Char) :
    takeQuoted? mark (escapeChar mark (escapeChar '\\' s) ++ mark :: rest) = some (s, rest) := by
  induction s with
  | nil => simp [takeQuoted?_close hm]
  | cons c s ih =>
    by_cases hb : c = '\\'
    · subst hb
      simp [escapeChar_of_ne (Ne.symm hm), ih]
    · rw [escapeChar_of_ne hb]
      by_cases hc : c = mark
      · subst hc
        simp [ih]
      · rw [escapeChar_of_ne hc, List.cons_append, takeQuoted?_plain hc hb, ih]
        rfl

end CriterionTree

end EventSearch.Query
