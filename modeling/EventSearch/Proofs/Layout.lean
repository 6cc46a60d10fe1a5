/-
# `EventSearch.Proofs.Layout` — the layout of written queries

A written query starts and ends with characters that are not blank (`Tight`), so trimming leaves it
as it is (`Tight.trim`) and no layout is skipped in front of it (`Starts.skipLayout`).  Several
parts are written one after the other with a text between them (`toList_intercalate_cons`).
-/
import EventSearch.Text.Blank
import EventSearch.Text.Pieces

namespace EventSearch.Text

/-! ## Layout -/

theorem not_blank_of_printable {c : Char} (hl : 33 ≤ c.toNat) (hu : c.toNat ≤ 126) :
    isBlank c = false := by
  simp only [isBlank]
  simp
  omega

theorem isLayout_of_not_blank {c : Char} (h : isBlank c = false) : isLayout c = false := by
  cases hl : isLayout c with
  | false => rfl
  | true => rw [isBlank_of_isLayout hl] at h; cases h

/-- The first character of a text is not blank. -/
def Starts (cs : List Char) : Prop := ∃ c, cs.head? = some c ∧ isBlank c = false

theorem starts_cons {c : Char} (h : isBlank c = false) (cs : List Char) : Starts (c :: cs) :=
  ⟨c, rfl, h⟩

theorem Starts.append {cs : List Char} (h : Starts cs) (tail : List Char) :
    Starts (cs ++ tail) := by
  obtain ⟨c, hc, hb⟩ := h
  exact ⟨c, by simp [List.head?_append, hc], hb⟩

theorem skipLayout_cons {c : Char} (h : isLayout c = false) (cs : List Char) :
    skipLayout (c :: cs) = c :: cs := by
  simp [skipLayout, h]

theorem Starts.skipLayout {cs : List Char} (h : Starts cs) : Text.skipLayout cs = cs := by
  obtain ⟨c, hc, hb⟩ := h
  cases cs with
  | nil => cases hc
  | cons d cs => cases hc; exact skipLayout_cons (isLayout_of_not_blank hb) cs

theorem skipLayout_space (cs : List Char) : skipLayout (' ' :: cs) = skipLayout cs := by
  simp [skipLayout, isLayout]

/-- The last character of a text is not blank. -/
def Ends (cs : List Char) : Prop := ∃ c, cs.getLast? = some c ∧ isBlank c = false

theorem ends_concat {c : Char} (h : isBlank c = false) (cs : List Char) : Ends (cs ++ [c]) :=
  ⟨c, List.getLast?_concat, h⟩

theorem Ends.append {cs : List Char} (h : Ends cs) (lead : List Char) : Ends (lead ++ cs) := by
  obtain ⟨c, hc, hb⟩ := h
  exact ⟨c, by simp [List.getLast?_append, hc], hb⟩

/-- A text that neither starts nor ends with a blank. -/
structure Tight (cs : List Char) : Prop where
  starts : Starts cs
  ends : Ends cs

/-- A text between two marks. -/
theorem tight_between {c d : Char} (hc : isBlank c = false) (hd : isBlank d = false)
    (cs : List Char) : Tight (c :: (cs ++ [d])) :=
  ⟨starts_cons hc _, ends_concat hd (c :: cs)⟩

theorem Tight.trim {cs : List Char} (h : Tight cs) : Text.trim cs = cs := by
  obtain ⟨⟨c, hc, hcb⟩, ⟨d, hd, hdb⟩⟩ := h
  refine trim_of_not_blank (fun e he => ?_) (fun e he => ?_)
  · rw [hc] at he; cases he; exact hcb
  · rw [hd] at he; cases he; exact hdb

theorem Starts.allBlank {cs : List Char} (h : Starts cs) : allBlank cs = false := by
  obtain ⟨c, hc, hb⟩ := h
  cases cs with
  | nil => cases hc
  | cons d cs => cases hc; simp [Text.allBlank, hb]

/-- Without blanks. -/
def Unbroken (cs : List Char) : Prop := ∀ c ∈ cs, isBlank c = false

theorem unbroken_of_all {cs : List Char} (h : cs.all (fun c => !isBlank c) = true) : Unbroken cs :=
  fun c hc => by simpa using List.all_eq_true.1 h c hc

theorem Unbroken.ends {cs : List Char} (h : Unbroken cs) (hne : cs ≠ []) : Ends cs := by
  have hlast := List.getLast?_eq_some_getLast hne
  exact ⟨_, hlast, h _ (List.mem_of_getLast? hlast)⟩

theorem Unbroken.trim {cs : List Char} (h : Unbroken cs) : Text.trim cs = cs := by
  refine trim_of_not_blank (fun c hc => h c ?_) (fun c hc => h c ?_)
  · exact List.mem_of_head? hc
  · exact List.mem_of_getLast? hc

/-- The end of a trimmed text is not blank. -/
theorem eq_nil_of_suffix_trim {cs rest : List Char} (h : rest <:+ trim cs)
    (hb : allBlank rest = true) : rest = [] := by
  cases hr : rest.reverse with
  | nil => exact List.reverse_eq_nil_iff.1 hr
  | cons c r =>
    exfalso
    have hpre : rest.reverse <+: (trim cs).reverse := List.reverse_prefix.2 h
    rw [hr] at hpre
    obtain ⟨t, ht⟩ := hpre
    have hdrop : trimStart (trimStart cs).reverse = c :: (r ++ t) := by
      rw [trim, trimEnd, List.reverse_reverse] at ht
      exact ht.symm
    have hc : isBlank c = true := by
      refine List.all_eq_true.1 hb c ?_
      rw [← List.mem_reverse, hr]
      exact List.mem_cons_self
    rw [trimStart_head hdrop] at hc
    cases hc

theorem trim_of_allBlank {cs : List Char} (h : allBlank cs = true) : trim cs = [] := by
  have hs : trimStart cs = [] := by
    induction cs with
    | nil => rfl
    | cons c cs ih =>
      simp only [allBlank, List.all_cons, Bool.and_eq_true] at h
      rw [trimStart, List.dropWhile_cons, if_pos h.1]
      exact ih h.2
  rw [trim, hs]
  rfl

/-- A text that is not blank has no blanks around it once it is trimmed. -/
theorem tight_trim {cs : List Char} (h : allBlank cs = false) : Tight (trim cs) := by
  cases hs : trimStart cs with
  | nil =>
    -- nothing is left to start with
    have hall : allBlank cs = true := by
      rw [allBlank, ← List.takeWhile_append_dropWhile (p := isBlank) (l := cs)]
      rw [show cs.dropWhile isBlank = [] from hs, List.append_nil]
      exact List.all_takeWhile
    rw [hall] at h
    cases h
  | cons c r =>
    have hc := trimStart_head hs
    have hrev : (trim cs).reverse = r.reverse.dropWhile isBlank ++ [c] := by
      rw [trim, hs, trimEnd, List.reverse_reverse, List.reverse_cons, List.dropWhile_append]
      split
      · next he =>
        rw [List.isEmpty_iff.1 he, List.nil_append]
        simp [hc]
      · rfl
    have hhead : (trim cs).head? = some c := by
      rw [← List.getLast?_reverse, hrev, List.getLast?_concat]
    refine ⟨⟨c, hhead, hc⟩, ?_⟩
    cases hd : (trim cs).reverse with
    | nil =>
      rw [hrev] at hd
      exact absurd hd (by simp)
    | cons d ds =>
      refine ⟨d, by rw [← List.head?_reverse, hd]; rfl, ?_⟩
      have hdrop : trimStart (c :: r).reverse = d :: ds := by
        rw [← hd, trim, hs, trimEnd, List.reverse_reverse]
        rfl
      exact trimStart_head hdrop

/-! ## Parts of a text -/

/-- What ends a list of parts: the end of the text, or a closing parenthesis. -/
def EndsParts (cs : List Char) : Prop := ∀ c, cs.head? = some c → c = ')'

theorem endsParts_nil : EndsParts [] := fun _ h => by cases h

theorem endsParts_close (cs : List Char) : EndsParts (')' :: cs) := fun _ h => by cases h; rfl

theorem after?_ne {l c : Char} (h : c ≠ l) (lead cs : List Char) :
    after? (l :: lead) (c :: cs) = none := by
  simp [after?, Ne.symm h]

theorem after?_suffix {lead cs rest : List Char} (h : after? lead cs = some rest) : rest <:+ cs :=
  ⟨lead, (after?_eq_some.1 h).symm⟩

theorem skipLayout_suffix (cs : List Char) : skipLayout cs <:+ cs := List.dropWhile_suffix isLayout

theorem after?_continued {lead more : List Char} (h : ∀ c ∈ more.head?, c ∉ lead) (cs : List Char) :
    after? lead (cs ++ more) = (after? lead cs).map (· ++ more) := by
  induction lead generalizing cs with
  | nil => simp
  | cons l lead ih =>
    have ih := ih fun c hc hm => h c hc (List.mem_cons_of_mem l hm)
    cases cs with
    | nil =>
      cases more with
      | nil => rfl
      | cons c more =>
        have hc : c ≠ l := fun he => h c rfl (he ▸ List.mem_cons_self)
        simp [after?_ne hc, after?]
    | cons c cs =>
      by_cases hc : l = c
      · simp [after?, hc, ih]
      · simp [after?, hc]

theorem skipLayout_continued {cs : List Char} (h : skipLayout cs ≠ []) (more : List Char) :
    skipLayout (cs ++ more) = skipLayout cs ++ more := by
  unfold skipLayout at h ⊢
  rw [List.dropWhile_append, if_neg (by simpa using h)]

/-- A run of characters of one class is taken up to a character of another. -/
theorem takeWhile_run {p : Char → Bool} {run : List Char} (h : ∀ c ∈ run, p c = true)
    (tail : List Char) (ht : ∀ c ∈ tail.head?, p c = false) :
    (run ++ tail).takeWhile p = run ∧ (run ++ tail).dropWhile p = tail := by
  rw [List.takeWhile_append_of_pos h, List.dropWhile_append_of_pos h]
  cases tail with
  | nil => simp
  | cons c tail => simp [ht c rfl]

/-- A run of characters of one class ends where it did when a character of another follows. -/
theorem takeWhile_stop {p : Char → Bool} {d : Char} (hd : p d = false) (cs ds : List Char) :
    (cs ++ d :: ds).takeWhile p = cs.takeWhile p ∧
      (cs ++ d :: ds).dropWhile p = cs.dropWhile p ++ d :: ds := by
  induction cs with
  | nil => simp [hd]
  | cons c cs ih =>
    cases hc : p c with
    | false => simp [hc]
    | true => simpa [hc] using ih

theorem toList_intercalate_cons (between s : String) (ss : List String) :
    (between.intercalate (s :: ss)).toList
      = s.toList ++ ss.flatMap fun t => between.toList ++ t.toList := by
  rw [String.toList_intercalate, List.map_cons]
  induction ss generalizing s with
  | nil => simp
  | cons t ss ih =>
    rw [List.map_cons, List.intercalate_cons_cons, ih t]
    simp

/-! ## Results -/

theorem eq_ok_of_toOption {ε α : Type} {x : Except ε α} {a : α} (h : x.toOption = some a) :
    x = .ok a := by
  cases x with
  | error e => cases h
  | ok b => exact congrArg Except.ok (Option.some.inj h)

end EventSearch.Text
