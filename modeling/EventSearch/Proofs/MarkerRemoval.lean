/-
# `EventSearch.Proofs.MarkerRemoval` — taking marks out of a text

A mark is removed wherever it is found, from the left.  A character that is not in the mark keeps the
two sides apart (`removeAll_append_cons`), so only what touches a mark decides whether it is found
where it was put.

The markers of a match begin and end in one character that stands nowhere else in them (`framed`).
Such a marker overlaps itself in that character alone.  Put behind a text that does not hold it, it is
found where it is unless the text ends in the marker without its last character; then it is found
there, one character of the marker completing it (`cut?_framed`, `cut?_framed_early`).
-/
import EventSearch.Proofs.FragmentCuts

namespace EventSearch.Text

/-! ## Removal -/

section

variable {mark text before after : List Char}

theorem removeAll_eq_self (h : ¬ mark <:+: text) : removeAll mark text = text := by
  rw [removeAll, cut?_eq_none.2 h]

theorem removeAll_of_cut? (hmark : mark ≠ []) (h : cut? mark text = some (before, after)) :
    removeAll mark text = before ++ removeAll mark after := by
  rw [removeAll, h]
  exact if_pos (cut?_length_lt h hmark)

/-- More text behind does not change the first occurrence. -/
theorem cut?_append_right (h : cut? mark text = some (before, after)) (more : List Char) :
    cut? mark (text ++ more) = some (before, after ++ more) := by
  obtain ⟨rfl, hfirst⟩ := cut?_eq_some.1 h
  refine cut?_eq_some.2 ⟨by simp only [List.append_assoc], fun x y hxy => ?_⟩
  refine Nat.not_lt.1 fun hlt => ?_
  have hlead : x ++ mark <+: before ++ mark ++ after := by
    refine List.prefix_of_prefix_length_le ⟨y, hxy.symm⟩ (List.prefix_append _ more) ?_
    simp only [List.length_append]
    omega
  obtain ⟨rest, hrest⟩ := hlead
  have := hfirst x rest hrest.symm
  omega

/-- A mark does not reach over a character that is not in it. -/
theorem occurs_beside {c : Char} (hc : c ∉ mark) {u v x y : List Char}
    (h : u ++ c :: v = x ++ mark ++ y) :
    (∃ z, u = x ++ mark ++ z) ∨ ∃ z, x = u ++ c :: z ∧ v = z ++ mark ++ y := by
  rcases List.append_eq_append_iff.1 h with ⟨z, hx, hz⟩ | ⟨z, hu, -⟩
  · cases z with
    | nil => exact .inl ⟨[], by simpa using hx.symm⟩
    | cons d z =>
      obtain ⟨rfl, rfl⟩ := List.cons.inj hz
      rcases List.append_eq_append_iff.1 hx with ⟨w, -, hmark⟩ | ⟨w, rfl, hw⟩
      · exact absurd (hmark ▸ List.mem_append_right w List.mem_cons_self) hc
      · cases w with
        | nil => exact absurd (hw ▸ List.mem_cons_self : c ∈ [] ++ mark) hc
        | cons d w =>
          obtain ⟨rfl, rfl⟩ := List.cons.inj hw
          exact .inr ⟨w, rfl, rfl⟩
  · exact .inl ⟨z, hu⟩

/-- Removal goes from one occurrence to the next. -/
theorem removal_induction (hmark : mark ≠ []) {motive : List Char → Prop}
    (none : ∀ text, ¬ mark <:+: text → motive text)
    (some : ∀ text before after, cut? mark text = some (before, after) → motive after → motive text)
    (text : List Char) : motive text := by
  induction hn : text.length using Nat.strongRecOn generalizing text with
  | ind n ih =>
    cases h : cut? mark text with
    | none => exact none text (cut?_eq_none.1 h)
    | some found =>
      exact some text _ _ h (ih _ (hn ▸ cut?_length_lt h hmark) found.2 rfl)

/-- Removal works on both sides of such a character for itself. -/
theorem removeAll_append_cons {c : Char} (hmark : mark ≠ []) (hc : c ∉ mark) (u v : List Char) :
    removeAll mark (u ++ c :: v) = removeAll mark u ++ c :: removeAll mark v := by
  induction u using removal_induction hmark with
  | some u before after hu ih =>
    rw [removeAll_of_cut? hmark hu, removeAll_of_cut? hmark (cut?_append_right hu _), ih,
      List.append_assoc]
  | none u hu =>
    rw [removeAll_eq_self hu]
    cases hv : cut? mark v with
    | some found =>
      obtain ⟨before, after⟩ := found
      obtain ⟨rfl, hfirst⟩ := cut?_eq_some.1 hv
      have hcut : cut? mark (u ++ c :: (before ++ mark ++ after))
          = some (u ++ c :: before, after) := by
        refine cut?_eq_some.2 ⟨by simp only [List.append_assoc, List.cons_append], fun x y h => ?_⟩
        rcases occurs_beside hc h with ⟨z, rfl⟩ | ⟨z, rfl, hz⟩
        · exact absurd ⟨x, z, rfl⟩ hu
        · have := hfirst z y hz
          simp only [List.length_append, List.length_cons]
          omega
      rw [removeAll_of_cut? hmark hcut, removeAll_of_cut? hmark hv, List.append_assoc,
        List.cons_append]
    | none =>
      rw [cut?_eq_none] at hv
      rw [removeAll_eq_self hv, removeAll_eq_self]
      rintro ⟨x, y, h⟩
      rcases occurs_beside hc h.symm with ⟨z, rfl⟩ | ⟨z, rfl, rfl⟩
      · exact hu ⟨x, z, rfl⟩
      · exact hv ⟨z, y, rfl⟩

/-- Characters go as often as marks do, and some go when there is a mark. -/
theorem exists_count_removeAll (hmark : mark ≠ []) (text : List Char) :
    ∃ marks, (∀ c, text.count c = (removeAll mark text).count c + marks * mark.count c) ∧
      (mark <:+: text → 0 < marks) := by
  induction text using removal_induction hmark with
  | none text h =>
    refine ⟨0, fun c => ?_, fun hin => absurd hin h⟩
    rw [removeAll_eq_self h, Nat.zero_mul, Nat.add_zero]
  | some text before after h ih =>
    obtain ⟨marks, hcount, -⟩ := ih
    refine ⟨marks + 1, fun c => ?_, fun _ => Nat.succ_pos _⟩
    rw [removeAll_of_cut? hmark h, cut?_append h]
    simp only [List.count_append, hcount c, Nat.succ_mul]
    omega

/-- Characters that the mark does not have stay. -/
theorem count_removeAll {c : Char} (hmark : mark ≠ []) (hc : c ∉ mark) (text : List Char) :
    (removeAll mark text).count c = text.count c := by
  obtain ⟨marks, hcount, -⟩ := exists_count_removeAll hmark text
  rw [hcount c, List.count_eq_zero.2 hc, Nat.mul_zero, Nat.add_zero]

end

/-! ## Framed marks -/

/-- A mark that begins and ends in one character. -/
def framed (a : Char) (mid : List Char) : List Char := a :: mid ++ [a]

section

variable {a : Char} {mid p r x y : List Char}

theorem framed_ne_nil (a : Char) (mid : List Char) : framed a mid ≠ [] := List.cons_ne_nil _ _

theorem dropLast_framed (a : Char) (mid : List Char) : (framed a mid).dropLast = a :: mid :=
  List.dropLast_concat

/-- A framed mark overlaps itself in the character of its frame only. -/
theorem overlap_framed {z w : List Char} (ha : a ∉ mid) (hz : z ≠ []) (hw : w ≠ [])
    (h : framed a mid = z ++ w) (hlead : w <+: framed a mid) : z = a :: mid := by
  obtain ⟨rest, hrest⟩ := hlead
  cases z with
  | nil => exact absurd rfl hz
  | cons d z =>
    cases w with
    | nil => exact absurd rfl hw
    | cons e w =>
      obtain ⟨rfl, -⟩ := List.cons.inj hrest
      obtain ⟨rfl, hmid⟩ := List.cons.inj h
      -- the second frame character is the only one behind the first
      rcases List.append_eq_append_iff.1 hmid with ⟨t, rfl, ht⟩ | ⟨t, rfl, ht⟩
      · cases t with
        | nil => rw [List.append_nil]
        | cons f t => simp at ht
      · cases t with
        | nil => rw [List.append_nil]
        | cons f t =>
          obtain ⟨rfl, -⟩ := List.cons.inj ht
          exact absurd (List.mem_append_right z List.mem_cons_self) ha

/-- A framed mark that occurs before the one put there begins one character short of it. -/
theorem framed_occurs (ha : a ∉ mid) (hp : ¬ framed a mid <:+: p)
    (h : p ++ framed a mid ++ r = x ++ framed a mid ++ y) (hx : x.length < p.length) :
    p = x ++ a :: mid := by
  simp only [List.append_assoc] at h
  rcases List.append_eq_append_iff.1 h with ⟨z, rfl, -⟩ | ⟨z, rfl, hz⟩
  · simp only [List.length_append] at hx
    omega
  · have hzne : z ≠ [] := by
      rintro rfl
      simp at hx
    rcases List.append_eq_append_iff.1 hz with ⟨t, rfl, -⟩ | ⟨t, ht, hr⟩
    · exact absurd ⟨x, t, List.append_assoc ..⟩ hp
    · have htne : t ≠ [] := by
        rintro rfl
        rw [List.append_nil] at ht
        exact hp ⟨x, [], by rw [List.append_nil, ht]⟩
      have hlead : t <+: framed a mid := by
        refine List.prefix_of_prefix_length_le ⟨y, hr.symm⟩ (List.prefix_append _ r) ?_
        rw [ht, List.length_append]
        omega
      rw [overlap_framed ha hzne htne ht hlead]

/-- A framed mark is found where it was put, unless the text in front of it begins one early. -/
theorem cut?_framed (ha : a ∉ mid) (hp : ¬ framed a mid <:+: p) (hclear : ¬ a :: mid <:+ p)
    (r : List Char) : cut? (framed a mid) (p ++ framed a mid ++ r) = some (p, r) :=
  cut?_eq_some.2 ⟨rfl, fun x _ h => Nat.not_lt.1 fun hlt =>
    hclear ⟨x, (framed_occurs ha hp h hlt).symm⟩⟩

/-- A mark that is begun early takes its last character from the one put there. -/
theorem cut?_framed_early (ha : a ∉ mid) (hp : ¬ framed a mid <:+: x ++ a :: mid) (r : List Char) :
    cut? (framed a mid) (x ++ a :: mid ++ framed a mid ++ r) = some (x, mid ++ a :: r) := by
  refine cut?_eq_some.2 ⟨by simp [framed], fun x' y h => Nat.not_lt.1 fun hlt => ?_⟩
  have hlonger : x'.length < (x ++ a :: mid).length := by
    rw [List.length_append]
    omega
  have hearly := congrArg List.length (framed_occurs ha hp h hlonger)
  simp only [List.length_append] at hearly
  omega

/-- A framed mark does not end in characters that its frame is not among. -/
theorem infix_of_append {u : List Char} (hu : a ∉ u) (h : framed a mid <:+: x ++ u) :
    framed a mid <:+: x := by
  obtain ⟨s, t, hst⟩ := h
  have hend : (s ++ a :: mid) ++ a :: t = x ++ u := by simpa [framed] using hst
  rcases List.append_eq_append_iff.1 hend with ⟨z, rfl, hz⟩ | ⟨z, -, rfl⟩
  · cases z with
    | nil => exact absurd (hz ▸ List.mem_cons_self : a ∈ [] ++ u) hu
    | cons d z =>
      obtain ⟨rfl, -⟩ := List.cons.inj hz
      exact ⟨s, z, by simp [framed]⟩
  · exact absurd (List.mem_append_right z List.mem_cons_self) hu

theorem removeAll_framed_cons {c : Char} (h : a ≠ c) (text : List Char) :
    removeAll (framed a mid) (c :: text) = c :: removeAll (framed a mid) text := by
  have hcut : cut? (framed a mid) (c :: text)
      = (cut? (framed a mid) text).map fun p => (c :: p.1, p.2) := by
    have hlead : after? (framed a mid) (c :: text) = none := if_neg h
    rw [cut?, hlead]
  cases htext : cut? (framed a mid) text with
  | none =>
    rw [htext] at hcut
    rw [removeAll_eq_self (cut?_eq_none.1 htext), removeAll_eq_self (cut?_eq_none.1 hcut)]
  | some found =>
    rw [htext] at hcut
    rw [removeAll_of_cut? (framed_ne_nil a mid) htext, removeAll_of_cut? (framed_ne_nil a mid) hcut,
      List.cons_append]

/-- In front of the first frame character nothing is removed. -/
theorem removeAll_framed_append {u : List Char} (hu : a ∉ u) (text : List Char) :
    removeAll (framed a mid) (u ++ text) = u ++ removeAll (framed a mid) text := by
  induction u with
  | nil => rfl
  | cons c u ih =>
    rw [List.mem_cons, not_or] at hu
    rw [List.cons_append, removeAll_framed_cons hu.1, ih hu.2, List.cons_append]

/-- A framed mark goes where it was put, unless the text in front of it begins one early. -/
theorem removeAll_framed (ha : a ∉ mid) (hp : ¬ framed a mid <:+: p) (hclear : ¬ a :: mid <:+ p)
    (r : List Char) :
    removeAll (framed a mid) (p ++ framed a mid ++ r) = p ++ removeAll (framed a mid) r :=
  removeAll_of_cut? (framed_ne_nil a mid) (cut?_framed ha hp hclear r)

/-- With a mark begun early the beginning goes, and the mark stays without its first character. -/
theorem removeAll_framed_early (ha : a ∉ mid) (hp : ¬ framed a mid <:+: x ++ a :: mid)
    (r : List Char) : removeAll (framed a mid) (x ++ a :: mid ++ framed a mid ++ r)
      = x ++ (mid ++ removeAll (framed a mid) (a :: r)) := by
  rw [removeAll_of_cut? (framed_ne_nil a mid) (cut?_framed_early ha hp r),
    removeAll_framed_append ha]

end

end EventSearch.Text
