/-
# `EventSearch.Proofs.LuceneFields` — field paths of a `lucene` query are read off

A path that was read once is read again, alone or in front of a colon (`readable_of_takePath?`).
Nothing of a bare value is taken for a field (`takeField_bare`).
-/
import EventSearch.Proofs.Layout
import EventSearch.Proofs.BareText
import EventSearch.Query.LuceneGrammar

namespace EventSearch.Query

open EventSearch.Text

namespace LuceneTree

/-! ## Field names -/

/-- A lower case letter, then name characters. -/
def IsName (cs : List Char) : Prop :=
  ∃ c rest, cs = c :: rest ∧ isAsciiLower c = true ∧ ∀ d ∈ rest, isNameChar d = true

theorem takeName?_append {name rest : List Char} (h : IsName name)
    (hr : ∀ d, rest.head? = some d → isNameChar d = false) :
    takeName? (name ++ rest) = some (name, rest) := by
  obtain ⟨c, cs, rfl, hc, hcs⟩ := h
  obtain ⟨htake, hdrop⟩ := takeWhile_run hcs rest hr
  simp [takeName?, hc, htake, hdrop]

theorem isName_of_takeName? {cs name rest : List Char} (h : takeName? cs = some (name, rest)) :
    IsName name := by
  cases cs with
  | nil => cases h
  | cons c cs =>
    by_cases hc : isAsciiLower c = true
    · simp only [takeName?, hc, if_true, Option.some.injEq, Prod.mk.injEq] at h
      exact ⟨c, _, h.1.symm, hc, fun d hd => (List.all_eq_true.1 List.all_takeWhile) d hd⟩
    · simp [takeName?, hc] at h

theorem takeName?_none {cs : List Char} (h : ∀ c, cs.head? = some c → isAsciiLower c = false) :
    takeName? cs = none := by
  cases cs with
  | nil => rfl
  | cons c cs => simp [takeName?, h c rfl]

/-! ## Indexes -/

theorem takeUnsignedIndex?_digits {ds rest : List Char} (hne : ds ≠ [])
    (hds : ∀ d ∈ ds, isAsciiDigit d = true)
    (hr : ∀ d, rest.head? = some d → isAsciiDigit d = false) :
    takeUnsignedIndex? (ds ++ rest) = some (ds, rest) := by
  obtain ⟨htake, hdrop⟩ := takeWhile_run hds rest hr
  simp [takeUnsignedIndex?, takeDigits, htake, hdrop, hne]

/-- Where no digit stands first an index is a bare value. -/
theorem takeUnsignedIndex?_bare {cs : List Char} (h : cs.takeWhile isAsciiDigit = []) :
    takeUnsignedIndex? cs = BareText.take? cs := by
  simp [takeUnsignedIndex?, takeDigits, h]

theorem takeUnsignedIndex?_scan {cs raw rest : List Char}
    (hd : ∀ d, cs.head? = some d → isAsciiDigit d = false) (hs : BareText.scan cs = (raw, rest))
    (hr : raw ≠ []) : takeUnsignedIndex? cs = some (raw, rest) := by
  have htake : cs.takeWhile isAsciiDigit = [] := (takeWhile_run (List.forall_mem_nil _) cs hd).1
  rw [takeUnsignedIndex?_bare htake, BareText.take?_eq_some.2 ⟨hs, hr⟩]

/-- An index consists of digits or is a bare value. -/
theorem takeUnsignedIndex?_cases {cs index rest : List Char}
    (h : takeUnsignedIndex? cs = some (index, rest)) :
    index ≠ [] ∧ ((∀ d ∈ index, isAsciiDigit d = true) ∨
      (∀ d, cs.head? = some d → isAsciiDigit d = false) ∧ BareText.scan cs = (index, rest)) := by
  by_cases hd : cs.takeWhile isAsciiDigit = []
  · have hhead : ∀ d, cs.head? = some d → isAsciiDigit d = false := by
      intro d hc
      cases cs with
      | nil => cases hc
      | cons c cs =>
        obtain rfl := Option.some.inj hc
        cases hb : isAsciiDigit c with
        | false => rfl
        | true => simp [hb] at hd
    rw [takeUnsignedIndex?_bare hd] at h
    obtain ⟨hs, hne⟩ := BareText.take?_eq_some.1 h
    exact ⟨hne, .inr ⟨hhead, hs⟩⟩
  · simp only [takeUnsignedIndex?, takeDigits, List.isEmpty_eq_false_iff.2 hd, Bool.not_false,
      if_true, Option.some.injEq, Prod.mk.injEq] at h
    obtain ⟨rfl, -⟩ := h
    exact ⟨hd, .inl fun d hm => (List.all_eq_true.1 List.all_takeWhile) d hm⟩

/-- An index that was read in front of a closing parenthesis is read there again. -/
theorem takeUnsignedIndex?_again {cs index after : List Char}
    (h : takeUnsignedIndex? cs = some (index, ')' :: after)) (after' : List Char) :
    takeUnsignedIndex? (index ++ ')' :: after') = some (index, ')' :: after') := by
  obtain ⟨hne, hds | ⟨hhead, hs⟩⟩ := takeUnsignedIndex?_cases h
  · exact takeUnsignedIndex?_digits hne hds fun d hd => by cases hd; rfl
  · refine takeUnsignedIndex?_scan (fun d hd => hhead d ?_) (BareText.scan_again hs after') hne
    have hj := BareText.scan_join cs
    rw [hs] at hj
    rw [← hj, ← hd]
    cases index with
    | nil => exact absurd rfl hne
    | cons c index => rfl

theorem takeIndex?_minus (cs : List Char) :
    takeIndex? ('-' :: cs) = (takeUnsignedIndex? cs).map fun p => ('-' :: p.1, p.2) := rfl

theorem takeIndex?_of_ne {c : Char} (h : c ≠ '-') (cs : List Char) :
    takeIndex? (c :: cs) = takeUnsignedIndex? (c :: cs) := by
  simp [takeIndex?, h]

theorem takeIndex?_again {cs index after : List Char}
    (h : takeIndex? cs = some (index, ')' :: after)) (after' : List Char) :
    takeIndex? (index ++ ')' :: after') = some (index, ')' :: after') := by
  cases cs with
  | nil => cases h
  | cons c cs =>
    by_cases hc : c = '-'
    · subst hc
      rw [takeIndex?_minus, Option.map_eq_some_iff] at h
      obtain ⟨⟨i, r⟩, hi, he⟩ := h
      obtain ⟨rfl, rfl⟩ := Prod.mk.inj he
      rw [List.cons_append, takeIndex?_minus, takeUnsignedIndex?_again hi]
      rfl
    · rw [takeIndex?_of_ne hc] at h
      have ha := takeUnsignedIndex?_again h after'
      obtain ⟨hne, hcase⟩ := takeUnsignedIndex?_cases h
      cases index with
      | nil => exact absurd rfl hne
      | cons d index =>
        have hd : d ≠ '-' := by
          rintro rfl
          rcases hcase with hds | ⟨-, hs⟩
          · exact absurd (hds '-' List.mem_cons_self) (by decide)
          · have hj := BareText.scan_join (c :: cs)
            rw [hs] at hj
            exact hc (List.cons.inj hj).1.symm
        rw [List.cons_append, takeIndex?_of_ne hd, ← List.cons_append, ha]

/-- Nothing is lost. -/
theorem takeUnsignedIndex?_join {cs index rest : List Char}
    (h : takeUnsignedIndex? cs = some (index, rest)) : index ++ rest = cs := by
  by_cases hd : cs.takeWhile isAsciiDigit = []
  · rw [takeUnsignedIndex?_bare hd] at h
    have hj := BareText.scan_join cs
    rwa [(BareText.take?_eq_some.1 h).1] at hj
  · simp only [takeUnsignedIndex?, takeDigits, List.isEmpty_eq_false_iff.2 hd, Bool.not_false,
      if_true, Option.some.injEq, Prod.mk.injEq] at h
    rw [← h.1, ← h.2, List.takeWhile_append_dropWhile]

theorem takeIndex?_join {cs index rest : List Char} (h : takeIndex? cs = some (index, rest)) :
    index ++ rest = cs := by
  cases cs with
  | nil => cases h
  | cons c cs =>
    by_cases hc : c = '-'
    · subst hc
      rw [takeIndex?_minus, Option.map_eq_some_iff] at h
      obtain ⟨⟨i, r⟩, hi, he⟩ := h
      obtain ⟨rfl, rfl⟩ := Prod.mk.inj he
      rw [List.cons_append, takeUnsignedIndex?_join hi]
    · rw [takeIndex?_of_ne hc] at h
      exact takeUnsignedIndex?_join h

end LuceneTree

/-! ## Field paths -/

/-- What may follow a part of a path inside of the path or behind it. -/
def FollowsSegment (cs : List Char) : Prop := ∀ c, cs.head? = some c → c ∈ ['.', ':']

/-- What may follow a path. -/
def FollowsPath (cs : List Char) : Prop := ∀ c, cs.head? = some c → c = ':'

theorem FollowsPath.segment {cs : List Char} (h : FollowsPath cs) : FollowsSegment cs :=
  fun c hc => by rw [h c hc]; decide

/-- A part of a path that is read whole. -/
def PathSegment.Readable (s : PathSegment) : Prop :=
  ∀ rest, FollowsSegment rest →
    LuceneTree.takeSegment? (s.toText.toList ++ rest) = some (s, rest)

/-- A path that is read whole. -/
def FieldPath.Readable (p : FieldPath) : Prop :=
  ∀ rest, FollowsPath rest → LuceneTree.takePath? (p.toText.toList ++ rest) = some (p, rest)

namespace LuceneTree

theorem takeSegment?_eq_some {cs rest : List Char} {s : PathSegment}
    (h : takeSegment? cs = some (s, rest)) :
    ∃ name after, takeName? cs = some (name, after) ∧
      (s = ⟨String.ofList name, none⟩ ∧ rest = after ∨
        ∃ inner index, after = '(' :: inner ∧ takeIndex? inner = some (index, ')' :: rest) ∧
          s = ⟨String.ofList name, some (String.ofList index)⟩) := by
  obtain ⟨⟨name, after⟩, hn, he⟩ := Option.map_eq_some_iff.1 h
  refine ⟨name, after, hn, ?_⟩
  simp only [Prod.mk.injEq] at he
  obtain ⟨rfl, rfl⟩ := he
  unfold takeParenthesised
  split
  · next inner =>
    split
    · next index after' hi => exact .inr ⟨inner, index, rfl, hi, rfl⟩
    · exact .inl ⟨rfl, rfl⟩
  · exact .inl ⟨rfl, rfl⟩

theorem takeName?_join {cs name rest : List Char} (h : takeName? cs = some (name, rest)) :
    name ++ rest = cs := by
  cases cs with
  | nil => cases h
  | cons c cs =>
    by_cases hc : isAsciiLower c = true
    · simp only [takeName?, hc, if_true, Option.some.injEq, Prod.mk.injEq] at h
      obtain ⟨rfl, rfl⟩ := h
      simp
    · simp [takeName?, hc] at h

theorem takeSegment?_join {cs rest : List Char} {s : PathSegment}
    (h : takeSegment? cs = some (s, rest)) : s.toText.toList ++ rest = cs := by
  obtain ⟨name, after, hn, ⟨rfl, rfl⟩ | ⟨inner, index, rfl, hi, rfl⟩⟩ := takeSegment?_eq_some h
  · simpa [PathSegment.toText] using takeName?_join hn
  · have hj := takeName?_join hn
    rw [← takeIndex?_join hi] at hj
    simpa [PathSegment.toText] using hj

theorem takeParenthesised_of_ne {cs : List Char} (h : cs.head? ≠ some '(') :
    takeParenthesised cs = (none, cs) := by
  cases cs with
  | nil => rfl
  | cons c cs =>
    have hc : c ≠ '(' := fun he => h (by rw [he]; rfl)
    simp [takeParenthesised, hc]

/-- A part of a path that was read is read again, whatever follows it. -/
theorem readable_of_takeSegment? {cs rest : List Char} {s : PathSegment}
    (h : takeSegment? cs = some (s, rest)) : s.Readable := by
  intro rest' hr'
  have hhead : rest'.head? ≠ some '(' := fun he => absurd (hr' _ he) (by decide)
  have hstop : ∀ d, rest'.head? = some d → isNameChar d = false := by
    intro d hd
    have hm := hr' d hd
    simp only [List.mem_cons, List.not_mem_nil, or_false] at hm
    rcases hm with rfl | rfl <;> rfl
  obtain ⟨name, after, hn, ⟨rfl, -⟩ | ⟨inner, index, rfl, hi, rfl⟩⟩ := takeSegment?_eq_some h
  · simp [takeSegment?, PathSegment.toText, takeName?_append (isName_of_takeName? hn) hstop,
      takeParenthesised_of_ne hhead]
  · have hn' : takeName? (name ++ '(' :: (index ++ ')' :: rest'))
        = some (name, '(' :: (index ++ ')' :: rest')) :=
      takeName?_append (isName_of_takeName? hn) fun d hd => by cases hd; rfl
    simp [takeSegment?, PathSegment.toText, hn', takeParenthesised, takeIndex?_again hi]

/-- The text of the parts of a path after its first. -/
def tailText (ss : List PathSegment) : List Char := ss.flatMap fun s => '.' :: s.toText.toList

theorem toText_path (s : PathSegment) (ss : List PathSegment) :
    (FieldPath.mk (s :: ss)).toText.toList = s.toText.toList ++ tailText ss := by
  rw [FieldPath.toText, List.map_cons, toList_intercalate_cons]
  simp [tailText, List.flatMap_map]

theorem takeSegments_of_follows {rest : List Char} (h : FollowsPath rest) (fuel : Nat) :
    takeSegments fuel rest = ([], rest) := by
  cases rest with
  | nil => cases fuel <;> rfl
  | cons c rest =>
    obtain rfl := h c rfl
    cases fuel <;> rfl

theorem takeSegments_join {fuel : Nat} {cs rest : List Char} {ss : List PathSegment}
    (h : takeSegments fuel cs = (ss, rest)) : tailText ss ++ rest = cs := by
  fun_induction takeSegments fuel cs generalizing ss rest with
  | case1 fuel cs hs =>
    cases h
    rfl
  | case2 fuel cs s after hs segments after' hr ih =>
    obtain ⟨rfl, rfl⟩ := Prod.mk.inj h
    simp [tailText, ← takeSegment?_join hs, ← ih hr]
  | case3 fuel cs hn =>
    cases h
    rfl

theorem readable_of_takeSegments {fuel : Nat} {cs rest : List Char} {ss : List PathSegment}
    (h : takeSegments fuel cs = (ss, rest)) : ∀ s ∈ ss, s.Readable := by
  fun_induction takeSegments fuel cs generalizing ss rest with
  | case1 fuel cs hs => cases h; simp
  | case2 fuel cs s after hs segments after' hr ih =>
    obtain ⟨rfl, rfl⟩ := Prod.mk.inj h
    intro t ht
    rcases List.mem_cons.1 ht with rfl | ht
    · exact readable_of_takeSegment? hs
    · exact ih hr t ht
  | case3 fuel cs hn => cases h; simp

theorem followsSegment_tailText (ss : List PathSegment) {rest : List Char} (h : FollowsPath rest) :
    FollowsSegment (tailText ss ++ rest) := by
  cases ss with
  | nil => exact h.segment
  | cons s ss =>
    intro c hc
    obtain rfl : c = '.' := by simpa [tailText, eq_comm] using hc
    decide

theorem takeSegments_tailText {ss : List PathSegment} (hs : ∀ s ∈ ss, s.Readable)
    {rest : List Char} (hr : FollowsPath rest) {fuel : Nat} (hf : ss.length ≤ fuel) :
    takeSegments fuel (tailText ss ++ rest) = (ss, rest) := by
  induction ss generalizing fuel with
  | nil => exact takeSegments_of_follows hr fuel
  | cons s ss ih =>
    obtain ⟨fuel, rfl⟩ : ∃ n, fuel = n + 1 := ⟨fuel - 1, by simp at hf; omega⟩
    have hcs : tailText (s :: ss) ++ rest
        = '.' :: (s.toText.toList ++ (tailText ss ++ rest)) := by simp [tailText]
    have ih := ih (fun t ht => hs t (List.mem_cons_of_mem s ht)) (Nat.le_of_succ_le_succ hf)
    rw [hcs]
    simp only [takeSegments, hs s List.mem_cons_self _ (followsSegment_tailText ss hr), ih]

theorem length_le_tailText (ss : List PathSegment) : ss.length ≤ (tailText ss).length := by
  induction ss with
  | nil => exact Nat.le_refl 0
  | cons s ss ih =>
    simp only [tailText, List.flatMap_cons, List.length_append, List.length_cons] at ih ⊢
    omega

theorem takePath?_eq_some {cs rest : List Char} {p : FieldPath}
    (h : takePath? cs = some (p, rest)) :
    ∃ s ss after, takeSegment? cs = some (s, after) ∧
      takeSegments after.length after = (ss, rest) ∧ p = ⟨s :: ss⟩ := by
  obtain ⟨⟨s, after⟩, hs, he⟩ := Option.map_eq_some_iff.1 h
  simp only [Prod.mk.injEq] at he
  exact ⟨s, _, after, hs, Prod.ext rfl he.2, he.1.symm⟩

/-- Nothing is lost. -/
theorem takePath?_join {cs rest : List Char} {p : FieldPath} (h : takePath? cs = some (p, rest)) :
    p.toText.toList ++ rest = cs := by
  obtain ⟨s, ss, after, hs, hss, rfl⟩ := takePath?_eq_some h
  rw [toText_path, List.append_assoc, takeSegments_join hss, takeSegment?_join hs]

/-- A path that was read is read again, alone or in front of a colon. -/
theorem readable_of_takePath? {cs rest : List Char} {p : FieldPath}
    (h : takePath? cs = some (p, rest)) : p.Readable := by
  obtain ⟨s, ss, after, hs, hss, rfl⟩ := takePath?_eq_some h
  intro rest' hr
  have hlen : ss.length ≤ (tailText ss ++ rest').length := by
    have := length_le_tailText ss
    rw [List.length_append]
    omega
  rw [toText_path, List.append_assoc]
  simp only [takePath?, readable_of_takeSegment? hs _ (followsSegment_tailText ss hr),
    Option.map_some, takeSegments_tailText (readable_of_takeSegments hss) hr hlen]

/-! ## Fields -/

theorem takeField_path {p : FieldPath} (h : p.Readable) (rest : List Char) :
    takeField (p.toText.toList ++ ':' :: rest) = (some p, rest) := by
  have hp := h (':' :: rest) fun c hc => by cases hc; rfl
  simp [takeField, hp]

theorem takeField_of_not_lower {cs : List Char}
    (h : ∀ c, cs.head? = some c → isAsciiLower c = false) : takeField cs = (none, cs) := by
  simp [takeField, takePath?, takeSegment?, takeName?_none h]

/-- The first character of a path. -/
theorem head_of_takePath? {cs rest : List Char} {p : FieldPath}
    (h : takePath? cs = some (p, rest)) : ∃ c, cs.head? = some c ∧ isAsciiLower c = true := by
  obtain ⟨s, ss, after, hs, -, -⟩ := takePath?_eq_some h
  obtain ⟨name, after', hn, -⟩ := takeSegment?_eq_some hs
  obtain ⟨c, cs', rfl, hc, -⟩ := isName_of_takeName? hn
  refine ⟨c, ?_, hc⟩
  rw [← takeName?_join hn]
  rfl

/-- A path starts with a lower-case letter. -/
theorem head_path {p : FieldPath} (h : p.Readable) :
    ∃ c cs, p.toText.toList = c :: cs ∧ isAsciiLower c = true := by
  obtain ⟨c, hc, hl⟩ := head_of_takePath? (h [] fun c hc => by cases hc)
  rw [List.append_nil] at hc
  cases hp : p.toText.toList with
  | nil =>
    rw [hp] at hc
    cases hc
  | cons d text =>
    rw [hp] at hc
    obtain rfl := Option.some.inj hc
    exact ⟨d, text, rfl, hl⟩

/-- The end of a text in which neither an index nor a field can be. -/
def Within (tail cs : List Char) : Prop := ∃ w, cs = w ++ tail ∧ '(' ∉ w ∧ ':' ∉ w

theorem Within.head {tail cs : List Char} (h : Within tail cs) (ht : Follows tail) :
    cs.head? ≠ some '(' ∧ cs.head? ≠ some ':' := by
  obtain ⟨w, rfl, hp, hc⟩ := h
  cases w with
  | nil => exact ⟨fun he => absurd (ht _ he) (by decide), fun he => absurd (ht _ he) (by decide)⟩
  | cons c w =>
    constructor <;> (intro he; obtain rfl := Option.some.inj he; simp_all)

theorem Within.drop {tail lead rest : List Char} (h : Within tail (lead ++ rest))
    (ht : Follows tail) (hl : ∀ c ∈ lead, c ∉ [' ', ')', ']', '}']) : Within tail rest := by
  obtain ⟨w, he, hp, hc⟩ := h
  rcases List.append_eq_append_iff.1 he with ⟨v, rfl, rfl⟩ | ⟨v, rfl, htail⟩
  · exact ⟨v, rfl, fun hm => hp (List.mem_append_right _ hm),
      fun hm => hc (List.mem_append_right _ hm)⟩
  · cases v with
    | nil => exact ⟨[], by simpa using htail.symm, by simp, by simp⟩
    | cons c v =>
      -- the text that follows would start inside of what was dropped
      rw [htail] at ht
      exact absurd (ht c rfl) (hl c (by simp))

theorem not_follows_of_nameChar {c : Char} (h : isNameChar c = true) :
    c ∉ [' ', ')', ']', '}'] := by
  intro hm
  simp only [List.mem_cons, List.not_mem_nil, or_false] at hm
  rcases hm with rfl | rfl | rfl | rfl <;> exact absurd h (by decide)

theorem Within.segment {tail cs rest : List Char} {s : PathSegment} (h : Within tail cs)
    (ht : Follows tail) (hs : takeSegment? cs = some (s, rest)) : Within tail rest := by
  obtain ⟨name, after, hn, hcase⟩ := takeSegment?_eq_some hs
  have hw : Within tail after := by
    have hj : Within tail (name ++ after) := by rwa [takeName?_join hn]
    obtain ⟨c, cs', rfl, hc, hcs⟩ := isName_of_takeName? hn
    refine hj.drop ht fun d hd => ?_
    rcases List.mem_cons.1 hd with rfl | hd
    · exact not_follows_of_nameChar (by simp [isNameChar, hc])
    · exact not_follows_of_nameChar (hcs d hd)
  rcases hcase with ⟨-, rfl⟩ | ⟨inner, index, rfl, -⟩
  · exact hw
  · exact absurd rfl (hw.head ht).1

theorem Within.segments {tail : List Char} (ht : Follows tail) {fuel : Nat} {cs rest : List Char}
    {ss : List PathSegment} (h : Within tail cs) (hs : takeSegments fuel cs = (ss, rest)) :
    Within tail rest := by
  fun_induction takeSegments fuel cs generalizing ss rest with
  | case1 fuel cs hn =>
    cases hs
    exact h
  | case2 fuel cs s after hn segments after' hr ih =>
    obtain ⟨rfl, rfl⟩ := Prod.mk.inj hs
    have hdot : Within tail (['.'] ++ cs) := h
    have hcs : Within tail cs := hdot.drop ht fun c hc => by
      rw [List.mem_singleton.1 hc]
      decide
    exact ih (hcs.segment ht hn) hr
  | case3 fuel cs hn =>
    cases hs
    exact h

/-- Nothing of a bare value is taken for a field. -/
theorem takeField_bare {cs tail : List Char} (h : Bare cs) (ht : Follows tail) :
    takeField (cs ++ tail) = (none, cs ++ tail) := by
  unfold takeField
  split
  · next p rest hp =>
    obtain ⟨s, ss, after, hs, hss, rfl⟩ := takePath?_eq_some hp
    have hw : Within tail (cs ++ tail) :=
      ⟨cs, rfl, h.not_mem (by decide), h.not_mem (by decide)⟩
    exact absurd rfl (((hw.segment ht hs).segments ht hss).head ht).2
  · rfl

end LuceneTree

end EventSearch.Query
