/-
# `EventSearch.Proofs.CriterionReading` — written tests of a `criterion` query are read off

A path that was read once is read again in front of whatever may follow a test (`takePath?_append`).
Behind it an operator that stands between spaces is read as it is written
(`takeOperator?_written`), and every value comes back from its quotes, so that every test does
(`takeTest?_comparison`, `takeTest?_present`).
-/
import EventSearch.Proofs.Layout
import EventSearch.Proofs.Quoting

namespace EventSearch.Query.CriterionTree

open EventSearch.Text

/-! ## Indexes -/

/-- Text that does not go on with a name or an index. -/
def EndsName (cs : List Char) : Prop :=
  ∀ c, cs.head? = some c → isSegmentChar c = false ∧ c ≠ '('

/-- Text that a path cannot go on with. -/
def EndsPath (cs : List Char) : Prop := EndsName cs ∧ cs.head? ≠ some '.'

theorem takeIndex_of_ne {cs : List Char} (h : cs.head? ≠ some '(') : takeIndex cs = ([], cs) := by
  cases cs with
  | nil => rfl
  | cons c cs =>
    have hc : c ≠ '(' := fun he => h (by rw [he]; rfl)
    simp [takeIndex, hc]

/-- Characters of an index. -/
def isIndexChar (c : Char) : Bool := c ≠ '(' && c ≠ ')'

/-- Behind a parenthesis everything up to the next one may be an index. -/
theorem takeIndex_paren (rest : List Char) :
    takeIndex ('(' :: rest) =
      match rest.drop (rest.takeWhile isIndexChar).length with
      | ')' :: after => ('(' :: rest.takeWhile isIndexChar ++ [')'], after)
      | _ => ([], '(' :: rest) := rfl

theorem takeIndex_append {index : List Char} (h : ∀ c ∈ index, isIndexChar c = true)
    (rest : List Char) :
    takeIndex ('(' :: (index ++ ')' :: rest)) = ('(' :: index ++ [')'], rest) := by
  obtain ⟨htake, -⟩ := takeWhile_run h (')' :: rest) fun c hc => by
    rw [← Option.some.inj hc]
    rfl
  rw [takeIndex_paren, htake, List.drop_left]
  rfl

/-- An index is read whole or not at all. -/
theorem takeIndex_cases (cs : List Char) :
    takeIndex cs = ([], cs) ∨ ∃ index rest, (∀ c ∈ index, isIndexChar c = true) ∧
      takeIndex cs = ('(' :: index ++ [')'], rest) ∧ cs = '(' :: (index ++ ')' :: rest) := by
  by_cases hc : cs.head? = some '('
  · obtain ⟨rest, rfl⟩ : ∃ rest, cs = '(' :: rest := by
      cases cs with
      | nil => cases hc
      | cons c cs => exact ⟨cs, by rw [Option.some.inj hc]⟩
    have hall : ∀ c ∈ rest.takeWhile isIndexChar, isIndexChar c = true :=
      fun c hm => (List.all_eq_true.1 List.all_takeWhile) c hm
    have hj : rest.takeWhile isIndexChar ++ rest.dropWhile isIndexChar = rest :=
      List.takeWhile_append_dropWhile
    have hdrop : rest.drop (rest.takeWhile isIndexChar).length = rest.dropWhile isIndexChar := by
      conv => lhs; rw [← hj]
      exact List.drop_left' (by rw [hj])
    rw [takeIndex_paren, hdrop]
    split
    · next after ha =>
      refine .inr ⟨_, after, hall, rfl, ?_⟩
      rw [← ha, hj]
    · exact .inl rfl
  · exact .inl (takeIndex_of_ne hc)

/-! ## Segments -/

/-- A letter or an underscore, more of a name, and an index or none. -/
inductive IsSegment : List Char → Prop
  | plain {c : Char} {name : List Char} : (isAsciiLetter c || c = '_') = true →
      (∀ d ∈ name, isSegmentChar d = true) → IsSegment (c :: name)
  | indexed {c : Char} {name index : List Char} : (isAsciiLetter c || c = '_') = true →
      (∀ d ∈ name, isSegmentChar d = true) → (∀ d ∈ index, isIndexChar d = true) →
      IsSegment (c :: name ++ '(' :: index ++ [')'])

theorem takeSegment?_join {cs text rest : List Char} (h : takeSegment? cs = some (text, rest)) :
    IsSegment text ∧ text ++ rest = cs := by
  cases cs with
  | nil => cases h
  | cons c cs =>
    by_cases hc : (isAsciiLetter c || c = '_') = true
    · have hname : ∀ d ∈ cs.takeWhile isSegmentChar, isSegmentChar d = true :=
        fun d hm => (List.all_eq_true.1 List.all_takeWhile) d hm
      have hj : cs.takeWhile isSegmentChar ++ cs.dropWhile isSegmentChar = cs :=
        List.takeWhile_append_dropWhile
      simp only [takeSegment?, hc, if_true, Option.some.injEq, Prod.mk.injEq] at h
      obtain ⟨rfl, rfl⟩ := h
      rcases takeIndex_cases (cs.dropWhile isSegmentChar) with he | ⟨index, after, hi, he, hd⟩
      · rw [he]
        exact ⟨by simpa using IsSegment.plain hc hname, by simp [hj]⟩
      · rw [he]
        refine ⟨by simpa using IsSegment.indexed hc hname hi, ?_⟩
        rw [hd] at hj
        simpa using hj
    · simp [takeSegment?, hc] at h

/-- A segment is read whole where neither the name nor an index goes on. -/
theorem takeSegment?_append {text rest : List Char} (h : IsSegment text) (hr : EndsName rest) :
    takeSegment? (text ++ rest) = some (text, rest) := by
  have hhead : rest.head? ≠ some '(' := fun he => (hr _ he).2 rfl
  cases h with
  | @plain c name hc hname =>
    obtain ⟨htake, hdrop⟩ := takeWhile_run hname rest fun d hd => (hr d hd).1
    simp [takeSegment?, hc, htake, hdrop, takeIndex_of_ne hhead]
  | @indexed c name index hc hname hi =>
    obtain ⟨htake, hdrop⟩ := takeWhile_run hname ('(' :: (index ++ ')' :: rest)) fun d hd => by
      rw [← Option.some.inj hd]
      rfl
    simp [takeSegment?, hc, htake, hdrop, takeIndex_append hi]

/-! ## Paths -/

/-- The segments of a path after its first. -/
def tailText (segments : List (List Char)) : List Char := segments.flatMap ('.' :: ·)

/-- A dotted path. -/
def IsPath (path : List Char) : Prop :=
  ∃ s ss, IsSegment s ∧ (∀ t ∈ ss, IsSegment t) ∧ path = s ++ tailText ss

theorem takeSegments_join {fuel : Nat} {cs text rest : List Char}
    (h : takeSegments fuel cs = (text, rest)) :
    ∃ ss, (∀ t ∈ ss, IsSegment t) ∧ text = tailText ss ∧ text ++ rest = cs := by
  fun_induction takeSegments fuel cs generalizing text rest with
  | case1 fuel cs hn =>
    cases h
    exact ⟨[], by simp, rfl, rfl⟩
  | case2 fuel cs segment after hs segments after' hr ih =>
    obtain ⟨rfl, rfl⟩ := Prod.mk.inj h
    obtain ⟨ss, hall, rfl, hj⟩ := ih hr
    obtain ⟨hseg, hjs⟩ := takeSegment?_join hs
    refine ⟨segment :: ss, ?_, by simp [tailText], by simp [← hjs, ← hj]⟩
    intro t ht
    rcases List.mem_cons.1 ht with rfl | ht
    · exact hseg
    · exact hall t ht
  | case3 fuel cs hn =>
    cases h
    exact ⟨[], by simp, rfl, rfl⟩

theorem endsName_tailText (ss : List (List Char)) {rest : List Char} (h : EndsPath rest) :
    EndsName (tailText ss ++ rest) := by
  cases ss with
  | nil => exact h.1
  | cons s ss =>
    intro c hc
    obtain rfl : c = '.' := by simpa [tailText, eq_comm] using hc
    decide

theorem takeSegments_ends {rest : List Char} (h : EndsPath rest) (fuel : Nat) :
    takeSegments fuel rest = ([], rest) := by
  cases rest with
  | nil => cases fuel <;> rfl
  | cons c rest =>
    have hc : c ≠ '.' := fun he => h.2 (by rw [he]; rfl)
    cases fuel <;> simp [takeSegments, hc]

theorem takeSegments_append {ss : List (List Char)} (hs : ∀ t ∈ ss, IsSegment t)
    {rest : List Char} (hr : EndsPath rest) {fuel : Nat} (hf : ss.length ≤ fuel) :
    takeSegments fuel (tailText ss ++ rest) = (tailText ss, rest) := by
  induction ss generalizing fuel with
  | nil => exact takeSegments_ends hr fuel
  | cons s ss ih =>
    obtain ⟨fuel, rfl⟩ : ∃ n, fuel = n + 1 := ⟨fuel - 1, by simp at hf; omega⟩
    have hcs : tailText (s :: ss) ++ rest = '.' :: (s ++ (tailText ss ++ rest)) := by
      simp [tailText]
    have ih := ih (fun t ht => hs t (List.mem_cons_of_mem s ht)) (Nat.le_of_succ_le_succ hf)
    rw [hcs]
    simp only [takeSegments, ih,
      takeSegment?_append (hs s List.mem_cons_self) (endsName_tailText ss hr)]
    simp [tailText]

theorem length_le_tailText (ss : List (List Char)) : ss.length ≤ (tailText ss).length := by
  induction ss with
  | nil => exact Nat.le_refl 0
  | cons s ss ih =>
    simp only [tailText, List.flatMap_cons, List.length_append, List.length_cons] at ih ⊢
    omega

theorem takePath?_join {cs path rest : List Char} (h : takePath? cs = some (path, rest)) :
    IsPath path ∧ path ++ rest = cs := by
  obtain ⟨⟨s, after⟩, hs, he⟩ := Option.map_eq_some_iff.1 h
  simp only [Prod.mk.injEq] at he
  obtain ⟨rfl, rfl⟩ := he
  obtain ⟨hseg, hjs⟩ := takeSegment?_join hs
  cases hr : takeSegments after.length after with
  | mk text rest =>
    obtain ⟨ss, hall, rfl, hj⟩ := takeSegments_join hr
    refine ⟨⟨s, ss, hseg, hall, rfl⟩, ?_⟩
    rw [List.append_assoc, hj, hjs]

/-- A path is read again in front of text that it cannot go on with. -/
theorem takePath?_append {path rest : List Char} (h : IsPath path) (hr : EndsPath rest) :
    takePath? (path ++ rest) = some (path, rest) := by
  obtain ⟨s, ss, hs, hall, rfl⟩ := h
  have hlen : ss.length ≤ (tailText ss ++ rest).length := by
    have := length_le_tailText ss
    rw [List.length_append]
    omega
  rw [List.append_assoc]
  simp only [takePath?, takeSegment?_append hs (endsName_tailText ss hr), Option.map_some,
    takeSegments_append hall hr hlen]

/-! ## Tests -/

/-- Text that a test of presence cannot go on with. -/
structure FollowsTest (cs : List Char) : Prop where
  path : EndsPath cs
  operator : takeOperator? (skipLayout cs) = none

theorem endsPath_space (cs : List Char) : EndsPath (' ' :: cs) :=
  ⟨fun c hc => by cases hc; decide, by simp⟩

/-- The first character of a path. -/
theorem IsPath.head {path : List Char} (h : IsPath path) :
    ∃ c rest, path = c :: rest ∧ (isAsciiLetter c || c = '_') = true := by
  obtain ⟨s, ss, hs, -, rfl⟩ := h
  cases hs with
  | @plain c name hc _ => exact ⟨c, _, rfl, hc⟩
  | @indexed c name index hc _ _ => exact ⟨c, _, rfl, hc⟩

theorem not_blank_of_segmentChar {c : Char} (h : isSegmentChar c = true) : isBlank c = false := by
  simp only [isSegmentChar, isAsciiLetter, isAsciiLower, isAsciiUpper, isAsciiDigit,
    Bool.or_eq_true, Bool.and_eq_true, decide_eq_true_eq] at h
  have hrange : 33 ≤ c.toNat ∧ c.toNat ≤ 126 := by
    rcases h with (((⟨hl, hu⟩ | ⟨hl, hu⟩) | ⟨hl, hu⟩) | rfl) | rfl
    · exact ⟨Nat.le_trans (by decide) (show 97 ≤ c.toNat from hl),
        Nat.le_trans (show c.toNat ≤ 122 from hu) (by decide)⟩
    · exact ⟨Nat.le_trans (by decide) (show 65 ≤ c.toNat from hl),
        Nat.le_trans (show c.toNat ≤ 90 from hu) (by decide)⟩
    · exact ⟨Nat.le_trans (by decide) (show 48 ≤ c.toNat from hl),
        Nat.le_trans (show c.toNat ≤ 57 from hu) (by decide)⟩
    · decide
    · decide
  exact not_blank_of_printable hrange.1 hrange.2

theorem IsPath.starts {path : List Char} (h : IsPath path) : Starts path := by
  obtain ⟨c, rest, rfl, hc⟩ := h.head
  refine starts_cons (not_blank_of_segmentChar ?_) rest
  simp only [Bool.or_eq_true] at hc
  simp only [isSegmentChar, Bool.or_eq_true]
  rcases hc with hc | hc <;> simp [hc]

theorem IsSegment.ends {s : List Char} (h : IsSegment s) : Ends s := by
  cases h with
  | @plain c name hc hname =>
    have hlast : ∀ d ∈ c :: name, isBlank d = false := by
      intro d hd
      refine not_blank_of_segmentChar ?_
      rcases List.mem_cons.1 hd with rfl | hd
      · simp only [Bool.or_eq_true] at hc
        simp only [isSegmentChar, Bool.or_eq_true]
        rcases hc with hc | hc <;> simp [hc]
      · exact hname d hd
    refine ⟨_, List.getLast?_eq_some_getLast (List.cons_ne_nil c name), ?_⟩
    exact hlast _ (List.getLast_mem _)
  | @indexed c name index hc hname hi =>
    have hr := ends_concat (c := ')') (by decide) (c :: name ++ '(' :: index)
    simpa using hr

theorem IsPath.ends {path : List Char} (h : IsPath path) : Ends path := by
  obtain ⟨s, ss, hs, hall, rfl⟩ := h
  induction ss generalizing s with
  | nil => simpa [tailText] using hs.ends
  | cons t ss ih =>
    have ht := ih t (hall t List.mem_cons_self) fun u hu => hall u (List.mem_cons_of_mem t hu)
    have hcs : s ++ tailText (t :: ss) = s ++ ['.'] ++ (t ++ tailText ss) := by simp [tailText]
    rw [hcs]
    exact ht.append _

theorem starts_operator {op : String} (h : op ∈ operators) : Starts op.toList := by
  simp only [operators, List.mem_cons, List.not_mem_nil, or_false] at h
  rcases h with rfl | rfl | rfl | rfl | rfl | rfl | rfl | rfl | rfl | rfl | rfl | rfl | rfl |
    rfl | rfl <;> exact ⟨_, rfl, by decide⟩

/-- No operator is the beginning of an earlier one that goes on with a space. -/
theorem takeOperator?_written {op : String} (h : op ∈ operators) (rest : List Char) :
    takeOperator? (op.toList ++ ' ' :: rest) = some (op, ' ' :: rest) := by
  simp only [operators, List.mem_cons, List.not_mem_nil, or_false] at h
  rcases h with rfl | rfl | rfl | rfl | rfl | rfl | rfl | rfl | rfl | rfl | rfl | rfl | rfl |
    rfl | rfl <;> rfl

theorem not_bang {path : List Char} (h : IsPath path) (rest : List Char) :
    takeAbsent? (path ++ rest) = none := by
  obtain ⟨c, cs, rfl, hc⟩ := h.head
  have hne : c ≠ '!' := by
    rintro rfl
    exact absurd hc (by decide)
  simp [takeAbsent?, hne]

/-- A path alone tests its presence. -/
theorem takeTest?_present {path tail : List Char} (h : IsPath path) (ht : FollowsTest tail) :
    takeTest? (path ++ tail) = some (.compare (String.ofList path) "==" none, tail) := by
  have hp := takePath?_append h ht.path
  have hc : takeComparison? (path ++ tail) = none := by
    simp [takeComparison?, hp, ht.operator]
  simp [takeTest?, not_bang h, hc, takePresent?, hp]

/-- A path behind an exclamation mark tests its absence. -/
theorem takeTest?_absent {path tail : List Char} (h : IsPath path) (ht : FollowsTest tail) :
    takeTest? ('!' :: (path ++ tail)) = some (.compare (String.ofList path) "!=" none, tail) := by
  simp [takeTest?, takeAbsent?, (h.starts.append tail).skipLayout,
    takePath?_append h ht.path]

/-- A comparison comes back, whatever its value. -/
theorem takeTest?_comparison {path : List Char} (h : IsPath path) {op : String}
    (ho : op ∈ operators) (v : String) (tail : List Char) :
    takeTest? (path ++ (' ' :: (op.toList ++ ' ' :: ((criterionValue v).toList ++ tail))))
      = some (.compare (String.ofList path) op (some v), tail) := by
  have hq : (criterionValue v).toList ++ tail
      = '"' :: (escapeChar '"' (escapeChar '\\' v.toList) ++ '"' :: tail) := by
    simp [criterionValue, doubleQuoted]
  rw [hq]
  have hpath := takePath?_append h (endsPath_space (op.toList ++ ' ' ::
    ('"' :: (escapeChar '"' (escapeChar '\\' v.toList) ++ '"' :: tail))))
  have hvalue := takeQuoted?_criterion (show '"' ≠ '\\' by decide) v.toList tail
  have hcomp : takeComparison? (path ++ (' ' :: (op.toList ++ ' ' ::
      ('"' :: (escapeChar '"' (escapeChar '\\' v.toList) ++ '"' :: tail)))))
      = some (.compare (String.ofList path) op (some v), tail) := by
    simp [takeComparison?, hpath, skipLayout_space, ((starts_operator ho).append _).skipLayout,
      takeOperator?_written ho, skipLayout_cons (c := '"') (by decide), takeValue?, hvalue]
  simp [takeTest?, not_bang h, hcomp]

end EventSearch.Query.CriterionTree
