/-
# `EventSearch.Proofs.LuceneReprint` — which trees come back from their text

The text of a tree puts words and single spaces between criteria and no layout in front of a
bracket that closes something.  Two things that were typed do not survive this:

    NOT&&a        the word `NOT` stands in front of a space, and negates what follows
    (a\ )         an open backslash stands in front of the parenthesis, and protects it

A tree without them (`Reprints`) comes back from its text, and no other does (`read_toText`).

What was read of the source is carried over to the text of the tree (`sourceRead`, by induction on
the fuel for all three readers at once).  The text is then read by induction on the tree: each part
that fits in front of what stands behind it (`Fits`) is read again.  At the first part that does not
fit, reading stops in front of a connective, or a term is read that differs (`Diverge`), whatever is
read behind it.
-/
import EventSearch.Proofs.LuceneBackslash
import EventSearch.Proofs.OpenQuotes

namespace EventSearch.Query.LuceneTree

open EventSearch.Text

/-! ## Trees that come back -/

/-- A tree whose last word is `NOT`. -/
def EndsInNot : LuceneTree → Prop
  | .combine _ _ right => right.EndsInNot
  | .signed sign t => sign = none ∧ t = bareNot
  | .group _ => False

/-- A tree whose last character is a backslash that protects nothing. -/
def EndsOpen : LuceneTree → Prop
  | .combine _ _ right => right.EndsOpen
  | .signed _ t => t.EndsOpen
  | .group _ => False

/-- No word `NOT` stands in front of a connective, and no open backslash in front of a bracket. -/
def Reprints : LuceneTree → Prop
  | .combine left _ right => left.Reprints ∧ ¬ left.EndsInNot ∧ right.Reprints
  | .signed _ t => t.Reprints
  | .group inner => inner.Reprints ∧ ¬ inner.EndsOpen

instance decideEndsInNot : (t : LuceneTree) → Decidable t.EndsInNot
  | .combine _ _ right => decideEndsInNot right
  | .signed sign t => inferInstanceAs (Decidable (sign = none ∧ t = bareNot))
  | .group _ => inferInstanceAs (Decidable False)

instance decideEndsOpen : (t : LuceneTree) → Decidable t.EndsOpen
  | .combine _ _ right => decideEndsOpen right
  | .signed _ t => inferInstanceAs (Decidable t.EndsOpen)
  | .group _ => inferInstanceAs (Decidable False)

instance decideReprints : (t : LuceneTree) → Decidable t.Reprints
  | .combine left _ right =>
    have := decideReprints left
    have := decideReprints right
    inferInstanceAs (Decidable (left.Reprints ∧ ¬ left.EndsInNot ∧ right.Reprints))
  | .signed _ t => inferInstanceAs (Decidable t.Reprints)
  | .group inner =>
    have := decideReprints inner
    inferInstanceAs (Decidable (inner.Reprints ∧ ¬ inner.EndsOpen))

/-! ## What is read of the source -/

/-- A term with its sign, or a group. -/
def IsCriterion : LuceneTree → Prop
  | .combine _ _ _ => False
  | _ => True

/-- A tree as the reader makes it. -/
def Spelled : LuceneTree → Prop
  | .combine left _ right => left.Spelled ∧ right.Spelled ∧ right.IsCriterion
  | .signed _ t => t.Spelled
  | .group inner => inner.Spelled

/-- What the values of a tree start with is not closed behind them. -/
def Unclosed : LuceneTree → List Char → Prop
  | .combine left op right, after =>
      left.Unclosed (separator op ++ (right.toText.toList ++ after)) ∧ right.Unclosed after
  | .signed _ t, after => t.Unclosed after
  | .group inner, after => inner.Unclosed (')' :: after)

theorem toList_combine (left : LuceneTree) (op : Connective) (right : LuceneTree) :
    (LuceneTree.combine left op right).toText.toList
      = left.toText.toList ++ (separator op ++ right.toText.toList) := by
  simp [LuceneTree.toText, separator]

theorem toList_group (inner : LuceneTree) :
    (LuceneTree.group inner).toText.toList = '(' :: (inner.toText.toList ++ [')']) := by
  simp [LuceneTree.toText]

/-- What is known of a tree that was read. -/
structure TreeRead (cs rest : List Char) (tree : LuceneTree) : Prop where
  spelled : tree.Spelled
  kept : Kept cs tree.toText.toList rest
  unclosed : ∀ after, Milder rest after → tree.Unclosed after

theorem treeRead_signed {cs rest : List Char} {tree : LuceneTree}
    (h : takeSigned cs = .ok (tree, rest)) : tree.IsCriterion ∧ TreeRead cs rest tree := by
  obtain ⟨sign, after, t, hs, ht, rfl⟩ := takeSigned_eq_ok h
  have hterm := termRead_of_takeTerm ht
  refine ⟨trivial, hterm.spelled, ?_, hterm.unclosed⟩
  rw [toList_signed]
  exact (kept_sign hs).append hterm.kept

/-- What connectives add to a tree that was read. -/
structure ChainRead (cs rest : List Char) (first tree : LuceneTree) : Prop where
  spelled : first.Spelled → tree.Spelled
  text : ∃ more, tree.toText.toList = first.toText.toList ++ more ∧ Kept cs more rest ∧
    ∀ after, Milder rest after → first.Unclosed (more ++ after) → tree.Unclosed after

theorem ChainRead.refl (cs : List Char) (tree : LuceneTree) : ChainRead cs cs tree tree := by
  refine ⟨fun h => h, [], by simp, kept_of_plain (.refl cs) fun _ _ => List.not_mem_nil, ?_⟩
  exact fun after _ h => h

theorem ChainRead.step {cs left after rest : List Char} {first right tree : LuceneTree}
    {op : Connective} (hc : takeConnective? cs = some (op, left)) (hr : right.IsCriterion)
    (hread : TreeRead left after right)
    (h : ChainRead after rest (.combine first op right) tree) : ChainRead cs rest first tree := by
  obtain ⟨more, htext, hkept, hunclosed⟩ := h.text
  refine ⟨fun hf => h.spelled ⟨hf, hread.spelled, hr⟩,
    separator op ++ (right.toText.toList ++ more), ?_, ?_, fun last hl hu => ?_⟩
  · rw [htext, toList_combine]
    simp
  · exact (kept_connective hc).append (hread.kept.append hkept)
  · refine hunclosed last hl ⟨?_, hread.unclosed _ (hkept.before hl)⟩
    simpa using hu

/-- What is known of all that is read. -/
structure SourceRead (fuel : Nat) : Prop where
  criterion : ∀ {cs rest : List Char} {tree : LuceneTree},
    takeCriterion fuel cs = .ok (tree, rest) → tree.IsCriterion ∧ TreeRead cs rest tree
  chain : ∀ {cs rest : List Char} {first tree : LuceneTree},
    takeChain fuel first cs = (tree, rest) → ChainRead cs rest first tree
  criteria : ∀ {cs rest : List Char} {tree : LuceneTree},
    takeCriteria fuel cs = .ok (tree, rest) → TreeRead cs rest tree

theorem treeRead_chain {cs left rest : List Char} {first tree : LuceneTree}
    (hfirst : TreeRead cs left first) (h : ChainRead left rest first tree) :
    TreeRead cs rest tree := by
  obtain ⟨more, htext, hkept, hunclosed⟩ := h.text
  refine ⟨h.spelled hfirst.spelled, ?_, fun after ha => ?_⟩
  · rw [htext]
    exact hfirst.kept.append hkept
  · exact hunclosed after ha (hfirst.unclosed _ (hkept.before ha))

theorem treeRead_group {body left rest : List Char} {inner : LuceneTree}
    (hi : TreeRead (skipLayout body) left inner) (hl : skipLayout left = ')' :: rest) :
    TreeRead ('(' :: body) rest (.group inner) := by
  have hopen : Kept ('(' :: body) ['('] (skipLayout body) :=
    kept_of_plain ((milder_cons (by decide) body).trans (milder_skipLayout body))
      (plain_of_all (by decide))
  have hleft : Milder left (')' :: rest) := hl ▸ milder_skipLayout left
  have hclose : Kept left [')'] rest :=
    kept_of_plain (hleft.trans (milder_cons (by decide) rest)) (plain_of_all (by decide))
  refine ⟨hi.spelled, ?_, fun after ha => hi.unclosed _ (hclose.before ha)⟩
  rw [toList_group]
  exact hopen.append (hi.kept.append hclose)

theorem sourceRead (fuel : Nat) : SourceRead fuel := by
  induction fuel using Nat.strongRecOn with
  | ind fuel ih =>
    constructor
    case criterion =>
      intro cs rest tree h
      rcases takeCriterion_eq_ok h with h | ⟨n, inner, left, body, rfl, rfl, rfl, hi, hl⟩
      · exact treeRead_signed h
      · exact ⟨trivial, treeRead_group ((ih n (Nat.lt_succ_self n)).criteria hi) hl⟩
    case chain =>
      intro cs rest first tree h
      rcases takeChain_cases h with ⟨rfl, rfl⟩ | ⟨n, op, left, right, after, rfl, hc, hr, hchain⟩
      · exact .refl cs first
      · have hn := ih n (Nat.lt_succ_self n)
        obtain ⟨hcriterion, hread⟩ := hn.criterion hr
        exact .step hc hcriterion hread (hn.chain hchain)
    case criteria =>
      intro cs rest tree h
      obtain ⟨n, first, left, rfl, hc, hchain⟩ := takeCriteria_eq_ok h
      have hn := ih n (Nat.lt_succ_self n)
      exact treeRead_chain (hn.criterion hc).2 (hn.chain hchain)

/-! ## Parts of a text -/

/-- A tree whose text is read again in front of what stands behind it. -/
structure Fits (after : List Char) (t : LuceneTree) : Prop where
  inner : t.Reprints
  word : t.EndsInNot → after.head? ≠ some ' '
  bracket : t.EndsOpen → after.head? ≠ some ')'

theorem fits_combine {after more : List Char} {left right : LuceneTree} {op : Connective} :
    Fits after (.combine left op right) ↔ Fits (separator op ++ more) left ∧ Fits after right := by
  constructor
  · rintro ⟨⟨hleft, hword, hright⟩, hw, hb⟩
    refine ⟨⟨hleft, fun he => absurd he hword, fun _ => ?_⟩, hright, hw, hb⟩
    rw [head_separator]
    decide
  · rintro ⟨hleft, hright⟩
    have hword : ¬ left.EndsInNot := fun he => hleft.word he (head_separator op more)
    exact ⟨⟨hleft.inner, hword, hright.inner⟩, hright.word, hright.bracket⟩

theorem fits_group {after : List Char} {inner : LuceneTree} :
    Fits after (.group inner) ↔ Fits (')' :: after) inner := by
  constructor
  · rintro ⟨⟨hinner, hopen⟩, -, -⟩
    exact ⟨hinner, fun _ => by simp, fun he => absurd he hopen⟩
  · intro h
    have hopen : ¬ inner.EndsOpen := fun he => h.bracket he rfl
    exact ⟨⟨h.inner, hopen⟩, fun he => he.elim, fun he => he.elim⟩

theorem fits_nil {t : LuceneTree} : Fits [] t ↔ t.Reprints :=
  ⟨fun h => h.inner, fun h => ⟨h, fun _ => by simp, fun _ => by simp⟩⟩

/-! ## First and last characters -/

theorem starts_tree {t : LuceneTree} (h : t.Spelled) : Starts t.toText.toList := by
  induction t with
  | combine left op right ihl ihr =>
    rw [toList_combine]
    exact (ihl h.1).append _
  | group inner ih =>
    rw [toList_group]
    exact starts_cons (by decide) _
  | signed sign t =>
    rw [toList_signed]
    cases sign with
    | none => simpa [signChars] using starts_term h
    | some sign =>
      have hsign : Starts (signChars (some sign)) := by
        cases sign <;> exact starts_cons (by decide) _
      exact hsign.append _

/-- What stands behind the left side of a connective. -/
theorem behind_separator (op : Connective) {right : LuceneTree} (h : right.Spelled)
    (after : List Char) : Behind (separator op ++ (right.toText.toList ++ after)) :=
  .connective op ((starts_tree h).append after)

/-! ## Reading the text of a tree -/

/-- How the text of a criterion is read. -/
structure ReadsBack (after : List Char) (t : LuceneTree) : Prop where
  fits : Fits after t → ∀ k, t.toText.toList.length ≤ k →
    takeCriterion k (t.toText.toList ++ after) = .ok (t, after)
  strays : ¬ Fits after t → ∀ k t' rest, t.toText.toList.length ≤ k →
    takeCriterion k (t.toText.toList ++ after) = .ok (t', rest) → Diverge t'.terms t.terms

/-- How the text of criteria is read.  Each connective costs one unit of the fuel. -/
structure ChainsBack (after : List Char) (t : LuceneTree) : Prop where
  fits : Fits after t → ∃ n ≤ t.toText.toList.length, ∀ k, t.toText.toList.length ≤ k →
    takeCriteria (k + 1) (t.toText.toList ++ after) = .ok (takeChain (k - n) t after)
  strays : ¬ Fits after t → ∀ k t' rest, t.toText.toList.length ≤ k →
    takeCriteria (k + 1) (t.toText.toList ++ after) = .ok (t', rest) →
      (∃ op more, rest = separator op ++ more) ∨ Diverge t'.terms t.terms

/-- What differs from the terms of a tree still differs when more is read behind it. -/
theorem diverge_takeChain {fuel : Nat} {tree t : LuceneTree} {cs rest : List Char}
    {terms : List Term} (h : takeChain fuel tree cs = (t, rest)) (hd : Diverge tree.terms terms) :
    Diverge t.terms terms := by
  have hstep {left : LuceneTree} {op : Connective} {right : LuceneTree}
      (hl : Diverge left.terms terms) : Diverge (LuceneTree.combine left op right).terms terms := by
    rw [LuceneTree.terms]
    simpa using hl.append [] right.terms []
  exact takeChain_induction (P := fun t => Diverge t.terms terms) hstep h hd

/-- The text of a term with its sign opens no group. -/
theorem takeSigned_of_takeCriterion {sign : Option Sign} {t : Term} (h : t.Spelled)
    {k : Nat} {after rest : List Char} {tree : LuceneTree}
    (hr : takeCriterion k ((LuceneTree.signed sign t).toText.toList ++ after) = .ok (tree, rest)) :
    takeSigned ((LuceneTree.signed sign t).toText.toList ++ after) = .ok (tree, rest) := by
  rcases takeCriterion_eq_ok hr with hr | ⟨n, inner, left, body, -, he, -⟩
  · exact hr
  · exfalso
    have hhead : ((LuceneTree.signed sign t).toText.toList ++ after).head? = some '(' := by
      rw [he]
      rfl
    rw [toList_signed] at hhead
    cases sign with
    | none =>
      obtain ⟨c, hc, -, hn⟩ := head_term h
      have hc' : (signChars none ++ t.toText.toList ++ after).head? = some c := by
        simp [signChars, List.head?_append, hc]
      rw [hc'] at hhead
      exact hn (Option.some.inj hhead)
    | some sign => cases sign <;> cases hhead

theorem readsBack_signed {after : List Char} (hb : Behind after) {sign : Option Sign} {t : Term}
    (h : t.Spelled) (hu : t.Unclosed after) : ReadsBack after (.signed sign t) := by
  constructor
  case fits =>
    intro hfits k _
    have hspace (ho : t.EndsOpen) : ∀ c ∈ after.head?, c = ' ' := by
      intro c hc
      have hm := hb.head hc
      simp only [List.mem_cons, List.not_mem_nil, or_false] at hm
      rcases hm with rfl | rfl
      · rfl
      · exact absurd hc (hfits.bracket ho)
    have hread := takeSigned_spelled h hb.follows hu hfits.inner hspace
      fun hs ht => hfits.word ⟨hs, ht⟩
    exact takeCriterion_of_takeSigned hread k
  case strays =>
    intro hfits k t' rest _ hr
    have hread := takeSigned_of_takeCriterion h hr
    by_cases hnot : (sign = none ∧ t = bareNot) ∧ after.head? = some ' '
    · obtain ⟨⟨rfl, rfl⟩, hspace⟩ := hnot
      cases hb with
      | nothing => cases hspace
      | close _ => cases hspace
      | connective op hstarts =>
        obtain ⟨place, herror⟩ := takeSigned_bareNot op _
        rw [herror] at hread
        cases hread
    -- a term that ends open takes the parenthesis in as its own
    by_cases hopen : t.EndsOpen ∧ after.head? = some ')'
    · obtain ⟨hopen, hclose⟩ := hopen
      cases hb with
      | nothing => cases hclose
      | connective op hstarts =>
        rw [show _ = some ' ' from head_separator op _] at hclose
        cases hclose
      | close hafter =>
        obtain ⟨other, hne, hother⟩ := takeSigned_endsOpen sign h hopen hafter hu
        rw [hother] at hread
        cases hread
        exact diverge_cons hne [] []
    · have hreprints := takeSigned_reprints h hb hu (fun hs ht hh => hnot ⟨⟨hs, ht⟩, hh⟩) hread
      exact absurd ⟨hreprints, fun he hh => hnot ⟨he, hh⟩, fun he hh => hopen ⟨he, hh⟩⟩ hfits

theorem readsBack_group {after : List Char} {inner : LuceneTree} (hs : Starts inner.toText.toList)
    (h : ChainsBack (')' :: after) inner) : ReadsBack after (.group inner) := by
  have htext : (LuceneTree.group inner).toText.toList ++ after
      = '(' :: (inner.toText.toList ++ ')' :: after) := by
    rw [toList_group]
    simp
  have hskip : skipLayout (inner.toText.toList ++ ')' :: after) = _ := (hs.append _).skipLayout
  have hshut : Shut (')' :: after) := ⟨after, skipLayout_cons (by decide) after⟩
  have hfuel {k : Nat} (hk : (LuceneTree.group inner).toText.toList.length ≤ k) :
      ∃ j, k = j + 1 + 1 ∧ inner.toText.toList.length ≤ j := by
    rw [toList_group] at hk
    simp only [List.length_cons, List.length_append, List.length_nil] at hk
    exact ⟨k - 2, by omega, by omega⟩
  constructor
  case fits =>
    intro hfits k hk
    obtain ⟨j, rfl, hj⟩ := hfuel hk
    obtain ⟨n, -, hread⟩ := h.fits (fits_group.1 hfits)
    rw [htext, takeCriterion_paren, hskip, hread j hj, takeChain_shut hshut]
    simp only [skipLayout_cons (show isLayout ')' = false by decide)]
  case strays =>
    intro hfits k t' rest hk hr
    obtain ⟨j, rfl, hj⟩ := hfuel hk
    rw [htext, takeCriterion_paren, hskip] at hr
    split at hr
    · cases hr
    · next other left hi =>
      split at hr
      · next close hclose =>
        cases hr
        rcases h.strays (fun he => hfits (fits_group.2 he)) j other left hj hi with ⟨op, more, rfl⟩ | hd
        · -- in front of a connective there is no closing parenthesis
          obtain ⟨c, ds, he, hn⟩ := skipLayout_separator op more
          rw [he] at hclose
          rw [(List.cons.inj hclose).1] at hn
          exact absurd (by decide) hn
        · exact hd
      · cases hr

/-- A criterion by itself. -/
theorem chainsBack_of_readsBack {after : List Char} {t : LuceneTree} (h : ReadsBack after t) :
    ChainsBack after t := by
  refine ⟨fun hfits => ⟨0, Nat.zero_le _, fun k hk => ?_⟩, fun hfits k t' rest hk hr => .inr ?_⟩
  · rw [takeCriteria_succ, h.fits hfits k hk]
    rfl
  · obtain ⟨n, first, left, hn, hc, hchain⟩ := takeCriteria_eq_ok hr
    obtain rfl := Nat.succ.inj hn
    exact diverge_takeChain hchain (h.strays hfits k first left hk hc)

theorem length_separator (op : Connective) : 0 < (separator op).length := by
  cases op <;> decide

/-- A connective and a criterion behind criteria. -/
theorem chainsBack_combine {after : List Char} {left right : LuceneTree} {op : Connective}
    (hs : Starts right.toText.toList)
    (hl : ChainsBack (separator op ++ (right.toText.toList ++ after)) left)
    (hr : ReadsBack after right) : ChainsBack after (.combine left op right) := by
  have htext : (LuceneTree.combine left op right).toText.toList ++ after
      = left.toText.toList ++ (separator op ++ (right.toText.toList ++ after)) := by
    rw [toList_combine]
    simp
  have hconnective : takeConnective? (separator op ++ (right.toText.toList ++ after))
      = some (op, right.toText.toList ++ after) := takeConnective?_written op (hs.append after)
  have hlength : (LuceneTree.combine left op right).toText.toList.length
      = left.toText.toList.length + ((separator op).length + right.toText.toList.length) := by
    rw [toList_combine, List.length_append, List.length_append]
  have hsep := length_separator op
  constructor
  case fits =>
    intro hfits
    obtain ⟨hleft, hright⟩ := fits_combine.1 hfits
    obtain ⟨n, hn, hreads⟩ := hl.fits hleft
    refine ⟨n + 1, by omega, fun k hk => ?_⟩
    obtain ⟨j, hj⟩ : ∃ j, k - n = j + 1 := ⟨k - n - 1, by omega⟩
    have hcriterion := hr.fits hright j (by omega)
    rw [htext, hreads k (by omega), hj]
    simp only [takeChain, hconnective, hcriterion]
    rw [show k - (n + 1) = j by omega]
  case strays =>
    intro hfits k t' rest hk hread
    rw [htext] at hread
    -- either the right side strays, behind a left side that is read again, or the left side does
    by_cases hleft : Fits (separator op ++ (right.toText.toList ++ after)) left
    · have hright : ¬ Fits after right := fun he => hfits (fits_combine.2 ⟨hleft, he⟩)
      obtain ⟨n, hn, hreads⟩ := hl.fits hleft
      obtain ⟨j, hj⟩ : ∃ j, k - n = j + 1 := ⟨k - n - 1, by omega⟩
      rw [hreads k (by omega), hj] at hread
      have hchain := Except.ok.inj hread
      simp only [takeChain, hconnective] at hchain
      split at hchain
      · obtain ⟨-, rfl⟩ := Prod.mk.inj hchain
        exact .inl ⟨op, _, rfl⟩
      · next other left' hother =>
        have hd := hr.strays hright j other left' (by omega) hother
        refine .inr (diverge_takeChain hchain ?_)
        rw [LuceneTree.terms, LuceneTree.terms]
        simpa using hd.append left.terms [] []
    · rcases hl.strays hleft k t' rest (by omega) hread with hstop | hd
      · exact .inl hstop
      · refine .inr ?_
        rw [LuceneTree.terms]
        simpa using hd.append [] [] right.terms

/-- How the text of every part of a tree is read. -/
theorem readsBack {t : LuceneTree} (h : t.Spelled) {after : List Char} (hb : Behind after)
    (hu : t.Unclosed after) : ChainsBack after t ∧ (t.IsCriterion → ReadsBack after t) := by
  induction t generalizing after with
  | signed sign t =>
    have hread : ReadsBack after (.signed sign t) := readsBack_signed hb h hu
    exact ⟨chainsBack_of_readsBack hread, fun _ => hread⟩
  | group inner ih =>
    have hstarts : Starts inner.toText.toList := starts_tree h
    have hread := readsBack_group hstarts (ih h (.close hb) hu).1
    exact ⟨chainsBack_of_readsBack hread, fun _ => hread⟩
  | combine left op right ihl ihr =>
    obtain ⟨hleft, hright, hcriterion⟩ := h
    have hl := (ihl hleft (behind_separator op hright after) hu.1).1
    have hr := (ihr hright hb hu.2).2 hcriterion
    exact ⟨chainsBack_combine (starts_tree hright) hl hr, fun hc => hc.elim⟩

/-! ## Trees that are read -/

theorem ends_operand {o : Operand} (h : o.Spelled) : Ends o.toText.toList := by
  cases o with
  | single s => simpa [Operand.toText, enclosed] using
      ends_concat (c := '\'') (by decide) ('\'' :: escapeChar '\'' s.toList)
  | double s => simpa [Operand.toText, enclosed] using
      ends_concat (c := '"') (by decide) ('"' :: escapeChar '"' s.toList)
  | pattern s => simpa [Operand.toText, enclosed] using
      ends_concat (c := '/') (by decide) ('/' :: escapeChar '/' s.toList)
  | bare raw =>
    have hunbroken : Unbroken raw.toList := BareText.not_blank_of_scan h.1
    exact hunbroken.ends fun hn => h.2 (by rw [hn]; decide)

theorem ends_modifierText (m : Modifier) : Ends (modifierText (some m)) := by
  have hdigits (n : Nat) : Ends (Nat.toDigits 10 n) :=
    (Number.digits_toDigits n).unbroken.ends Nat.toDigits_ne_nil
  cases m with
  | boost n => simpa [modifierText, Modifier.toText, Nat.toList_repr] using (hdigits n).append ['^']
  | fuzzy count =>
    cases count with
    | none => exact ends_concat (by decide) []
    | some n => simpa [modifierText, Modifier.toText, Nat.toList_repr] using (hdigits n).append ['~']

theorem ends_term {t : Term} (h : t.Spelled) : Ends t.toText.toList := by
  rw [Term.toList_toText]
  refine Ends.append ?_ _
  cases t with
  | value field o modifier =>
    cases modifier with
    | none => simpa [Term.body, modifierText] using ends_operand h.2.1
    | some m => exact (ends_modifierText m).append _
  | inclusive field low high =>
    have hclose : Ends [']'] := ends_concat (by decide) []
    simpa [Term.body, boundsText] using
      hclose.append ('[' :: (low.toText.toList ++ (" TO ".toList ++ high.toText.toList)))
  | exclusive field low high =>
    have hclose : Ends ['}'] := ends_concat (by decide) []
    simpa [Term.body, boundsText] using
      hclose.append ('{' :: (low.toText.toList ++ (" TO ".toList ++ high.toText.toList)))

theorem ends_tree {t : LuceneTree} (h : t.Spelled) : Ends t.toText.toList := by
  induction t with
  | combine left op right ihl ihr =>
    rw [toList_combine, ← List.append_assoc]
    exact (ihr h.2.1).append _
  | signed sign t =>
    rw [toList_signed]
    exact (ends_term h).append _
  | group inner ih =>
    rw [toList_group]
    exact ends_concat (by decide) ('(' :: inner.toText.toList)

/-- A text in front of a connective is not blank. -/
theorem allBlank_separator (op : Connective) (more : List Char) :
    allBlank (separator op ++ more) = false := by
  obtain ⟨word, hw, he⟩ := separator_eq op
  rw [he]
  simp only [List.mem_cons, List.not_mem_nil, or_false] at hw
  rcases hw with rfl | rfl <;> simp [allBlank, isBlank]

/-- The text of a tree that was read is read as the same tree exactly when no word `NOT` stands in
front of a connective and no open backslash in front of a bracket. -/
theorem read_toText {s : String} {t : LuceneTree} (h : read s = .ok t) :
    read t.toText = .ok t ↔ t.Reprints := by
  have hread := (sourceRead _).criteria (takeCriteria_of_read h)
  have hchains := (readsBack hread.spelled .nothing (hread.unclosed [] (.refl []))).1
  have htight : Tight t.toText.toList := ⟨starts_tree hread.spelled, ends_tree hread.spelled⟩
  have hlength : t.toText.toList.length ≤ 3 * t.toText.toList.length + 2 := by omega
  have hreading : takeCriteria (fuelFor (trim t.toText.toList)) (trim t.toText.toList)
      = takeCriteria (3 * t.toText.toList.length + 2 + 1) (t.toText.toList ++ []) := by
    rw [htight.trim, List.append_nil]
    rfl
  rw [← fits_nil]
  simp only [read, hreading]
  constructor
  · intro hr
    by_cases hfits : Fits [] t
    · exact hfits
    exfalso
    split at hr
    · cases hr
    · next other rest hother =>
      split at hr
      · next hblank =>
        cases hr
        rcases hchains.strays hfits _ t rest hlength hother with ⟨op, more, rfl⟩ | hd
        · rw [allBlank_separator] at hblank
          cases hblank
        · exact hd.ne rfl
      · cases hr
  · intro hfits
    obtain ⟨n, -, hn⟩ := hchains.fits hfits
    rw [hn _ hlength, takeChain_nil]
    rfl

/-- `"a/b"||NOT 'it (f.g:x\*^007)` -/
theorem read_toText_samples :
    ∃ t, read "\"a/b\"||NOT  'it (f.g:x\\*^007 )" = .ok t ∧ read t.toText = .ok t := by
  have h : read "\"a/b\"||NOT  'it (f.g:x\\*^007 )" = .ok
      (.combine (.combine (.signed none (.value none (.double "a/b") none)) .or
          (.signed (some .not) (.value none (.bare "'it") none))) .and
        (.group (.signed none
          (.value (some ⟨[⟨"f", none⟩, ⟨"g", none⟩]⟩) (.bare "x\\*") (some (.boost 7)))))) :=
    eq_ok_of_toOption (by decide +kernel)
  exact ⟨_, h, (read_toText h).2 (by decide +kernel)⟩

/-- The word `NOT` in front of a symbol, and an open backslash in front of a space. -/
theorem read_toText_lost :
    (∃ t, read "NOT&&a" = .ok t ∧ read t.toText ≠ .ok t) ∧
      ∃ t, read "(a\\ )" = .ok t ∧ read t.toText ≠ .ok t := by
  have hnot : read "NOT&&a" = .ok
      (.combine (.signed none bareNot) .and (.signed none (.value none (.bare "a") none))) :=
    eq_ok_of_toOption (by decide +kernel)
  have hopen : read "(a\\ )" = .ok
      (.group (.signed none (.value none (.bare "a\\") none))) :=
    eq_ok_of_toOption (by decide +kernel)
  refine ⟨⟨_, hnot, fun h => ?_⟩, _, hopen, fun h => ?_⟩
  · have hnone : (read (LuceneTree.combine (.signed none bareNot) .and
        (.signed none (.value none (.bare "a") none))).toText).toOption = none := by decide +kernel
    rw [h] at hnone
    cases hnone
  · have hnone : (read (LuceneTree.group
        (.signed none (.value none (.bare "a\\") none))).toText).toOption = none := by decide +kernel
    rw [h] at hnone
    cases hnone

end EventSearch.Query.LuceneTree
