/-
# `EventSearch.Proofs.MarkedTexts` — a marked text and the pieces it was marked by

Marking cuts a text at the matches of some terms and puts markers around them.  `CutAt` says what the
cut is: at each place the first term that matches there, from the left, and one match behind the
other.  From the marked text the pieces are read back in two ways, by cutting it at its markers and by
removing them.  Both go wrong in the same manner.  The markers begin and end in one character, so text
that ends in a marker without its last character, put in front of that marker, completes one early:

    ❤HL💘DS ❤HL💘DS❤ 7 ❥HL💘DS❥      a match of 7 behind such a text
    ❤HL💘DS❤ HL💘DS❤ 7 ❥HL💘DS❥      as the marker is found

Nothing else can go wrong with a text that holds no marker (`removeAll_marked_iff`,
`cuts_marked_iff`).  What the text in front of a marker is, the two ways see differently (`Clear`).
-/
import Mathlib.Data.List.Forall2
import EventSearch.Proofs.MarkerRemoval

namespace EventSearch.Highlight

open EventSearch.Pattern EventSearch.Text

/-! ## The cut at the matches -/

/-- A text cut at the matches of some terms: no match begins in a plain piece, and a match is the first
one at its place. -/
inductive CutAt (terms : List (List Char)) : List Char → List Fragment → Prop where
  | last {p : List Char} (hplain : ∀ x y, y ≠ [] → p = x ++ y → matchAny? terms y = none) :
      CutAt terms p (plainPiece p)
  | hit {p m rest : List Char} {pieces : List Fragment}
      (hplain : ∀ x y, x.length < p.length → p ++ (m ++ rest) = x ++ y → matchAny? terms y = none)
      (hhit : matchAny? terms (m ++ rest) = some (m, rest)) (more : CutAt terms rest pieces) :
      CutAt terms (p ++ (m ++ rest)) (plainPiece p ++ .hit (String.ofList m) :: pieces)

/-- A match of a term agrees with it letter by letter, in either case. -/
theorem matchTerm?_eq_some {term text hit rest : List Char} :
    matchTerm? term text = some (hit, rest) ↔
      text = hit ++ rest ∧ List.Forall₂ (fun t c => sameFold t c = true) term hit := by
  induction term generalizing text hit with
  | nil =>
    simp only [matchTerm?, Option.some.injEq, Prod.mk.injEq, List.forall₂_nil_left_iff]
    constructor
    · rintro ⟨rfl, rfl⟩
      exact ⟨rfl, rfl⟩
    · rintro ⟨rfl, rfl⟩
      exact ⟨rfl, rfl⟩
  | cons t term ih =>
    cases text with
    | nil =>
      simp only [matchTerm?, reduceCtorEq, List.nil_eq, List.append_eq_nil_iff, false_iff, not_and]
      rintro ⟨rfl, -⟩ h
      cases h
    | cons c text =>
      rw [matchTerm?, List.forall₂_cons_left_iff]
      constructor
      · intro h
        split at h
        · next hfold =>
          obtain ⟨⟨hit', rest'⟩, hmatch, heq⟩ := Option.map_eq_some_iff.1 h
          obtain ⟨rfl, rfl⟩ := Prod.mk.inj heq
          obtain ⟨rfl, hforall⟩ := ih.1 hmatch
          exact ⟨rfl, c, hit', hfold, hforall, rfl⟩
        · cases h
      · rintro ⟨happend, d, hit', hfold, hforall, rfl⟩
        rw [List.cons_append, List.cons.injEq] at happend
        obtain ⟨rfl, rfl⟩ := happend
        rw [if_pos hfold, ih.2 ⟨rfl, hforall⟩]
        rfl

theorem matchAny?_append {terms : List (List Char)} {text hit rest : List Char}
    (h : matchAny? terms text = some (hit, rest)) : text = hit ++ rest := by
  obtain ⟨term, -, hterm⟩ := List.exists_of_findSome?_eq_some h
  exact (matchTerm?_eq_some.1 hterm).1

/-- Terms that are not empty have no empty matches. -/
theorem matchAny?_ne_nil {terms : List (List Char)} (hterms : [] ∉ terms) {text hit rest : List Char}
    (h : matchAny? terms text = some (hit, rest)) : hit ≠ [] := by
  obtain ⟨term, hmem, hterm⟩ := List.exists_of_findSome?_eq_some h
  rintro rfl
  have hnil := (matchTerm?_eq_some.1 hterm).2
  cases hnil
  exact hterms hmem

/-- The cut of a text, `before` being what was gone through since the last match. -/
theorem cutAt_cutAtTerms {terms : List (List Char)} (hterms : [] ∉ terms) (before text : List Char)
    (hplain : ∀ x y, x.length < before.length → before.reverse ++ text = x ++ y →
      matchAny? terms y = none) :
    CutAt terms (before.reverse ++ text) (cutAtTerms terms before text) := by
  fun_induction cutAtTerms terms before text with
  | case1 before =>
    rw [List.append_nil]
    refine .last fun x y hy hxy => hplain x y ?_ ((List.append_nil _).trans hxy)
    have hlength := congrArg List.length hxy
    have hpos := List.length_pos_iff.2 hy
    rw [List.length_reverse, List.length_append] at hlength
    omega
  | case2 before c rest hnone ih =>
    have htext : (c :: before).reverse ++ rest = before.reverse ++ c :: rest := by simp
    rw [← htext]
    refine ih fun x y hx hxy => ?_
    rw [htext] at hxy
    rcases Nat.lt_or_ge x.length before.length with hlt | hge
    · exact hplain x y hlt hxy
    · have hlength : before.reverse.length = x.length := by
        rw [List.length_cons] at hx
        rw [List.length_reverse]
        omega
      rw [← (List.append_inj hxy hlength).2]
      exact hnone
  | case3 before c rest hit after hmatch hless ih =>
    have hsplit := matchAny?_append hmatch
    rw [hsplit] at hmatch hplain ⊢
    refine .hit (fun x y hx hxy => hplain x y (by rwa [List.length_reverse] at hx) hxy) hmatch ?_
    exact ih fun x y hx _ => absurd hx (Nat.not_lt_zero _)
  | case4 before c rest hit after hmatch hnotless ih =>
    have hpos := List.length_pos_iff.2 (matchAny?_ne_nil hterms hmatch)
    have hlength := congrArg List.length (matchAny?_append hmatch)
    rw [List.length_cons, List.length_append] at hlength
    omega

/-- There is one cut. -/
theorem CutAt.unique {terms : List (List Char)} (hterms : [] ∉ terms) {text : List Char}
    {pieces pieces' : List Fragment} (hcut : CutAt terms text pieces)
    (hcut' : CutAt terms text pieces') : pieces = pieces' := by
  have hbehind {m rest : List Char} (hhit : matchAny? terms (m ++ rest) = some (m, rest)) :
      m ++ rest ≠ [] :=
    fun hnil => matchAny?_ne_nil hterms hhit (List.append_eq_nil_iff.1 hnil).1
  induction hcut generalizing pieces' with
  | @last p hplain =>
    generalize htext : p = text at hcut'
    cases hcut' with
    | last hplain' => rfl
    | hit hplain' hhit more =>
      rw [hplain _ _ (hbehind hhit) htext] at hhit
      cases hhit
  | @hit p m rest pieces hplain hhit more ih =>
    generalize htext : p ++ (m ++ rest) = text at hcut'
    cases hcut' with
    | last hplain' =>
      rw [hplain' _ _ (hbehind hhit) htext.symm] at hhit
      cases hhit
    | @hit p' m' rest' pieces' hplain' hhit' more' =>
      have hlength : p.length = p'.length := by
        by_contra hne
        rcases Nat.lt_or_gt_of_ne hne with hlt | hgt
        · rw [hplain' _ _ hlt htext.symm] at hhit
          cases hhit
        · rw [hplain _ _ hgt htext] at hhit'
          cases hhit'
      obtain ⟨rfl, hrest⟩ := List.append_inj htext hlength
      rw [hrest, hhit'] at hhit
      obtain ⟨rfl, rfl⟩ := Prod.mk.inj (Option.some.inj hhit)
      rw [ih more']

/-! ## Framed markers -/

/-- Two different characters around one middle that holds neither. -/
structure Frames (a b : Char) (mid : List Char) : Prop where
  ne : a ≠ b
  opening_mid : a ∉ mid
  closing_mid : b ∉ mid
  mid_ne : mid ≠ []

theorem Frames.opening_not_mem {a b : Char} {mid : List Char} (hf : Frames a b mid) :
    a ∉ framed b mid := by
  simp [framed, hf.opening_mid, hf.ne]

theorem Frames.closing_not_mem {a b : Char} {mid : List Char} (hf : Frames a b mid) :
    b ∉ framed a mid := by
  simp [framed, hf.closing_mid, hf.ne.symm]

/-- Markers of one middle in two different frames. -/
structure Framed (h : Highlight) (a b : Char) (mid : List Char) : Prop extends Frames a b mid where
  opening : h.opening.toList = framed a mid
  closing : h.closing.toList = framed b mid

theorem frames_default : Frames '❤' '❥' "HL💘DS".toList := by
  constructor <;> decide

theorem framed_default : Framed .default '❤' '❥' "HL💘DS".toList :=
  ⟨frames_default, by decide, by decide⟩

/-- A text that holds neither marker. -/
structure Unmarked (h : Highlight) (text : List Char) : Prop where
  opening : ¬ h.opening.toList <:+: text
  closing : ¬ h.closing.toList <:+: text

theorem Unmarked.part {h : Highlight} {text part : List Char} (hu : Unmarked h text)
    (hpart : part <:+: text) : Unmarked h part :=
  ⟨fun hi => hu.opening (hi.trans hpart), fun hi => hu.closing (hi.trans hpart)⟩

/-! ## Pieces read back -/

/-- What the closing marker is looked for behind when a text is cut: the match. -/
def cutView (_before hit : List Char) : List Char := hit

/-- What the closing marker is looked for behind when markers are removed: all text since the last
match, for the opening marker is gone by then. -/
def stripView (before hit : List Char) : List Char := before ++ hit

/-- No marker around a match is completed early: the text in front of it does not end in the marker
without its last character.  `before` is the text since the last match. -/
def Clear (h : Highlight) (view : List Char → List Char → List Char) (before : List Char) :
    List Fragment → Prop
  | [] => True
  | .plain s :: pieces => Clear h view (before ++ s.toList) pieces
  | .hit s :: pieces => ¬ h.opening.toList.dropLast <:+ before ∧
      ¬ h.closing.toList.dropLast <:+ view before s.toList ∧ Clear h view [] pieces

theorem clear_plainPiece (h : Highlight) (view : List Char → List Char → List Char)
    (before p : List Char) (pieces : List Fragment) :
    Clear h view before (plainPiece p ++ pieces) ↔ Clear h view (before ++ p) pieces := by
  cases p <;> simp [plainPiece, Clear]

theorem infix_stretch (p m rest : List Char) : p ++ m <:+: p ++ (m ++ rest) :=
  ⟨[], rest, by simp⟩

theorem infix_behind (p m rest : List Char) : rest <:+: p ++ (m ++ rest) :=
  ⟨p ++ m, [], by simp⟩

/-- Where the markers can be removed, the text can be cut at them. -/
theorem Clear.cut_of_strip {h : Highlight} {before : List Char} {pieces : List Fragment}
    (hclear : Clear h stripView before pieces) : Clear h cutView before pieces := by
  induction pieces generalizing before with
  | nil => trivial
  | cons piece pieces ih =>
    cases piece with
    | plain s => exact ih hclear
    | hit s =>
      obtain ⟨hopening, hclosing, hrest⟩ := hclear
      exact ⟨hopening, fun hm => hclosing (hm.trans (List.suffix_append before _)), ih hrest⟩

/-- A text in which no marker stands, not even without its last character, completes none. -/
theorem CutAt.clear {h : Highlight} {terms : List (List Char)} {text : List Char}
    {pieces : List Fragment} (hcut : CutAt terms text pieces)
    (hopening : ¬ h.opening.toList.dropLast <:+: text)
    (hclosing : ¬ h.closing.toList.dropLast <:+: text) : Clear h stripView [] pieces := by
  induction hcut with
  | @last p hplain =>
    rw [← List.append_nil (plainPiece p), clear_plainPiece]
    trivial
  | @hit p m rest pieces hplain hhit more ih =>
    rw [clear_plainPiece, List.nil_append, Clear, String.toList_ofList]
    refine ⟨fun hp => hopening ?_, fun hm => hclosing (hm.isInfix.trans (infix_stretch p m rest)),
      ih (fun hi => hopening (hi.trans (infix_behind p m rest)))
        fun hi => hclosing (hi.trans (infix_behind p m rest))⟩
    exact hp.isInfix.trans (List.prefix_append p _).isInfix

section

variable {h : Highlight} {a b : Char} {mid p m rest rest' : List Char}

/-- Opening markers are removed on each side of a closing one for itself. -/
theorem removeAll_opening_append (hf : Frames a b mid) (u rest : List Char) :
    removeAll (framed a mid) (u ++ framed b mid ++ rest)
      = removeAll (framed a mid) u ++ framed b mid ++ removeAll (framed a mid) rest := by
  have hmid : removeAll (framed a mid) mid = mid := by
    refine removeAll_eq_self fun hin => hf.opening_mid ?_
    exact hin.subset (List.mem_cons_self ..)
  have hsplit : u ++ framed b mid ++ rest = u ++ b :: (mid ++ b :: rest) := by simp [framed]
  rw [hsplit, removeAll_append_cons (framed_ne_nil a mid) hf.closing_not_mem,
    removeAll_append_cons (framed_ne_nil a mid) hf.closing_not_mem, hmid]
  simp [framed]

/-- A text that begins an opening marker early is not what removing the markers leaves. -/
theorem strip_early_ne {x : List Char} (hf : Frames a b mid) (hm : ¬ framed a mid <:+: m)
    (hx : ¬ framed b mid <:+: x) (hcount : rest'.count a ≤ rest.count a) :
    removeAll (framed b mid) (x ++ (mid ++ removeAll (framed a mid) (a :: m)) ++ framed b mid ++ rest')
      ≠ x ++ a :: mid ++ m ++ rest := by
  intro heq
  have hnot := hf.opening_not_mem
  by_cases hagain : framed a mid <:+: a :: m
  · -- two opening markers are gone for one: a frame character is missing
    obtain ⟨marks, hmarks, hpos⟩ := exists_count_removeAll (framed_ne_nil a mid) (a :: m)
    have hgone : 2 ≤ marks * (framed a mid).count a := by
      have htwo : (framed a mid).count a = 2 := by
        simp [framed, List.count_eq_zero.2 hf.opening_mid]
      rw [htwo]
      have := hpos hagain
      omega
    have hleft := hmarks a
    have hall := congrArg (List.count a) heq
    rw [count_removeAll (framed_ne_nil b mid) hnot] at hall
    simp only [List.count_append, List.count_cons_self, List.count_eq_zero.2 hf.opening_mid,
      List.count_eq_zero.2 hnot] at hall hleft
    omega
  · -- the frame character that was left over stands behind the middle, not in front of it
    have hfront : ¬ framed b mid <:+: x ++ mid := fun hin => hx (infix_of_append hf.closing_mid hin)
    obtain ⟨e, middle, rfl⟩ := List.exists_cons_of_ne_nil hf.mid_ne
    rw [removeAll_eq_self hagain] at heq
    have hsplit : x ++ (e :: middle ++ a :: m) ++ framed b (e :: middle) ++ rest'
        = (x ++ e :: middle) ++ a :: (m ++ framed b (e :: middle) ++ rest') := by simp
    rw [hsplit, removeAll_append_cons (framed_ne_nil b _) hnot, removeAll_eq_self hfront] at heq
    simp only [List.append_assoc, List.append_cancel_left_eq, List.cons_append,
      List.cons.injEq] at heq
    exact hf.opening_mid (heq.1 ▸ List.mem_cons_self)

/-- One match after the other: the markers around a match are both removed exactly when neither is
completed early and removal goes well behind the match. -/
theorem strip_hit_iff (hf : Framed h a b mid) (hu : Unmarked h (p ++ m))
    (hcount : (removeAll h.opening.toList rest').count a ≤ rest.count a) :
    removeAll h.closing.toList (removeAll h.opening.toList
        (p ++ h.opening.toList ++ m ++ h.closing.toList ++ rest')) = p ++ (m ++ rest) ↔
      ¬ h.opening.toList.dropLast <:+ p ∧ ¬ h.closing.toList.dropLast <:+ p ++ m ∧
        removeAll h.closing.toList (removeAll h.opening.toList rest') = rest := by
  obtain ⟨hframes, hopening, hclosing⟩ := hf
  have ⟨_, ha, hb, hmid⟩ := hframes
  obtain ⟨hu, hu'⟩ := hu
  rw [hopening] at hu hcount
  rw [hclosing] at hu'
  rw [hopening, hclosing, dropLast_framed, dropLast_framed, removeAll_opening_append hframes]
  have hp : ¬ framed a mid <:+: p := fun hi => hu (hi.trans (List.prefix_append p m).isInfix)
  have hm : ¬ framed a mid <:+: m := fun hi => hu (hi.trans (List.suffix_append p m).isInfix)
  by_cases hearly : a :: mid <:+ p
  · refine iff_of_false (fun heq => ?_) fun hall => hall.1 hearly
    obtain ⟨x, rfl⟩ := hearly
    rw [removeAll_framed_early ha hp] at heq
    have hx : ¬ framed b mid <:+: x := fun hi =>
      hu' (hi.trans ((List.prefix_append x _).trans (List.prefix_append _ m)).isInfix)
    exact strip_early_ne hframes hm hx hcount (by simpa only [List.append_assoc] using heq)
  · rw [removeAll_framed ha hp hearly, removeAll_eq_self hm]
    by_cases hclose : b :: mid <:+ p ++ m
    · refine iff_of_false (fun heq => ?_) fun hall => hall.2.1 hclose
      obtain ⟨z, hz⟩ := hclose
      rw [← hz] at hu' heq
      rw [removeAll_framed_early hb hu', ← List.append_assoc p m, ← hz] at heq
      obtain ⟨e, middle, rfl⟩ := List.exists_cons_of_ne_nil hmid
      simp only [List.append_assoc, List.append_cancel_left_eq, List.cons_append,
        List.cons.injEq] at heq
      exact hb (heq.1 ▸ List.mem_cons_self)
    · rw [removeAll_framed hb hu' hclose, ← List.append_assoc p m, List.append_cancel_left_eq]
      exact ⟨fun heq => ⟨hearly, hclose, heq⟩, fun hall => hall.2.2⟩

theorem plainPiece_append_inj {p q : List Char} {s t : String} {ps qs : List Fragment}
    (heq : plainPiece p ++ .hit s :: ps = plainPiece q ++ .hit t :: qs) : p = q ∧ s = t ∧ ps = qs := by
  cases p <;> cases q <;> simp_all [plainPiece, String.ofList_inj]

/-- A run that ends in some pieces with a match begins with the turn that finds it. -/
theorem cuts_hit {opening closing text p m : List Char} {pieces : List Fragment} :
    Cuts opening closing text (plainPiece p ++ .hit (String.ofList m) :: pieces) ↔
      ∃ after, nextHit? opening closing text = some (p, m, after) ∧ Cuts opening closing after pieces := by
  constructor
  · intro h
    generalize hps : plainPiece p ++ .hit (String.ofList m) :: pieces = ps at h
    cases h with
    | done hnext =>
      have hmem : .hit (String.ofList m) ∈ plainPiece text :=
        hps ▸ List.mem_append_right _ List.mem_cons_self
      cases (mem_plainPiece.1 hmem).2
    | turn hnext more =>
      obtain ⟨rfl, hm, rfl⟩ := plainPiece_append_inj hps
      obtain rfl := String.ofList_inj.1 hm
      exact ⟨_, hnext, more⟩
  · rintro ⟨after, hnext, more⟩
    exact .turn hnext more

/-- One match after the other: a marked text is cut at the markers around a match exactly when neither
is completed early and the cut goes on behind the match. -/
theorem cuts_hit_iff (hf : Framed h a b mid) (hu : Unmarked h (p ++ m)) {pieces : List Fragment} :
    Cuts h.opening.toList h.closing.toList
        (p ++ h.opening.toList ++ m ++ h.closing.toList ++ rest')
        (plainPiece p ++ .hit (String.ofList m) :: pieces) ↔
      ¬ h.opening.toList.dropLast <:+ p ∧ ¬ h.closing.toList.dropLast <:+ m ∧
        Cuts h.opening.toList h.closing.toList rest' pieces := by
  obtain ⟨⟨-, ha, hb, -⟩, hopening, hclosing⟩ := hf
  obtain ⟨hu, hu'⟩ := hu
  rw [hopening] at hu
  rw [hclosing] at hu'
  rw [hopening, hclosing, dropLast_framed, dropLast_framed, cuts_hit]
  have hp : ¬ framed a mid <:+: p := fun hi => hu (hi.trans (List.prefix_append p m).isInfix)
  have hm : ¬ framed b mid <:+: m := fun hi => hu' (hi.trans (List.suffix_append p m).isInfix)
  have htext : p ++ framed a mid ++ m ++ framed b mid ++ rest'
      = p ++ framed a mid ++ (m ++ framed b mid ++ rest') := by simp only [List.append_assoc]
  have hnext : ¬ a :: mid <:+ p → ¬ b :: mid <:+ m →
      nextHit? (framed a mid) (framed b mid) (p ++ framed a mid ++ m ++ framed b mid ++ rest')
        = some (p, m, rest') := by
    intro hearly hclose
    rw [htext]
    exact nextHit?_eq_some.2 ⟨_, cut?_framed ha hp hearly _, cut?_framed hb hm hclose _⟩
  constructor
  · rintro ⟨after, hfound, more⟩
    obtain ⟨behind, hcut, hcut'⟩ := nextHit?_eq_some.1 hfound
    -- a marker that is completed early would have left another piece in front of it
    have hearly : ¬ a :: mid <:+ p := by
      rintro ⟨x, rfl⟩
      rw [htext, cut?_framed_early ha hp] at hcut
      simp at hcut
    obtain rfl : m ++ framed b mid ++ rest' = behind := by
      rw [htext, cut?_framed ha hp hearly] at hcut
      simpa using hcut
    have hclose : ¬ b :: mid <:+ m := by
      rintro ⟨z, rfl⟩
      rw [cut?_framed_early hb hm] at hcut'
      simp at hcut'
    rw [hnext hearly hclose] at hfound
    simp only [Option.some.injEq, Prod.mk.injEq, true_and] at hfound
    exact ⟨hearly, hclose, hfound ▸ more⟩
  · rintro ⟨hearly, hclose, more⟩
    exact ⟨rest', hnext hearly hclose, more⟩

end

section

variable {h : Highlight} {a b : Char} {mid text : List Char} {terms : List (List Char)}
  {pieces : List Fragment}

theorem markedChars_stretch (h : Highlight) (p m : List Char) (pieces : List Fragment) :
    h.markedChars (plainPiece p ++ .hit (String.ofList m) :: pieces)
      = p ++ h.opening.toList ++ m ++ h.closing.toList ++ h.markedChars pieces := by
  simp

/-- Removing opening markers takes at least those that were put there. -/
theorem count_removeAll_marked (hf : Framed h a b mid) (hcut : CutAt terms text pieces) :
    (removeAll h.opening.toList (h.markedChars pieces)).count a ≤ text.count a := by
  induction hcut with
  | @last p hplain =>
    obtain ⟨marks, hcount, -⟩ := exists_count_removeAll (hf.opening ▸ framed_ne_nil a mid) p
    rw [markedChars_plainPiece, hcount a]
    exact Nat.le_add_right ..
  | @hit p m rest pieces hplain hhit more ih =>
    obtain ⟨hframes, hopening, hclosing⟩ := hf
    rw [hopening] at ih
    rw [markedChars_stretch, hopening, hclosing, removeAll_opening_append hframes]
    obtain ⟨marks, hcount, hpos⟩ :=
      exists_count_removeAll (framed_ne_nil a mid) (p ++ framed a mid ++ m)
    have hstretch := hcount a
    have hone : (framed a mid).count a ≤ marks * (framed a mid).count a :=
      Nat.le_mul_of_pos_left _ (hpos ⟨p, m, rfl⟩)
    have hnone : (framed b mid).count a = 0 := List.count_eq_zero.2 hframes.opening_not_mem
    simp only [List.count_append] at hstretch ⊢
    omega

/-- Removing the markers gives a text back exactly when none of them is completed early. -/
theorem removeAll_marked_iff (hf : Framed h a b mid) (hu : Unmarked h text)
    (hcut : CutAt terms text pieces) :
    removeAll h.closing.toList (removeAll h.opening.toList (h.markedChars pieces)) = text ↔
      Clear h stripView [] pieces := by
  induction hcut with
  | @last p hplain =>
    rw [markedChars_plainPiece, removeAll_eq_self hu.opening, removeAll_eq_self hu.closing,
      ← List.append_nil (plainPiece p), clear_plainPiece]
    exact iff_of_true rfl trivial
  | @hit p m rest pieces hplain hhit more ih =>
    have hstretch := hu.part (infix_stretch p m rest)
    rw [markedChars_stretch, strip_hit_iff hf hstretch (count_removeAll_marked hf more),
      ih (hu.part (infix_behind p m rest)), clear_plainPiece, List.nil_append, Clear,
      String.toList_ofList]
    rfl

/-- Cutting at the markers gives the pieces back exactly when none of them is completed early. -/
theorem cuts_marked_iff (hf : Framed h a b mid) (hu : Unmarked h text)
    (hcut : CutAt terms text pieces) :
    Cuts h.opening.toList h.closing.toList (h.markedChars pieces) pieces ↔
      Clear h cutView [] pieces := by
  induction hcut with
  | @last p hplain =>
    rw [markedChars_plainPiece, ← List.append_nil (plainPiece p), clear_plainPiece]
    refine iff_of_true ?_ trivial
    rw [List.append_nil]
    exact .done (by rw [nextHit?, cut?_eq_none.2 hu.opening]; rfl)
  | @hit p m rest pieces hplain hhit more ih =>
    have hstretch := hu.part (infix_stretch p m rest)
    rw [markedChars_stretch, cuts_hit_iff hf hstretch, ih (hu.part (infix_behind p m rest)),
      clear_plainPiece, List.nil_append, Clear, String.toList_ofList]
    rfl

end

/-! ## Marked texts -/

/-- The pieces that a text is cut into at the matches of some terms. -/
def piecesOf (terms : List String) (text : String) : List Fragment :=
  cutAtTerms (termsOf terms) [] text.toList

theorem nil_not_mem_termsOf (terms : List String) : [] ∉ termsOf terms := by
  simp [termsOf]

theorem cutAt_piecesOf (terms : List String) (text : String) :
    CutAt (termsOf terms) text.toList (piecesOf terms text) :=
  cutAt_cutAtTerms (nil_not_mem_termsOf terms) [] text.toList
    fun _ _ hx _ => absurd hx (Nat.not_lt_zero _)

theorem cutAt_iff {terms : List String} {text : String} {pieces : List Fragment} :
    CutAt (termsOf terms) text.toList pieces ↔ pieces = piecesOf terms text := by
  constructor
  · exact fun hcut => hcut.unique (nil_not_mem_termsOf terms) (cutAt_piecesOf terms text)
  · rintro rfl
    exact cutAt_piecesOf terms text

theorem toList_markText (h : Highlight) (terms : List String) (text : String) :
    (h.markText terms text).toList = h.markedChars (piecesOf terms text) := by
  rw [markText, toList_joined, List.flatMap_map]
  rfl

theorem strip_markText_iff {h : Highlight} {a b : Char} {mid : List Char} (hf : Framed h a b mid)
    (terms : List String) {text : String} (hu : Unmarked h text.toList) :
    h.strip (h.markText terms text) = text ↔ Clear h stripView [] (piecesOf terms text) := by
  rw [← removeAll_marked_iff hf hu (cutAt_piecesOf terms text), ← toList_markText, strip,
    ← String.toList_inj, String.toList_ofList]

theorem fragments?_markText_iff {h : Highlight} {a b : Char} {mid : List Char}
    (hf : Framed h a b mid) (terms : List String) {text : String} (hu : Unmarked h text.toList) :
    h.fragments? (h.markText terms text) = some (piecesOf terms text) ↔
      Clear h cutView [] (piecesOf terms text) := by
  rw [← cuts_marked_iff hf hu (cutAt_piecesOf terms text), ← toList_markText]
  exact cutFragments?_eq_some

end EventSearch.Highlight
