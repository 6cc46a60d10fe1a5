/-
# `EventSearch.Proofs.FragmentCuts` — cutting a marked text into pieces

Cutting goes through a text turn by turn: each turn finds the next opening marker and the closing one
behind it, and goes on with what is left (`Cuts`).  A turn takes as much off the text as the two
markers are long, so with any pair of markers but two empty ones the turns come to an end
(`exists_cuts_iff`); two empty markers are found at the start of every text and leave it as it is.

The pieces of a finished cut are the text: with the markers put around the matches again they make it
up, none of the plain ones is empty, and no match holds the closing marker, since the first one behind
the opening marker ends it (`fragments_rejoin`).
-/
import EventSearch.Provider.Marking

namespace EventSearch.Text

/-! ## First occurrences -/

theorem after?_eq_none {lead text : List Char} : after? lead text = none ↔ ¬ lead <+: text := by
  rw [Option.eq_none_iff_forall_ne_some]
  constructor
  · rintro h ⟨rest, rfl⟩
    exact h rest (after?_eq_some.2 rfl)
  · intro h rest hrest
    exact h ⟨rest, (after?_eq_some.1 hrest).symm⟩

/-- A mark that does not stand at the start of a text stands behind its first character. -/
theorem eq_cons_append {mark : List Char} {c : Char} {rest x y : List Char}
    (hlead : ¬ mark <+: c :: rest) (h : c :: rest = x ++ mark ++ y) :
    ∃ x', x = c :: x' ∧ rest = x' ++ mark ++ y := by
  cases x with
  | nil => exact absurd ⟨y, h.symm⟩ hlead
  | cons d x =>
    obtain ⟨rfl, hrest⟩ := List.cons.inj h
    exact ⟨x, rfl, hrest⟩

/-- A text is cut at the first place where the mark occurs. -/
theorem cut?_eq_some {mark text before after : List Char} :
    cut? mark text = some (before, after) ↔
      text = before ++ mark ++ after ∧ ∀ x y, text = x ++ mark ++ y → before.length ≤ x.length := by
  induction text generalizing before with
  | nil =>
    constructor
    · intro h
      have happend := cut?_append h
      simp only [List.nil_eq, List.append_eq_nil_iff] at happend
      exact ⟨cut?_append h, fun x y _ => by simp [happend.1.1]⟩
    · rintro ⟨h, -⟩
      simp only [List.nil_eq, List.append_eq_nil_iff] at h
      simp [cut?, h]
  | cons c rest ih =>
    cases hlead : after? mark (c :: rest) with
    | some a =>
      simp only [cut?, hlead, Option.some.injEq, Prod.mk.injEq]
      rw [after?_eq_some] at hlead
      constructor
      · rintro ⟨rfl, rfl⟩
        exact ⟨hlead, fun x y _ => Nat.zero_le _⟩
      · rintro ⟨happend, hfirst⟩
        obtain rfl := List.length_eq_zero_iff.1 (Nat.le_zero.1 (hfirst [] a hlead))
        exact ⟨rfl, List.append_cancel_left (hlead.symm.trans happend)⟩
    | none =>
      rw [after?_eq_none] at hlead
      simp only [cut?, after?_eq_none.2 hlead, Option.map_eq_some_iff, Prod.exists, Prod.mk.injEq]
      constructor
      · rintro ⟨b, a, hcut, rfl, rfl⟩
        obtain ⟨rfl, hfirst⟩ := ih.1 hcut
        refine ⟨rfl, fun x y h => ?_⟩
        obtain ⟨x', rfl, hrest⟩ := eq_cons_append hlead h
        exact Nat.succ_le_succ (hfirst x' y hrest)
      · rintro ⟨happend, hfirst⟩
        obtain ⟨b, rfl, hrest⟩ := eq_cons_append hlead happend
        refine ⟨b, after, ih.2 ⟨hrest, fun x y h => ?_⟩, rfl, rfl⟩
        exact Nat.le_of_succ_le_succ (hfirst (c :: x) y (congrArg (c :: ·) h))

theorem cut?_eq_none {mark text : List Char} : cut? mark text = none ↔ ¬ mark <:+: text := by
  induction text with
  | nil => cases mark <;> simp [cut?]
  | cons c rest ih =>
    rw [List.infix_cons_iff, not_or, ← ih, ← after?_eq_none, cut?]
    cases after? mark (c :: rest) <;> simp

/-- In front of the first mark there is none. -/
theorem not_infix_of_cut? {mark text before after : List Char} (hmark : mark ≠ [])
    (h : cut? mark text = some (before, after)) : ¬ mark <:+: before := by
  rintro ⟨x, y, rfl⟩
  obtain ⟨rfl, hfirst⟩ := cut?_eq_some.1 h
  have hle := hfirst x (y ++ mark ++ after) (by simp only [List.append_assoc])
  have hpos := List.length_pos_iff.2 hmark
  simp only [List.length_append] at hle
  omega

theorem toList_joined (ss : List String) : ("".intercalate ss).toList = ss.flatMap String.toList := by
  rw [String.toList_intercalate, List.flatMap_def]
  induction ss with
  | nil => rfl
  | cons s ss ih =>
    cases ss with
    | nil => simp
    | cons t ss => simpa using ih

end EventSearch.Text

namespace EventSearch.Highlight

open EventSearch.Text

/-! ## Turns -/

/-- A run over a text, turn by turn, and the pieces it makes. -/
inductive Cuts (opening closing : List Char) : List Char → List Fragment → Prop where
  | done {rest : List Char} (h : nextHit? opening closing rest = none) :
      Cuts opening closing rest (plainPiece rest)
  | turn {rest before hit after : List Char} {pieces : List Fragment}
      (h : nextHit? opening closing rest = some (before, hit, after))
      (more : Cuts opening closing after pieces) :
      Cuts opening closing rest (plainPiece before ++ .hit (String.ofList hit) :: pieces)

variable {opening closing : List Char}

/-- What a turn finds. -/
theorem nextHit?_eq_some {rest before hit after : List Char} :
    nextHit? opening closing rest = some (before, hit, after) ↔
      ∃ behind, cut? opening rest = some (before, behind) ∧ cut? closing behind = some (hit, after) := by
  simp only [nextHit?, Option.bind_eq_some_iff, Option.map_eq_some_iff, Prod.exists, Prod.mk.injEq]
  constructor
  · rintro ⟨_, behind, hopening, _, _, hclosing, rfl, rfl, rfl⟩
    exact ⟨behind, hopening, hclosing⟩
  · rintro ⟨behind, hopening, hclosing⟩
    exact ⟨_, behind, hopening, _, _, hclosing, rfl, rfl, rfl⟩

/-- A turn splits the text at both markers. -/
theorem nextHit?_append {rest before hit after : List Char}
    (h : nextHit? opening closing rest = some (before, hit, after)) :
    rest = before ++ opening ++ hit ++ closing ++ after := by
  obtain ⟨behind, hopening, hclosing⟩ := nextHit?_eq_some.1 h
  rw [cut?_append hopening, cut?_append hclosing]
  simp only [List.append_assoc]

theorem nextHit?_empty (rest : List Char) : nextHit? [] [] rest = some ([], [], rest) := by
  have hcut : cut? [] rest = some ([], rest) :=
    cut?_eq_some.2 ⟨rfl, fun x y _ => Nat.zero_le _⟩
  exact nextHit?_eq_some.2 ⟨rest, hcut, hcut⟩

/-- A turn leaves less of the text, unless both markers are empty. -/
theorem nextHit?_length_lt {rest before hit after : List Char} (hmarks : ¬ (opening = [] ∧ closing = []))
    (h : nextHit? opening closing rest = some (before, hit, after)) : after.length < rest.length := by
  have hlength := congrArg List.length (nextHit?_append h)
  simp only [List.length_append] at hlength
  rw [← List.length_eq_zero_iff, ← List.length_eq_zero_iff] at hmarks
  omega

/-- The turns come to an end unless both markers are empty. -/
theorem exists_cuts_iff (text : List Char) :
    (∃ pieces, Cuts opening closing text pieces) ↔ ¬ (opening = [] ∧ closing = []) := by
  constructor
  · rintro ⟨pieces, h⟩ ⟨rfl, rfl⟩
    induction h with
    | done h =>
      rw [nextHit?_empty] at h
      cases h
    | turn h more ih => exact ih
  · intro hmarks
    induction hn : text.length using Nat.strongRecOn generalizing text with
    | ind n ih =>
      cases hnext : nextHit? opening closing text with
      | none => exact ⟨_, .done hnext⟩
      | some found =>
        obtain ⟨before, hit, after⟩ := found
        obtain ⟨pieces, hmore⟩ := ih _ (hn ▸ nextHit?_length_lt hmarks hnext) after rfl
        exact ⟨_, .turn hnext hmore⟩

/-- The cut of a text is that of the finished run. -/
theorem cutFragments?_eq_some {text : List Char} {pieces : List Fragment} :
    cutFragments? opening closing text = some pieces ↔ Cuts opening closing text pieces := by
  constructor
  · intro h
    fun_induction cutFragments? opening closing text generalizing pieces with
    | case1 text hnext =>
      obtain rfl := Option.some.inj h
      exact .done hnext
    | case2 text before hit after hnext hless ih =>
      obtain ⟨rest, hrest, rfl⟩ := Option.map_eq_some_iff.1 h
      exact .turn hnext (ih hrest)
    | case3 => cases h
  · intro h
    induction h with
    | done h => rw [cutFragments?, h]
    | turn h more ih =>
      have hless := nextHit?_length_lt ((exists_cuts_iff _).1 ⟨_, more⟩) h
      rw [cutFragments?, h]
      simp only [hless, if_true, ih, Option.map_some]

/-! ## Pieces -/

/-- The characters of some pieces with the markers around the matches. -/
def markedChars (h : Highlight) (pieces : List Fragment) : List Char :=
  pieces.flatMap fun p => (h.markPiece p).toList

@[simp] theorem markedChars_append (h : Highlight) (ps qs : List Fragment) :
    h.markedChars (ps ++ qs) = h.markedChars ps ++ h.markedChars qs := List.flatMap_append

@[simp] theorem markedChars_hit (h : Highlight) (s : String) (ps : List Fragment) :
    h.markedChars (.hit s :: ps)
      = h.opening.toList ++ s.toList ++ h.closing.toList ++ h.markedChars ps := by
  simp [markedChars, markPiece, wrap]

@[simp] theorem markedChars_plainPiece (h : Highlight) (cs : List Char) :
    h.markedChars (plainPiece cs) = cs := by
  cases cs <;> simp [plainPiece, markedChars, markPiece]

theorem mem_plainPiece {cs : List Char} {p : Fragment} :
    p ∈ plainPiece cs ↔ cs ≠ [] ∧ p = .plain (String.ofList cs) := by
  cases cs <;> simp [plainPiece]

variable {h : Highlight} {text : List Char} {pieces : List Fragment}

/-- The pieces of a finished run make up the text. -/
theorem Cuts.markedChars_eq (hcuts : Cuts h.opening.toList h.closing.toList text pieces) :
    h.markedChars pieces = text := by
  induction hcuts with
  | done hnext => exact h.markedChars_plainPiece _
  | turn hnext more ih => simp [ih, nextHit?_append hnext]

theorem Cuts.plain_ne (hcuts : Cuts opening closing text pieces) : .plain "" ∉ pieces := by
  have hplain (cs : List Char) : .plain "" ∉ plainPiece cs := by
    rintro hmem
    obtain ⟨hne, heq⟩ := mem_plainPiece.1 hmem
    exact hne (String.ofList_eq_empty_iff.1 (Fragment.plain.inj heq).symm)
  induction hcuts with
  | done hnext => exact hplain _
  | turn hnext more ih => simp [hplain, ih]

/-- A match ends at the first closing marker. -/
theorem Cuts.closing_absent (hclosing : closing ≠ []) (hcuts : Cuts opening closing text pieces)
    {m : String} (hm : .hit m ∈ pieces) : ¬ closing <:+: m.toList := by
  induction hcuts with
  | done hnext => cases (mem_plainPiece.1 hm).2
  | turn hnext more ih =>
    obtain ⟨behind, -, hcut⟩ := nextHit?_eq_some.1 hnext
    rcases List.mem_append.1 hm with hm | hm
    · cases (mem_plainPiece.1 hm).2
    · rcases List.mem_cons.1 hm with heq | hm
      · obtain rfl := Fragment.hit.inj heq
        rw [String.toList_ofList]
        exact not_infix_of_cut? hclosing hcut
      · exact ih hm

/-- Cutting a text into pieces ends unless both markers are empty.  The pieces are those of the run,
turn by turn; with the markers around the matches they are the text again, no plain piece is empty,
and no match holds a closing marker that is not empty. -/
theorem fragments_rejoin (h : Highlight) (text : String) :
    ((∃ pieces, Cuts h.opening.toList h.closing.toList text.toList pieces) ↔
        ¬ (h.opening = "" ∧ h.closing = "")) ∧
      (∀ pieces, h.fragments? text = some pieces ↔
        Cuts h.opening.toList h.closing.toList text.toList pieces) ∧
      ∀ pieces, h.fragments? text = some pieces →
        "".intercalate (pieces.map h.markPiece) = text ∧ .plain "" ∉ pieces ∧
          (h.closing ≠ "" → ∀ m, .hit m ∈ pieces → ¬ h.closing.toList <:+: m.toList) := by
  have hcuts (pieces : List Fragment) : h.fragments? text = some pieces ↔
      Cuts h.opening.toList h.closing.toList text.toList pieces := cutFragments?_eq_some
  refine ⟨?_, hcuts, fun pieces hpieces => ?_⟩
  · rw [exists_cuts_iff, String.toList_eq_nil_iff, String.toList_eq_nil_iff]
  · rw [hcuts] at hpieces
    refine ⟨?_, hpieces.plain_ne, fun hclosing m => ?_⟩
    · rw [← String.toList_inj, toList_joined, List.flatMap_map]
      exact hpieces.markedChars_eq
    · exact hpieces.closing_absent fun hempty => hclosing (String.toList_eq_nil_iff.1 hempty)

/-- With two empty markers the cutting of a text does not end. -/
theorem fragments_endless : (⟨"", "", 0⟩ : Highlight).fragments? "a" = none ∧
    ¬ ∃ pieces, Cuts [] [] ['a'] pieces := by
  refine ⟨?_, fun h => (exists_cuts_iff _).1 h ⟨rfl, rfl⟩⟩
  simp [fragments?, cutFragments?, nextHit?_empty]

end EventSearch.Highlight
