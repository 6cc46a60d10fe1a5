/-
# `EventSearch.Proofs.PartPatterns` — patterns that look for a part of a text

Where a language has no search for a part of a text, the part is written as a search pattern: every
mark in it is escaped, and `.*` stands on both sides (`partPattern`).  The reader makes of it the
characters of the part between two repeated points (`parse?_partPattern`), and that is found in
exactly the texts that hold the part (`foundIn_around`): the points may match nothing, so it does not
matter that they stop at the ends of lines.
-/
import EventSearch.Pattern.Reading
import EventSearch.Proofs.PatternMoves
import EventSearch.Query.Quoting

namespace EventSearch.Pattern

open EventSearch.Text EventSearch.Query

/-! ## Patterns -/

/-- The search pattern of a part, with anything around it. -/
def partPattern (part : String) : String :=
  String.ofList (['.', '*'] ++ escapePattern part.toList ++ ['.', '*'])

/-- The characters of a text, with anything around them. -/
def around (part : List Char) : Pattern :=
  sequence (anyOnLine :: (part.map Pattern.char ++ [anyOnLine]))

/-! ## Reading -/

section Reading

variable {names : GroupNames} {earlier : List Pattern} {pieces : Pieces} {fuel : Nat}

/-- An escaped character is a piece. -/
theorem takePiece?_escaped (c : Char) (rest : List Char) :
    takePiece? (.initial false) (escapePatternChar c ++ rest) = some (.char c, rest) := by
  by_cases hc : c ∈ patternMarks
  · have hescaped : escapePatternChar c = ['\\', c] := if_pos (List.contains_iff_mem.2 hc)
    rw [hescaped]
    simp only [patternMarks, List.mem_cons, List.not_mem_nil, or_false] at hc
    rcases hc with rfl | rfl | rfl | rfl | rfl | rfl | rfl | rfl | rfl | rfl | rfl | rfl | rfl |
      rfl | rfl | rfl | rfl | rfl <;> rfl
  · have hescaped : escapePatternChar c = [c] := if_neg fun h => hc (List.contains_iff_mem.1 h)
    rw [hescaped, List.singleton_append, takePiece?.eq_def]
    split
    · next he => cases he
    · next he => exact absurd (by rw [(List.cons.inj he).1]; decide) hc
    · next he => exact absurd (by rw [(List.cons.inj he).1]; decide) hc
    · next he => exact absurd (by rw [(List.cons.inj he).1]; decide) hc
    · next he => exact absurd (by rw [(List.cons.inj he).1]; decide) hc
    · next he => exact absurd (by rw [(List.cons.inj he).1]; decide) hc
    · next he =>
      obtain ⟨rfl, rfl⟩ := List.cons.inj he
      rfl

/-- Where no group, alternative or repetition begins, a piece is read. -/
theorem takeAlternatives?_piece {c : Char} {cs : List Char}
    (hc : c ∉ [')', '|', '(', '*', '+', '?', '{']) :
    takeAlternatives? (fuel + 1) (.initial false) names earlier pieces (c :: cs)
      = (takePiece? (.initial false) (c :: cs)).bind fun (piece, rest) =>
          takeAlternatives? fuel (.initial false) names earlier (some piece :: pieces) rest := by
  simp only [List.mem_cons, List.not_mem_nil, or_false, not_or] at hc
  obtain ⟨hclose, hbar, hopen, hstar, hplus, hquery, hbrace⟩ := hc
  have hmarks : repetitionMarks.contains c = false := by
    simp [repetitionMarks, hstar, hplus, hquery, hbrace]
  have hskip : (Flags.initial false).skip (c :: cs) = c :: cs := rfl
  rw [takeAlternatives?.eq_def]
  simp only [hskip, hmarks, Bool.false_eq_true, if_false]

theorem head_escapePatternChar (c : Char) : ∃ d ds, escapePatternChar c = d :: ds ∧
    d ∉ [')', '|', '(', '*', '+', '?', '{'] := by
  by_cases hc : c ∈ patternMarks
  · exact ⟨'\\', [c], if_pos (List.contains_iff_mem.2 hc), by decide⟩
  · refine ⟨c, [], if_neg fun h => hc (List.contains_iff_mem.1 h), fun hm => hc ?_⟩
    simp only [List.mem_cons, List.not_mem_nil, or_false] at hm
    rcases hm with rfl | rfl | rfl | rfl | rfl | rfl | rfl <;> simp [patternMarks]

/-- Escaped characters become pieces one by one. -/
theorem takeAlternatives?_escaped (part rest : List Char) :
    takeAlternatives? (fuel + part.length) (.initial false) names earlier pieces
        (escapePattern part ++ rest)
      = takeAlternatives? fuel (.initial false) names earlier
          ((part.map fun c => some (Pattern.char c)).reverse ++ pieces) rest := by
  induction part generalizing pieces with
  | nil => rfl
  | cons c part ih =>
    obtain ⟨d, ds, hd, hmarks⟩ := head_escapePatternChar c
    have hpiece := takePiece?_escaped c (escapePattern part ++ rest)
    have hcons : escapePattern (c :: part) ++ rest
        = escapePatternChar c ++ (escapePattern part ++ rest) := by
      rw [escapePattern, escapePattern, List.flatMap_cons, List.append_assoc]
    rw [hcons]
    rw [hd, List.cons_append] at hpiece ⊢
    rw [List.length_cons, ← Nat.add_assoc, takeAlternatives?_piece hmarks, hpiece]
    simp only [Option.bind_some, ih, List.map_cons, List.reverse_cons, List.append_assoc,
      List.cons_append, List.nil_append]

/-- Without a mark behind it a repetition is as greedy as the flags say. -/
theorem takeGreed_of_ne (f : Flags) {rest : List Char} (h : rest.head? ≠ some '?') :
    takeGreed f rest = (!f.lazy, rest) := by
  rw [takeGreed.eq_def]
  split
  · exact absurd rfl h
  · rfl

/-- A point and a star are any number of characters, where the star is not made lazy. -/
theorem takeAlternatives?_anyOnLine {rest : List Char} (h : rest.head? ≠ some '?') :
    takeAlternatives? (fuel + 2) (.initial false) names earlier pieces ('.' :: '*' :: rest)
      = takeAlternatives? fuel (.initial false) names earlier (some anyOnLine :: pieces) rest := by
  rw [takeAlternatives?_piece (by decide)]
  have hpoint : takePiece? (.initial false) ('.' :: '*' :: rest)
      = some (oneOnLine, '*' :: rest) := rfl
  have hstar : takeAlternatives? (fuel + 1) (.initial false) names earlier
      (some oneOnLine :: pieces) ('*' :: rest)
      = takeAlternatives? fuel (.initial false) names earlier
          (some (.times oneOnLine 0 none (takeGreed (.initial false) rest).1) :: pieces)
          (takeGreed (.initial false) rest).2 := rfl
  rw [hpoint]
  simp only [Option.bind_some, hstar, takeGreed_of_ne _ h]
  rfl

end Reading

theorem length_escapePattern (part : List Char) :
    part.length ≤ (escapePattern part).length := by
  induction part with
  | nil => exact Nat.le_refl 0
  | cons c part ih =>
    obtain ⟨d, ds, hd, -⟩ := head_escapePatternChar c
    rw [escapePattern, List.flatMap_cons, hd, ← escapePattern]
    simp only [List.length_append, List.length_cons]
    omega

theorem nesting_seq_le (a b : Pattern) :
    (Pattern.seq a b).nesting ≤ max a.nesting b.nesting + 1 := by
  cases b <;> simp only [nesting] <;> omega

/-- A sequence is nested one deeper than its parts. -/
theorem nesting_sequence {n : Nat} {parts : List Pattern} (h : ∀ p ∈ parts, p.nesting ≤ n) :
    (sequence parts).nesting ≤ n + 1 := by
  induction parts with
  | nil => exact Nat.zero_le _
  | cons a rest ih =>
    have ha := h a List.mem_cons_self
    have hrest := ih fun p hp => h p (List.mem_cons_of_mem a hp)
    cases rest with
    | nil => exact Nat.le_succ_of_le ha
    | cons b more =>
      have hb := h b (List.mem_cons_of_mem a List.mem_cons_self)
      cases more with
      | nil =>
        have hpair := nesting_seq_le a b
        simp only [sequence]
        omega
      | cons c more =>
        simp only [sequence, nesting] at hrest ⊢
        omega

/-- No star stands in front of a mark that would make it lazy. -/
theorem head_escapePattern (part rest : List Char) :
    (escapePattern part ++ '.' :: rest).head? ≠ some '?' := by
  cases part with
  | nil => simp [escapePattern]
  | cons c cs =>
    obtain ⟨d, ds, hd, hmarks⟩ := head_escapePatternChar c
    rw [escapePattern, List.flatMap_cons, hd]
    intro he
    exact absurd (by rw [Option.some.inj he]; decide) hmarks

theorem nesting_around (part : List Char) : (around part).nesting ≤ 2 := by
  refine nesting_sequence (n := 1) fun p hp => ?_
  simp only [List.mem_cons, List.mem_append, List.mem_map, List.not_mem_nil, or_false] at hp
  rcases hp with rfl | ⟨c, -, rfl⟩ | rfl
  · exact Nat.le_refl 1
  · exact Nat.zero_le 1
  · exact Nat.le_refl 1

/-- The search pattern of a part is read as its characters with anything around them. -/
theorem parse?_partPattern (part : String) :
    parse? false (partPattern part) = some (around part.toList) := by
  have hread : ∀ extra, takeAlternatives? (extra + 3 + part.toList.length + 2) (.initial false) [] []
      [] ('.' :: '*' :: (escapePattern part.toList ++ ['.', '*']))
      = some (around part.toList, [], []) := by
    intro extra
    have hend : ∀ pieces : Pieces,
        takeAlternatives? (extra + 1 + 2) (.initial false) [] [] pieces ['.', '*']
          = some (lastAlternative [] (some anyOnLine :: pieces), [], []) :=
      fun pieces => takeAlternatives?_anyOnLine (by decide)
    rw [takeAlternatives?_anyOnLine (head_escapePattern part.toList ['*']),
      takeAlternatives?_escaped, hend]
    simp [lastAlternative, choice, Pieces.toPattern, around, Function.comp_def]
  -- the fuel is the length of the pattern, which has a character or more for each of the part
  obtain ⟨extra, hextra⟩ := Nat.exists_eq_add_of_le (length_escapePattern part.toList)
  have hfuel : (partPattern part).toList.length + 1
      = extra + 3 + part.toList.length + 2 := by
    simp only [partPattern, String.toList_ofList, List.length_append, List.length_cons,
      List.length_nil]
    omega
  have htext : (partPattern part).toList
      = '.' :: '*' :: (escapePattern part.toList ++ ['.', '*']) := by
    simp [partPattern]
  simp only [parse?]
  rw [hfuel, htext, hread]
  exact if_pos (Nat.le_trans (nesting_around part.toList) (by decide))

/-! ## Matching -/

/-- A part occurs where a text starts with it from some place on. -/
theorem hasPart_iff {part text : List Char} :
    hasPart part text = true ↔ ∃ i ≤ text.length, part <+: text.drop i := by
  induction text with
  | nil => simp [hasPart]
  | cons c text ih =>
    rw [hasPart, Bool.or_eq_true, List.isPrefixOf_iff_prefix, ih]
    constructor
    · rintro (h | ⟨i, hi, h⟩)
      · exact ⟨0, Nat.zero_le _, h⟩
      · exact ⟨i + 1, Nat.succ_le_succ hi, h⟩
    · rintro ⟨i, hi, h⟩
      cases i with
      | zero => exact .inl h
      | succ i => exact .inr ⟨i, Nat.le_of_succ_le_succ hi, h⟩

/-- The characters of a part lead over the part. -/
theorem leadsOver_chars (text part : List Char) :
    LeadsOver text (through (places text) (part.map Pattern.char)) (· = part) := by
  induction part with
  | nil => exact leadsOver_id text
  | cons c part ih =>
    exact ((leadsOver_char text c).comp ih).congr fun w => by simp

/-- The characters of a part with anything around them are found where the part occurs. -/
theorem foundIn_around (part text : List Char) :
    (around part).foundIn text = hasPart part text := by
  have hany := leadsOver_anyOnLine text
  have hnext : (moves (places text) (around part)).next = fun s =>
      (moves (places text) anyOnLine).next (through (places text) (part.map Pattern.char)
        ((moves (places text) anyOnLine).next s)) := by
    funext s
    rw [around, next_sequence, ← List.singleton_append, through_append, through_append]
    rfl
  have hleads := (hany.comp (leadsOver_chars text part)).comp hany
  rw [← hnext] at hleads
  rw [Bool.eq_iff_iff, hasPart_iff, hleads.foundIn]
  constructor
  · rintro ⟨i, _, hi, hw, _, v, rfl, ⟨u, _, rfl, -, rfl⟩, -⟩
    have hpart := (prefix_drop_append.1 (prefix_drop_append.1 hw).1).2
    have hlength := (prefix_drop_append.1 hw).1.length_le
    rw [List.length_append, List.length_drop] at hlength
    exact ⟨i + u.length, by omega, hpart⟩
  · rintro ⟨i, hi, hp⟩
    exact ⟨i, part, hi, hp, part, [], (List.append_nil _).symm,
      ⟨[], part, rfl, List.forall_mem_nil _, rfl⟩, List.forall_mem_nil _⟩

end EventSearch.Pattern
