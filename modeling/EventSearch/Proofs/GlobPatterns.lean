/-
# `EventSearch.Proofs.GlobPatterns` — values with wildcards as search patterns

A value with wildcards is a row of parts (`globParts`): a `*` for any characters, a `?` for one, and
characters that stand for themselves.  A text is covered by the parts when it is made of stretches
that each fit their part (`Covers`).  Of the value a search pattern is written, which the reader takes
apart into the same parts between marks for the start and the end of the text (`parse?_globPattern`).

The pattern is found in the texts that the parts cover, but for two things (`foundIn_globSequence`).
Its points stop at the end of a line, so wildcards stand for no line feed.  And a backslash at the
very end of the value, which protects nothing and otherwise counts as a backslash, is left out of the
pattern (`globBody_eq`).
-/
import Mathlib.Algebra.GroupWithZero.Nat
import EventSearch.Proofs.BareText
import EventSearch.Proofs.PartPatterns

namespace EventSearch.Query.BareText

open EventSearch.Text

/-! ## Parts -/

/-- A part of a value with wildcards. -/
inductive GlobPart where
  /-- Any characters. -/
  | run
  /-- Any one character. -/
  | one
  | char (c : Char)
  deriving DecidableEq

/-- What a character stands for that no backslash protects. -/
def GlobPart.ofChar (c : Char) : GlobPart := if c = '*' then .run else if c = '?' then .one else .char c

/-- The parts of a value.  A backslash gives way to the character after it; at the very end it is a
character like others. -/
def globParts : List Char → List GlobPart
  | '\\' :: c :: rest => .char c :: globParts rest
  | c :: rest => .ofChar c :: globParts rest
  | [] => []

theorem globParts_escaped (c : Char) (rest : List Char) :
    globParts ('\\' :: c :: rest) = .char c :: globParts rest := rfl

theorem globParts_plain {c : Char} (hc : c ≠ '\\') (rest : List Char) :
    globParts (c :: rest) = .ofChar c :: globParts rest := by
  cases rest <;> simp [globParts, hc]

/-- Values as all their readings go through them. -/
@[elab_as_elim]
theorem induction_by_escapes {motive : List Char → Prop} (nil : motive []) (lone : motive ['\\'])
    (escaped : ∀ c rest, motive rest → motive ('\\' :: c :: rest))
    (plain : ∀ c rest, c ≠ '\\' → motive rest → motive (c :: rest)) (raw : List Char) :
    motive raw := by
  induction raw using globBody.induct with
  | case1 => exact lone
  | case2 c rest ih => exact escaped c rest ih
  | case3 c rest hlone hescaped ih =>
    refine plain c rest ?_ ih
    rintro rfl
    cases rest with
    | nil => exact hlone rfl rfl
    | cons d rest => exact hescaped d rest rfl rfl
  | case4 => exact nil

theorem length_globParts_le (raw : List Char) : (globParts raw).length ≤ raw.length := by
  induction raw using induction_by_escapes with
  | nil => exact Nat.le_refl 0
  | lone => exact Nat.le_refl 1
  | escaped c rest ih =>
    rw [globParts_escaped]
    simp only [List.length_cons]
    omega
  | plain c rest hc ih =>
    rw [globParts_plain hc]
    exact Nat.succ_le_succ ih

/-! ## Covered texts -/

/-- The stretches that fit a part, when wildcards stand for characters of one kind. -/
def GlobPart.Fits (wild : Char → Prop) : GlobPart → List Char → Prop
  | .run, u => ∀ c ∈ u, wild c
  | .one, u => ∃ c, u = [c] ∧ wild c
  | .char c, u => u = [c]

/-- A text is made of stretches that fit the parts in turn. -/
def Covers (wild : Char → Prop) : List GlobPart → List Char → Prop
  | [], text => text = []
  | p :: parts, text => ∃ u v, text = u ++ v ∧ p.Fits wild u ∧ Covers wild parts v

section Covers

variable {wild wild' : Char → Prop} {parts : List GlobPart} {text : List Char}

theorem covers_append {more : List GlobPart} : Covers wild (parts ++ more) text ↔
    ∃ u v, text = u ++ v ∧ Covers wild parts u ∧ Covers wild more v := by
  induction parts generalizing text with
  | nil =>
    constructor
    · exact fun h => ⟨[], text, rfl, rfl, h⟩
    · rintro ⟨_, v, rfl, rfl, h⟩
      exact h
  | cons p parts ih =>
    simp only [List.cons_append, Covers, ih]
    constructor
    · rintro ⟨u, _, rfl, hu, v, w, rfl, hv, hw⟩
      exact ⟨u ++ v, w, (List.append_assoc u v w).symm, ⟨u, v, rfl, hu, hv⟩, hw⟩
    · rintro ⟨_, w, rfl, ⟨u, v, rfl, hu, hv⟩, hw⟩
      exact ⟨u, v ++ w, List.append_assoc u v w, hu, v, w, rfl, hv, hw⟩

/-- A last part that is a character covers the last character. -/
theorem covers_append_char {c : Char} :
    Covers wild (parts ++ [.char c]) (text ++ [c]) ↔ Covers wild parts text := by
  rw [covers_append]
  constructor
  · rintro ⟨u, v, he, hu, v, _, rfl, rfl, rfl⟩
    rwa [(List.append_inj' he rfl).1]
  · exact fun h => ⟨text, [c], rfl, h, [c], [], rfl, rfl, rfl⟩

/-- What wildcards of one kind cover is covered by those of another one, if that has the characters
of the text. -/
theorem Covers.mono (hwild : ∀ c ∈ text, wild c → wild' c) (h : Covers wild parts text) :
    Covers wild' parts text := by
  induction parts generalizing text with
  | nil => exact h
  | cons p parts ih =>
    obtain ⟨u, v, rfl, hp, h⟩ := h
    refine ⟨u, v, rfl, ?_, ih (fun c hc => hwild c (List.mem_append_right u hc)) h⟩
    cases p with
    | run => exact fun c hc => hwild c (List.mem_append_left v hc) (hp c hc)
    | one =>
      obtain ⟨c, rfl, hc⟩ := hp
      exact ⟨c, rfl, hwild c List.mem_cons_self hc⟩
    | char c => exact hp

end Covers

/-! ## Written parts -/

/-- What is written for a part. -/
def GlobPart.written : GlobPart → List Char
  | .run => ['.', '*']
  | .one => ['.']
  | .char c => escapePatternChar c

theorem wildcardPattern_eq (c : Char) : wildcardPattern c = (GlobPart.ofChar c).written := by
  unfold wildcardPattern GlobPart.ofChar
  split
  · rfl
  · split <;> rfl

/-- The backslash at the very end of a value that protects nothing. -/
def openEnd (raw : List Char) : List Char := if endsOpen raw then ['\\'] else []

/-- All parts are written but for that backslash. -/
theorem globBody_eq (raw : List Char) : ∃ parts, globBody raw = parts.flatMap GlobPart.written ∧
    globParts raw = parts ++ (openEnd raw).map .char := by
  induction raw using induction_by_escapes with
  | nil => exact ⟨[], rfl, rfl⟩
  | lone => exact ⟨[], rfl, rfl⟩
  | escaped c rest ih =>
    obtain ⟨parts, hbody, hparts⟩ := ih
    refine ⟨.char c :: parts, ?_, ?_⟩
    · rw [List.flatMap_cons, ← hbody]
      rfl
    · rw [globParts_escaped, hparts, openEnd, openEnd, endsOpen_backslash]
      rfl
  | plain c rest hc ih =>
    obtain ⟨parts, hbody, hparts⟩ := ih
    refine ⟨.ofChar c :: parts, ?_, ?_⟩
    · have hplain : globBody (c :: rest) = wildcardPattern c ++ globBody rest := by
        cases rest <;> simp [globBody, hc]
      rw [hplain, hbody, wildcardPattern_eq, List.flatMap_cons]
    · rw [globParts_plain hc, hparts, openEnd, openEnd, endsOpen_cons hc]
      rfl

end EventSearch.Query.BareText

namespace EventSearch.Pattern

open EventSearch.Text EventSearch.Query EventSearch.Query.BareText

/-! ## Reading -/

/-- What the reader makes of a written part. -/
def globPiece : GlobPart → Pattern
  | .run => anyOnLine
  | .one => oneOnLine
  | .char c => .char c

/-- The parts between marks for the start and the end of the text. -/
def globSequence (parts : List GlobPart) : Pattern :=
  sequence (.anchor .textStart :: (parts.map globPiece ++ [.anchor .textEnd]))

/-- No written part starts with a mark of the parts around pieces. -/
theorem head_written (p : GlobPart) : ∃ d ds, p.written = d :: ds ∧
    d ∉ [')', '|', '(', '*', '+', '?', '{'] := by
  cases p with
  | run => exact ⟨'.', ['*'], rfl, by decide⟩
  | one => exact ⟨'.', [], rfl, by decide⟩
  | char c => exact head_escapePatternChar c

section Reading

variable {names : GroupNames} {earlier : List Pattern} {pieces : Pieces} {fuel : Nat}

/-- How often the reader has to look for a written part. -/
def globRounds : GlobPart → Nat
  | .run => 2
  | .one | .char _ => 1

theorem globRounds_le (p : GlobPart) : globRounds p ≤ p.written.length := by
  cases p with
  | run => exact Nat.le_refl 2
  | one => exact Nat.le_refl 1
  | char c =>
    obtain ⟨d, ds, hd, -⟩ := head_escapePatternChar c
    simp [globRounds, GlobPart.written, hd]

theorem sum_globRounds_le (parts : List GlobPart) :
    (parts.map globRounds).sum ≤ (parts.flatMap GlobPart.written).length := by
  induction parts with
  | nil => exact Nat.le_refl 0
  | cons p parts ih =>
    rw [List.map_cons, List.sum_cons, List.flatMap_cons, List.length_append]
    exact Nat.add_le_add (globRounds_le p) ih

/-- Written parts become pieces one by one, where the last one is not made lazy. -/
theorem takeAlternatives?_written (parts : List GlobPart) {rest : List Char}
    (h : rest.head? ≠ some '?') :
    takeAlternatives? (fuel + (parts.map globRounds).sum) (.initial false) names earlier pieces
        (parts.flatMap GlobPart.written ++ rest)
      = takeAlternatives? fuel (.initial false) names earlier
          ((parts.map fun p => some (globPiece p)).reverse ++ pieces) rest := by
  induction parts generalizing pieces with
  | nil => rfl
  | cons p parts ih =>
    have hnext : (parts.flatMap GlobPart.written ++ rest).head? ≠ some '?' := by
      cases parts with
      | nil => exact h
      | cons q parts =>
        obtain ⟨d, ds, hd, hmarks⟩ := head_written q
        rw [List.flatMap_cons, hd]
        intro he
        exact absurd (by rw [Option.some.inj he]; decide) hmarks
    have hone : takeAlternatives? (fuel + (parts.map globRounds).sum + globRounds p)
        (.initial false) names earlier pieces
          (p.written ++ (parts.flatMap GlobPart.written ++ rest))
        = takeAlternatives? (fuel + (parts.map globRounds).sum) (.initial false) names earlier
            (some (globPiece p) :: pieces) (parts.flatMap GlobPart.written ++ rest) := by
      cases p with
      | run => exact takeAlternatives?_anyOnLine hnext
      | one => exact takeAlternatives?_piece (by decide)
      | char c =>
        have hescaped : (GlobPart.char c).written = escapePattern [c] := by
          rw [escapePattern, List.flatMap_singleton]
          rfl
        rw [hescaped]
        exact takeAlternatives?_escaped [c] (parts.flatMap GlobPart.written ++ rest)
    rw [List.map_cons, List.sum_cons, Nat.add_comm (globRounds p), ← Nat.add_assoc,
      List.flatMap_cons, List.append_assoc, hone, ih]
    simp only [List.map_cons, List.reverse_cons, List.append_assoc, List.cons_append,
      List.nil_append]

end Reading

/-- Written parts are not nested too deeply. -/
theorem nesting_globSequence (parts : List GlobPart) :
    (globSequence parts).nesting ≤ maxNesting := by
  have hparts : ∀ p ∈ Pattern.anchor .textStart :: (parts.map globPiece ++ [.anchor .textEnd]),
      p.nesting ≤ 1 := by
    intro p hp
    simp only [List.mem_cons, List.mem_append, List.mem_map, List.not_mem_nil, or_false] at hp
    rcases hp with rfl | ⟨part, -, rfl⟩ | rfl
    · exact Nat.zero_le 1
    · cases part with
      | run => exact Nat.le_refl 1
      | one | char => exact Nat.zero_le 1
    · exact Nat.zero_le 1
  exact Nat.le_trans (nesting_sequence hparts) (by decide)

/-- The search pattern of a value is read as its written parts between two marks. -/
theorem parse?_globPattern {raw : List Char} {parts : List GlobPart}
    (h : globBody raw = parts.flatMap GlobPart.written) :
    parse? false (String.ofList (globPattern raw)) = some (globSequence parts) := by
  have hread : ∀ extra, takeAlternatives? (extra + 2 + (parts.map globRounds).sum + 1)
      (.initial false) [] [] [] ('^' :: (parts.flatMap GlobPart.written ++ ['$']))
      = some (globSequence parts, [], []) := by
    intro extra
    have hstart : ∀ fuel rest, takeAlternatives? (fuel + 1) (.initial false) [] [] []
        ('^' :: rest)
        = takeAlternatives? fuel (.initial false) [] [] [some (.anchor .textStart)] rest :=
      fun fuel rest => takeAlternatives?_piece (by decide)
    have hend : ∀ pieces : Pieces, takeAlternatives? (extra + 2) (.initial false) [] [] pieces ['$']
        = some (lastAlternative [] (some (.anchor .textEnd) :: pieces), [], []) :=
      fun pieces => takeAlternatives?_piece (by decide)
    rw [hstart, takeAlternatives?_written parts (by decide), hend]
    simp [lastAlternative, choice, Pieces.toPattern, globSequence, Function.comp_def]
  have htext : (String.ofList (globPattern raw)).toList
      = '^' :: (parts.flatMap GlobPart.written ++ ['$']) := by
    rw [String.toList_ofList, globPattern, h, List.cons_append]
  obtain ⟨extra, hextra⟩ := Nat.exists_eq_add_of_le (sum_globRounds_le parts)
  have hfuel : ('^' :: (parts.flatMap GlobPart.written ++ ['$'])).length + 1
      = extra + 2 + (parts.map globRounds).sum + 1 := by
    simp only [List.length_cons, List.length_append, List.length_nil]
    omega
  simp only [parse?]
  rw [htext, hfuel, hread]
  exact if_pos (nesting_globSequence parts)

/-! ## Matching -/

theorem leadsOver_globPiece (text : List Char) (p : GlobPart) :
    LeadsOver text (moves (places text) (globPiece p)).next (p.Fits (· ≠ '\n')) := by
  cases p with
  | run => exact leadsOver_anyOnLine text
  | one => exact leadsOver_oneOnLine text
  | char c => exact leadsOver_char text c

theorem leadsOver_globPieces (text : List Char) (parts : List GlobPart) :
    LeadsOver text (through (places text) (parts.map globPiece)) (Covers (· ≠ '\n') parts) := by
  induction parts with
  | nil => exact leadsOver_id text
  | cons p parts ih => exact (leadsOver_globPiece text p).comp ih

/-- The parts between the two marks are found in the texts that they cover, where wildcards stand
for no line feed. -/
theorem foundIn_globSequence (parts : List GlobPart) (text : List Char) :
    (globSequence parts).foundIn text = true ↔ Covers (· ≠ '\n') parts text :=
  foundIn_anchored (leadsOver_globPieces text parts)

end EventSearch.Pattern
