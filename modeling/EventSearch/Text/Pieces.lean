/-
# `EventSearch.Text.Pieces` — finding, cutting and replacing parts of a text

Texts are lists of characters here.  `cut?` is the basic operation: the text before the first
occurrence of a mark and the text after it.

**Proved here.**  What `cut?` returns puts the text together again (`cut?_append`), and the part
after a mark that is not empty is shorter (`cut?_length_lt`).
-/
namespace EventSearch.Text

/-! ## Occurrences -/

/-- Whether `part` occurs in the text. -/
def hasPart (part : List Char) : List Char → Bool
  | [] => part.isEmpty
  | c :: rest => part.isPrefixOf (c :: rest) || hasPart part rest

/-- What follows `lead` in a text that starts with it. -/
def after? : List Char → List Char → Option (List Char)
  | [], text => some text
  | _ :: _, [] => none
  | l :: lead, c :: text => if l = c then after? lead text else none

@[simp] theorem after?_nil (text : List Char) : after? [] text = some text := by
  cases text <;> rfl

theorem after?_eq_some {lead text rest : List Char} :
    after? lead text = some rest ↔ text = lead ++ rest := by
  induction lead generalizing text with
  | nil => simp [eq_comm]
  | cons l ls ih =>
    cases text with
    | nil => simp [after?]
    | cons c cs =>
      by_cases h : l = c
      · simp [after?, h, ih]
      · simp [after?, h, Ne.symm h]

/-- The text before the first occurrence of `mark`, and the text after it. -/
def cut? (mark : List Char) : List Char → Option (List Char × List Char)
  | [] => if mark.isEmpty then some ([], []) else none
  | c :: rest =>
    match after? mark (c :: rest) with
    | some after => some ([], after)
    | none => (cut? mark rest).map fun p => (c :: p.1, p.2)

theorem cut?_append {mark text before after : List Char} (h : cut? mark text = some (before, after)) :
    text = before ++ mark ++ after := by
  induction text generalizing before after with
  | nil =>
    cases mark with
    | nil => simp only [cut?, List.isEmpty_nil, if_true, Option.some.injEq, Prod.mk.injEq] at h
             simp [← h.1, ← h.2]
    | cons m ms => simp [cut?] at h
  | cons c rest ih =>
    cases hd : after? mark (c :: rest) with
    | some a =>
      simp only [cut?, hd, Option.some.injEq, Prod.mk.injEq] at h
      rw [← h.1, ← h.2, List.nil_append]
      exact after?_eq_some.1 hd
    | none =>
      simp only [cut?, hd, Option.map_eq_some_iff] at h
      obtain ⟨⟨b, a⟩, hr, he⟩ := h
      obtain ⟨rfl, rfl⟩ := Prod.mk.inj he
      simp [ih hr]

theorem cut?_length_lt {mark text before after : List Char}
    (h : cut? mark text = some (before, after)) (hm : mark ≠ []) : after.length < text.length := by
  have := congrArg List.length (cut?_append h)
  have := List.length_pos_iff.2 hm
  simp only [List.length_append] at *
  omega

/-! ## Cutting -/

/-- The text without any occurrence of `mark`, taken from the left; an empty mark removes nothing. -/
def removeAll (mark text : List Char) : List Char :=
  match cut? mark text with
  | none => text
  | some (before, after) =>
    if after.length < text.length then before ++ removeAll mark after else text
termination_by text.length

/-- The pieces between the occurrences of a character. -/
def splitAt (mark : Char) : List Char → List (List Char)
  | [] => [[]]
  | c :: rest =>
    if c = mark then [] :: splitAt mark rest
    else match splitAt mark rest with
      | [] => [[c]]
      | piece :: pieces => (c :: piece) :: pieces

/-- A line without the carriage return it may end in. -/
def dropReturn (line : List Char) : List Char :=
  if line.getLast? = some '\r' then line.dropLast else line

/-- The lines of a text: they end in a line feed, or in a carriage return and a line feed, and
nothing follows the last one. -/
def lines (text : List Char) : List (List Char) :=
  let pieces := splitAt '\n' text
  let ended := pieces.dropLast.map dropReturn
  match pieces.getLast? with
  | none | some [] => ended
  | some last => ended ++ [last]

/-! ## Strings -/

/-- A string after `lead`, when it starts so. -/
def dropLead? (lead s : String) : Option String :=
  (after? lead.toList s.toList).map String.ofList

/-- The parts of a string before and after the first occurrence of a character. -/
def splitOnce? (mark : Char) (s : String) : Option (String × String) :=
  (cut? [mark] s.toList).map fun p => (String.ofList p.1, String.ofList p.2)

/-- Every occurrence of a character preceded by a backslash. -/
def escapeChar (mark : Char) (cs : List Char) : List Char :=
  cs.flatMap fun c => if c = mark then ['\\', c] else [c]

/-- `width` characters at least, filled with spaces on the right. -/
def padRight (width : Nat) (s : String) : String :=
  s ++ String.ofList (List.replicate (width - s.length) ' ')

/-- `width` characters at least, filled with spaces on the left. -/
def padLeft (width : Nat) (s : String) : String :=
  String.ofList (List.replicate (width - s.length) ' ') ++ s

/-- A number with leading zeros up to a width. -/
def zeroPadded (width n : Nat) : String :=
  let ds := Nat.toDigits 10 n
  String.ofList (List.replicate (width - ds.length) '0' ++ ds)

end EventSearch.Text
