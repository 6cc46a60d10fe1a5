/-
# `EventSearch.Proofs.GlobPatternSize` — patterns of values with wildcards that can be used

The outline of such a pattern is a sequence of texts, classes, repeated classes and marks
(`Flat`); characters that follow one another have become one text, which takes what they take
(`load_consPart`).  Wildcards cost most, and read from either end no part takes more than the
characters of a line do, so values of up to 2500 characters have patterns that are not too large
(`fits_globSequence`).
-/
import EventSearch.Proofs.GlobPatterns
import EventSearch.Proofs.PartPatternSize

namespace EventSearch.Text

/-- A character takes at most four bytes. -/
theorem length_utf8Bytes_le (n : Nat) : (utf8Bytes n).length ≤ 4 := by
  unfold utf8Bytes
  split
  · exact Nat.le_add_left 1 3
  · split
    · exact Nat.le_add_left 2 2
    · split
      · exact Nat.le_add_left 3 1
      · exact Nat.le_refl 4

end EventSearch.Text

namespace EventSearch.Pattern

open EventSearch.Text EventSearch.Query.BareText

namespace Outline

/-- The outlines that the patterns of values are sequences of. -/
inductive Flat : Outline → Prop where
  | literal (cs : List Char) : Flat (.literal cs)
  | anchor (a : Anchor) : Flat (.anchor a)
  | line : Flat (.set (CharSet.compl (.single '\n')) true)
  | edge : Flat edge

/-- What a flat outline takes at most. -/
def weight : Outline → Nat
  | .literal cs => 32 * Machine.byteCount cs
  | _ => Machine.lineBytes + 40

/-- What a sequence of flat outlines takes at most, the ways between them included. -/
def load (parts : List Outline) : Nat := (parts.map fun a => a.weight + Machine.wayBytes).sum

theorem load_cons (a : Outline) (parts : List Outline) :
    load (a :: parts) = a.weight + Machine.wayBytes + load parts := List.sum_cons

theorem Flat.parts {a : Outline} (h : Flat a) : a.parts = [a] := by
  cases h <;> rfl

theorem parts_ofParts {parts : List Outline} (h : ∀ a ∈ parts, Flat a) :
    (ofParts parts).parts = parts := by
  cases parts with
  | nil => rfl
  | cons a rest =>
    cases rest with
    | nil => exact (h a List.mem_cons_self).parts
    | cons b rest => rfl

theorem Flat.mirror {a : Outline} (h : Flat a) : Flat a.mirror ∧ a.mirror.weight = a.weight := by
  cases h with
  | literal cs =>
    refine ⟨.literal cs.reverse, ?_⟩
    rw [Outline.mirror, weight, weight, Machine.byteCount_reverse]
  | anchor a => exact ⟨.anchor a, rfl⟩
  | line => exact ⟨.line, rfl⟩
  | edge => exact ⟨.edge, rfl⟩

/-- A part in front of others is one more, or it becomes one text with the first of them. -/
theorem consPart_cases (a : Outline) (parts : List Outline) :
    consPart a parts = a :: parts ∨ ∃ cs ds rest, a = .literal cs ∧ parts = .literal ds :: rest ∧
      consPart a parts = .literal (cs ++ ds) :: rest := by
  unfold consPart
  split
  · exact .inr ⟨_, _, _, rfl, rfl, rfl⟩
  · exact .inl rfl

theorem flat_consPart {a : Outline} {parts : List Outline} (ha : Flat a)
    (h : ∀ b ∈ parts, Flat b) : ∀ b ∈ consPart a parts, Flat b := by
  obtain he | ⟨cs, ds, rest, rfl, rfl, he⟩ := consPart_cases a parts
  · rw [he]
    exact List.forall_mem_cons.2 ⟨ha, h⟩
  · rw [he]
    exact List.forall_mem_cons.2 ⟨.literal _, (List.forall_mem_cons.1 h).2⟩

theorem load_consPart (a : Outline) (parts : List Outline) :
    load (consPart a parts) ≤ a.weight + Machine.wayBytes + load parts := by
  obtain he | ⟨cs, ds, rest, rfl, rfl, he⟩ := consPart_cases a parts
  · rw [he, load_cons]
  · rw [he, load_cons, load_cons, weight, weight, weight, Machine.byteCount_append]
    omega

theorem consPart_ne_nil (a : Outline) (parts : List Outline) : consPart a parts ≠ [] := by
  obtain he | ⟨cs, ds, rest, -, -, he⟩ := consPart_cases a parts
  · rw [he]
    exact List.cons_ne_nil _ _
  · rw [he]
    exact List.cons_ne_nil _ _

/-! ## Values with wildcards -/

theorem flat_globPiece (p : GlobPart) :
    Flat (ofPattern (globPiece p)) ∧ (ofPattern (globPiece p)).weight ≤ Machine.lineBytes + 40 := by
  cases p with
  | run => exact ⟨.edge, Nat.le_refl _⟩
  | one => exact ⟨.line, Nat.le_refl _⟩
  | char c =>
    have hweight : (ofPattern (globPiece (.char c))).weight = 32 * (utf8Bytes c.toNat).length := by
      have hcount := Machine.byteCount_cons c []
      have hnil : Machine.byteCount [] = 0 := rfl
      rw [hnil, Nat.add_zero] at hcount
      rw [← hcount]
      rfl
    have hbytes := length_utf8Bytes_le c.toNat
    refine ⟨.literal [c], ?_⟩
    rw [hweight, Machine.lineBytes]
    omega

/-- The outline of a sequence whose first pattern has a flat one. -/
theorem ofPattern_sequence_cons {a : Pattern} {rest : List Pattern} {parts : List Outline}
    (ha : Flat (ofPattern a)) (hrest : ofPattern (sequence rest) = ofParts parts)
    (hparts : ∀ b ∈ parts, Flat b) (hne : rest ≠ []) :
    ofPattern (sequence (a :: rest)) = ofParts (consPart (ofPattern a) parts) := by
  cases rest with
  | nil => exact absurd rfl hne
  | cons b rest =>
    have hseq : ofPattern (sequence (a :: b :: rest))
        = (ofPattern a).append (ofPattern (sequence (b :: rest))) := rfl
    rw [hseq, hrest, append, ha.parts, parts_ofParts hparts]
    rfl

/-- The outlines of the written parts and the mark behind them are flat. -/
theorem ofPattern_globPieces (parts : List GlobPart) : ∃ outlines : List Outline, outlines ≠ [] ∧
    ofPattern (sequence (parts.map globPiece ++ [.anchor .textEnd])) = ofParts outlines ∧
      (∀ a ∈ outlines, Flat a) ∧
      load outlines ≤ (Machine.lineBytes + 40 + Machine.wayBytes) * (parts.length + 1) := by
  induction parts with
  | nil =>
    exact ⟨[.anchor .textEnd], List.cons_ne_nil _ _, rfl,
      List.forall_mem_singleton.2 (.anchor _), Nat.le_refl _⟩
  | cons p parts ih =>
    obtain ⟨outlines, hne, heq, hflat, hload⟩ := ih
    obtain ⟨hp, hweight⟩ := flat_globPiece p
    refine ⟨consPart (ofPattern (globPiece p)) outlines, consPart_ne_nil _ _,
      ofPattern_sequence_cons hp heq hflat (by simp), flat_consPart hp hflat, ?_⟩
    have hcons := load_consPart (ofPattern (globPiece p)) outlines
    rw [List.length_cons, Nat.mul_succ]
    omega

/-- The outline of a value's pattern is a sequence of flat ones. -/
theorem ofPattern_globSequence (parts : List GlobPart) : ∃ outlines : List Outline,
    ofPattern (globSequence parts) = .seq outlines ∧ (∀ a ∈ outlines, Flat a) ∧
      load outlines ≤ (Machine.lineBytes + 40 + Machine.wayBytes) * (parts.length + 2) := by
  obtain ⟨outlines, hne, heq, hflat, hload⟩ := ofPattern_globPieces parts
  have hstart : Flat (ofPattern (.anchor .textStart)) := .anchor .textStart
  refine ⟨.anchor .textStart :: outlines, ?_, List.forall_mem_cons.2 ⟨.anchor _, hflat⟩, ?_⟩
  · rw [globSequence, ofPattern_sequence_cons hstart heq hflat (by simp)]
    cases outlines with
    | nil => exact absurd rfl hne
    | cons a rest => rfl
  · rw [load_cons, Nat.mul_succ]
    have hweight : (Outline.anchor Anchor.textStart).weight = Machine.lineBytes + 40 := rfl
    omega

theorem mirrorAll_eq (parts : List Outline) : mirrorAll parts = parts.map mirror := by
  induction parts with
  | nil => rfl
  | cons a parts ih => rw [mirrorAll, ih, List.map_cons]

/-- Read from the other end, a sequence of flat outlines takes as much. -/
theorem mirror_flat {parts : List Outline} (h : ∀ a ∈ parts, Flat a) : ∃ mirrored : List Outline,
    (Outline.seq parts).mirror = .seq mirrored ∧ (∀ a ∈ mirrored, Flat a) ∧
      load mirrored = load parts := by
  refine ⟨(parts.map mirror).reverse, ?_, fun a ha => ?_, ?_⟩
  · rw [mirror, mirrorAll_eq]
  · obtain ⟨b, hb, rfl⟩ := List.mem_map.1 (List.mem_reverse.1 ha)
    exact (h b hb).mirror.1
  · rw [load, load, List.map_reverse, List.sum_reverse, List.map_map]
    refine congrArg List.sum (List.map_congr_left fun a ha => ?_)
    rw [Function.comp_apply, (h a ha).mirror.2]

end Outline

namespace Machine

theorem takes_flat (d : Direction) {a : Outline} (h : a.Flat) :
    Takes (measure d a) a.weight := by
  cases h with
  | literal cs => exact takes_literal d cs
  | anchor a =>
    intro m
    have hweight : (Outline.anchor a).weight = lineBytes + 40 := rfl
    rw [measure, size_add, hweight]
    simp only [stateBytes, lineBytes]
    omega
  | line =>
    intro m
    have hweight : (Outline.set (CharSet.compl (.single '\n')) true).weight = lineBytes + 40 := rfl
    have hline := takes_line d m
    rw [measure, hweight]
    omega
  | edge => exact takes_edge d

theorem takes_load (d : Direction) {parts : List Outline} (h : ∀ a ∈ parts, a.Flat) :
    Takes (measureSeq d parts) (Outline.load parts) := by
  induction parts with
  | nil => exact fun m => Nat.le_refl _
  | cons a parts ih =>
    obtain ⟨ha, hrest⟩ := List.forall_mem_cons.1 h
    have htakes := takes_measureSeq_cons (takes_flat d ha) (ih hrest)
    intro m
    have hm := htakes m
    rw [Outline.load_cons]
    omega

end Machine

/-- The patterns of values of up to 2500 parts can be used. -/
theorem fits_globSequence {parts : List GlobPart} (h : parts.length ≤ 2500) :
    (globSequence parts).fits = true := by
  obtain ⟨outlines, heq, hflat, hload⟩ := Outline.ofPattern_globSequence parts
  obtain ⟨mirrored, hmirror, hflat', hload'⟩ := Outline.mirror_flat hflat
  have hsmall : ∀ {d : Direction} {l : List Outline}, (∀ a ∈ l, a.Flat) →
      Outline.load l = Outline.load outlines → (Machine.ofOutline d (.seq l)).tooLarge = false := by
    intro d l hl hequal
    have hsize := Machine.size_ofOutline_seq (Machine.takes_load d hl)
    refine decide_eq_false ?_
    simp only [Machine.maxSize, Machine.lineBytes, Machine.wayBytes] at *
    omega
  rw [fits, heq, hmirror, hsmall hflat rfl, hsmall hflat' hload']
  simp

end EventSearch.Pattern
