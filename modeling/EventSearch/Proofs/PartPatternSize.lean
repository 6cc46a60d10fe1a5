/-
# `EventSearch.Proofs.PartPatternSize` — patterns of parts are not refused as too large

The machines of a part's pattern read its bytes one by one between two loops over the characters of
a line.  Which states of such a loop are shared depends on what stands before it, but there are never
more than the byte sequences ask for (`size_tree`, `takes_addBackward`), so the machines take 32
bytes for each byte of the part and little more (`size_ofOutline_around`).  Parts of up to 300 000
bytes are far from the limit (`fits_around`).  They take no less either, and the part alone is over
it from 327 681 bytes on (`fits_around_large`).
-/
import Mathlib.Data.List.SplitBy
import EventSearch.Proofs.PartPatterns

namespace EventSearch.Pattern

open EventSearch.Text

/-! ## Outlines -/

namespace Outline

/-- The outline of any number of characters inside a line. -/
def edge : Outline := .times (.set (CharSet.compl (.single '\n')) true) 0 none true

/-- The characters of a text, which are one part when there are any. -/
def textParts (cs : List Char) : List Outline := if cs = [] then [] else [.literal cs]

theorem ofPattern_anyOnLine : ofPattern anyOnLine = edge := rfl

theorem parts_ofParts_edge (cs : List Char) :
    (ofParts (textParts cs ++ [edge])).parts = textParts cs ++ [edge] := by
  cases cs <;> rfl

theorem consPart_char (c : Char) (cs : List Char) :
    consPart (.literal [c]) (textParts cs ++ [edge]) = textParts (c :: cs) ++ [edge] := by
  cases cs <;> rfl

theorem ofPattern_seq (a b : Pattern) : ofPattern (.seq a b) = (ofPattern a).append (ofPattern b) :=
  rfl

theorem ofPattern_sequence (cs : List Char) :
    ofPattern (sequence (cs.map Pattern.char ++ [anyOnLine])) = ofParts (textParts cs ++ [edge]) := by
  induction cs with
  | nil => exact ofPattern_anyOnLine
  | cons c cs ih =>
    have hseq : sequence ((c :: cs).map Pattern.char ++ [anyOnLine])
        = .seq (.char c) (sequence (cs.map Pattern.char ++ [anyOnLine])) := by
      cases cs <;> rfl
    have happend : ∀ b : Outline, (ofPattern (.char c)).append b
        = ofParts (consPart (.literal [c]) b.parts) := fun _ => rfl
    rw [hseq, ofPattern_seq, ih, happend, parts_ofParts_edge, consPart_char]

/-- The outline of a part with anything around it. -/
theorem ofPattern_around (cs : List Char) :
    ofPattern (around cs) = .seq (edge :: (textParts cs ++ [edge])) := by
  have hseq : around cs = .seq anyOnLine (sequence (cs.map Pattern.char ++ [anyOnLine])) := by
    cases cs <;> rfl
  have happend : ∀ b : Outline, edge.append b = ofParts (edge :: b.parts) := fun _ => rfl
  rw [hseq, ofPattern_seq, ofPattern_anyOnLine, ofPattern_sequence, happend, parts_ofParts_edge]
  cases cs <;> rfl

theorem mirror_around (cs : List Char) : (Outline.seq (edge :: (textParts cs ++ [edge]))).mirror
    = .seq (edge :: (textParts cs.reverse ++ [edge])) := by
  cases cs with
  | nil => rfl
  | cons c cs =>
    have hne : textParts (c :: cs).reverse = [.literal (c :: cs).reverse] := by
      simp [textParts]
    rw [hne]
    rfl

end Outline

/-! ## Machines -/

namespace Machine

theorem size_add (m : Machine) (states extra : Nat) :
    (m.add states extra).size = m.size + stateBytes * states + extra := by
  simp only [size, add, Nat.mul_add]
  omega

theorem size_link (m behind : Machine) : (m.link behind).size = behind.size + m.lead := by
  simp only [link, size, Nat.add_assoc]

theorem lead_le (m : Machine) : m.lead ≤ wayBytes := by
  unfold lead
  split <;> simp

/-- A part adds at most so many bytes, whatever it is put behind. -/
def Takes (part : Part) (bytes : Nat) : Prop := ∀ m, (part m).size ≤ m.size + bytes

/-! ### Classes -/

/-- A state is added at most. -/
theorem size_state (s : Sharing) (slot : Nat) (ways : List Way) (extra : Nat) :
    (s.state slot ways extra).2.machine.size ≤ s.machine.size + (stateBytes + extra) := by
  have hput : (s.put slot ways extra).2.machine.size = s.machine.size + stateBytes * 1 + extra :=
    size_add s.machine 1 extra
  unfold Sharing.state
  split
  · split
    · exact Nat.le_add_right _ _
    · rw [hput]
      omega
  · rw [hput]
    omega

/-- One group of sequences that begin alike, put behind a way. -/
def Sharing.branch (target depth : Nat) (r : List Way × Sharing) (group : List (List Span)) :
    List Way × Sharing :=
  let (id, s) := tree target depth (group.map List.tail) r.2
  let first := (group.head?.bind List.head?).toList
  (r.1 ++ first.map fun bytes => Way.mk bytes id, s)

theorem Sharing.tree_succ (target depth : Nat) (sequences : List (List Span)) (s : Sharing) :
    tree target (depth + 1) sequences s =
      if sequences.all List.isEmpty then (target, s)
      else
        let r := (sequences.splitBy fun p q => p.head? = q.head?).foldl (branch target depth) ([], s)
        r.2.fork r.1 := rfl

/-- Groups of sequences add a way each, and what their tails take. -/
theorem size_foldl_branch {target depth : Nat}
    (ih : ∀ sequences s, (Sharing.tree target depth sequences s).2.machine.size
      ≤ s.machine.size + 40 * depth * sequences.length)
    (groups : List (List (List Span))) (r : List Way × Sharing) :
    (groups.foldl (Sharing.branch target depth) r).1.length ≤ r.1.length + groups.length ∧
      (groups.foldl (Sharing.branch target depth) r).2.machine.size
        ≤ r.2.machine.size + 40 * depth * groups.flatten.length := by
  induction groups generalizing r with
  | nil => exact ⟨Nat.le_refl _, Nat.le_refl _⟩
  | cons group groups ihg =>
    obtain ⟨hways, hsize⟩ := ihg (Sharing.branch target depth r group)
    have hone : (Sharing.branch target depth r group).1.length ≤ r.1.length + 1 := by
      simp only [Sharing.branch, List.length_append, List.length_map]
      cases group.head?.bind List.head? <;> simp
    have htails : (Sharing.branch target depth r group).2.machine.size
        ≤ r.2.machine.size + 40 * depth * group.length := by
      have htree := ih (group.map List.tail) r.2
      rwa [List.length_map] at htree
    rw [List.foldl_cons, List.length_cons, List.flatten_cons, List.length_append, Nat.mul_add]
    exact ⟨by omega, by omega⟩

theorem length_le_flatten {α : Type} {lists : List (List α)} (h : [] ∉ lists) :
    lists.length ≤ lists.flatten.length := by
  induction lists with
  | nil => exact Nat.le_refl 0
  | cons l lists ih =>
    have hl : l ≠ [] := fun he => h (he ▸ List.mem_cons_self)
    have hpos := List.length_pos_iff.2 hl
    have hrest := ih fun hm => h (List.mem_cons_of_mem l hm)
    rw [List.length_cons, List.flatten_cons, List.length_append]
    omega

/-- Sequences take a state and a way at most for each of their bytes. -/
theorem size_tree (target depth : Nat) (sequences : List (List Span)) (s : Sharing) :
    (Sharing.tree target depth sequences s).2.machine.size
      ≤ s.machine.size + 40 * depth * sequences.length := by
  induction depth generalizing sequences s with
  | zero => exact Nat.le_add_right _ _
  | succ depth ih =>
    rw [Sharing.tree_succ]
    split
    · exact Nat.le_add_right _ _
    · next hall =>
      have hne : sequences ≠ [] := by
        rintro rfl
        exact hall rfl
      have hpos := List.length_pos_iff.2 hne
      -- a group adds one way and what its tails take; the state is as large as its ways
      generalize hgroups : sequences.splitBy (fun p q => p.head? = q.head?) = groups
      have hflat : groups.flatten = sequences := by
        rw [← hgroups]
        exact List.flatten_splitBy _ _
      have hcount : groups.length ≤ sequences.length := by
        rw [← hflat]
        refine length_le_flatten ?_
        rw [← hgroups]
        exact List.nil_notMem_splitBy _ _
      obtain ⟨hways, hsize⟩ := size_foldl_branch (fun sequences s => ih sequences s) groups ([], s)
      rw [hflat] at hsize
      have hfork := size_state (groups.foldl (Sharing.branch target depth) ([], s)).2
        (slotOf forwardSlots ((groups.foldl (Sharing.branch target depth) ([], s)).1.flatMap
          fun w => [w.bytes.first, w.bytes.last, w.target]))
        (groups.foldl (Sharing.branch target depth) ([], s)).1
        ((groups.foldl (Sharing.branch target depth) ([], s)).1.length * spanBytes)
      refine Nat.le_trans hfork ?_
      have hlength : (groups.foldl (Sharing.branch target depth) ([], s)).1.length
          ≤ sequences.length := by
        simp only [List.length_nil, Nat.zero_add] at hways
        omega
      have hexpand : 40 * (depth + 1) * sequences.length
          = 40 * depth * sequences.length + 40 * sequences.length := by
        rw [Nat.mul_add, Nat.add_mul]
      simp only [stateBytes, spanBytes] at *
      omega

theorem takes_addForward (sequences : List (List Span)) :
    Takes (addForward sequences) (32 + 160 * sequences.length) := by
  intro m
  have htree := size_tree m.states 4 sequences ⟨m.add 1 0, ∅⟩
  have hadd := size_add m 1 0
  have hdetach : (addForward sequences m).size
      = (Sharing.tree m.states 4 sequences ⟨m.add 1 0, ∅⟩).2.machine.size := rfl
  simp only [stateBytes] at *
  omega

/-- A sequence takes a state at most for each of its bytes. -/
theorem size_chain (target : Nat) (sequence : List Span) (s : Sharing) :
    (Sharing.chain target sequence s).2.machine.size
      ≤ s.machine.size + stateBytes * sequence.length := by
  induction sequence generalizing target s with
  | nil => exact Nat.le_refl _
  | cons bytes sequence ih =>
    have hstate := size_state s (slotOf backwardSlots [target, bytes.first, bytes.last])
      [⟨bytes, target⟩] 0
    have hrest := ih (s.state (slotOf backwardSlots [target, bytes.first, bytes.last])
      [⟨bytes, target⟩] 0).1 (s.state (slotOf backwardSlots [target, bytes.first, bytes.last])
      [⟨bytes, target⟩] 0).2
    have hchain : Sharing.chain target (bytes :: sequence) s = Sharing.chain
        (s.state (slotOf backwardSlots [target, bytes.first, bytes.last]) [⟨bytes, target⟩] 0).1
        sequence (s.state (slotOf backwardSlots [target, bytes.first, bytes.last])
          [⟨bytes, target⟩] 0).2 := rfl
    rw [hchain, List.length_cons, Nat.mul_add]
    omega

theorem takes_addBackward (sequences : List (List Span)) :
    Takes (addBackward sequences) (64 + 4 * sequences.length + 32 * sequences.flatten.length) := by
  intro m
  have hfold : ∀ s : Sharing, (sequences.foldl (fun s sequence =>
      (Sharing.chain (m.states + 1) sequence s).2) s).machine.size
        ≤ s.machine.size + 32 * sequences.flatten.length := by
    intro s
    induction sequences generalizing s with
    | nil => exact Nat.le_refl _
    | cons sequence sequences ih =>
      have hchain := size_chain (m.states + 1) sequence s
      have hrest := ih (Sharing.chain (m.states + 1) sequence s).2
      rw [List.foldl_cons, List.flatten_cons, List.length_append, Nat.mul_add]
      simp only [stateBytes] at hchain
      omega
  have hstart := hfold ⟨m.add 2 (sequences.length * wayBytes), ∅⟩
  have hadd := size_add m 2 (sequences.length * wayBytes)
  have hdetach : (addBackward sequences m).size = (sequences.foldl (fun s sequence =>
      (Sharing.chain (m.states + 1) sequence s).2)
        ⟨m.add 2 (sequences.length * wayBytes), ∅⟩).machine.size := rfl
  simp only [stateBytes, wayBytes] at *
  omega

/-- What the characters of a line take, however they are read. -/
def lineBytes : Nat := 4000

theorem takes_line (d : Direction) :
    Takes (addClass d (CharSet.compl (.single '\n'))) lineBytes := by
  have hascii : (CharSet.compl (.single '\n')).isAscii = false := by decide
  have hlength : (byteSequences (CharSet.compl (.single '\n'))).length ≤ 20 := by decide +kernel
  have hflat : (byteSequences (CharSet.compl (.single '\n'))).flatten.length ≤ 80 := by
    decide +kernel
  intro m
  cases d with
  | forward =>
    have htakes := takes_addForward (byteSequences (CharSet.compl (.single '\n'))) m
    simp only [addClass, hascii, Bool.false_eq_true, if_false, lineBytes]
    omega
  | backward =>
    have htakes := takes_addBackward (byteSequences (CharSet.compl (.single '\n'))) m
    simp only [addClass, hascii, Bool.false_eq_true, if_false, lineBytes]
    omega

/-! ### Outlines -/

/-- Any number of characters inside a line. -/
theorem size_edge (d : Direction) (m : Machine) : (measure d Outline.edge m).size
    = (addClass d (CharSet.compl (.single '\n')) (m.add 1 wayBytes)).size
      + (addClass d (CharSet.compl (.single '\n')) (m.add 1 wayBytes)).lead := by
  have hmeasure : measure d Outline.edge m
      = anyNumber (addClass d (CharSet.compl (.single '\n'))) true m := by
    simp only [Outline.edge, measure, repetition]
    rfl
  rw [hmeasure]
  simp only [anyNumber, if_true, size, Nat.add_assoc]

theorem takes_edge (d : Direction) : Takes (measure d Outline.edge) (lineBytes + 40) := by
  intro m
  have hline := takes_line d (m.add 1 wayBytes)
  have hadd := size_add m 1 wayBytes
  have hlead := lead_le (addClass d (CharSet.compl (.single '\n')) (m.add 1 wayBytes))
  rw [size_edge]
  simp only [stateBytes, wayBytes] at *
  omega

theorem takes_measureSeq_cons {d : Direction} {a : Outline} {rest : List Outline} {x y : Nat}
    (ha : Takes (measure d a) x) (hrest : Takes (measureSeq d rest) y) :
    Takes (measureSeq d (a :: rest)) (x + y + wayBytes) := by
  intro m
  have hlead := lead_le m
  have hfirst := ha m
  have hmore := hrest (m.link (measure d a m))
  rw [size_link] at hmore
  rw [measureSeq]
  omega

/-- The number of bytes of a text. -/
def byteCount (cs : List Char) : Nat := (bytesOf .forward cs).length

theorem byteCount_cons (c : Char) (cs : List Char) :
    byteCount (c :: cs) = (utf8Bytes c.toNat).length + byteCount cs := by
  simp only [byteCount, bytesOf, List.flatMap_cons, List.length_append]

theorem byteCount_replicate (n : Nat) (c : Char) :
    byteCount (List.replicate n c) = n * (utf8Bytes c.toNat).length := by
  induction n with
  | zero => exact (Nat.zero_mul _).symm
  | succ n ih => rw [List.replicate_succ, byteCount_cons, ih, Nat.succ_mul, Nat.add_comm]

theorem length_bytesOf (d : Direction) (cs : List Char) : (bytesOf d cs).length = byteCount cs := by
  cases d with
  | forward => rfl
  | backward =>
    induction cs with
    | nil => rfl
    | cons c cs ih =>
      rw [byteCount_cons, ← ih]
      simp only [bytesOf, List.flatMap_cons, List.length_append, List.length_reverse]

theorem byteCount_append (cs ds : List Char) :
    byteCount (cs ++ ds) = byteCount cs + byteCount ds := by
  simp only [byteCount, bytesOf, List.flatMap_append, List.length_append]

theorem byteCount_reverse (cs : List Char) : byteCount cs.reverse = byteCount cs := by
  induction cs with
  | nil => rfl
  | cons c cs ih =>
    rw [List.reverse_cons, byteCount_append, ih, byteCount_cons, byteCount_cons]
    exact Nat.add_comm _ _

/-- Each byte of a text takes a state. -/
theorem size_literal (d : Direction) (cs : List Char) (m : Machine) :
    (measure d (.literal cs) m).size = m.size + 32 * byteCount cs := by
  rw [measure, size_add, length_bytesOf, stateBytes, Nat.add_zero]

theorem takes_literal (d : Direction) (cs : List Char) :
    Takes (measure d (.literal cs)) (32 * byteCount cs) := by
  intro m
  rw [size_literal]

theorem takes_around (d : Direction) (cs : List Char) :
    Takes (measureSeq d (Outline.edge :: (Outline.textParts cs ++ [Outline.edge])))
      (2 * lineBytes + 100 + 32 * byteCount cs) := by
  have hnil : Takes (measureSeq d []) 0 := fun m => Nat.le_refl _
  have hlast := takes_measureSeq_cons (takes_edge d) hnil
  intro m
  unfold Outline.textParts
  split
  · have hall := takes_measureSeq_cons (takes_edge d) hlast m
    simp only [wayBytes] at hall
    simp only [List.nil_append]
    omega
  · have hall := takes_measureSeq_cons (takes_edge d)
      (takes_measureSeq_cons (takes_literal d cs) hlast) m
    simp only [wayBytes] at hall
    simp only [List.cons_append, List.nil_append]
    omega

/-- Reading forward, a state stands at both ends of a group. -/
theorem measure_capture (a : Outline) (m : Machine) : measure .forward (.capture a) m
    = (measure .forward a (m.add 1 0)).add 1 (measure .forward a (m.add 1 0)).lead := by
  rw [measure]

theorem size_start (anchored : Bool) : (start anchored).size ≤ 120 := by
  cases anchored <;> decide

/-- The machine of a sequence: what its parts take, with what stands around a pattern. -/
theorem size_ofOutline_seq {d : Direction} {parts : List Outline} {bytes : Nat}
    (h : Takes (measureSeq d parts) bytes) :
    (ofOutline d (.seq parts)).size ≤ bytes + 300 := by
  have hseq : Takes (measure d (.seq parts)) bytes := fun m => h m.detach
  have hcapture : Takes (measure d (.capture (.seq parts))) (bytes + 100) := by
    intro m
    cases d with
    | forward =>
      have hbody := hseq (m.add 1 0)
      have hopen := size_add m 1 0
      have hclose := size_add (measure .forward (.seq parts) (m.add 1 0)) 1
        (measure .forward (.seq parts) (m.add 1 0)).lead
      have hlead := lead_le (measure .forward (.seq parts) (m.add 1 0))
      rw [measure_capture]
      simp only [stateBytes, wayBytes] at *
      omega
    | backward =>
      have hbody := hseq m
      have hmeasure : measure .backward (.capture (.seq parts)) m
          = measure .backward (.seq parts) m := by
        rw [measure]
      rw [hmeasure]
      omega
  simp only [ofOutline]
  generalize hm : start (Outline.startsAt _ (.seq parts)) = m
  have hstart : m.size ≤ 120 := by
    rw [← hm]
    exact size_start _
  have hbody := hcapture m
  have hlast := size_add (measure d (.capture (.seq parts)) m) 1
    (measure d (.capture (.seq parts)) m).lead
  have hlead := lead_le (measure d (.capture (.seq parts)) m)
  simp only [stateBytes, wayBytes] at *
  omega

/-- The machine of a part with anything around it. -/
theorem size_ofOutline_around (d : Direction) (cs : List Char) :
    (ofOutline d (.seq (Outline.edge :: (Outline.textParts cs ++ [Outline.edge])))).size
      ≤ 2 * lineBytes + 400 + 32 * byteCount cs := by
  have hsize := size_ofOutline_seq (takes_around d cs)
  omega

/-! ### Least sizes -/

/-- A part adds at least so many bytes, whatever it is put behind. -/
def Needs (part : Part) (bytes : Nat) : Prop := ∀ m, m.size + bytes ≤ (part m).size

theorem le_size_state (s : Sharing) (slot : Nat) (ways : List Way) (extra : Nat) :
    s.machine.size ≤ (s.state slot ways extra).2.machine.size := by
  have hput : s.machine.size ≤ (s.put slot ways extra).2.machine.size := by
    have hadd : (s.put slot ways extra).2.machine.size
        = s.machine.size + stateBytes * 1 + extra := size_add s.machine 1 extra
    omega
  unfold Sharing.state
  split
  · split
    · exact Nat.le_refl _
    · exact hput
  · exact hput

theorem le_size_tree (target depth : Nat) (sequences : List (List Span)) (s : Sharing) :
    s.machine.size ≤ (Sharing.tree target depth sequences s).2.machine.size := by
  induction depth generalizing sequences s with
  | zero => exact Nat.le_refl _
  | succ depth ih =>
    have hgroups : ∀ (groups : List (List (List Span))) (r : List Way × Sharing),
        r.2.machine.size ≤ (groups.foldl (Sharing.branch target depth) r).2.machine.size := by
      intro groups
      induction groups with
      | nil => exact fun r => Nat.le_refl _
      | cons group groups ihg =>
        intro r
        have hone : r.2.machine.size ≤ (Sharing.branch target depth r group).2.machine.size :=
          ih (group.map List.tail) r.2
        exact Nat.le_trans hone (ihg (Sharing.branch target depth r group))
    rw [Sharing.tree_succ]
    split
    · exact Nat.le_refl _
    · exact Nat.le_trans (hgroups _ ([], s)) (le_size_state _ _ _ _)

theorem needs_addForward (sequences : List (List Span)) : Needs (addForward sequences) 0 := by
  intro m
  have htree := le_size_tree m.states 4 sequences ⟨m.add 1 0, ∅⟩
  have hadd := size_add m 1 0
  have hdetach : (addForward sequences m).size
      = (Sharing.tree m.states 4 sequences ⟨m.add 1 0, ∅⟩).2.machine.size := rfl
  simp only at htree
  omega

theorem needs_line : Needs (addClass .forward (CharSet.compl (.single '\n'))) 0 := by
  have hascii : (CharSet.compl (.single '\n')).isAscii = false := by decide
  intro m
  have hneeds := needs_addForward (byteSequences (CharSet.compl (.single '\n'))) m
  simp only [addClass, hascii, Bool.false_eq_true, if_false]
  exact hneeds

theorem needs_edge : Needs (measure .forward Outline.edge) 0 := by
  intro m
  have hline := needs_line (m.add 1 wayBytes)
  have hadd := size_add m 1 wayBytes
  rw [size_edge]
  omega

theorem needs_literal (d : Direction) (cs : List Char) :
    Needs (measure d (.literal cs)) (32 * byteCount cs) := by
  intro m
  rw [size_literal]

theorem needs_measureSeq_cons {d : Direction} {a : Outline} {rest : List Outline} {x y : Nat}
    (ha : Needs (measure d a) x) (hrest : Needs (measureSeq d rest) y) :
    Needs (measureSeq d (a :: rest)) (x + y) := by
  intro m
  have hfirst := ha m
  have hmore := hrest (m.link (measure d a m))
  rw [size_link] at hmore
  rw [measureSeq]
  omega

/-- The machine that reads a part forward, with anything around it. -/
theorem le_size_ofOutline_around {cs : List Char} (h : cs ≠ []) : 32 * byteCount cs
    ≤ (ofOutline .forward (.seq (Outline.edge :: (Outline.textParts cs ++ [Outline.edge])))).size := by
  have hnil : Needs (measureSeq .forward []) 0 := fun m => Nat.le_refl _
  have hparts : Needs (measureSeq .forward [Outline.edge, .literal cs, Outline.edge])
      (0 + (32 * byteCount cs + (0 + 0))) :=
    needs_measureSeq_cons needs_edge (needs_measureSeq_cons (needs_literal .forward cs)
      (needs_measureSeq_cons needs_edge hnil))
  have htext : Outline.edge :: (Outline.textParts cs ++ [Outline.edge])
      = [Outline.edge, .literal cs, Outline.edge] := by
    rw [Outline.textParts, if_neg h]
    rfl
  rw [htext]
  simp only [ofOutline]
  generalize start _ = m
  have hbody := hparts (m.add 1 0).detach
  rw [measure_capture, size_add, size_add]
  have hseq : measure .forward (.seq [Outline.edge, .literal cs, Outline.edge]) (m.add 1 0)
      = measureSeq .forward [Outline.edge, .literal cs, Outline.edge] (m.add 1 0).detach := by
    rw [measure]
  rw [hseq]
  omega

end Machine

/-- The patterns of parts of up to 300 000 bytes can be used. -/
theorem fits_around {cs : List Char} (h : Machine.byteCount cs ≤ 300000) :
    (around cs).fits = true := by
  have hforward := Machine.size_ofOutline_around .forward cs
  have hbackward := Machine.size_ofOutline_around .backward cs.reverse
  rw [Machine.byteCount_reverse] at hbackward
  have hsmall : ∀ m : Machine, m.size ≤ 2 * Machine.lineBytes + 400 + 32 * Machine.byteCount cs →
      m.tooLarge = false := by
    intro m hm
    refine decide_eq_false ?_
    simp only [Machine.maxSize, Machine.lineBytes] at *
    omega
  rw [fits, Outline.ofPattern_around, Outline.mirror_around, hsmall _ hforward, hsmall _ hbackward]
  simp

/-- Those of parts of 327 681 bytes and more cannot. -/
theorem fits_around_large {cs : List Char} (h : 327681 ≤ Machine.byteCount cs) :
    (around cs).fits = false := by
  have hne : cs ≠ [] := by
    rintro rfl
    exact absurd h (by decide)
  have hsize := Machine.le_size_ofOutline_around hne
  have hlarge : (Machine.ofOutline .forward
      (.seq (Outline.edge :: (Outline.textParts cs ++ [Outline.edge])))).tooLarge = true := by
    refine decide_eq_true ?_
    simp only [Machine.maxSize]
    omega
  rw [fits, Outline.ofPattern_around, hlarge]
  rfl

end EventSearch.Pattern
