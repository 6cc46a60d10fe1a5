/-
# `EventSearch.Pattern.Machine.Class` — the states of a class of characters

A machine reads bytes.  A class within ASCII takes two states; another one takes states for the
byte sequences of its characters, and sequences share what they have in common: their tails where
the machine reads forward, their leading bytes where it reads backward.

Which states are found again depends on a table of limited size: the ways on from a state determine
its slot, and a slot knows the state that was put there last.
-/
import Std.Data.HashMap
import EventSearch.Pattern.Machine.Basic
import EventSearch.Text.ByteSpans

namespace EventSearch.Pattern

open EventSearch.Text

/-- Which way the machine goes through a text. -/
inductive Direction where
  | forward
  | backward
  deriving DecidableEq

namespace Machine

/-! ## Shared states -/

/-- A way on from a state: the bytes of a span, and the number of the state they lead to. -/
structure Way where
  bytes : Span
  target : Nat
  deriving DecidableEq

/-- A machine, and the states of a class by their slots, each with its ways on. -/
structure Sharing where
  machine : Machine
  known : Std.HashMap Nat (List Way × Nat)

/-- Numbers scattered over slots: each is mixed in and the result multiplied by a prime. -/
def slotOf (slots : Nat) (numbers : List Nat) : Nat :=
  let mixed : UInt64 := numbers.foldl (fun h n => (h ^^^ n.toUInt64) * 1099511628211)
    14695981039346656037
  mixed.toNat % slots

/-- A new state, which takes over its slot and `extra` bytes beyond those of any state. -/
def Sharing.put (s : Sharing) (slot : Nat) (ways : List Way) (extra : Nat) : Nat × Sharing :=
  let id := s.machine.states
  (id, ⟨s.machine.add 1 extra, s.known.insert slot (ways, id)⟩)

/-- The number of a state with some ways on: the one its slot knows, or a new one. -/
def Sharing.state (s : Sharing) (slot : Nat) (ways : List Way) (extra : Nat) : Nat × Sharing :=
  match s.known[slot]? with
  | some (known, id) => if known = ways then (id, s) else s.put slot ways extra
  | none => s.put slot ways extra

/-! ## Forward -/

def forwardSlots : Nat := 10000

/-- The state that reads all of a list of ways. -/
def Sharing.fork (s : Sharing) (ways : List Way) : Nat × Sharing :=
  let numbers := ways.flatMap fun w => [w.bytes.first, w.bytes.last, w.target]
  s.state (slotOf forwardSlots numbers) ways (ways.length * spanBytes)

/-- The state that reads any of some sequences and then goes on to `target`; `depth` bounds their
lengths.  Sequences that begin alike stand together. -/
def Sharing.tree (target : Nat) : Nat → List (List Span) → Sharing → Nat × Sharing
  | 0, _, s => (target, s)
  | depth + 1, sequences, s =>
    if sequences.all List.isEmpty then (target, s)
    else
      let groups := sequences.splitBy fun p q => p.head? = q.head?
      let (ways, s) := groups.foldl (fun (ways, s) group =>
        let (id, s) := tree target depth (group.map List.tail) s
        let first := (group.head?.bind List.head?).toList
        (ways ++ first.map fun bytes => Way.mk bytes id, s)) ([], s)
      s.fork ways

/-- A class read forward. -/
def addForward (sequences : List (List Span)) (m : Machine) : Machine :=
  (Sharing.tree m.states 4 sequences ⟨m.add 1 0, ∅⟩).2.machine.detach

/-! ## Backward -/

def backwardSlots : Nat := 1000

/-- The states that read a sequence from its end, and then go on to `target`: the first byte is read
last. -/
def Sharing.chain (target : Nat) (sequence : List Span) (s : Sharing) : Nat × Sharing :=
  sequence.foldl (fun (target, s) bytes =>
    let slot := slotOf backwardSlots [target, bytes.first, bytes.last]
    s.state slot [⟨bytes, target⟩] 0) (target, s)

/-- A class read backward: a branch leads to the end of each sequence. -/
def addBackward (sequences : List (List Span)) (m : Machine) : Machine :=
  let s := sequences.foldl (fun s sequence => (Sharing.chain (m.states + 1) sequence s).2)
    ⟨m.add 2 (sequences.length * wayBytes), ∅⟩
  s.machine.detach

/-! ## Classes -/

/-- A class of characters. -/
def addClass (d : Direction) (s : CharSet) : Part := fun m =>
  if s.isAscii then m.add 2 (s.spans.length * spanBytes)
  else
    match d with
    | .forward => addForward (byteSequences s) m
    | .backward => addBackward (byteSequences s) m

end Machine

end EventSearch.Pattern
