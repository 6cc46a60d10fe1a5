/-
# `EventSearch.Pattern.Machine.Basic` — the size of a machine

A pattern is matched by a machine of states.  Of the machine only its size matters here: every state
takes the same space, and those that lead on in several ways take more.  Parts are added one behind
another; when the last state of a part is a branch, leading it on is one more of its ways.
-/
namespace EventSearch.Pattern

/-- How much of a machine there is so far. -/
structure Machine where
  states : Nat
  /-- Bytes that states take beyond what each takes. -/
  extra : Nat
  /-- The part added last ends in a branch. -/
  endsOpen : Bool

namespace Machine

/-- What every state takes. -/
def stateBytes : Nat := 32

/-- What one way on from a branch takes. -/
def wayBytes : Nat := 4

/-- What one span of bytes takes in a state that reads several. -/
def spanBytes : Nat := 8

/-- A machine without a part. -/
def nothing : Machine := ⟨0, 0, false⟩

/-- The space a machine takes. -/
def size (m : Machine) : Nat := stateBytes * m.states + m.extra

/-- Machines that take more are refused. -/
def maxSize : Nat := 10485760

def tooLarge (m : Machine) : Bool := maxSize < m.size

/-- A machine with a part of some states, and bytes beyond those, that ends in no branch. -/
def add (m : Machine) (states extra : Nat) : Machine := ⟨m.states + states, m.extra + extra, false⟩

/-- The end of a part led on to a single state. -/
def lead (m : Machine) : Nat := if m.endsOpen then wayBytes else 0

/-- What part `behind` makes of a machine `m` when the end of `m` leads on to it. -/
def link (m behind : Machine) : Machine := { behind with extra := behind.extra + m.lead }

/-- A machine whose next part is led to from elsewhere. -/
def detach (m : Machine) : Machine := { m with endsOpen := false }

/-- A branch behind the last part that leads back into it, and on. -/
def loopBack (m : Machine) : Machine := ⟨m.states + 1, m.extra + m.lead + wayBytes, true⟩

/-! ## Repetition -/

/-- One part added. -/
abbrev Part := Machine → Machine

/-- Copies of a part, each led to from what is before it.  Nothing is added to what is too large. -/
def copies (part : Part) : Nat → Machine → Machine
  | 0, m => m
  | n + 1, m => if m.tooLarge then m else copies part n (m.link (part m))

/-- Exactly `n` copies of a part; none of them is a state that does nothing. -/
def exactly (part : Part) (n : Nat) (m : Machine) : Machine :=
  if n = 0 then m.add 1 0 else copies part n m.detach

/-- Copies of a part before each of which a branch may leave to the end. -/
def optional (part : Part) : Nat → Machine → Machine
  | 0, m => m.add 0 m.lead
  | n + 1, m =>
    if m.tooLarge then m else optional part n (part (m.add 1 (m.lead + 2 * wayBytes)))

/-- A part or none. -/
def orNothing (part : Part) (m : Machine) : Machine :=
  let m := part (m.add 1 (2 * wayBytes))
  m.add 1 m.lead

/-- Any number of copies.  Where a match of the part may be empty, it is one copy or more, or
nothing. -/
def anyNumber (part : Part) (consumes : Bool) (m : Machine) : Machine :=
  if consumes then
    let m := part (m.add 1 wayBytes)
    { m with extra := m.extra + m.lead, endsOpen := true }
  else
    let m := part m
    m.add 3 (m.lead + 4 * wayBytes)

/-- At least `least` copies, where there is one: the last of them may be gone through again. -/
def atLeast (part : Part) (least : Nat) (m : Machine) : Machine := (exactly part least m).loopBack

/-- A part repeated; `consumes` says that none of its matches is empty. -/
def repetition (part : Part) (consumes : Bool) (least : Nat) (most : Option Nat) : Part := fun m =>
  match least, most with
  | 0, some 1 => orNothing part m
  | 0, none => anyNumber part consumes m
  | least, none => atLeast part least m
  | least, some most =>
    let m := exactly part least m
    if least = most then m else optional part (most - least) { m with states := m.states + 1 }

end Machine

end EventSearch.Pattern
