/-
# `EventSearch.Pattern.Machine` — patterns that are not too large

Whether a pattern can be used depends on the size of two machines: one that reads texts forward and
notes where groups match, and one that reads them backward.  Neither is built here; `measure` goes
through the outline of a pattern and counts.
-/
import EventSearch.Pattern.Machine.Class
import EventSearch.Pattern.Outline

namespace EventSearch.Pattern

open EventSearch.Text

namespace Machine

/-! ## Alternatives that are texts -/

/-- Lists cut at the empty ones among them. -/
def cutAtEmpty : List (List Nat) → List (List (List Nat))
  | [] => [[]]
  | bytes :: rest =>
    match bytes, cutAtEmpty rest with
    | [], chunks => [] :: chunks
    | b :: bs, chunk :: chunks => ((b :: bs) :: chunk) :: chunks
    | b :: bs, [] => [[b :: bs]]

/-- What is left of nonempty lists behind each first element. -/
def tailsByHead (lists : List (List Nat)) : List (List (List Nat)) :=
  (lists.filterMap List.head?).eraseDups.map fun b =>
    lists.filterMap fun
      | c :: rest => if c = b then some rest else none
      | [] => none

/-- The states for a choice among byte texts, in the order of preference.  A text that ends parts
those before it from those behind it; each stretch between such texts is a state that reads the next
byte, and a branch leads to the stretches and to the ends.  `depth` bounds the lengths. -/
def addTexts : Nat → List (List Nat) → Part
  | 0, _, m => m
  | depth + 1, texts, m =>
    if texts.all List.isEmpty then m
    else
      let leading := texts.takeWhile List.isEmpty
      let chunks := cutAtEmpty (leading.take 1 ++ texts.drop leading.length)
      let read := (chunks.filter fun chunk => !chunk.isEmpty).map tailsByHead
      let ways := read.length + (chunks.length - 1)
      read.foldl (fun m tails =>
        let spans := if tails.length = 1 then 0 else tails.length
        tails.foldl (fun m texts => addTexts depth texts m) (m.add 1 (spans * spanBytes)))
        (m.add 1 (ways * wayBytes))

/-- The bytes of a text in the order in which they are read; `cs` is in that order. -/
def bytesOf (d : Direction) (cs : List Char) : List Nat :=
  match d with
  | .forward => cs.flatMap fun c => utf8Bytes c.toNat
  | .backward => cs.flatMap fun c => (utf8Bytes c.toNat).reverse

/-- The characters of outlines that are texts, all of them. -/
def texts? (parts : List Outline) : Option (List (List Char)) :=
  parts.mapM fun
    | .literal cs => some cs
    | _ => none

/-! ## Outlines -/

mutual

/-- The states of an outline, which is a mirrored one where the machine reads backward. -/
def measure (d : Direction) : Outline → Part
  | .empty, m | .anchor _, m => m.add 1 0
  | .literal cs, m => m.add (bytesOf d cs).length 0
  | .set s _, m => addClass d s m
  | .capture a, m =>
    match d with
    | .forward =>
      let m := measure d a (m.add 1 0)
      m.add 1 m.lead
    | .backward => measure d a m
  | .times a least most _, m => repetition (measure d a) a.consumes least most m
  | .seq parts, m => measureSeq d parts m.detach
  | .alt parts, m =>
    match texts? parts with
    | some texts =>
      let texts := texts.map (bytesOf d)
      addTexts ((texts.map List.length).foldl max 0 + 1) texts (m.add 1 0)
    | none => measureAlt d 0 parts m

/-- Parts one behind another. -/
def measureSeq (d : Direction) : List Outline → Part
  | [], m => m
  | a :: rest, m => measureSeq d rest (m.link (measure d a m))

/-- Alternatives of which `before` are there.  The branch to them and their common end come behind
the second. -/
def measureAlt (d : Direction) (before : Nat) : List Outline → Part
  | [], m => m
  | a :: rest, m =>
    let m := measure d a m
    measureAlt d (before + 1) rest (m.add (if before = 1 then 2 else 0) (wayBytes + m.lead))

end

/-- The states before a pattern: one where it can match at one end of the text only, or else a loop
over any byte. -/
def start (anchored : Bool) : Machine :=
  if anchored then nothing.add 1 0 else nothing.add 3 (spanBytes + 2 * wayBytes)

/-- The machine of an outline.  A last state notes the match. -/
def ofOutline (d : Direction) (a : Outline) : Machine :=
  let edge := match d with
    | .forward => Anchor.textStart
    | .backward => Anchor.textEnd
  let m := measure d (.capture a) (start (a.startsAt edge))
  m.add 1 m.lead

end Machine

/-- So many texts to choose from are searched for without a machine. -/
def manyTexts : Nat := 3000

/-- An outline that is nothing but a choice among many texts. -/
def Outline.isManyTexts : Outline → Bool
  | .alt parts => manyTexts ≤ parts.length && (Machine.texts? parts).isSome
  | _ => false

/-- Whether the machines of a pattern are not too large. -/
def fits (p : Pattern) : Bool :=
  let a := Outline.ofPattern p
  a.isManyTexts ||
    (!(Machine.ofOutline .forward a).tooLarge && !(Machine.ofOutline .backward a.mirror).tooLarge)

end EventSearch.Pattern
