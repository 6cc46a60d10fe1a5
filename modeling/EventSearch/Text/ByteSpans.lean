/-
# `EventSearch.Text.ByteSpans` — sets of characters in bytes

In UTF-8 a character takes one to four bytes.  A span of code points is cut so that the bytes of
each piece are any choice of one byte out of each of a sequence of spans: first where the number of
bytes changes, then where the last byte, the last two and the last three run through all their
values.
-/
import EventSearch.Text.CharSet

namespace EventSearch.Text

/-- The UTF-8 bytes of a code point. -/
def utf8Bytes (n : Nat) : List Nat :=
  let tail (k : Nat) : Nat := 0x80 + n / k % 64
  if n < 0x80 then [n]
  else if n < 0x800 then [0xC0 + n / 64, tail 1]
  else if n < 0x10000 then [0xE0 + n / 4096, tail 64, tail 1]
  else [0xF0 + n / 262144, tail 4096, tail 64, tail 1]

/-- The code points of each number of bytes; those of three stand around the surrogates. -/
def utf8Blocks : List Span :=
  [⟨0, 0x7F⟩, ⟨0x80, 0x7FF⟩, ⟨0x800, 0xD7FF⟩, ⟨0xE000, 0xFFFF⟩, ⟨0x10000, maxCode⟩]

/-- A span cut into what stands before the first multiple of `k` in it, whole stretches of `k`
numbers, and what is left. -/
def cutAtMultiples (k : Nat) (r : Span) : List Span :=
  if r.first / k = r.last / k then [r]
  else
    let low := (r.first + k - 1) / k * k
    let high := (r.last + 1) / k * k
    (if r.first < low then [⟨r.first, low - 1⟩] else []) ++
      (if low < high then [⟨low, high - 1⟩] else []) ++
      (if high ≤ r.last then [⟨high, r.last⟩] else [])

/-- Sequences of spans of bytes that make up the characters of a span of one block. -/
def blockSequences (r : Span) : List (List Span) :=
  let pieces :=
    if r.last < 0x80 then [r]
    else ((cutAtMultiples 64 r).flatMap (cutAtMultiples 4096)).flatMap (cutAtMultiples 262144)
  pieces.map fun p => List.zipWith Span.mk (utf8Bytes p.first) (utf8Bytes p.last)

/-- Sequences of spans of bytes that make up the characters of a set, in ascending order. -/
def byteSequences (s : CharSet) : List (List Span) :=
  s.spans.flatMap fun r => (utf8Blocks.filterMap r.inter?).flatMap blockSequences

end EventSearch.Text
