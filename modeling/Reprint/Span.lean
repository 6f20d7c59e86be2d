import Reprint.Text.Bytes

/-!
# Spans

A span is a stretch of a text between two byte offsets.  Offsets fit a word;
longer texts are turned away before spans into them are made.
-/

namespace Reprint

/-- A stretch of a text: the offset of its first byte and the one behind its last. -/
structure Span where
  start : Nat
  stop : Nat
  deriving DecidableEq, Repr, Inhabited

namespace Span

/-- The greatest offset, and so the length of the longest text. -/
def limit : Nat := 4294967295

/-- The empty span at an offset. -/
def point (offset : Nat) : Span := ⟨offset, offset⟩

/-- The span between two offsets that have to be in order. -/
def ordered? (start stop : Nat) : Option Span :=
  if start ≤ stop then some ⟨start, stop⟩ else none

/-- The span between two offsets, each cut down to the limit. -/
def clamped? (start stop : Nat) : Option Span := ordered? (min start limit) (min stop limit)

/-- Whether both offsets are within the limit. -/
def inLimit (start stop : Nat) : Bool := start ≤ limit && stop ≤ limit

/-- The number of bytes in a span. -/
def length (s : Span) : Nat := s.stop - s.start

def isEmpty (s : Span) : Bool := s.start == s.stop

/-- The text that a span covers.  There is none if the span leaves the text or
cuts a character. -/
def slice? (s : Span) (source : String) : Option String :=
  (Text.slice? source.toList s.start s.stop).map String.ofList

end Span

end Reprint
