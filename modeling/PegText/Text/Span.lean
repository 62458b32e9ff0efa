/-!
Byte ranges of a text, and pieces of text that remember where they stood.
-/

namespace PegText

structure Span where
  start : Nat
  stop : Nat
  deriving DecidableEq

namespace Span

def length (span : Span) : Nat := span.stop - span.start

def isEmpty (span : Span) : Bool := span.start == span.stop

def join (first second : Span) : Span :=
  ⟨min first.start second.start, max first.stop second.stop⟩

def shift (bytes : Nat) (span : Span) : Span :=
  ⟨bytes + span.start, bytes + span.stop⟩

def cover : List Span → Option Span
  | [] => none
  | span :: rest => some (rest.foldl join span)

end Span

structure Slice where
  text : String
  span : Span
  deriving DecidableEq

/-- Slices are compared by their text: the span only records where the text came from. -/
instance : BEq Slice where
  beq first second := first.text == second.text

def Slice.whole (text : String) : Slice :=
  ⟨text, 0, text.utf8ByteSize⟩

end PegText
