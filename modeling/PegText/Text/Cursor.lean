import PegText.Text.Span
import PegText.Text.Quoted

/-!
Positions in a text. A cursor is a value: moving it gives a new one, so that trying something
else from an earlier position needs no undoing.
-/

namespace PegText

structure Cursor where
  offset : Nat
  rest : List Char
  deriving DecidableEq

namespace Cursor

def start (text : String) : Cursor := ⟨0, text.toList⟩

def peek (cursor : Cursor) : Option Char := cursor.rest.head?

def isAtEnd (cursor : Cursor) : Bool := cursor.rest.isEmpty

def advanceFrom (offset bytes : Nat) : List Char → Cursor
  | [] => ⟨offset, []⟩
  | c :: rest =>
      if bytes = 0 then ⟨offset, c :: rest⟩
      else advanceFrom (offset + c.utf8Size) (bytes - c.utf8Size) rest

def advance (cursor : Cursor) (bytes : Nat) : Cursor :=
  advanceFrom cursor.offset bytes cursor.rest

def collect (seen : String) (bytes : Nat) : List Char → String
  | [] => seen
  | c :: rest => if bytes = 0 then seen else collect (seen.push c) (bytes - c.utf8Size) rest

def spanTo (cursor later : Cursor) : Span := ⟨cursor.offset, later.offset⟩

def sliceTo (cursor later : Cursor) : Slice :=
  ⟨collect "" (later.offset - cursor.offset) cursor.rest, cursor.spanTo later⟩

def width (cursor : Cursor) : Nat :=
  match cursor.peek with
  | some c => c.utf8Size
  | none => 0

def describe (cursor : Cursor) : String :=
  match cursor.peek with
  | some c => Quoted.character c
  | none => "end of input"

end Cursor

end PegText
