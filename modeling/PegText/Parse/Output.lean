import PegText.Capture
import PegText.Text.Cursor

/-!
What a match yields, and how the yields of several matches are put together: plain text lasts
only while nothing is captured, captures in a sequence share one record, and repetitions collect
lists. A list takes in the record in front of it or behind it; a name that two yields of a sequence
share is refused.
-/

namespace PegText

inductive Output
  | text (slice : Slice)
  | fields (entries : List (String × Capture))
  | list (items : List Capture)

namespace Output

def toCapture : Output → Capture
  | text slice => .atom slice
  | fields [(name, value)] => .tagged name value
  | fields entries => .record entries
  | list items => .list items

def isText : Output → Bool
  | text _ => true
  | _ => false

def mergeFields (entries : List (String × Capture)) :
    List (String × Capture) → Except String (List (String × Capture))
  | [] => .ok entries
  | (name, value) :: rest =>
      if Entries.contains name entries then .error name
      else mergeFields (Entries.insert name value entries) rest

def merge : Output → Output → Except String Output
  | text _, other => .ok other
  | other, text _ => .ok other
  | fields entries, fields more => (mergeFields entries more).map fields
  | list items, list more => .ok (list (items ++ more))
  | list items, fields entries => .ok (list (items ++ [(fields entries).toCapture]))
  | fields entries, list items => .ok (list ((fields entries).toCapture :: items))

def mergeAll (first : Output) : List Output → Except String Output
  | [] => .ok first
  | next :: rest =>
      match merge first next with
      | .ok merged => mergeAll merged rest
      | .error name => .error name

def ofSequence (start stop : Cursor) (parts : List Output) : Except String Output :=
  match parts.filter (!·.isText) with
  | [] => .ok (text (start.sliceTo stop))
  | first :: rest => mergeAll first rest

def roundItems : Output → List Capture
  | text _ => []
  | fields entries => [(fields entries).toCapture]
  | list items => items

def ofRounds (structured : Bool) (start stop : Cursor) (rounds : List Output) : Output :=
  if !structured && rounds.all isText then text (start.sliceTo stop)
  else list (rounds.flatMap roundItems)

end Output

end PegText
