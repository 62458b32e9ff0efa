import PegText.Text.Span

/-!
Named source texts, which diagnostics point into.
-/

namespace PegText

structure Source where
  name : String
  text : String
  deriving DecidableEq

namespace Source

def ofInput (text : String) : Source := ⟨"<input>", text⟩

def span (source : Source) : Span := ⟨0, source.text.utf8ByteSize⟩

end Source

end PegText
