/-!
Collected output: the emitted texts, each on a new line unless nothing stands in front of it.
-/

namespace PegText

structure Transcript where
  text : String
  deriving DecidableEq

namespace Transcript

def empty : Transcript := ⟨""⟩

def emit (transcript : Transcript) (text : String) : Transcript :=
  if transcript.text.isEmpty then ⟨text⟩ else ⟨transcript.text ++ "\n" ++ text⟩

def emitAll (transcript : Transcript) (texts : List String) : Transcript :=
  texts.foldl emit transcript

def ofTexts (texts : List String) : Transcript := empty.emitAll texts

end Transcript

end PegText
