import PegText.CommandLine.Report

/-!
The program: it reads the file that a command asks for, and prints what the command reports.
-/

open PegText CommandLine

/-- All bytes of a stream behind those that are `read` already. -/
partial def readBytes (stream : IO.FS.Stream) (read : ByteArray) : IO ByteArray := do
  let chunk ← stream.read 65536
  if chunk.isEmpty then return read else readBytes stream (read ++ chunk)

def readContent (file : String) : IO (Except String String) := do
  try
    if file = "-" then
      let bytes ← readBytes (← IO.getStdin) ByteArray.empty
      match String.fromUTF8? bytes with
      | some text => return .ok text
      | none => return .error "stream did not contain valid UTF-8"
    else return .ok (← IO.FS.readFile file)
  catch error => return .error error.toString

def hasColours : IO Bool := do
  let terminal ← IO.getEnv "TERM"
  let refused ← IO.getEnv "NO_COLOR"
  return terminal.any (· != "dumb") && refused.isNone

def main (arguments : List String) : IO UInt32 := do
  match Invocation.ofArguments arguments with
  | .error error =>
      if error = .version then IO.print versionLine
      return UInt32.ofNat error.exitCode
  | .ok invocation =>
      let content ←
        match invocation.command.file? with
        | some file => readContent file
        | none => pure (.ok "")
      let report := invocation.command.run (← hasColours) content
      IO.print report.output
      match report.failure with
      | some diagnostic => IO.eprintln (diagnostic.code ++ ": " ++ diagnostic.message)
      | none => pure ()
      return UInt32.ofNat report.exitCode
