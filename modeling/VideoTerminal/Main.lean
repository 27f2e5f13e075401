import VideoTerminal.CommandLine

/-
  This file defines the replay program: it feeds a captured
  byte stream to a terminal and prints the screen.
-/

open VideoTerminal

------------------------------------------------------------
-- Input
------------------------------------------------------------

/- Read the standard input to its end. -/
partial def readStandardInput
    (stream : IO.FS.Stream)
    (read : ByteArray) : IO ByteArray := do
  let chunk ← stream.read 65536
  if chunk.isEmpty then
    return read
  readStandardInput stream (read ++ chunk)

/- Read the captured byte stream. -/
def readCapture
    (arguments : Arguments) : IO ByteArray := do
  match arguments.inputPath with
  | some path => IO.FS.readBinFile path
  | none => readStandardInput (← IO.getStdin) .empty

------------------------------------------------------------
-- The Program
------------------------------------------------------------

/- Replay a byte stream, and fail on what is refused. -/
def replayCapture
    (arguments : Arguments) : IO UInt32 := do
  let document ←
    match arguments.config with
    | some path => do
      let text ← IO.FS.readFile path
      pure (some text)
    | none => pure none
  let bytes ← readCapture arguments
  match arguments.replay document bytes.toList with
  | .ok text =>
    IO.print text
    return 0
  | .error reason =>
    IO.eprintln reason.message
    return 1

/- The program, with its command line as arguments. -/
def main
    (words : List String) : IO UInt32 := do
  match Arguments.parse? words with
  | none =>
    IO.eprintln Arguments.usage
    return 2
  | some arguments =>
    try
      replayCapture arguments
    catch failure =>
      IO.eprintln (toString failure)
      return 1
