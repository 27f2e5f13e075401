import VideoTerminal.Config.Document
import VideoTerminal.Replay
import VideoTerminal.Text.Linked

/-
  This file defines the command line of the replay program:
  the libraries that it is linked with, its arguments, and
  what it prints for a captured byte stream.

  Key definitions include:
    * `linkedYaml`
    * `Arguments`
    * `Arguments.parse?`
    * `Arguments.replay`
-/

namespace VideoTerminal

/- What reads the file with the settings. -/
instance linkedYaml :
    YamlLibrary where
  parse? := Yaml.parse?

------------------------------------------------------------
-- Arguments
------------------------------------------------------------

/-
  What the program is asked to do.  Without an input file it
  reads the standard input.
-/
structure Arguments where
  cols : Nat
  rows : Nat
  config : Option String
  withHistory : Bool
  input : Option String
  deriving DecidableEq, Repr

namespace Arguments

/- What the program does without arguments. -/
def default : Arguments :=
  ⟨Replay.defaultCols, Replay.defaultRows, none, false, none⟩

/- The number that an argument writes in decimal digits. -/
def natural?
    (text : String) : Option Nat :=
  let chars := text.toList
  Yaml.digits? 10
    (if chars.head? = some '+' then chars.drop 1 else chars)

/- Split an option at its first equals sign. -/
def splitOption
    (text : String) : List String :=
  let chars := text.toList
  let name := chars.takeWhile (· ≠ '=')
  match chars.dropWhile (· ≠ '=') with
  | [] => [text]
  | _ :: value => [.ofList name, .ofList value]

/- Take the file to read, of which there is one at most. -/
def setInput?
    (arguments : Arguments)
    (path : String) : Option Arguments :=
  match arguments.input with
  | some _ => none
  | none => some { arguments with input := some path }

/- Take an option and its value. -/
def setOption?
    (arguments : Arguments)
    (name value : String) : Option Arguments :=
  match name with
  | "--cols" =>
    (natural? value).map ({ arguments with cols := · })
  | "--rows" =>
    (natural? value).map ({ arguments with rows := · })
  | "--config" => some { arguments with config := some value }
  | _ => none

/- Take arguments one after the other. -/
def take?
    (arguments : Arguments) :
    List String → Option Arguments
  | [] => some arguments
  | "--scrollback" :: rest =>
    { arguments with withHistory := true }.take? rest
  | "--verbose" :: rest => arguments.take? rest
  | "-v" :: rest => arguments.take? rest
  | "-" :: rest =>
    (arguments.setInput? "-").bind (·.take? rest)
  | text :: rest =>
    if text.startsWith "-" then
      match splitOption text with
      | [name, value] =>
        (arguments.setOption? name value).bind (·.take? rest)
      | _ =>
        match rest with
        | value :: rest =>
          (arguments.setOption? text value).bind (·.take? rest)
        | [] => none
    else
      (arguments.setInput? text).bind (·.take? rest)

/- The arguments of a command line, if they can be read. -/
def parse?
    (words : List String) : Option Arguments :=
  default.take? words

/- How the program is called. -/
def usage : String :=
  "usage: [--cols N] [--rows N] [--config FILE] " ++
    "[--scrollback] [INPUT]"

/- The file to read, unless it is the standard input. -/
def inputPath
    (arguments : Arguments) : Option String :=
  arguments.input.filter (· ≠ "-")

------------------------------------------------------------
-- The Program
------------------------------------------------------------

/-
  What the program prints for a byte stream.  `document` is
  the text of the configuration file.
-/
def replay
    (arguments : Arguments)
    (document : Option String)
    (bytes : List UInt8) : Except TerminalError String :=
  let accepted : Except ConfigError Config :=
    match document with
    | none => .ok .default
    | some text => Config.ofYaml text
  match accepted with
  | .error reason => .error (.config reason)
  | .ok config =>
    Replay.run arguments.cols arguments.rows config bytes
      arguments.withHistory

end Arguments

end VideoTerminal
