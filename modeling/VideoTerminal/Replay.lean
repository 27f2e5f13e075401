import VideoTerminal.Terminal.Basic

/-
  This file defines the replay of a captured byte stream: the
  screen that it leaves behind, printed as text.

  Key definitions include:
    * `Replay.render`
    * `Replay.run`
-/

namespace VideoTerminal

namespace Replay

variable [TextLibrary]

------------------------------------------------------------
-- Printing
------------------------------------------------------------

/- The lines of the history, each ended by a line break. -/
def historyText
    (terminal : Terminal) : String :=
  String.join <|
    terminal.session.primary.scrollback.toList.map fun line =>
      line.text ++ "\n"

/- The screen in use without the empty lines at its end. -/
def screenText
    (terminal : Terminal) : String :=
  let content := terminal.session.active.content
  .ofList (Blank.trimRight '\n' content.toList) ++ "\n"

/- The screen, after the history if that is asked for. -/
def render
    (terminal : Terminal)
    (withHistory : Bool) : String :=
  if withHistory then
    historyText terminal ++ screenText terminal
  else
    screenText terminal

------------------------------------------------------------
-- Replaying
------------------------------------------------------------

/- The default size of the screen. -/
def defaultCols : Nat :=
  80

/- The default number of rows of the screen. -/
def defaultRows : Nat :=
  24

/- Feed a byte stream to a terminal and print its screen. -/
def run
    (cols rows : Nat)
    (config : Config)
    (bytes : List UInt8)
    (withHistory : Bool) : Except TerminalError String :=
  (Terminal.create cols rows config).map fun terminal =>
    render (terminal.process bytes) withHistory

end Replay

end VideoTerminal
