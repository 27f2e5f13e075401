import VideoTerminal.Config.Basic

/-
  This file defines what a terminal can refuse, and how it
  says so.

  Key definitions include:
    * `TerminalError`
    * `TerminalError.message`
-/

namespace VideoTerminal

------------------------------------------------------------
-- Errors
------------------------------------------------------------

/- Why the terminal refuses what it is asked for. -/
inductive TerminalError where
  | invalidSize (cols rows : Nat)
  | emptySelection
  | config (reason : ConfigError)
  deriving DecidableEq, Repr

namespace TerminalError

/- The reason in words. -/
def message :
    TerminalError → String
  | invalidSize cols rows =>
    "Invalid terminal size: " ++ toString cols ++ "x" ++
      toString rows ++ " (both must be >= 1)"
  | emptySelection => "No selection"
  | config reason =>
    "Configuration error: " ++ reason.message

end TerminalError

end VideoTerminal
