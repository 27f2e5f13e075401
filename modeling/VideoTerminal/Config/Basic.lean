import VideoTerminal.Cursor

/-
  This file defines the settings of a terminal, their defaults
  and the settings that a terminal cannot work with.

  Key definitions include:
    * `Config`
    * `Config.default`
    * `ConfigError`
    * `Config.validate`
    * `Config.isDelimiter`
-/

namespace VideoTerminal

------------------------------------------------------------
-- Settings
------------------------------------------------------------

/- The settings of a terminal. -/
structure Config where
  scrollbackLines : Nat
  tabWidth : Nat
  wordDelimiters : String
  defaultForeground : UInt8
  defaultBackground : UInt8
  cursorStyle : CursorStyle
  doubleClickMs : Nat
  tripleClickMs : Nat
  answerback : String
  maxStringBytes : Nat
  deriving DecidableEq, Repr

namespace Config

/- The settings that hold where nothing else is asked for. -/
def default : Config where
  scrollbackLines := 2048
  tabWidth := 8
  wordDelimiters := " \x60'\"()[]\x7b\x7d<>|"
  defaultForeground := Cell.defaultForeground
  defaultBackground := Cell.defaultBackground
  cursorStyle := .blinkingBlock
  doubleClickMs := 300
  tripleClickMs := 600
  answerback := "\x1B[?6c"
  maxStringBytes := 4096

/- A character separates words. -/
def isDelimiter
    (config : Config)
    (c : Char) : Bool :=
  config.wordDelimiters.toList.contains c

/- The blank that fills a new screen. -/
def blank
    (config : Config) : Cell :=
  .blank config.defaultForeground config.defaultBackground

/- The pen that a terminal starts with. -/
def pen
    (config : Config) : Pen :=
  .plain config.defaultForeground config.defaultBackground

end Config

------------------------------------------------------------
-- Validation
------------------------------------------------------------

/- Why settings are refused. -/
inductive ConfigError where
  | malformed
  | zeroTabWidth
  | tripleBeforeDouble
  | nulInAnswerback
  deriving DecidableEq, Repr

namespace ConfigError

/- The reason in words. -/
def message :
    ConfigError → String
  | malformed => "malformed document"
  | zeroTabWidth => "tab_width must be at least 1"
  | tripleBeforeDouble =>
    "triple_click_ms must not be shorter than double_click_ms"
  | nulInAnswerback => "answerback must not contain NUL"

end ConfigError

namespace Config

/- Refuse settings that a terminal cannot work with. -/
def validate
    (config : Config) : Except ConfigError Unit :=
  if config.tabWidth = 0 then
    .error .zeroTabWidth
  else if config.tripleClickMs < config.doubleClickMs then
    .error .tripleBeforeDouble
  else if config.answerback.toList.contains '\x00' then
    .error .nulInAnswerback
  else
    .ok ()

end Config

end VideoTerminal
