import VideoTerminal.Config.Basic
import VideoTerminal.Yaml.Document

/-
  This file defines the reading of settings from a YAML
  document and the writing of one.

  A document names the settings that differ from the defaults.
  Keys that name no setting are ignored, and a setting is not
  named twice.

  Key definitions include:
    * `Setting`
    * `Config.assign?`
    * `Config.ofDocument?`
    * `YamlLibrary`
    * `Config.ofYaml`
    * `Config.toYaml`
-/

namespace VideoTerminal

------------------------------------------------------------
-- Names of Settings
------------------------------------------------------------

/- The settings that a document can name. -/
inductive Setting where
  | scrollbackLines
  | tabWidth
  | wordDelimiters
  | defaultForeground
  | defaultBackground
  | cursorStyle
  | doubleClickMs
  | tripleClickMs
  | answerback
  | maxStringBytes
  deriving DecidableEq, Repr

namespace Setting

/- All settings in the order that they are written in. -/
def all : List Setting :=
  [scrollbackLines, tabWidth, wordDelimiters,
    defaultForeground, defaultBackground, cursorStyle,
    doubleClickMs, tripleClickMs, answerback, maxStringBytes]

/- The key of a setting. -/
def key :
    Setting → String
  | scrollbackLines => "scrollback_lines"
  | tabWidth => "tab_width"
  | wordDelimiters => "word_delimiters"
  | defaultForeground => "default_fg"
  | defaultBackground => "default_bg"
  | cursorStyle => "cursor_style"
  | doubleClickMs => "double_click_ms"
  | tripleClickMs => "triple_click_ms"
  | answerback => "answerback"
  | maxStringBytes => "max_string_bytes"

/- The setting with a given key. -/
def ofKey?
    (text : String) : Option Setting :=
  all.find? (·.key == text)

end Setting

------------------------------------------------------------
-- Reading
------------------------------------------------------------

namespace Config

/-
  The number that a node writes, within the given bound.  It is
  a plain scalar, or a literal one with the tag of integers.
-/
def natOfNode?
    (bound : Nat)
    (node : Yaml.Node) : Option Nat :=
  let text :=
    match node with
    | .scalar ⟨text, .plain⟩ => some text
    | .tagged _ (.scalar ⟨text, .plain⟩) => some text
    | .tagged tag (.scalar ⟨text, .literal⟩) =>
      if tag = Yaml.Tag.integer then some text else none
    | _ => none
  (text.bind Yaml.natural?).filter (decide <| · < bound)

/- A number that fits a machine word. -/
def wordOfNode?
    (node : Yaml.Node) : Option Nat :=
  natOfNode? UInt64.size node

/- The index of a colour. -/
def colourOfNode?
    (node : Yaml.Node) : Option UInt8 :=
  (natOfNode? 256 node).map .ofNat

/- The text of a scalar, whatever it might stand for. -/
def textOfNode?
    (node : Yaml.Node) : Option String :=
  match node.untagged with
  | .scalar scalar => some (.ofList scalar.text)
  | _ => none

/- A plain scalar that stands for no value. -/
def isNull :
    Yaml.Node → Bool
  | .scalar ⟨text, .plain⟩ =>
    ["", "~", "null", "Null", "NULL"].contains
      (String.ofList text)
  | _ => false

/-
  The cursor style that a scalar names, or the tag of one that
  stands for no value.
-/
def styleOfNode?
    (node : Yaml.Node) : Option CursorStyle :=
  let name :=
    match node with
    | .tagged tag _ => tag.localName?
    | _ => none
  match name with
  | some name =>
    if isNull node.untagged then
      CursorStyle.ofName? name
    else
      none
  | none => (textOfNode? node).bind CursorStyle.ofName?

/- Take over a setting from the value that it is given. -/
def assign?
    (config : Config)
    (setting : Setting)
    (node : Yaml.Node) : Option Config :=
  match setting with
  | .scrollbackLines =>
    (wordOfNode? node).map fun n =>
      { config with scrollbackLines := n }
  | .tabWidth =>
    (wordOfNode? node).map fun n =>
      { config with tabWidth := n }
  | .wordDelimiters =>
    (textOfNode? node).map fun text =>
      { config with wordDelimiters := text }
  | .defaultForeground =>
    (colourOfNode? node).map fun colour =>
      { config with defaultForeground := colour }
  | .defaultBackground =>
    (colourOfNode? node).map fun colour =>
      { config with defaultBackground := colour }
  | .cursorStyle =>
    (styleOfNode? node).map fun style =>
      { config with cursorStyle := style }
  | .doubleClickMs =>
    (wordOfNode? node).map fun n =>
      { config with doubleClickMs := n }
  | .tripleClickMs =>
    (wordOfNode? node).map fun n =>
      { config with tripleClickMs := n }
  | .answerback =>
    (textOfNode? node).map fun text =>
      { config with answerback := text }
  | .maxStringBytes =>
    (wordOfNode? node).map fun n =>
      { config with maxStringBytes := n }

/-
  Take over the settings of a mapping.  `named` holds those
  that have been named before.
-/
def ofEntries?
    (config : Config)
    (named : List Setting) :
    List (Yaml.Node × Yaml.Node) → Option Config
  | [] => some config
  | (key, value) :: entries =>
    match textOfNode? key with
    | none => none
    | some text =>
      match Setting.ofKey? text with
      | none => config.ofEntries? named entries
      | some setting =>
        if setting ∈ named then
          none
        else
          match config.assign? setting value with
          | none => none
          | some config =>
            config.ofEntries? (setting :: named) entries

/-
  The settings of a document.  Where nothing is written, they
  are the defaults.
-/
def ofDocument?
    (document : Yaml.Document) : Option Config :=
  match (document.value document.root).untagged with
  | .mapping entries =>
    default.ofEntries? [] <|
      entries.map fun (key, value) =>
        (document.value key, document.value value)
  | .scalar ⟨[], .plain⟩ => some default
  | _ => none

end Config

/- A library that reads documents in YAML. -/
class YamlLibrary where
  parse? : String → Option Yaml.Document

namespace Config

/- The settings of a text, if a terminal can work with them. -/
def ofYaml
    [YamlLibrary]
    (text : String) : Except ConfigError Config :=
  match (YamlLibrary.parse? text).bind ofDocument? with
  | none => .error .malformed
  | some config => config.validate.map fun _ => config

------------------------------------------------------------
-- Writing
------------------------------------------------------------

/- The digits of a number in base sixteen. -/
def hexDigits
    (width n : Nat) : List Char :=
  let digits := Nat.toDigits 16 n
  List.replicate (width - digits.length) '0' ++ digits

/- A character inside double quotes. -/
def quoteChar
    (c : Char) : List Char :=
  let n := c.toNat
  if c = '"' ∨ c = '\\' then
    ['\\', c]
  else if 0x20 ≤ n ∧ n < 0x7F then
    [c]
  else if n < 0x100 then
    '\\' :: 'x' :: hexDigits 2 n
  else if n < 0x10000 then
    '\\' :: 'u' :: hexDigits 4 n
  else
    '\\' :: 'U' :: hexDigits 8 n

/- A text in double quotes. -/
def quote
    (text : String) : String :=
  .ofList ('"' :: (text.toList.flatMap quoteChar ++ ['"']))

/- The value of a setting as it is written. -/
def valueText
    (config : Config) :
    Setting → String
  | .scrollbackLines => toString config.scrollbackLines
  | .tabWidth => toString config.tabWidth
  | .wordDelimiters => quote config.wordDelimiters
  | .defaultForeground =>
    toString config.defaultForeground.toNat
  | .defaultBackground =>
    toString config.defaultBackground.toNat
  | .cursorStyle => config.cursorStyle.name
  | .doubleClickMs => toString config.doubleClickMs
  | .tripleClickMs => toString config.tripleClickMs
  | .answerback => quote config.answerback
  | .maxStringBytes => toString config.maxStringBytes

/- The document that names every setting. -/
def toYaml
    (config : Config) : String :=
  String.join <| Setting.all.map fun setting =>
    setting.key ++ ": " ++ config.valueText setting ++ "\n"

end Config

end VideoTerminal
