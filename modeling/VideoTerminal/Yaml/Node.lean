import VideoTerminal.Yaml.Token.Lexer

/-
  This file defines the values of YAML and how tokens make
  them up, by indentation and in brackets.

  Key definitions include:
    * `Yaml.Node`
    * `Yaml.Properties`
    * `Yaml.Place`
    * `Yaml.node?`
    * `Yaml.Node.ofTokens?`
-/

namespace VideoTerminal

namespace Yaml

------------------------------------------------------------
-- Values
------------------------------------------------------------

/-
  A scalar, a sequence, or pairs of a key and a value.  A value
  can have a tag and an anchor, and one that has an anchor is
  referred to by its number.
-/
inductive Node where
  | scalar (scalar : Scalar)
  | sequence (items : List Node)
  | mapping (entries : List (Node × Node))
  | tagged (tag : Tag) (node : Node)
  | anchored (number : Nat) (node : Node)
  | reference (number : Nat)
  deriving Repr

namespace Node

/- What stands where nothing is written. -/
def missing : Node :=
  .scalar ⟨[], .plain⟩

/- The value without its tag. -/
def untagged :
    Node → Node
  | .tagged _ node => node.untagged
  | node => node

end Node

------------------------------------------------------------
-- Properties
------------------------------------------------------------

/- The anchor and the tag in front of a value. -/
structure Properties where
  anchor : Option Nat
  tag : Option Tag
  deriving DecidableEq, Repr

namespace Properties

/- There is no property. -/
def isEmpty
    (properties : Properties) : Bool :=
  properties.anchor.isNone && properties.tag.isNone

/- The properties of a scalar, whose style can tell its type. -/
def ofScalar
    (properties : Properties) : Properties :=
  { properties with
    tag := properties.tag.filter (· != Tag.unspecific) }

end Properties

/- The value with properties. -/
def Node.withProperties
    (node : Node)
    (properties : Properties) : Node :=
  let node :=
    match properties.tag with
    | some tag => .tagged tag node
    | none => node
  match properties.anchor with
  | some number => .anchored number node
  | none => node

/- Handles of tags, and what they stand for. -/
abbrev Handles :=
  List (List Char × List UInt8)

/-
  Read the properties of a value, which are no more than one
  of each kind, in either order.
-/
def properties?
    (handles : Handles) :
    List Token → Option (Properties × List Token)
  | .anchor number :: .tag name :: rest
  | .tag name :: .anchor number :: rest =>
    (name.resolve? handles).map fun tag =>
      (⟨some number, some tag⟩, rest)
  | .anchor number :: rest => some (⟨some number, none⟩, rest)
  | .tag name :: rest =>
    (name.resolve? handles).map fun tag =>
      (⟨none, some tag⟩, rest)
  | rest => some (⟨none, none⟩, rest)

------------------------------------------------------------
-- Collections
------------------------------------------------------------

/-
  Where a value stands: in brackets, in an indented sequence
  or on its own, or in an indented mapping, where the items of
  a sequence need no indentation.
-/
inductive Place where
  | inBrackets
  | indented
  | inMapping
  deriving DecidableEq, Repr

mutual

/- Read a value. -/
def node?
    (fuel : Nat)
    (handles : Handles)
    (place : Place)
    (tokens : List Token) : Option (Node × List Token) :=
  match fuel with
  | 0 => none
  | fuel + 1 =>
    match tokens with
    | .reference number :: rest =>
      some (.reference number, rest)
    | tokens => do
      let (properties, tokens) ← properties? handles tokens
      match tokens with
      | .scalar scalar :: rest =>
        return ((Node.scalar scalar).withProperties
          properties.ofScalar, rest)
      | .openBracket :: rest =>
        let (items, rest) ← bracketItems? fuel handles rest
        return ((Node.sequence items).withProperties
          properties, rest)
      | .openBrace :: rest =>
        let (entries, rest) ← braceEntries? fuel handles rest
        return ((Node.mapping entries).withProperties
          properties, rest)
      | tokens =>
        match place, tokens with
        | .indented, .indentSequence :: rest
        | .inMapping, .indentSequence :: rest =>
          let (items, rest) ← indentedItems? fuel handles rest
          return ((Node.sequence items).withProperties
            properties, rest)
        | .indented, .indentMapping :: rest
        | .inMapping, .indentMapping :: rest =>
          let (entries, rest) ←
            indentedEntries? fuel handles rest
          return ((Node.mapping entries).withProperties
            properties, rest)
        | .inMapping, .item :: _ =>
          let (items, rest) ← alignedItems? fuel handles tokens
          return ((Node.sequence items).withProperties
            properties, rest)
        | _, tokens =>
          if properties.isEmpty then
            none
          else
            return (Node.missing.withProperties properties,
              tokens)

/-
  Read a value, which is missing where a token comes that ends
  it.
-/
def optional?
    (fuel : Nat)
    (handles : Handles)
    (place : Place)
    (ends : List Token)
    (tokens : List Token) : Option (Node × List Token) :=
  match fuel with
  | 0 => none
  | fuel + 1 =>
    if tokens.head?.any ends.contains then
      some (.missing, tokens)
    else
      node? fuel handles place tokens

/- Read the items of an indented sequence up to its end. -/
def indentedItems?
    (fuel : Nat)
    (handles : Handles)
    (tokens : List Token) :
    Option (List Node × List Token) :=
  match fuel with
  | 0 => none
  | fuel + 1 =>
    match tokens with
    | .item :: rest => do
      let (item, rest) ←
        optional? fuel handles .indented [.item, .outdent] rest
      let (items, rest) ← indentedItems? fuel handles rest
      return (item :: items, rest)
    | .outdent :: rest => some ([], rest)
    | _ => none

/-
  Read the items of a sequence that is not indented further
  than the mapping around it.
-/
def alignedItems?
    (fuel : Nat)
    (handles : Handles)
    (tokens : List Token) :
    Option (List Node × List Token) :=
  match fuel with
  | 0 => none
  | fuel + 1 =>
    match tokens with
    | .item :: rest => do
      let (item, rest) ←
        optional? fuel handles .indented
          [.item, .key, .value, .outdent] rest
      let (items, rest) ← alignedItems? fuel handles rest
      return (item :: items, rest)
    | tokens => some ([], tokens)

/- Read the entries of an indented mapping up to its end. -/
def indentedEntries?
    (fuel : Nat)
    (handles : Handles)
    (tokens : List Token) :
    Option (List (Node × Node) × List Token) :=
  match fuel with
  | 0 => none
  | fuel + 1 =>
    match tokens with
    | .key :: rest => do
      let ends := [.key, .value, .outdent]
      let (key, rest) ←
        optional? fuel handles .inMapping ends rest
      let (value, rest) ←
        match rest with
        | .value :: rest =>
          optional? fuel handles .inMapping ends rest
        | rest => some (.missing, rest)
      let (entries, rest) ← indentedEntries? fuel handles rest
      return ((key, value) :: entries, rest)
    | .outdent :: rest => some ([], rest)
    | _ => none

/-
  Read the value in brackets after a key, which is missing
  where no colon comes.
-/
def bracketValue?
    (fuel : Nat)
    (handles : Handles)
    (close : Token)
    (tokens : List Token) : Option (Node × List Token) :=
  match fuel with
  | 0 => none
  | fuel + 1 =>
    match tokens with
    | .value :: rest =>
      optional? fuel handles .inBrackets [.comma, close] rest
    | tokens => some (.missing, tokens)

/-
  Read an item of a sequence in brackets.  A pair is a mapping
  of its own.  Where its key is missing, the token in place of
  the key does not count.
-/
def bracketItem?
    (fuel : Nat)
    (handles : Handles)
    (tokens : List Token) : Option (Node × List Token) :=
  match fuel with
  | 0 => none
  | fuel + 1 =>
    match tokens with
    | .key :: rest => do
      let (key, rest) ←
        if rest.head?.any
            [.value, .comma, .closeBracket].contains then
          some (.missing, rest.tail)
        else
          node? fuel handles .inBrackets rest
      let (value, rest) ←
        bracketValue? fuel handles .closeBracket rest
      return (.mapping [(key, value)], rest)
    | tokens => node? fuel handles .inBrackets tokens

/- Read the items of a sequence up to the closing bracket. -/
def bracketItems?
    (fuel : Nat)
    (handles : Handles)
    (tokens : List Token) :
    Option (List Node × List Token) :=
  match fuel with
  | 0 => none
  | fuel + 1 =>
    match tokens with
    | .closeBracket :: rest => some ([], rest)
    | tokens => do
      let (item, rest) ← bracketItem? fuel handles tokens
      match rest with
      | .comma :: rest =>
        let (items, rest) ← bracketItems? fuel handles rest
        return (item :: items, rest)
      | .closeBracket :: rest => some ([item], rest)
      | _ => none

/-
  Read an entry of a mapping in braces.  A key without an
  indicator or a colon has no value.
-/
def braceEntry?
    (fuel : Nat)
    (handles : Handles)
    (tokens : List Token) :
    Option ((Node × Node) × List Token) :=
  match fuel with
  | 0 => none
  | fuel + 1 =>
    match tokens with
    | .key :: rest => do
      let (key, rest) ←
        optional? fuel handles .inBrackets
          [.value, .comma, .closeBrace] rest
      let (value, rest) ←
        bracketValue? fuel handles .closeBrace rest
      return ((key, value), rest)
    | tokens => do
      let (key, rest) ← node? fuel handles .inBrackets tokens
      return ((key, .missing), rest)

/- Read the entries of a mapping up to the closing brace. -/
def braceEntries?
    (fuel : Nat)
    (handles : Handles)
    (tokens : List Token) :
    Option (List (Node × Node) × List Token) :=
  match fuel with
  | 0 => none
  | fuel + 1 =>
    match tokens with
    | .closeBrace :: rest => some ([], rest)
    | tokens => do
      let (entry, rest) ← braceEntry? fuel handles tokens
      match rest with
      | .comma :: rest =>
        let (entries, rest) ← braceEntries? fuel handles rest
        return (entry :: entries, rest)
      | .closeBrace :: rest => some ([entry], rest)
      | _ => none

end

/-
  Read a value that stands on its own.  Four steps at most lie
  between two tokens.
-/
def Node.ofTokens?
    (handles : Handles)
    (tokens : List Token) : Option (Node × List Token) :=
  node? (4 * tokens.length + 8) handles .indented tokens

end Yaml

end VideoTerminal
