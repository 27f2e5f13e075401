import VideoTerminal.Yaml.Node

/-
  This file defines the reading of a text that holds one YAML
  document, and what the references in it mean.

  Key definitions include:
    * `Yaml.Document`
    * `Yaml.Document.value`
    * `Yaml.declarations?`
    * `Yaml.root?`
    * `Yaml.parse?`
-/

namespace VideoTerminal

namespace Yaml

------------------------------------------------------------
-- Anchors
------------------------------------------------------------

namespace Node

mutual

/-
  The values with an anchor, with their numbers, in the order
  that they start in.
-/
def anchors :
    Node → List (Nat × Node)
  | .scalar _ => []
  | .sequence items => itemAnchors items
  | .mapping entries => entryAnchors entries
  | .tagged _ node => node.anchors
  | .anchored number node => (number, node) :: node.anchors
  | .reference _ => []

/- The values with an anchor in the items of a sequence. -/
def itemAnchors :
    List Node → List (Nat × Node)
  | [] => []
  | item :: items => item.anchors ++ itemAnchors items

/- The values with an anchor in the entries of a mapping. -/
def entryAnchors :
    List (Node × Node) → List (Nat × Node)
  | [] => []
  | (key, value) :: entries =>
    key.anchors ++ (value.anchors ++ entryAnchors entries)

end

end Node

------------------------------------------------------------
-- Documents
------------------------------------------------------------

/-
  A value, and the values with an anchor that references in it
  mean, the last one first.
-/
structure Document where
  root : Node
  anchors : List (Nat × Node)
  deriving Repr

namespace Document

/- The document of a value. -/
def ofNode
    (root : Node) : Document :=
  ⟨root, root.anchors.reverse⟩

/- What a value of the document is, without its anchor. -/
def value
    (document : Document) :
    Node → Node
  | .anchored _ node => node
  | .reference number =>
    (document.anchors.lookup number).getD .missing
  | node => node

end Document

------------------------------------------------------------
-- Reading
------------------------------------------------------------

/-
  Read the directives of a document, which declare handles.
  A version is named no more than once, and is 1.1 or 1.2.  No
  handle is declared twice.
-/
def declarations?
    (versioned : Bool)
    (handles : Handles) :
    List Token → Option (Handles × List Token)
  | .directive (.version major minor) :: rest =>
    if !versioned ∧ major = 1 ∧
        (minor = 1 ∨ minor = 2) then
      declarations? true handles rest
    else
      none
  | .directive (.handle name start) :: rest =>
    if (handles.lookup name).isSome then
      none
    else
      declarations? versioned ((name, start) :: handles) rest
  | rest => some (handles, rest)

/- The token is a directive or a mark of a document. -/
def Token.isOutside :
    Token → Bool
  | .directive _ | .documentStart | .documentEnd => true
  | _ => false

/-
  Read the value of a document.  A mark comes first where
  there are directives, and nothing needs to follow it.
-/
def root?
    (tokens : List Token) : Option (Node × List Token) := do
  let (handles, rest) ← declarations? false [] tokens
  let handles := handles ++ standardHandles
  match rest with
  | .documentStart :: rest =>
    if rest.head?.all Token.isOutside then
      return (.missing, rest)
    else
      Node.ofTokens? handles rest
  | [] =>
    if tokens.isEmpty then return (.missing, []) else none
  | rest =>
    if rest.length < tokens.length then
      none
    else
      Node.ofTokens? handles rest

/-
  Read a text that holds one document.  Marks of its end are
  all that follows it.
-/
def parse?
    (text : String) : Option Document := do
  let chars ← normalize? text.toList
  let tokens ← tokens? chars
  let (root, rest) ← root? tokens
  if rest.all (· == .documentEnd) then
    return .ofNode root
  else
    none

end Yaml

end VideoTerminal
