import BoundedWait.Yaml.Token.Lexer

/-!
# Nodes of YAML documents

A document is a scalar, a sequence, a mapping, or a reference to an anchored
node elsewhere in it.  A text holds at most one document.

Where a node may be left out, an empty plain scalar stands for it.
-/

namespace BoundedWait
namespace Yaml

/-- What may stand before a node. -/
structure Properties where
  anchor : Option Nat
  tag : Option Tag
deriving DecidableEq, Repr

/-- A node of a document. -/
inductive Node
  | scalar (properties : Properties) (style : Style) (text : String)
  | sequence (properties : Properties) (items : List Node)
  | mapping (properties : Properties) (entries : List (Node × Node))
  | reference (number : Nat)

namespace Node

/-- A node that is left out. -/
def missing : Node :=
  scalar ⟨none, none⟩ .plain ""

/-- The handles of tags, with what they stand for. -/
abbrev Handles := List (String × Tag)

/-- The tag of a token; none for an unknown handle. -/
def tagOf? (handles : Handles) (handle : String) (suffix : Tag) : Option Tag :=
  if handle.isEmpty then some suffix
  else (handles.lookup handle).map (· ++ suffix)

/-- The properties before a node, in either order. -/
def properties? (handles : Handles) : List Token → Option (Properties × List Token)
  | .anchor number :: .tag handle suffix :: rest =>
    (tagOf? handles handle suffix).map fun tag => (⟨some number, some tag⟩, rest)
  | .tag handle suffix :: .anchor number :: rest =>
    (tagOf? handles handle suffix).map fun tag => (⟨some number, some tag⟩, rest)
  | .anchor number :: rest => some (⟨some number, none⟩, rest)
  | .tag handle suffix :: rest =>
    (tagOf? handles handle suffix).map fun tag => (⟨none, some tag⟩, rest)
  | rest => some (⟨none, none⟩, rest)

/-- Whether the next token is one of some. -/
def at? (choices : List Token) : List Token → Bool
  | [] => false
  | t :: _ => choices.contains t

mutual

/-- A node, inside or outside of flow collections; after a key or its colon, a
sequence need not be indented. -/
def node? (handles : Handles) (inFlow dashes : Bool) :
    Nat → List Token → Option (Node × List Token)
  | 0, _ => none
  | _ + 1, .reference number :: rest => some (reference number, rest)
  | further + 1, tokens => do
    let (properties, rest) ← properties? handles tokens
    match rest, inFlow with
    | .entry :: _, _ =>
      if dashes then
        (dashed? handles further rest).map fun r => (sequence properties r.1, r.2)
      else if properties = ⟨none, none⟩ then none
      else some (scalar properties .plain "", rest)
    | .scalar style text :: rest, _ => some (scalar properties style text, rest)
    | .flowSequenceStart :: rest, _ =>
      (flowItems? handles true further rest).map fun r => (sequence properties r.1, r.2)
    | .flowMappingStart :: rest, _ =>
      (flowEntries? handles true further rest).map fun r => (mapping properties r.1, r.2)
    | .sequenceStart :: rest, false =>
      (blockItems? handles further rest).map fun r => (sequence properties r.1, r.2)
    | .mappingStart :: rest, false =>
      (blockEntries? handles further rest).map fun r => (mapping properties r.1, r.2)
    | rest, _ =>
      if properties = ⟨none, none⟩ then none
      else some (scalar properties .plain "", rest)

/-- A node, unless it is left out before one of some tokens. -/
def nodeBefore? (handles : Handles) (inFlow dashes : Bool) (ends : List Token) :
    Nat → List Token → Option (Node × List Token)
  | 0, _ => none
  | further + 1, tokens =>
    if at? ends tokens then some (missing, tokens)
    else node? handles inFlow dashes further tokens

/-- The items of an indented sequence, with its end. -/
def blockItems? (handles : Handles) : Nat → List Token → Option (List Node × List Token)
  | 0, _ => none
  | _ + 1, .blockEnd :: rest => some ([], rest)
  | further + 1, .entry :: rest => do
    let (item, rest) ← nodeBefore? handles false false [.entry, .blockEnd] further rest
    let (items, rest) ← blockItems? handles further rest
    return (item :: items, rest)
  | _ + 1, _ => none

/-- The items of a sequence that is not indented. -/
def dashed? (handles : Handles) : Nat → List Token → Option (List Node × List Token)
  | 0, _ => none
  | further + 1, .entry :: rest => do
    let (item, rest) ←
      nodeBefore? handles false false [.entry, .key, .value, .blockEnd] further rest
    let (items, rest) ← dashed? handles further rest
    return (item :: items, rest)
  | _ + 1, rest => some ([], rest)

/-- The entries of an indented mapping, with its end. -/
def blockEntries? (handles : Handles) :
    Nat → List Token → Option (List (Node × Node) × List Token)
  | 0, _ => none
  | _ + 1, .blockEnd :: rest => some ([], rest)
  | further + 1, .key :: rest => do
    let ends := [Token.key, .value, .blockEnd]
    let (key, rest) ← nodeBefore? handles false true ends further rest
    let (value, rest) ←
      match rest with
      | .value :: rest => nodeBefore? handles false true ends further rest
      | rest => some (missing, rest)
    let (entries, rest) ← blockEntries? handles further rest
    return ((key, value) :: entries, rest)
  | _ + 1, _ => none

/-- The items of a flow sequence, with its end.  An item with a key is a mapping
of one entry. -/
def flowItems? (handles : Handles) (first : Bool) :
    Nat → List Token → Option (List Node × List Token)
  | 0, _ => none
  | _ + 1, .flowSequenceEnd :: rest => some ([], rest)
  | further + 1, tokens => do
    let tokens ←
      match first, tokens with
      | true, tokens => some tokens
      | false, .comma :: rest => some rest
      | false, _ => none
    match tokens with
    | .flowSequenceEnd :: rest => return ([], rest)
    | .key :: rest =>
      let (key, rest) ←
        if at? [.value, .comma, .flowSequenceEnd] rest then some (missing, rest.tail)
        else node? handles true false further rest
      let (value, rest) ←
        match rest with
        | .value :: rest =>
          nodeBefore? handles true false [.comma, .flowSequenceEnd] further rest
        | rest => some (missing, rest)
      let (items, rest) ← flowItems? handles false further rest
      return (mapping ⟨none, none⟩ [(key, value)] :: items, rest)
    | tokens =>
      let (item, rest) ← node? handles true false further tokens
      let (items, rest) ← flowItems? handles false further rest
      return (item :: items, rest)

/-- The entries of a flow mapping, with its end. -/
def flowEntries? (handles : Handles) (first : Bool) :
    Nat → List Token → Option (List (Node × Node) × List Token)
  | 0, _ => none
  | _ + 1, .flowMappingEnd :: rest => some ([], rest)
  | further + 1, tokens => do
    let tokens ←
      match first, tokens with
      | true, tokens => some tokens
      | false, .comma :: rest => some rest
      | false, _ => none
    match tokens with
    | .flowMappingEnd :: rest => return ([], rest)
    | .key :: rest =>
      let (key, rest) ←
        nodeBefore? handles true false [.value, .comma, .flowMappingEnd] further rest
      let (value, rest) ←
        match rest with
        | .value :: rest =>
          nodeBefore? handles true false [.comma, .flowMappingEnd] further rest
        | rest => some (missing, rest)
      let (entries, rest) ← flowEntries? handles false further rest
      return ((key, value) :: entries, rest)
    | tokens =>
      let (key, rest) ← node? handles true false further tokens
      let (entries, rest) ← flowEntries? handles false further rest
      return ((key, missing) :: entries, rest)

end

/-- The directives before a document, of which none may be repeated. -/
def directives? (handles : Handles) (versioned : Bool) :
    List Token → Option (Handles × List Token)
  | .version major minor :: rest =>
    if versioned ∨ major ≠ 1 ∨ (minor ≠ 1 ∧ minor ≠ 2) then none
    else directives? handles true rest
  | .handle name expansion :: rest =>
    if (handles.lookup name).isSome then none
    else directives? ((name, expansion) :: handles) versioned rest
  | rest => some (handles, rest)

/-- The handles that need not be declared. -/
def standardHandles : Handles :=
  [("!", bareTag), ("!!", "tag:yaml.org,2002:".toUTF8.toList)]

/-- The only document of a text, if there is one; no result at all when there
are more, or when the tokens are those of no document. -/
def ofTokens? (tokens : List Token) : Option (Option Node) :=
  let fuel := 4 * tokens.length + 8
  match tokens with
  | [] => some none
  | tokens => do
    let (declared, rest) ← directives? [] false tokens
    let handles := declared ++ standardHandles
    let explicit := rest.length < tokens.length || rest.head? = some .documentStart
    let (root, rest) ←
      match explicit, rest with
      | false, rest => node? handles false false fuel rest
      | true, .documentStart :: rest =>
        match rest with
        | [] => some (missing, [])
        | .version .. :: _ => some (missing, rest)
        | .handle .. :: _ => some (missing, rest)
        | .documentStart :: _ => some (missing, rest)
        | .documentEnd :: _ => some (missing, rest)
        | rest => node? handles false false fuel rest
      | true, _ => none
    if rest.all (· == .documentEnd) then return some root else none

/-- The only document of a text. -/
def parse? (text : String) : Option (Option Node) :=
  (tokens? text).bind ofTokens?

/-- A node and all nodes inside it, in the order of the text. -/
def nodes : Node → List Node
  | scalar p style text => [scalar p style text]
  | reference number => [reference number]
  | sequence p items => sequence p items :: nodesOfItems items
  | mapping p entries => mapping p entries :: nodesOfEntries entries
where
  nodesOfItems : List Node → List Node
    | [] => []
    | item :: rest => nodes item ++ nodesOfItems rest
  nodesOfEntries : List (Node × Node) → List Node
    | [] => []
    | (key, value) :: rest => nodes key ++ nodes value ++ nodesOfEntries rest

/-- The number of the anchor of a node. -/
def anchor? : Node → Option Nat
  | scalar p _ _ => p.anchor
  | sequence p _ => p.anchor
  | mapping p _ => p.anchor
  | reference _ => none

/-- The anchored nodes of a document by the numbers of their anchors, the last
node first. -/
abbrev Anchored := List (Nat × Node)

/-- The anchored nodes of a document. -/
def anchored (root : Node) : Anchored :=
  (root.nodes.filterMap fun node => node.anchor?.map (·, node)).reverse

/-- The node that a node stands for, which is no reference: of the nodes with
the anchor of a reference, the last one. -/
def target? (anchored : Anchored) : Node → Option Node
  | reference number => anchored.lookup number
  | here => some here

end Node
end Yaml
end BoundedWait
