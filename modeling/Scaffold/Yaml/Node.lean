import Scaffold.Yaml.Token

/-!
# Nodes of a document

The tokens of a document make a tree of scalars, sequences and mappings. A node
with an anchor can be used again by aliases, which keep the number of the anchor
they name; the document has a table of the nodes of all anchors.
-/

namespace Scaffold.Yaml

inductive Node where
  | scalar (text : String) (form : ScalarForm) (tag : Option String)
  | sequence (items : List Node)
  | mapping (pairs : List (Node × Node))
  | alias (anchor : Nat)
  deriving Inhabited, Repr

/-- What is known while nodes are read. -/
structure Names where
  /-- The numbers of the anchors, the latest of a name first. -/
  anchors : List (String × Nat)
  /-- The nodes of the anchors, the latest of a number first. -/
  nodes : List (Nat × Node)
  /-- What the handles of tags stand for. -/
  handles : List (String × String)

namespace Names

def empty : Names := ⟨[], [], []⟩

/-- The number of different names that have been anchors. -/
def count (n : Names) : Nat := (n.anchors.map (·.1)).eraseDups.length

/-- Gives a name the number of names before it. -/
def note (n : Names) (anchor : Option String) : Names × Option Nat :=
  match anchor with
  | none => (n, none)
  | some name => ({ n with anchors := (name, n.count) :: n.anchors }, some n.count)

def keep (n : Names) (number : Option Nat) (node : Node) : Names :=
  match number with
  | none => n
  | some k => { n with nodes := (k, node) :: n.nodes }

/-- A tag up to the first character that no tag can hold. -/
def shownTag (tag : String) : String := String.ofList (tag.toList.takeWhile (· != '\x00'))

/-- The full tag of a handle and a suffix. -/
def tagOf (n : Names) (handle suffix : String) : Option String :=
  let suffix := shownTag suffix
  if handle = "" then some suffix
  else
    match n.handles.lookup handle with
    | some start => some (shownTag start ++ suffix)
    | none =>
      if handle = "!" then some ("!" ++ suffix)
      else if handle = "!!" then some ("tag:yaml.org,2002:" ++ suffix)
      else none

end Names

/-- What a reader of nodes gives back: the node, the tokens behind it, and what
is known there. -/
abbrev Reading (α : Type) := Option (α × List Token × Names)

/-- A scalar without text in the place of a node that is left out. -/
def Node.absent : Node := .scalar "" .plain none

/-- An anchor and a tag in either order. -/
def properties (ts : List Token) (n : Names) :
    Option (Option String × Option String × List Token) :=
  match ts with
  | .anchor a :: .tag h s :: rest => (n.tagOf h s).map fun tag => (some a, some tag, rest)
  | .anchor a :: rest => some (some a, none, rest)
  | .tag h s :: .anchor a :: rest => (n.tagOf h s).map fun tag => (some a, some tag, rest)
  | .tag h s :: rest => (n.tagOf h s).map fun tag => (none, some tag, rest)
  | rest => some (none, none, rest)

/-- Whether the next token is one of those that `p` holds for; the end is none. -/
def nextIs (p : Token → Bool) : List Token → Bool
  | t :: _ => p t
  | [] => false

/-- Whether a node that stands between such tokens is left out. -/
def isLeftOut (ends : List Token) (ts : List Token) : Bool := nextIs ends.contains ts

mutual

/-- A node. In flow collections no block collection can start; behind a key or
colon a sequence may stand without indentation. -/
def node : Nat → (inBlock loose : Bool) → List Token → Names → Reading Node
  | 0, _, _, _, _ => none
  | fuel + 1, inBlock, loose, ts, n =>
    match ts with
    | .alias name :: rest => (n.anchors.lookup name).map fun k => (.alias k, rest, n)
    | ts =>
      match properties ts n with
      | none => none
      | some (anchor, tag, ts) =>
        let (n, number) := n.note anchor
        let finish (found : Reading Node) : Reading Node :=
          found.map fun (node, rest, n) => (node, rest, n.keep number node)
        match ts with
        | .blockEntry :: _ =>
          if loose then
            finish ((looseItems fuel ts n).map fun (items, rest) => (.sequence items, rest))
          else if anchor.isSome || tag.isSome then finish (some (.scalar "" .plain tag, ts, n))
          else none
        | .scalar text form :: rest =>
          finish (some (.scalar text form tag, rest, n))
        | .flowSequenceStart :: rest =>
          finish ((flowItems fuel true rest n).map fun (items, rest) => (.sequence items, rest))
        | .flowMappingStart :: rest =>
          finish ((flowPairs fuel true rest n).map fun (pairs, rest) => (.mapping pairs, rest))
        | ts =>
          match inBlock, ts with
          | true, .blockSequenceStart :: rest =>
            finish ((blockItems fuel rest n).map fun (items, rest) => (.sequence items, rest))
          | true, .blockMappingStart :: rest =>
            finish ((blockPairs fuel rest n).map fun (pairs, rest) => (.mapping pairs, rest))
          | _, ts =>
            if anchor.isSome || tag.isSome then finish (some (.scalar "" .plain tag, ts, n))
            else none

/-- A node unless one of `ends` comes next. -/
def optionalNode : Nat → (inBlock loose : Bool) → (ends : List Token) → List Token → Names →
    Reading Node
  | 0, _, _, _, _, _ => none
  | fuel + 1, inBlock, loose, ends, ts, n =>
    if isLeftOut ends ts then some (.absent, ts, n) else node fuel inBlock loose ts n

/-- The items of a block sequence up to its end. -/
def blockItems : Nat → List Token → Names → Reading (List Node)
  | 0, _, _ => none
  | fuel + 1, ts, n =>
    match ts with
    | .blockEnd :: rest => some ([], rest, n)
    | .blockEntry :: rest =>
      match optionalNode fuel true false [.blockEntry, .blockEnd] rest n with
      | none => none
      | some (item, rest, n) =>
        (blockItems fuel rest n).map fun (items, rest) => (item :: items, rest)
    | _ => none

/-- The items of a sequence without indentation. -/
def looseItems : Nat → List Token → Names → Reading (List Node)
  | 0, _, _ => none
  | fuel + 1, ts, n =>
    match ts with
    | .blockEntry :: rest =>
      match optionalNode fuel true false [.blockEntry, .key, .value, .blockEnd] rest n with
      | none => none
      | some (item, rest, n) =>
        (looseItems fuel rest n).map fun (items, rest) => (item :: items, rest)
    | ts => some ([], ts, n)

/-- The pairs of a block mapping up to its end. -/
def blockPairs : Nat → List Token → Names → Reading (List (Node × Node))
  | 0, _, _ => none
  | fuel + 1, ts, n =>
    let ends : List Token := [.key, .value, .blockEnd]
    match ts with
    | .blockEnd :: rest => some ([], rest, n)
    | .key :: rest =>
      match optionalNode fuel true true ends rest n with
      | none => none
      | some (key, rest, n) =>
        let value : Reading Node :=
          match rest with
          | .value :: rest => optionalNode fuel true true ends rest n
          | rest => some (.absent, rest, n)
        match value with
        | none => none
        | some (value, rest, n) =>
          (blockPairs fuel rest n).map fun (pairs, rest) => ((key, value) :: pairs, rest)
    | _ => none

/-- The items of a flow sequence up to its end; an item can be a single pair. -/
def flowItems : Nat → (first : Bool) → List Token → Names → Reading (List Node)
  | 0, _, _, _ => none
  | fuel + 1, first, ts, n =>
    let separated : Option (List Token) :=
      match first, ts with
      | true, ts => some ts
      | false, .flowEntry :: rest => some rest
      | false, .flowSequenceEnd :: rest => some (.flowSequenceEnd :: rest)
      | false, _ => none
    match separated with
    | none => none
    | some (.flowSequenceEnd :: rest) => some ([], rest, n)
    | some ts =>
      let item : Reading Node :=
        match ts with
        | .key :: rest => flowPair fuel rest n
        | ts => node fuel false false ts n
      match item with
      | none => none
      | some (item, rest, n) =>
        (flowItems fuel false rest n).map fun (items, rest) => (item :: items, rest)

/-- A single pair as an item of a flow sequence, behind the mark of its key. -/
def flowPair : Nat → List Token → Names → Reading Node
  | 0, _, _ => none
  | fuel + 1, ts, n =>
    let key : Reading Node :=
      if isLeftOut [.value, .flowEntry, .flowSequenceEnd] ts then some (.absent, ts.drop 1, n)
      else node fuel false false ts n
    match key with
    | none => none
    | some (key, rest, n) =>
      let value : Reading Node :=
        match rest with
        | .value :: rest =>
          optionalNode fuel false false [.flowEntry, .flowSequenceEnd] rest n
        | rest => some (.absent, rest, n)
      value.map fun (value, rest) => (.mapping [(key, value)], rest)

/-- The pairs of a flow mapping up to its end. -/
def flowPairs : Nat → (first : Bool) → List Token → Names → Reading (List (Node × Node))
  | 0, _, _, _ => none
  | fuel + 1, first, ts, n =>
    let separated : Option (List Token) :=
      match first, ts with
      | true, ts => some ts
      | false, .flowEntry :: rest => some rest
      | false, .flowMappingEnd :: rest => some (.flowMappingEnd :: rest)
      | false, _ => none
    match separated with
    | none => none
    | some (.flowMappingEnd :: rest) => some ([], rest, n)
    | some ts =>
      let pair : Reading (Node × Node) :=
        match ts with
        | .key :: rest =>
          match optionalNode fuel false false [.value, .flowEntry, .flowMappingEnd] rest n with
          | none => none
          | some (key, .value :: rest, n) =>
            (optionalNode fuel false false [.flowEntry, .flowMappingEnd] rest n).map
              fun (value, rest) => ((key, value), rest)
          | some (key, rest, n) => some ((key, .absent), rest, n)
        | ts => (node fuel false false ts n).map fun (key, rest) => ((key, .absent), rest)
      match pair with
      | none => none
      | some (pair, rest, n) =>
        (flowPairs fuel false rest n).map fun (pairs, rest) => (pair :: pairs, rest)

end

/-- A document: its node, unless it is empty, and the nodes of its anchors. -/
structure Document where
  root : Option Node
  anchors : List (Nat × Node)
  deriving Inhabited

namespace Document

/-- The lines that tell something about the document. -/
def directives : Nat → Bool → List Token → Names → Option (List Token × Names)
  | 0, _, _, _ => none
  | fuel + 1, seen, .version major minor :: rest, n =>
    if seen || major != 1 || (minor != 1 && minor != 2) then none
    else directives fuel true rest n
  | fuel + 1, seen, .tagHandle handle start :: rest, n =>
    if (n.handles.lookup handle).isSome then none
    else directives fuel seen rest { n with handles := (handle, start) :: n.handles }
  | _ + 1, _, ts, n => some (ts, n)

/-- Whether a token can be the first of an explicit document. -/
def isExplicit : Token → Bool
  | .version _ _ | .tagHandle _ _ | .documentStart => true
  | _ => false

/-- The content of an explicit document. -/
def content (fuel : Nat) (ts : List Token) (n : Names) : Reading Node :=
  if ts.isEmpty || nextIs (fun t => isExplicit t || t == .documentEnd) ts then
    some (.absent, ts, n)
  else node fuel true false ts n

/-- The only document of some tokens. -/
def ofTokens? (ts : List Token) : Option Document :=
  let fuel := 8 * ts.length + 16
  let found : Reading Node :=
    if nextIs isExplicit ts then
      match directives fuel false ts .empty with
      | some (.documentStart :: rest, n) => content fuel rest n
      | _ => none
    else node fuel true false ts .empty
  if ts.isEmpty then some ⟨none, []⟩
  else
    match found with
    | some (root, rest, n) =>
      if rest.all (· == .documentEnd) then some ⟨some root, n.nodes⟩ else none
    | none => none

/-- Reads a text that holds at most one document. -/
def parse? (s : String) : Option Document := (Token.all? s).bind ofTokens?

end Document

end Scaffold.Yaml
