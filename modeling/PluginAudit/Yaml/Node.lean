import PluginAudit.Yaml.Token

namespace PluginAudit.Yaml

/-- How the value of a scalar is found: by its form, as its own text, or by a tag. -/
inductive ScalarKind where
  | byForm
  | ownText
  | tagged (tag : List Char)
deriving DecidableEq

inductive Node where
  | scalar (kind : ScalarKind) (text : List Char)
  | sequence (tag : Option (List Char)) (items : List Node)
  | mapping (tag : Option (List Char)) (pairs : List (Node × Node))
  | anchored (name : List Char) (node : Node)
  | reference (name : List Char)
deriving Inhabited

namespace Node

def absent : Node :=
  scalar .byForm []

end Node

/-- What stands before the content of a node. A tag that is a lone mark says no more than that there is none. -/
structure Properties where
  anchor : Option (List Char)
  tag : Option (List Char)

namespace Properties

def isEmpty (properties : Properties) : Bool :=
  properties.anchor.isNone && properties.tag.isNone

def take : List Token → Properties × List Token
  | .anchor name :: .tag text :: rest => (⟨some name, some text.suffix⟩, rest)
  | .tag text :: .anchor name :: rest => (⟨some name, some text.suffix⟩, rest)
  | .anchor name :: rest => (⟨some name, none⟩, rest)
  | .tag text :: rest => (⟨none, some text.suffix⟩, rest)
  | tokens => (⟨none, none⟩, tokens)

def specific (properties : Properties) : Option (List Char) :=
  properties.tag.filter (· != ['!'])

def on (properties : Properties) (node : Node) : Node :=
  match properties.anchor with
  | some name => .anchored name node
  | none => node

def scalar (properties : Properties) (usual : ScalarKind) (text : List Char) : Node :=
  let kind :=
    match properties.specific with
    | some tag => .tagged tag
    | none => if properties.tag.isSome then .byForm else usual
  properties.on (.scalar kind text)

def sequence (properties : Properties) (items : List Node) : Node :=
  properties.on (.sequence properties.specific items)

def mapping (properties : Properties) (pairs : List (Node × Node)) : Node :=
  properties.on (.mapping properties.specific pairs)

end Properties

def refuseAt {α : Type} : List Token → Except Fault α
  | .broken fault :: _ => .error fault
  | _ => refuse

namespace Node

mutual

/-- A node, and the tokens behind it. Block collections stand in block context only, and entries without a collection of
their own only behind the key or the colon of a mapping. -/
def node : Nat → Bool → Bool → List Token → Except Fault (Node × List Token)
  | 0, _, _, _ => refuse
  | fuel + 1, block, entries, tokens =>
    match tokens with
    | .reference name :: rest => .ok (reference name, rest)
    | tokens =>
      let (properties, tokens) := Properties.take tokens
      match tokens with
      | .plain text :: rest => .ok (properties.scalar .byForm text, rest)
      | .quoted text :: rest => .ok (properties.scalar .ownText text, rest)
      | .flowSequence :: rest => (flowItems fuel true rest).map fun found => (properties.sequence found.1, found.2)
      | .flowMapping :: rest => (flowPairs fuel true rest).map fun found => (properties.mapping found.1, found.2)
      | tokens =>
        match tokens, block, entries with
        | .blockEntry :: _, _, true => (looseItems fuel tokens).map fun found => (properties.sequence found.1, found.2)
        | .blockSequence :: rest, true, _ => (blockItems fuel rest).map fun found => (properties.sequence found.1, found.2)
        | .blockMapping :: rest, true, _ => (blockPairs fuel rest).map fun found => (properties.mapping found.1, found.2)
        | tokens, _, _ => if properties.isEmpty then refuseAt tokens else .ok (properties.scalar .byForm [], tokens)

def nodeUnless : Nat → Bool → Bool → List Token → List Token → Except Fault (Node × List Token)
  | 0, _, _, _, _ => refuse
  | fuel + 1, block, entries, ends, tokens =>
    match tokens with
    | token :: _ => if ends.contains token then .ok (absent, tokens) else node fuel block entries tokens
    | [] => refuse

def blockItems : Nat → List Token → Except Fault (List Node × List Token)
  | 0, _ => refuse
  | fuel + 1, tokens =>
    match tokens with
    | .blockEnd :: rest => .ok ([], rest)
    | .blockEntry :: rest => do
      let (item, rest) ← nodeUnless fuel true false [.blockEntry, .blockEnd] rest
      let (items, rest) ← blockItems fuel rest
      return (item :: items, rest)
    | tokens => refuseAt tokens

/-- Entries that have no collection of their own. They end where no entry follows. -/
def looseItems : Nat → List Token → Except Fault (List Node × List Token)
  | 0, _ => refuse
  | fuel + 1, tokens =>
    match tokens with
    | .blockEntry :: rest => do
      let (item, rest) ← nodeUnless fuel true false [.blockEntry, .key, .value, .blockEnd] rest
      let (items, rest) ← looseItems fuel rest
      return (item :: items, rest)
    | tokens => .ok ([], tokens)

def blockPairs : Nat → List Token → Except Fault (List (Node × Node) × List Token)
  | 0, _ => refuse
  | fuel + 1, tokens =>
    match tokens with
    | .blockEnd :: rest => .ok ([], rest)
    | .key :: rest => do
      let (key, rest) ← nodeUnless fuel true true [.key, .value, .blockEnd] rest
      let (item, rest) ← blockValue fuel rest
      let (pairs, rest) ← blockPairs fuel rest
      return ((key, item) :: pairs, rest)
    | tokens => refuseAt tokens

def blockValue : Nat → List Token → Except Fault (Node × List Token)
  | 0, _ => refuse
  | fuel + 1, tokens =>
    match tokens with
    | .value :: rest => nodeUnless fuel true true [.key, .value, .blockEnd] rest
    | tokens => .ok (absent, tokens)

/-- The items of a flow sequence, and its end. An item with a colon is a mapping of one pair. -/
def flowItems : Nat → Bool → List Token → Except Fault (List Node × List Token)
  | 0, _, _ => refuse
  | fuel + 1, first, tokens =>
    match tokens, first with
    | .flowSequenceEnd :: rest, _ => .ok ([], rest)
    | .flowEntry :: .flowSequenceEnd :: rest, false => .ok ([], rest)
    | .flowEntry :: rest, false => flowItem fuel rest
    | tokens, true => flowItem fuel tokens
    | tokens, false => refuseAt tokens

def flowItem : Nat → List Token → Except Fault (List Node × List Token)
  | 0, _ => refuse
  | fuel + 1, tokens => do
    let (item, rest) ←
      match tokens with
      | .key :: rest => do
        let (key, rest) ← nodeUnless fuel false false [.value, .flowEntry, .flowSequenceEnd] rest
        let (item, rest) ← flowValue fuel .flowSequenceEnd rest
        pure (mapping none [(key, item)], rest)
      | tokens => node fuel false false tokens
    let (items, rest) ← flowItems fuel false rest
    return (item :: items, rest)

def flowValue : Nat → Token → List Token → Except Fault (Node × List Token)
  | 0, _, _ => refuse
  | fuel + 1, stop, tokens =>
    match tokens with
    | .value :: rest => nodeUnless fuel false false [.flowEntry, stop] rest
    | tokens => .ok (absent, tokens)

def flowPairs : Nat → Bool → List Token → Except Fault (List (Node × Node) × List Token)
  | 0, _, _ => refuse
  | fuel + 1, first, tokens =>
    match tokens, first with
    | .flowMappingEnd :: rest, _ => .ok ([], rest)
    | .flowEntry :: .flowMappingEnd :: rest, false => .ok ([], rest)
    | .flowEntry :: rest, false => flowPair fuel rest
    | tokens, true => flowPair fuel tokens
    | tokens, false => refuseAt tokens

def flowPair : Nat → List Token → Except Fault (List (Node × Node) × List Token)
  | 0, _ => refuse
  | fuel + 1, tokens => do
    let (pair, rest) ←
      match tokens with
      | .key :: rest => do
        let (key, rest) ← nodeUnless fuel false false [.value, .flowEntry, .flowMappingEnd] rest
        let (item, rest) ← flowValue fuel .flowMappingEnd rest
        pure ((key, item), rest)
      | tokens => (node fuel false false tokens).map fun found => ((found.1, absent), found.2)
    let (pairs, rest) ← flowPairs fuel false rest
    return (pair :: pairs, rest)

end

def fuelFor (tokens : List Token) : Nat :=
  4 * tokens.length + 4

end Node

namespace Document

abbrev Handles := List (List Char × List Char)

def usualHandles : Handles :=
  [(['!'], ['!']), (['!', '!'], "tag:yaml.org,2002:".toList)]

/-- The handles of the directives at the start of tokens, and the tokens behind them. Of versions only the first major one
is known, and neither a version nor a handle comes twice. -/
def handles : Bool → Handles → List Token → Except Fault (Handles × List Token)
  | versioned, found, .directive (.version major) :: rest =>
    if versioned || major != 1 then refuse else handles true found rest
  | versioned, found, .directive (.tag handle start) :: rest =>
    if found.any (·.1 == handle) then refuse else handles versioned ((handle, start) :: found) rest
  | versioned, found, .directive .other :: rest => handles versioned found rest
  | _, found, tokens => .ok (found ++ usualHandles, tokens)

/-- Writes tags in full. Tokens end where a handle is not known, an anchor comes twice or a name has no anchor before it. -/
def settled (handles : Handles) : List (List Char) → List Token → List Token
  | _, [] => []
  | anchors, token :: rest =>
    match token with
    | .tag ⟨some handle, suffix⟩ =>
      match handles.lookup handle with
      | some start => .tag ⟨none, start ++ suffix⟩ :: settled handles anchors rest
      | none => [.broken .malformed]
    | .anchor name =>
      if anchors.contains name then [.broken .malformed] else token :: settled handles (name :: anchors) rest
    | .reference name => if anchors.contains name then token :: settled handles anchors rest else [.broken .malformed]
    | token => token :: settled handles anchors rest

def content (tokens : List Token) : Except Fault (Node × List Token) :=
  match tokens with
  | [] => .ok (.absent, [])
  | .directive _ :: _ => .ok (.absent, tokens)
  | .documentStart :: _ => .ok (.absent, tokens)
  | .documentEnd :: _ => .ok (.absent, tokens)
  | tokens => Node.node (Node.fuelFor tokens) true false tokens

def explicit (tokens : List Token) : Except Fault (Node × List Token) := do
  let (handles, tokens) ← handles false [] tokens
  match tokens with
  | .documentStart :: rest => content (settled handles [] rest)
  | tokens => refuseAt tokens

def first (tokens : List Token) : Except Fault (Node × List Token) :=
  match tokens with
  | [] => .ok (.absent, [])
  | .documentStart :: _ => explicit tokens
  | .directive _ :: _ => explicit tokens
  | tokens =>
    let tokens := settled usualHandles [] tokens
    Node.node (Node.fuelFor tokens) true false tokens

def read (text : List Char) : Except Fault Node := do
  let (found, rest) ← first (tokens text)
  match rest.dropWhile (· == .documentEnd) with
  | [] => return found
  | rest => refuseAt rest

end Document

end PluginAudit.Yaml
