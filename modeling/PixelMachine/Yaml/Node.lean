import PixelMachine.Yaml.Token

/-!
# YAML nodes

The tree of texts, lists and mappings that the tokens of a document stand for. Where a key or a value
is left out, the node is the plain empty text.
-/

set_option autoImplicit false

namespace PixelMachine.Yaml

/-- A text, a list of nodes, or a mapping of nodes to nodes. -/
inductive Node where
  | scalar (text : String) (style : Style)
  | sequence (items : List Node)
  /-- The keys with their values, in their order; a key may be repeated. -/
  | mapping (entries : List (Node × Node))
  deriving Inhabited

namespace Node

/-- The node of what is left out. -/
def missing : Node := .scalar "" .plain

/-- Whether what should come next is left out: whether a token of a kind, or none at all, is next. -/
def isLeftOut (stops : Token → Bool) (ts : List Token) : Bool := ts.head?.all stops

/-- The tokens before which the value of an entry in a block may be left out. -/
def endsBlockEntry : Token → Bool
  | .blockEntry | .blockEnd => true
  | _ => false

/-- The tokens before which the value of an entry in a list that is not indented may be left out. -/
def endsIndentlessEntry : Token → Bool
  | .blockEntry | .key | .value | .blockEnd => true
  | _ => false

/-- The tokens before which a key or a value in a block may be left out. -/
def endsBlockKey : Token → Bool
  | .key | .value | .blockEnd => true
  | _ => false

/-- The tokens before which a key or a value inside brackets may be left out. -/
def endsFlowKey (close : Token) (t : Token) : Bool := t == .value || t == .flowEntry || t == close

/-- The tokens before which a value inside brackets may be left out after its colon. -/
def endsFlowValue (close : Token) (t : Token) : Bool := t == .flowEntry || t == close

/-- After the comma between two entries inside brackets; the first entry has none before it. -/
def afterComma (isFirst : Bool) (ts : List Token) : Except Error (List Token) :=
  if isFirst then .ok ts
  else
    match ts with
    | .flowEntry :: rest => .ok rest
    | _ => .error .expectedEntry

mutual

/-- The node at the front. `inBlock` tells whether it can be a block, `indentless` whether it can be a
list that is not indented further than the key before it. -/
def parse (inBlock indentless : Bool) : Nat → List Token → Except Error (Node × List Token)
  | 0, _ => .error .expectedValue
  | fuel + 1, ts =>
    match ts with
    | .scalar text style :: rest => .ok (.scalar text style, rest)
    | .flowSequenceStart :: rest => flowSequence fuel true [] rest
    | .flowMappingStart :: rest => flowMapping fuel true [] rest
    | .blockEntry :: _ => if indentless then indentlessSequence fuel [] ts else .error .expectedValue
    | .blockSequenceStart :: rest =>
      if inBlock then blockSequence fuel [] rest else .error .expectedValue
    | .blockMappingStart :: rest =>
      if inBlock then blockMapping fuel [] rest else .error .expectedValue
    | _ => .error .expectedValue

/-- The entries of a block list up to its end; `done` holds the ones before, the latest first. -/
def blockSequence : Nat → List Node → List Token → Except Error (Node × List Token)
  | 0, _, _ => .error .expectedEntry
  | fuel + 1, done, ts =>
    match ts with
    | .blockEntry :: rest =>
      if isLeftOut endsBlockEntry rest then blockSequence fuel (missing :: done) rest
      else do
        let (item, rest) ← parse true false fuel rest
        blockSequence fuel (item :: done) rest
    | .blockEnd :: rest => .ok (.sequence done.reverse, rest)
    | _ => .error .expectedEntry

/-- The entries of a block list that is not indented; it ends where no further entry starts. -/
def indentlessSequence : Nat → List Node → List Token → Except Error (Node × List Token)
  | 0, _, _ => .error .expectedEntry
  | fuel + 1, done, ts =>
    match ts with
    | .blockEntry :: rest =>
      if isLeftOut endsIndentlessEntry rest then indentlessSequence fuel (missing :: done) rest
      else do
        let (item, rest) ← parse true false fuel rest
        indentlessSequence fuel (item :: done) rest
    | rest => .ok (.sequence done.reverse, rest)

/-- The keys and values of a block mapping up to its end. -/
def blockMapping : Nat → List (Node × Node) → List Token → Except Error (Node × List Token)
  | 0, _, _ => .error .expectedEntry
  | fuel + 1, done, ts =>
    match ts with
    | .key :: rest => do
      let (key, rest) ←
        if isLeftOut endsBlockKey rest then .ok (missing, rest) else parse true true fuel rest
      match rest with
      | .value :: rest =>
        let (value, rest) ←
          if isLeftOut endsBlockKey rest then .ok (missing, rest) else parse true true fuel rest
        blockMapping fuel ((key, value) :: done) rest
      | rest => blockMapping fuel ((key, missing) :: done) rest
    | .blockEnd :: rest => .ok (.mapping done.reverse, rest)
    | _ => .error .expectedEntry

/-- The value of a key inside brackets, up to the end of its entry. -/
def flowValue (close : Token) : Nat → List Token → Except Error (Node × List Token)
  | 0, _ => .error .expectedValue
  | fuel + 1, ts =>
    match ts with
    | .value :: rest =>
      if isLeftOut (endsFlowValue close) rest then .ok (missing, rest)
      else parse false false fuel rest
    | rest => .ok (missing, rest)

/-- The entries of a list in brackets up to its end. A key with its value is an entry of its own. -/
def flowSequence : Nat → Bool → List Node → List Token → Except Error (Node × List Token)
  | 0, _, _, _ => .error .expectedEntry
  | fuel + 1, isFirst, done, ts =>
    match ts with
    | .flowSequenceEnd :: rest => .ok (.sequence done.reverse, rest)
    | ts => do
      let ts ← afterComma isFirst ts
      match ts with
      | .flowSequenceEnd :: rest => .ok (.sequence done.reverse, rest)
      | .key :: rest =>
        let (key, rest) ←
          if isLeftOut (endsFlowKey .flowSequenceEnd) rest then .ok (missing, rest.drop 1)
          else parse false false fuel rest
        let (value, rest) ← flowValue .flowSequenceEnd fuel rest
        flowSequence fuel false (.mapping [(key, value)] :: done) rest
      | rest =>
        let (item, rest) ← parse false false fuel rest
        flowSequence fuel false (item :: done) rest

/-- The keys and values of a mapping in braces up to its end. -/
def flowMapping : Nat → Bool → List (Node × Node) → List Token → Except Error (Node × List Token)
  | 0, _, _, _ => .error .expectedEntry
  | fuel + 1, isFirst, done, ts =>
    match ts with
    | .flowMappingEnd :: rest => .ok (.mapping done.reverse, rest)
    | ts => do
      let ts ← afterComma isFirst ts
      match ts with
      | .flowMappingEnd :: rest => .ok (.mapping done.reverse, rest)
      | .key :: rest =>
        let (key, rest) ←
          if isLeftOut (endsFlowKey .flowMappingEnd) rest then .ok (missing, rest)
          else parse false false fuel rest
        let (value, rest) ← flowValue .flowMappingEnd fuel rest
        flowMapping fuel false ((key, value) :: done) rest
      | rest =>
        let (key, rest) ← parse false false fuel rest
        flowMapping fuel false ((key, missing) :: done) rest

end

/-- The tokens before which the content of a document may be left out. -/
def endsDocument : Token → Bool
  | .documentStart | .documentEnd => true
  | _ => false

/-- The node of a document with the tokens after it. A document with nothing in it is the missing
node. -/
def document (ts : List Token) : Except Error (Node × List Token) :=
  let fuel := 2 * ts.length + 2
  match ts with
  | .documentStart :: rest =>
    if isLeftOut endsDocument rest then .ok (missing, rest) else parse true false fuel rest
  | ts => parse true false fuel ts

/-- The node of a text that is one document; there is none if the text has no document. -/
def ofText? (text : String) : Except Error (Option Node) := do
  let ts ← Token.ofText text
  if ts.isEmpty then .ok none
  else
    let (node, rest) ← document ts
    if (rest.dropWhile (· == .documentEnd)).isEmpty then .ok (some node) else .error .furtherDocument

end Node

end PixelMachine.Yaml
