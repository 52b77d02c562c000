import DeviceGateway.Document.Node
import DeviceGateway.Document.Yaml.Token

/-!
# YAML documents

The tokens of a document make a tree of nodes: a scalar, a sequence or a
mapping, where an entry, a key or a value that is left out is an empty plain
scalar.  A text holds at most one document; one that holds none is read as an
empty scalar as well, so an empty file and an empty value mean the same.
-/

namespace DeviceGateway.Document.Yaml

/-- What stands where nothing is written. -/
def emptyNode : Node := .plain ""

/-- Where a node is read: in brackets, in a block, or in a block where a
sequence may stand at the indentation of the mapping around it. -/
inductive Context where
  | flow
  | block
  | indentless
  deriving DecidableEq, Repr

/-- Whether the next token is one of some. -/
def isNext (ts : List Token) (candidates : List Token) : Bool :=
  ts.head?.any fun t => candidates.contains t

mutual

/-- Reads a node. -/
def readNode : Nat → Context → List Token → Except Fault (Node × List Token)
  | 0, _, _ => .error .unexpectedToken
  | fuel + 1, context, ts =>
    match ts with
    | .plain s :: rest => .ok (.plain (String.ofList s), rest)
    | .quoted s :: rest => .ok (.text (String.ofList s), rest)
    | .flowSequenceStart :: rest => readFlowSequence fuel true [] rest
    | .flowMappingStart :: rest => readFlowMapping fuel true [] rest
    | .blockEntry :: _ =>
      if context = .indentless then readIndentless fuel [] ts
      else .error .unexpectedToken
    | .blockSequenceStart :: rest =>
      if context = .flow then .error .unexpectedToken
      else readBlockSequence fuel [] rest
    | .blockMappingStart :: rest =>
      if context = .flow then .error .unexpectedToken
      else readBlockMapping fuel [] rest
    | _ => .error .unexpectedToken

/-- Reads a node unless one of some tokens comes next. -/
def readUnless (stops : List Token) : Nat → Context → List Token →
    Except Fault (Node × List Token)
  | 0, _, _ => .error .unexpectedToken
  | fuel + 1, context, ts =>
    if ts.isEmpty || isNext ts stops then .ok (emptyNode, ts)
    else readNode fuel context ts

/-- Reads the entries of a block sequence. -/
def readBlockSequence :
    Nat → List Node → List Token → Except Fault (Node × List Token)
  | 0, _, _ => .error .unexpectedToken
  | fuel + 1, done, ts =>
    match ts with
    | .blockEntry :: rest => do
      let (node, rest) ← readUnless [.blockEntry, .blockEnd] fuel .block rest
      readBlockSequence fuel (node :: done) rest
    | .blockEnd :: rest => .ok (.sequence done.reverse, rest)
    | _ => .error .unexpectedToken

/-- Reads the entries of a sequence at the indentation of the mapping around
it. -/
def readIndentless :
    Nat → List Node → List Token → Except Fault (Node × List Token)
  | 0, _, _ => .error .unexpectedToken
  | fuel + 1, done, ts =>
    match ts with
    | .blockEntry :: rest => do
      let (node, rest) ← readUnless [.blockEntry, .key, .value, .blockEnd] fuel
        .block rest
      readIndentless fuel (node :: done) rest
    | _ => .ok (.sequence done.reverse, ts)

/-- Reads the entries of a block mapping. -/
def readBlockMapping :
    Nat → List (Node × Node) → List Token → Except Fault (Node × List Token)
  | 0, _, _ => .error .unexpectedToken
  | fuel + 1, done, ts =>
    match ts with
    | .key :: rest => do
      let (key, rest) ← readUnless [.key, .value, .blockEnd] fuel
        .indentless rest
      match rest with
      | .value :: rest => do
        let (value, rest) ← readUnless [.key, .value, .blockEnd] fuel
          .indentless rest
        readBlockMapping fuel ((key, value) :: done) rest
      | _ => readBlockMapping fuel ((key, emptyNode) :: done) rest
    | .blockEnd :: rest => .ok (.mapping done.reverse, rest)
    | _ => .error .unexpectedToken

/-- Reads the entries of a sequence in brackets. -/
def readFlowSequence : Nat → Bool → List Node → List Token →
    Except Fault (Node × List Token)
  | 0, _, _, _ => .error .unexpectedToken
  | fuel + 1, first, done, ts =>
    match first, ts with
    | _, .flowSequenceEnd :: rest => .ok (.sequence done.reverse, rest)
    | false, .flowEntry :: .flowSequenceEnd :: rest =>
      .ok (.sequence done.reverse, rest)
    | false, .flowEntry :: rest => readFlowItem fuel done rest
    | false, _ => .error .unexpectedToken
    | true, _ => readFlowItem fuel done ts

/-- Reads one entry of a sequence in brackets, which may be a pair, and those
after it.  The token in place of a key that is left out is taken for the key. -/
def readFlowItem :
    Nat → List Node → List Token → Except Fault (Node × List Token)
  | 0, _, _ => .error .unexpectedToken
  | fuel + 1, done, ts =>
    match ts with
    | .key :: rest => do
      let (key, rest) ←
        if isNext rest [.value, .flowEntry, .flowSequenceEnd] then
          pure (emptyNode, rest.tail)
        else readNode fuel .flow rest
      match rest with
      | .value :: rest => do
        let (value, rest) ← readUnless [.flowEntry, .flowSequenceEnd] fuel
          .flow rest
        readFlowSequence fuel false (.mapping [(key, value)] :: done) rest
      | _ =>
        readFlowSequence fuel false (.mapping [(key, emptyNode)] :: done) rest
    | _ => do
      let (node, rest) ← readNode fuel .flow ts
      readFlowSequence fuel false (node :: done) rest

/-- Reads the entries of a mapping in braces. -/
def readFlowMapping : Nat → Bool → List (Node × Node) → List Token →
    Except Fault (Node × List Token)
  | 0, _, _, _ => .error .unexpectedToken
  | fuel + 1, first, done, ts =>
    match first, ts with
    | _, .flowMappingEnd :: rest => .ok (.mapping done.reverse, rest)
    | false, .flowEntry :: .flowMappingEnd :: rest =>
      .ok (.mapping done.reverse, rest)
    | false, .flowEntry :: rest => readFlowPair fuel done rest
    | false, _ => .error .unexpectedToken
    | true, _ => readFlowPair fuel done ts

/-- Reads one entry of a mapping in braces and those after it. -/
def readFlowPair :
    Nat → List (Node × Node) → List Token → Except Fault (Node × List Token)
  | 0, _, _ => .error .unexpectedToken
  | fuel + 1, done, ts =>
    match ts with
    | .key :: rest => do
      let (key, rest) ← readUnless [.value, .flowEntry, .flowMappingEnd] fuel
        .flow rest
      match rest with
      | .value :: rest => do
        let (value, rest) ← readUnless [.flowEntry, .flowMappingEnd] fuel
          .flow rest
        readFlowMapping fuel false ((key, value) :: done) rest
      | _ => readFlowMapping fuel false ((key, emptyNode) :: done) rest
    | _ => do
      let (key, rest) ← readNode fuel .flow ts
      readFlowMapping fuel false ((key, emptyNode) :: done) rest

end

/-- Reads the only document among some tokens. -/
def compose (ts : List Token) : Except Fault Node :=
  let fuel := 3 * ts.length + 3
  let document : Except Fault (Node × List Token) := match ts with
    | [] => .ok (emptyNode, [])
    | .documentStart :: rest =>
      readUnless [.documentStart, .documentEnd] fuel .block rest
    | ts => readNode fuel .block ts
  match document with
  | .error fault => .error fault
  | .ok (node, rest) =>
    if (rest.dropWhile (· == Token.documentEnd)).isEmpty then .ok node
    else .error .severalDocuments

/-- Reads a text that holds at most one document. -/
def read (cs : List Char) : Except Fault Node := do
  compose (← tokens cs)

end DeviceGateway.Document.Yaml
