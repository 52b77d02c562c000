/-!
# YAML tokens

The structure of a YAML document is spread over its indentation and its
punctuation.  Cutting it into tokens makes both explicit: where a line is
indented more than the collection around it a collection starts, and where it
is indented less, one or more of them end.

That a scalar is a key is only known at the colon behind it.  The scanner
therefore remembers, for each level of brackets, the place where a key might
have begun; the colon then puts the key mark, and if need be the start of the
mapping, in front of the tokens read since.  Such a place is given up at the
end of the line, and that is an error where nothing but a key could stand.

The scanner reads block and flow collections, plain, single- and double-quoted
scalars, comments and document marks.  Directives, anchors, tags and block
scalars are refused.

## Main results

* `insertAt_length`: marks are added in front of tokens and none is lost.
-/

namespace DeviceGateway.Document.Yaml

/-- The pieces of a document. -/
inductive Token where
  | documentStart
  | documentEnd
  | blockSequenceStart
  | blockMappingStart
  | blockEnd
  | flowSequenceStart
  | flowSequenceEnd
  | flowMappingStart
  | flowMappingEnd
  | blockEntry
  | flowEntry
  | key
  | value
  | plain (text : List Char)
  | quoted (text : List Char)
  deriving DecidableEq, Repr

/-- Why a text is no document. -/
inductive Fault where
  | forbiddenCharacter
  | unsupported
  | strayCharacter
  | tabInIndentation
  | missingColon
  | misplacedEntry
  | misplacedKey
  | misplacedValue
  | unexpectedColon
  | unclosedQuote
  | badEscape
  | unexpectedToken
  | severalDocuments
  deriving DecidableEq, Repr

/-! ## Characters -/

/-- A blank inside a line. -/
def isBlank (c : Char) : Bool :=
  c == ' ' || c == '\t'

/-- A line break. -/
def isBreak (c : Char) : Bool :=
  c == '\n' || c == '\r' || c == '\u0085' || c == '\u2028' || c == '\u2029'

/-- Whether a token may end here: before a blank, a break or the end. -/
def atBlank : List Char → Bool
  | [] => true
  | c :: _ => isBlank c || isBreak c

/-- Whether a character may stand in a document at all. -/
def isAllowed (c : Char) : Bool :=
  let n := c.toNat
  n == 0x9 || n == 0xA || n == 0xD || (0x20 ≤ n && n ≤ 0x7E) || n == 0x85 ||
    (0xA0 ≤ n && n ≤ 0xD7FF) || (0xE000 ≤ n && n ≤ 0xFFFD) || 0x10000 ≤ n

/-- Whether a mark of three characters stands here by itself. -/
def isMark (c : Char) (cs : List Char) : Bool :=
  match cs with
  | x :: y :: z :: rest => x == c && y == c && z == c && atBlank rest
  | _ => false

/-- Whether one of the marks between documents stands here. -/
def isDocumentMark (cs : List Char) : Bool :=
  isMark '-' cs || isMark '.' cs

/-- The number of octets that some characters take up. -/
def octetCount (cs : List Char) : Nat :=
  cs.foldl (fun n c => n + c.utf8Size) 0

/-- A place in a text. -/
structure Cursor where
  rest : List Char
  /-- The number of octets in front of the place. -/
  index : Nat := 0
  line : Nat := 0
  column : Nat := 0

namespace Cursor

/-- Goes on by some characters of a line. -/
def advance (c : Cursor) (count : Nat) : Cursor :=
  let (passed, rest) := c.rest.splitAt count
  { c with
    rest
    index := c.index + octetCount passed
    column := c.column + count }

/-- Goes on by one character of a line. -/
def skip (c : Cursor) : Cursor :=
  c.advance 1

/-- Goes on by a line break and returns what it counts as inside a text. -/
def skipBreak (c : Cursor) : List Char × Cursor :=
  let next (passed rest : List Char) : Cursor :=
    { rest, index := c.index + octetCount passed, line := c.line + 1
      column := 0 }
  match c.rest with
  | '\r' :: '\n' :: rest => (['\n'], next ['\r', '\n'] rest)
  | b :: rest =>
    (if b == '\u2028' || b == '\u2029' then [b] else ['\n'], next [b] rest)
  | [] => ([], c)

/-- Whether a mark between documents stands at the start of this line. -/
def atDocumentMark (c : Cursor) : Bool :=
  c.column == 0 && isDocumentMark c.rest

end Cursor

/-! ## Scalars -/

/-- Blanks and breaks inside a scalar. -/
structure Gap where
  /-- Whether the scalar went on to another line. -/
  folded : Bool := false
  /-- The blanks before the first break. -/
  blanks : List Char := []
  firstBreak : List Char := []
  laterBreaks : List Char := []

/-- What a gap counts as: its blanks if the line goes on, a space for a single
break, and all breaks but the first for several. -/
def Gap.text (g : Gap) : List Char :=
  if g.folded then
    match g.firstBreak with
    | ['\n'] => if g.laterBreaks.isEmpty then [' '] else g.laterBreaks
    | _ => g.firstBreak ++ g.laterBreaks
  else g.blanks

/-- Reads a gap.  On lines after the first a tab may not stand left of
`indent`. -/
def readGap (indent : Int) : Nat → Gap → Cursor → Except Fault (Gap × Cursor)
  | 0, g, c => .ok (g, c)
  | fuel + 1, g, c =>
    match c.rest with
    | [] => .ok (g, c)
    | b :: _ =>
      if isBlank b then
        if g.folded && b == '\t' && c.column < indent then
          .error .tabInIndentation
        else if g.folded then readGap indent fuel g c.skip
        else readGap indent fuel { g with blanks := g.blanks ++ [b] } c.skip
      else if isBreak b then
        let (text, next) := c.skipBreak
        if g.folded then
          readGap indent fuel { g with laterBreaks := g.laterBreaks ++ text }
            next
        else readGap indent fuel { folded := true, firstBreak := text } next
      else .ok (g, c)

/-- Reads characters of a plain scalar up to a blank or to what ends it.  `done`
holds the text so far, the last character first, and `count` its length. -/
def readPlainRun (flow : Bool) (done : List Char) (count : Nat) :
    List Char → Except Fault (List Char × Nat)
  | [] => .ok (done, count)
  | c :: rest =>
    if isBlank c || isBreak c then .ok (done, count)
    else if flow && c == ':' &&
      rest.head?.any (",?[]\x7b\x7d".toList.contains ·) then
      .error .unexpectedColon
    else if c == ':' && atBlank rest then .ok (done, count)
    else if flow && ",[]\x7b\x7d".toList.contains c then .ok (done, count)
    else readPlainRun flow (c :: done) (count + 1) rest

/-- Reads a plain scalar whose further lines are indented by `indent` at least.
Also returns whether it ended at the start of a line. -/
def readPlain (flow : Bool) (indent : Int) :
    Nat → List Char → Gap → Cursor → Except Fault (List Char × Bool × Cursor)
  | 0, done, g, c => .ok (done.reverse, g.folded, c)
  | fuel + 1, done, g, c => do
    if c.atDocumentMark || c.rest.head? == some '#' then
      return (done.reverse, g.folded, c)
    let (run, count) ← readPlainRun flow [] 0 c.rest
    let done := if count = 0 then done else run ++ g.text.reverse ++ done
    let g := if count = 0 then g else {}
    let c := c.advance count
    if c.rest.isEmpty || !atBlank c.rest then return (done.reverse, g.folded, c)
    let (g, next) ← readGap indent (c.rest.length + 1) g c
    if !flow && next.column < indent then return (done.reverse, g.folded, next)
    readPlain flow indent fuel done g next

/-- The character behind a backslash that stands for a fixed character. -/
def escaped? : Char → Option Char
  | '0' => some (Char.ofNat 0)
  | 'a' => some '\x07'
  | 'b' => some '\x08'
  | 't' => some '\t'
  | '\t' => some '\t'
  | 'n' => some '\n'
  | 'v' => some '\x0b'
  | 'f' => some '\x0c'
  | 'r' => some '\r'
  | 'e' => some '\x1b'
  | ' ' => some ' '
  | '\"' => some '\"'
  | '/' => some '/'
  | '\\' => some '\\'
  | 'N' => some '\u0085'
  | '_' => some '\u00a0'
  | 'L' => some '\u2028'
  | 'P' => some '\u2029'
  | _ => none

/-- How many hexadecimal digits follow a letter behind a backslash. -/
def escapeDigits : Char → Nat
  | 'x' => 2
  | 'u' => 4
  | 'U' => 8
  | _ => 0

/-- The value of a hexadecimal digit. -/
def hexDigitValue? (c : Char) : Option Nat :=
  let n := c.toNat
  if 48 ≤ n ∧ n ≤ 57 then some (n - 48)
  else if 97 ≤ n ∧ n ≤ 102 then some (n - 87)
  else if 65 ≤ n ∧ n ≤ 70 then some (n - 55)
  else none

/-- The character with a hexadecimal number, if there is one. -/
def hexChar? (digits : List Char) : Option Char :=
  match digits.mapM hexDigitValue? with
  | none => none
  | some values =>
    let n := values.foldl (fun sum d => sum * 16 + d) 0
    if (0xD800 ≤ n ∧ n ≤ 0xDFFF) ∨
      0x10FFFF < n then none else some (Char.ofNat n)

/-- Reads characters of a quoted scalar up to a blank, a break or the quote.
Also returns whether it ended with a break that a backslash removes. -/
def readQuotedRun (quote : Char) :
    Nat → List Char → Cursor → Except Fault (List Char × Bool × Cursor)
  | 0, done, c => .ok (done, false, c)
  | fuel + 1, done, c =>
    match c.rest with
    | [] => .ok (done, false, c)
    | x :: rest =>
      if isBlank x || isBreak x then .ok (done, false, c)
      else if x == quote then
        match quote, rest with
        | '\'', '\'' :: _ =>
          readQuotedRun quote fuel ('\'' :: done) (c.advance 2)
        | _, _ => .ok (done, false, c)
      else if quote == '\"' && x == '\\' then
        match rest with
        | [] => .error .badEscape
        | e :: rest =>
          if isBreak e then .ok (done, true, c.skip.skipBreak.2)
          else
            match escaped? e with
            | some y => readQuotedRun quote fuel (y :: done) (c.advance 2)
            | none =>
              let size := escapeDigits e
              if size = 0 ∨ rest.length < size then .error .badEscape
              else
                match hexChar? (rest.take size) with
                | none => .error .badEscape
                | some y =>
                  readQuotedRun quote fuel (y :: done) (c.advance (2 + size))
      else readQuotedRun quote fuel (x :: done) c.skip

/-- Reads a quoted scalar from behind its opening quote. -/
def readQuoted (quote : Char) :
    Nat → List Char → Cursor → Except Fault (List Char × Cursor)
  | 0, _, _ => .error .unclosedQuote
  | fuel + 1, done, c => do
    if c.atDocumentMark || c.rest.isEmpty then throw .unclosedQuote
    let (done, joined, c) ← readQuotedRun quote (c.rest.length + 1) done c
    if c.rest.head? == some quote then return (done.reverse, c.skip)
    let (g, c) ← readGap (-1) (c.rest.length + 1) { folded := joined } c
    readQuoted quote fuel (g.text.reverse ++ done) c

/-! ## The scanner -/

/-- A place where a key may have begun: how many tokens stand before it, and
where it is. -/
structure KeyPlace where
  before : Nat
  index : Nat
  line : Nat
  column : Nat
  /-- Whether nothing but a key can stand here. -/
  required : Bool

/-- The state of the scanner. -/
structure Scanner where
  cursor : Cursor
  /-- The tokens so far, the last one first. -/
  tokens : List Token := []
  count : Nat := 0
  /-- The place of a key for each open bracket, the innermost first. -/
  flows : List (Option KeyPlace) := []
  /-- The place of a key outside the brackets. -/
  outer : Option KeyPlace := none
  /-- The column of the innermost block collection. -/
  indent : Int := -1
  /-- The columns of the collections around it. -/
  indents : List Int := []
  /-- Whether a key may begin here. -/
  keyAllowed : Bool := true

/-- Puts an element in front of the last ones, of which `count - before` stand
at the head of a list that is kept backwards. -/
def insertAt {α : Type} (before count : Nat) (x : α) (backwards : List α) :
    List α :=
  let later := count - before
  backwards.take later ++ x :: backwards.drop later

namespace Scanner

/-- Whether the scanner is inside brackets. -/
def inFlow (s : Scanner) : Bool :=
  !s.flows.isEmpty

/-- Adds a token. -/
def push (s : Scanner) (t : Token) : Scanner :=
  { s with tokens := t :: s.tokens, count := s.count + 1 }

/-- Puts a token behind the first `before` ones. -/
def insert (s : Scanner) (before : Nat) (t : Token) : Scanner :=
  { s with tokens := insertAt before s.count t s.tokens, count := s.count + 1 }

/-- The place of a key at this level of brackets. -/
def place (s : Scanner) : Option KeyPlace :=
  match s.flows with
  | [] => s.outer
  | p :: _ => p

/-- Sets the place of a key at this level of brackets. -/
def setPlace (s : Scanner) (p : Option KeyPlace) : Scanner :=
  match s.flows with
  | [] => { s with outer := p }
  | _ :: rest => { s with flows := p :: rest }

/-- Gives up the place of a key; an error where only a key could stand. -/
def dropPlace (s : Scanner) : Except Fault Scanner :=
  if s.place.any (·.required) then .error .missingColon
  else .ok (s.setPlace none)

/-- Remembers that a key may begin here. -/
def savePlace (s : Scanner) : Except Fault Scanner :=
  if s.keyAllowed then do
    let s ← s.dropPlace
    let c := s.cursor
    pure (s.setPlace (some
      { before := s.count, index := c.index, line := c.line, column := c.column,
        required := !s.inFlow && s.indent == (c.column : Int) }))
  else .ok s

/-- Whether a place is too far back for a key: on an earlier line, or more than
1024 octets away. -/
def isStale (c : Cursor) (p : KeyPlace) : Bool :=
  p.line < c.line || p.index + 1024 < c.index

/-- Gives up the places that are too far back. -/
def dropStale (s : Scanner) : Except Fault Scanner :=
  let keep (p : Option KeyPlace) : Option KeyPlace := p.filter fun p =>
    !isStale s.cursor p
  let lost (p : Option KeyPlace) : Bool := p.any fun p => isStale s.cursor p &&
    p.required
  if lost s.outer || s.flows.any lost then .error .missingColon
  else .ok { s with outer := keep s.outer, flows := s.flows.map keep }

/-- Starts a block collection if this column is further in than the last
one. -/
def roll (s : Scanner) (column : Nat) (before : Nat) (start : Token) :
    Scanner :=
  if !s.inFlow && s.indent < (column : Int) then
    { s.insert before start with
      indents := s.indent :: s.indents
      indent := column }
  else s

/-- Ends the block collections that are further in than a column. -/
def unrollFrom (column : Int) : List Int → Scanner → Scanner
  | [], s => s
  | outer :: rest, s =>
    if column < s.indent then
      unrollFrom column rest
        { s.push .blockEnd with indent := outer, indents := rest }
    else s

/-- `unrollFrom` with all open collections; inside brackets nothing ends. -/
def unroll (s : Scanner) (column : Int) : Scanner :=
  if s.inFlow then s else unrollFrom column s.indents s

/-- A byte order mark, which may stand at the start of any line. -/
def orderMark : Char := '\ufeff'

/-- Skips blanks, comments and line breaks, and at the start of a line a byte
order mark.  The mark takes up a column like any other character. -/
def skipSpace : Nat → Scanner → Scanner
  | 0, s => s
  | fuel + 1, s =>
    match s.cursor.rest with
    | [] => s
    | c :: _ =>
      if c == ' ' || (c == '\t' && (s.inFlow || !s.keyAllowed)) ||
          (c == orderMark && s.cursor.column == 0) then
        skipSpace fuel { s with cursor := s.cursor.skip }
      else if c == '#' then
        let comment := s.cursor.rest.takeWhile fun c => !isBreak c
        skipSpace fuel { s with cursor := s.cursor.advance comment.length }
      else if isBreak c then
        skipSpace fuel
          { s with cursor := s.cursor.skipBreak.2, keyAllowed := s.keyAllowed ||
            !s.inFlow }
      else s

/-- Adds a token of one character. -/
def pushChar (s : Scanner) (t : Token) : Scanner :=
  { s.push t with cursor := s.cursor.skip }

/-- A mark between documents. -/
def documentMark (s : Scanner) (t : Token) : Except Fault Scanner := do
  let s ← (s.unroll (-1)).dropPlace
  pure { s.push t with keyAllowed := false, cursor := s.cursor.skip.skip.skip }

/-- An opening bracket. -/
def openFlow (s : Scanner) (t : Token) : Except Fault Scanner := do
  let s ← s.savePlace
  pure { s.pushChar t with flows := none :: s.flows, keyAllowed := true }

/-- A closing bracket. -/
def closeFlow (s : Scanner) (t : Token) : Except Fault Scanner := do
  let s ← s.dropPlace
  pure { s.pushChar t with flows := s.flows.tail, keyAllowed := false }

/-- A comma. -/
def flowEntry (s : Scanner) : Except Fault Scanner := do
  let s ← s.dropPlace
  pure { s.pushChar .flowEntry with keyAllowed := true }

/-- A dash in front of an entry of a block sequence. -/
def blockEntry (s : Scanner) : Except Fault Scanner := do
  if !s.inFlow && !s.keyAllowed then throw .misplacedEntry
  let s ← (s.roll s.cursor.column s.count .blockSequenceStart).dropPlace
  pure { s.pushChar .blockEntry with keyAllowed := true }

/-- A question mark in front of a key. -/
def explicitKey (s : Scanner) : Except Fault Scanner := do
  if !s.inFlow && !s.keyAllowed then throw .misplacedKey
  let s ← (s.roll s.cursor.column s.count .blockMappingStart).dropPlace
  pure { s.pushChar .key with keyAllowed := !s.inFlow }

/-- The colon behind a key. -/
def mappingValue (s : Scanner) : Except Fault Scanner :=
  match s.place with
  | some p =>
    let s := (s.insert p.before .key).roll p.column p.before .blockMappingStart
    .ok { (s.setPlace none).pushChar .value with keyAllowed := false }
  | none =>
    if !s.inFlow && !s.keyAllowed then .error .misplacedValue
    else
      let s := s.roll s.cursor.column s.count .blockMappingStart
      .ok { s.pushChar .value with keyAllowed := !s.inFlow }

/-- A quoted scalar. -/
def quotedScalar (s : Scanner) (quote : Char) : Except Fault Scanner := do
  let s ← s.savePlace
  let c := s.cursor.skip
  let (text, c) ← readQuoted quote (c.rest.length + 1) [] c
  pure { s.push (.quoted text) with cursor := c, keyAllowed := false }

/-- A plain scalar. -/
def plainScalar (s : Scanner) : Except Fault Scanner := do
  let s ← s.savePlace
  let (text, folded, c) ←
    readPlain s.inFlow (s.indent + 1) (s.cursor.rest.length + 1) [] {} s.cursor
  pure { s.push (.plain text) with cursor := c, keyAllowed := folded }

/-- The characters that cannot begin a plain scalar, though some of them may if
something else follows. -/
def indicators : List Char :=
  "-?:,[]\x7b\x7d#&*!|>'\"%@".toList ++ [Char.ofNat 0x60]

/-- Reads the next token. -/
def next (s : Scanner) : Except Fault Scanner := do
  let s ← s.dropStale
  let s := s.unroll s.cursor.column
  match s.cursor.rest with
  | [] => pure s
  | c :: rest =>
    if s.cursor.column == 0 && c == '%' then throw .unsupported
    else if s.cursor.column == 0 && isMark '-' (c :: rest) then
      s.documentMark .documentStart
    else if s.cursor.column == 0 && isMark '.' (c :: rest) then
      s.documentMark .documentEnd
    else if c == '[' then s.openFlow .flowSequenceStart
    else if c == '\x7b' then s.openFlow .flowMappingStart
    else if c == ']' then s.closeFlow .flowSequenceEnd
    else if c == '\x7d' then s.closeFlow .flowMappingEnd
    else if c == ',' then s.flowEntry
    else if c == '-' && atBlank rest then s.blockEntry
    else if c == '?' && (s.inFlow || atBlank rest) then s.explicitKey
    else if c == ':' && (s.inFlow || atBlank rest) then s.mappingValue
    else if c == '*' || c == '&' || c == '!' then throw .unsupported
    else if (c == '|' || c == '>') && !s.inFlow then throw .unsupported
    else if c == '\'' || c == '\"' then s.quotedScalar c
    else if (!isBlank c && !isBreak c && !indicators.contains c) ||
        (c == '-' && !(rest.head?.any isBlank)) ||
        (!s.inFlow && (c == '?' || c == ':') && !atBlank rest) then
      s.plainScalar
    else throw .strayCharacter

/-- Reads tokens up to the end of the text. -/
def run : Nat → Scanner → Except Fault (List Token)
  | 0, s => .ok s.tokens.reverse
  | fuel + 1, s =>
    let s := skipSpace (s.cursor.rest.length + 1) s
    if s.cursor.rest.isEmpty then do
      let s ← s.dropStale
      let s ← (s.unroll (-1)).dropPlace
      pure s.tokens.reverse
    else do
      let s ← s.next
      run fuel s

end Scanner

/-- The tokens of a text. -/
def tokens (cs : List Char) : Except Fault (List Token) :=
  if cs.all isAllowed then Scanner.run (cs.length + 1)
    { cursor := { rest := cs } }
  else .error .forbiddenCharacter

theorem insertAt_length {α : Type} (before count : Nat) (x : α) (xs : List α) :
    (insertAt before count x xs).length = xs.length + 1 := by
  simp only [insertAt, List.length_append, List.length_cons, List.length_take,
    List.length_drop]
  omega

end DeviceGateway.Document.Yaml
