import ViewEngine.Yaml.Scan
import ViewEngine.Yaml.Resolve

/-!
Reading the first document of a YAML text into a node tree. The grammar is read top-down over the
token stream: block collections end at BLOCK-END, flow collections at their closing bracket, a
missing node is an empty scalar, and a pair written inside a flow sequence is a mapping of one
entry. Tokens are looked at in the same order the grammar needs them, so a problem the scanner
meets a few tokens ahead surfaces at the same point of the reading.
-/

namespace ViewEngine.Yaml

/-- Why reading or decoding a YAML text stopped. -/
inductive Fault where
  /-- The text is not well-formed. -/
  | problem (p : Problem)
  /-- The document cannot be decoded at all. -/
  | failure (message : String)
  /-- Values that do not fit where they go, one line each. -/
  | mismatches (lines : List String)
  deriving Inhabited

/-- The line a problem is reported on: the line of its context if that is not the first, else
the line of the problem itself; lines count from zero, except for scanning problems. -/
def Problem.reportedLine (p : Problem) : Nat :=
  let bump := if p.stage == .scanner then 1 else 0
  if p.contextMark.line != 0 then p.contextMark.line + bump
  else if p.problemMark.line != 0 then p.problemMark.line + bump
  else 0

/-- The message of a fault. -/
def Fault.message : Fault → String
  | .problem p =>
    let line := p.reportedLine
    let place := if line != 0 then "line " ++ toString line ++ ": " else ""
    let what := if p.problem.isEmpty then "unknown problem parsing YAML content" else p.problem
    "yaml: " ++ place ++ what
  | .failure message => "yaml: " ++ message
  | .mismatches lines => "yaml: unmarshal errors:\n  " ++ "\n  ".intercalate lines

/-- The reader: the scanner, the tag handles of the document, and the anchored nodes (the latest
node of each anchor name first). -/
structure Reader where
  scanner : Scanner
  handles : List (String × String)
  anchors : List (String × Nat)
  anchored : Array Node

/-- Reading steps. -/
abbrev Read := StateT Reader (Except Fault)

/-- The tag handles every document has: `!` for local tags and `!!` for the standard ones. -/
def defaultHandles : List (String × String) := [("!", "!"), ("!!", standardPrefix)]

/-- Whether a token is one of the kinds listed. -/
def Token.isOneOf (t : Token) (kinds : List TokenKind) : Bool := kinds.any t.kind.sameAs

namespace Read

/-- Runs a scanning step. -/
def scan {α : Type} (m : Scan α) : Read α := fun r =>
  match m r.scanner with
  | .ok (a, s) => .ok (a, { r with scanner := s })
  | .error p => .error (.problem p)

/-- The next token. -/
def peek : Read Token := scan Scan.peekToken

/-- Takes the next token. -/
def skip : Read Unit := scan Scan.skipToken

/-- Stops with a problem of the grammar. -/
def fail {α : Type} (context : String) (contextMark : Mark) (problem : String) (problemMark : Mark) :
    Read α :=
  throw (.problem ⟨.parser, context, contextMark, problem, problemMark⟩)

/-- Reserves the number of an anchored node before its content is read, so that aliases inside
it already refer to it. -/
def reserve (anchor : Option String) : Read (Option Nat) := do
  match anchor with
  | none => pure none
  | some name =>
    let r ← get
    set { r with anchors := (name, r.anchored.size) :: r.anchors, anchored := r.anchored.push default }
    pure (some r.anchored.size)

/-- Records an anchored node under its reserved number. -/
def fill (slot : Option Nat) (n : Node) : Read Node := do
  if let some k := slot then
    modify fun r => { r with anchored := r.anchored.set! k n }
  pure n

/-- The node an alias names, by number; an alias of an anchor not defined before stops decoding. -/
def aliasTarget (name : String) : Read Nat := do
  match (← get).anchors.lookup name with
  | some k => pure k
  | none => throw (.failure ("unknown anchor '" ++ name ++ "' referenced"))

/-- The full tag a tag token stands for, through the document's handles. -/
def fullTag (handle suffix : String) (start tagMark : Mark) : Read String := do
  if handle.isEmpty then pure suffix
  else
    match (← get).handles.lookup handle with
    | some pre =>
      if (pre ++ suffix).isEmpty then fail "while parsing a node" start "found undefined tag handle" tagMark
      else pure (pre ++ suffix)
    | none => fail "while parsing a node" start "found undefined tag handle" tagMark

/-- A scalar node: an explicit tag (other than `!`) in short form, else `!!str` for a quoted or
block scalar, `!!merge` for a plain `<<`, else the tag its text resolves to. -/
def scalarNode (tag : String) (text : String) (style : ScalarStyle) (line : Nat) : Node :=
  let tag := if tag != "" && tag != "!" then shortTag tag
    else if style != .plain then "!!str"
    else if text == "<<" then "!!merge"
    else implicitTag text
  .scalar tag text style line

/-- The tag of a collection: an explicit tag (other than `!`) in short form, else the default. -/
def collectionTag (tag default : String) : String :=
  if tag != "" && tag != "!" then shortTag tag else default

/-- The empty scalar that stands for a missing node. -/
def emptyScalar (m : Mark) : Node := .scalar "!!null" "" .plain (m.line + 1)

mutual

/-- Reads a node: an alias, or a scalar or collection with an optional anchor and tag. In block
context a collection may be a block one; after a key, a sequence may start at the key's column. -/
def node (block indentless : Bool) : Nat → Read Node
  | 0 => throw (.failure "document nesting exceeds its length")
  | fuel + 1 => do
    let t ← peek
    if let .alias name := t.kind then
      skip
      return .alias name (← aliasTarget name) t.start.index (t.start.line + 1)
    -- The properties: an anchor and a tag, in either order.
    let (anchor, tagged, start, t) ← match t.kind with
      | .anchor name => do
        skip
        let t2 ← peek
        if let .tag h s := t2.kind then
          skip
          pure (some name, some (h, s, t2.start), t.start, ← peek)
        else pure (some name, none, t.start, t2)
      | .tag h s => do
        skip
        let t2 ← peek
        if let .anchor name := t2.kind then
          skip
          pure (some name, some (h, s, t.start), t.start, ← peek)
        else pure (none, some (h, s, t.start), t.start, t2)
      | _ => pure (none, none, t.start, t)
    let tag ← match tagged with
      | some (h, s, tagMark) => fullTag h s start tagMark
      | none => pure ""
    let line := start.line + 1
    if indentless && t.kind == .blockEntry then
      let slot ← reserve anchor
      let items ← indentlessSequence fuel #[]
      return ← fill slot (.sequence (collectionTag tag "!!seq") items line)
    match t.kind with
    | .scalar text style =>
      skip
      let slot ← reserve anchor
      fill slot (scalarNode tag text style line)
    | .flowSequenceStart =>
      let slot ← reserve anchor
      skip
      let items ← flowSequence t.start true fuel #[]
      fill slot (.sequence (collectionTag tag "!!seq") items line)
    | .flowMappingStart =>
      let slot ← reserve anchor
      skip
      let entries ← flowMapping t.start true fuel #[]
      fill slot (.mapping (collectionTag tag "!!map") entries line)
    | .blockSequenceStart =>
      if block then
        let slot ← reserve anchor
        skip
        let items ← blockSequence t.start fuel #[]
        fill slot (.sequence (collectionTag tag "!!seq") items line)
      else bare block anchor tag start line t
    | .blockMappingStart =>
      if block then
        let slot ← reserve anchor
        skip
        let entries ← blockMapping t.start fuel #[]
        fill slot (.mapping (collectionTag tag "!!map") entries line)
      else bare block anchor tag start line t
    | _ => bare block anchor tag start line t

/-- A node with properties and no content is an empty scalar; without properties it is missing. -/
def bare (block : Bool) (anchor : Option String) (tag : String) (start : Mark) (line : Nat)
    (t : Token) : Read Node := do
  if anchor.isSome || tag != "" then
    let slot ← reserve anchor
    fill slot (scalarNode tag "" .plain line)
  else
    fail (if block then "while parsing a block node" else "while parsing a flow node") start
      "did not find expected node content" t.start

/-- Reads the entries of a block sequence, each after a `-`, up to its BLOCK-END. -/
def blockSequence (open_ : Mark) : Nat → Array Node → Read (List Node)
  | 0, _ => throw (.failure "document nesting exceeds its length")
  | fuel + 1, acc => do
    let t ← peek
    match t.kind with
    | .blockEntry =>
      skip
      let next ← peek
      let item ← if next.isOneOf [.blockEntry, .blockEnd] then pure (emptyScalar t.stop)
        else node true false fuel
      blockSequence open_ fuel (acc.push item)
    | .blockEnd =>
      skip
      pure acc.toList
    | _ => fail "while parsing a block collection" open_ "did not find expected '-' indicator" t.start

/-- Reads the entries of a sequence written at its key's column, up to the first token that is
not a `-`. -/
def indentlessSequence : Nat → Array Node → Read (List Node)
  | 0, _ => throw (.failure "document nesting exceeds its length")
  | fuel + 1, acc => do
    let t ← peek
    if t.kind == .blockEntry then
      skip
      let next ← peek
      let item ← if next.isOneOf [.blockEntry, .key, .value, .blockEnd] then pure (emptyScalar t.stop)
        else node true false fuel
      indentlessSequence fuel (acc.push item)
    else pure acc.toList

/-- Reads the entries of a block mapping up to its BLOCK-END: a key after `?` (or an implicit
one), then a value after `:`; either may be missing. -/
def blockMapping (open_ : Mark) : Nat → Array (Node × Node) → Read (List (Node × Node))
  | 0, _ => throw (.failure "document nesting exceeds its length")
  | fuel + 1, acc => do
    let t ← peek
    match t.kind with
    | .key =>
      skip
      let next ← peek
      let key ← if next.isOneOf [.key, .value, .blockEnd] then pure (emptyScalar t.stop)
        else node true true fuel
      let value ← blockValue fuel
      blockMapping open_ fuel (acc.push (key, value))
    | .blockEnd =>
      skip
      pure acc.toList
    | _ => fail "while parsing a block mapping" open_ "did not find expected key" t.start

/-- Reads the value of a block mapping entry. -/
def blockValue : Nat → Read Node
  | 0 => throw (.failure "document nesting exceeds its length")
  | fuel + 1 => do
    let t ← peek
    if t.kind == .value then
      skip
      let next ← peek
      if next.isOneOf [.key, .value, .blockEnd] then pure (emptyScalar t.stop)
      else node true true fuel
    else pure (emptyScalar t.start)

/-- Reads the entries of a flow sequence up to `]`, separated by `,`. -/
def flowSequence (open_ : Mark) (first : Bool) : Nat → Array Node → Read (List Node)
  | 0, _ => throw (.failure "document nesting exceeds its length")
  | fuel + 1, acc => do
    let t ← peek
    if t.kind == .flowSequenceEnd then
      skip
      return acc.toList
    let t ← if first then pure t
      else if t.kind == .flowEntry then do skip; peek
      else fail "while parsing a flow sequence" open_ "did not find expected ',' or ']'" t.start
    match t.kind with
    | .key =>
      skip
      let pair ← flowPair t.start fuel
      flowSequence open_ false fuel (acc.push pair)
    | .flowSequenceEnd =>
      skip
      pure acc.toList
    | _ =>
      let item ← node false false fuel
      flowSequence open_ false fuel (acc.push item)

/-- Reads a pair written as an entry of a flow sequence: a mapping of one entry. -/
def flowPair (start : Mark) : Nat → Read Node
  | 0 => throw (.failure "document nesting exceeds its length")
  | fuel + 1 => do
    let t ← peek
    let key ← if t.isOneOf [.value, .flowEntry, .flowSequenceEnd] then do
        skip
        pure (emptyScalar t.stop)
      else node false false fuel
    let t ← peek
    let value ← if t.kind == .value then do
        skip
        let next ← peek
        if next.isOneOf [.flowEntry, .flowSequenceEnd] then pure (emptyScalar t.start)
        else node false false fuel
      else pure (emptyScalar t.start)
    pure (.mapping "!!map" [(key, value)] (start.line + 1))

/-- Reads the entries of a flow mapping up to `}`, separated by `,`; an entry without `:` has a
missing value. -/
def flowMapping (open_ : Mark) (first : Bool) : Nat → Array (Node × Node) → Read (List (Node × Node))
  | 0, _ => throw (.failure "document nesting exceeds its length")
  | fuel + 1, acc => do
    let t ← peek
    if t.kind == .flowMappingEnd then
      skip
      return acc.toList
    let t ← if first then pure t
      else if t.kind == .flowEntry then do skip; peek
      else fail "while parsing a flow mapping" open_ "did not find expected ',' or '\x7d'" t.start
    match t.kind with
    | .key =>
      skip
      let next ← peek
      let key ← if next.isOneOf [.value, .flowEntry, .flowMappingEnd] then pure (emptyScalar next.start)
        else node false false fuel
      let value ← flowValue fuel
      flowMapping open_ false fuel (acc.push (key, value))
    | .flowMappingEnd =>
      skip
      pure acc.toList
    | _ =>
      let key ← node false false fuel
      let after ← peek
      flowMapping open_ false fuel (acc.push (key, emptyScalar after.start))

/-- Reads the value of a flow mapping entry after its key. -/
def flowValue : Nat → Read Node
  | 0 => throw (.failure "document nesting exceeds its length")
  | fuel + 1 => do
    let t ← peek
    if t.kind == .value then
      skip
      let next ← peek
      if next.isOneOf [.flowEntry, .flowMappingEnd] then pure (emptyScalar next.start)
      else node false false fuel
    else pure (emptyScalar t.start)

end

/-- Reads the directives in front of a document: at most one `%YAML 1.1`, and `%TAG` handles
each defined once; the default handles are added after them. -/
def directives : Nat → List (String × String) → Bool → Read Unit
  | 0, _, _ => pure ()
  | fuel + 1, handles, versioned => do
    let t ← peek
    match t.kind with
    | .versionDirective major minor =>
      if versioned then fail "" default "found duplicate %YAML directive" t.start
      if major != 1 || minor != 1 then fail "" default "found incompatible YAML document" t.start
      skip
      directives fuel handles true
    | .tagDirective handle pre =>
      if (handles.lookup handle).isSome then fail "" default "found duplicate %TAG directive" t.start
      skip
      directives fuel (handles ++ [(handle, pre)]) versioned
    | _ =>
      let extra := defaultHandles.filter fun (h, _) => (handles.lookup h).isNone
      modify fun r => { r with handles := handles ++ extra }

/-- Reads the first document of the stream: `none` when the stream holds no document. -/
def document : Read (Option Node) := do
  let fuel := (← get).scanner.input.size * 8 + 64
  skip
  let t ← peek
  if t.kind == .streamEnd then return none
  let root ← if !t.isOneOf [.versionDirective 0 0, .tagDirective "" "", .documentStart] then do
      directives fuel [] false
      node true false fuel
    else do
      directives fuel [] false
      let t ← peek
      if t.kind != .documentStart then fail "" default "did not find expected <document start>" t.start
      skip
      let t ← peek
      if t.isOneOf [.versionDirective 0 0, .tagDirective "" "", .documentStart, .documentEnd, .streamEnd] then
        pure (emptyScalar t.start)
      else node true false fuel
  let t ← peek
  if t.kind == .documentEnd then skip
  pure (some root)

end Read

/-- Reads the first document of a text; an empty text reads as a single line break. A text with
no document gives `none`. -/
def Document.read? (text : String) : Except Fault (Option Document) :=
  let text := if text.isEmpty then "\n" else text
  match Read.document.run ⟨Scanner.start text, [], [], #[]⟩ with
  | .ok (some root, r) => .ok (some ⟨root, r.anchored⟩)
  | .ok (none, _) => .ok none
  | .error e => .error e

end ViewEngine.Yaml
