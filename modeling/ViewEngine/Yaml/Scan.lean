import ViewEngine.Yaml.Token
import ViewEngine.Text.Utf8

/-!
Scanning YAML text into tokens. Block structure comes from indentation: a deeper column opens a
block sequence or mapping, a shallower one closes it. A scalar that is followed on its line by `:`
was a simple key, so a KEY token (and, where it opens a mapping, a BLOCK-MAPPING-START token) is
put in front of it after the fact. Tokens are fetched on demand, a few ahead of the reader.
-/

namespace ViewEngine.Yaml

/-- A place where a simple key may start: whether it is still possible, whether it is required
(at the indentation of a block), the number of its first token and where it starts. -/
structure SimpleKey where
  possible : Bool
  required : Bool
  tokenNumber : Nat
  mark : Mark
  deriving Inhabited

/-- The scanner: the text, the position, the tokens fetched so far (all of them, by absolute
number), how many the reader has taken, and the block and flow structure around the position. -/
structure Scanner where
  input : Array Char
  mark : Mark
  tokens : Array Token
  taken : Nat
  started : Bool
  flowLevel : Nat
  indent : Int
  indents : List Int
  simpleKeyAllowed : Bool
  simpleKeys : Array SimpleKey
  /-- The simple keys by the number of their first token: the place in the key stack. -/
  keysByToken : List (Nat × Nat)
  /-- A character of the text that YAML does not allow, found before scanning. -/
  fault : Option Problem

/-- Scanning steps. -/
abbrev Scan := StateT Scanner (Except Problem)

/-- The characters that the text may hold: tab, line feed, carriage return, and the printable
ranges of Unicode. -/
def allowedChar (c : Char) : Bool :=
  let n := c.toNat
  n == 0x09 || n == 0x0A || n == 0x0D || (0x20 ≤ n && n ≤ 0x7E) || n == 0x85 ||
    (0xA0 ≤ n && n ≤ 0xD7FF) || (0xE000 ≤ n && n ≤ 0xFFFD) || (0x10000 ≤ n && n ≤ 0x10FFFF)

/-- A scanner at the start of a text; a byte order mark in front is not part of the text. -/
def Scanner.start (text : String) : Scanner :=
  let chars := match text.toList with
    | '\uFEFF' :: rest => rest.toArray
    | all => all.toArray
  let fault := if chars.all allowedChar then none
    else some ⟨.reader, "", ⟨0, 0, 0⟩, "control characters are not allowed", ⟨0, 0, 0⟩⟩
  ⟨chars, ⟨0, 0, 0⟩, #[], 0, false, 0, -1, [], false, #[], [], fault⟩

/-- The end of the text, as the scanner sees it. -/
def endChar : Char := '\x00'

/-- A space or a tab. -/
def isBlank (c : Char) : Bool := c == ' ' || c == '\t'

/-- A line break: CR, LF, NEL, LS or PS. -/
def isBreak (c : Char) : Bool :=
  c == '\r' || c == '\n' || c == '\u0085' || c == '\u2028' || c == '\u2029'

/-- A line break or the end of the text. -/
def isBreakz (c : Char) : Bool := isBreak c || c == endChar

/-- A blank, a line break or the end of the text. -/
def isBlankz (c : Char) : Bool := isBlank c || isBreakz c

/-- A character of anchor names and tag handles: ASCII letters and digits, `_` and `-`. -/
def isWordChar (c : Char) : Bool :=
  ('0' ≤ c && c ≤ '9') || ('A' ≤ c && c ≤ 'Z') || ('a' ≤ c && c ≤ 'z') || c == '_' || c == '-'

/-- A hexadecimal digit. -/
def isHexDigit (c : Char) : Bool :=
  ('0' ≤ c && c ≤ '9') || ('A' ≤ c && c ≤ 'F') || ('a' ≤ c && c ≤ 'f')

/-- The value of a hexadecimal digit. -/
def hexValue (c : Char) : Nat :=
  if c ≤ '9' then c.toNat - 48 else if c ≤ 'F' then c.toNat - 55 else c.toNat - 87

namespace Scan

/-- The character `k` places ahead. -/
def charAt (k : Nat) : Scan Char := do
  let s ← get
  pure (s.input.getD (s.mark.index + k) endChar)

/-- The character at the position. -/
def current : Scan Char := charAt 0

/-- The position. -/
def mark : Scan Mark := do pure (← get).mark

/-- More steps than characters are left: a bound for loops that take a character each time. -/
def fuel : Scan Nat := do
  let s ← get
  pure (s.input.size - s.mark.index + 2)

/-- Moves past one character on its line. -/
def skip : Scan Unit :=
  modify fun s => { s with mark := { s.mark with index := s.mark.index + 1, column := s.mark.column + 1 } }

/-- Moves past a line break (CR LF counting as one). -/
def skipLine : Scan Unit := do
  let c ← current
  let d ← charAt 1
  if c == '\r' && d == '\n' then
    modify fun s => { s with mark := ⟨s.mark.index + 2, s.mark.line + 1, 0⟩ }
  else if isBreak c then
    modify fun s => { s with mark := ⟨s.mark.index + 1, s.mark.line + 1, 0⟩ }

/-- Copies the character at the position and moves past it. -/
def read (acc : String) : Scan String := do
  let c ← current
  skip
  pure (acc.push c)

/-- Copies a line break, as LF unless it is LS or PS, and moves past it. -/
def readLine (acc : String) : Scan String := do
  let c ← current
  if c == '\u2028' || c == '\u2029' then
    skipLine
    pure (acc.push c)
  else if isBreak c then
    skipLine
    pure (acc.push '\n')
  else pure acc

/-- Stops with a scanner problem at the position. -/
def fail {α : Type} (context : String) (contextMark : Mark) (problem : String) : Scan α := do
  throw ⟨.scanner, context, contextMark, problem, (← get).mark⟩

/-- Moves past characters while a test holds. -/
def skipWhile (p : Scanner → Char → Bool) : Nat → Scan Unit
  | 0 => pure ()
  | n + 1 => do
    let c ← current
    if c != endChar && p (← get) c then
      skip
      skipWhile p n
    else pure ()

/-- Copies characters while a test holds. -/
def readWhile (p : Char → Bool) : Nat → String → Scan String
  | 0, acc => pure acc
  | n + 1, acc => do
    let c ← current
    if c != endChar && p c then readWhile p n (← read acc) else pure acc

/-- Appends a token. -/
def append (t : Token) : Scan Unit := modify fun s => { s with tokens := s.tokens.push t }

/-- Puts a token at an absolute place among those fetched. -/
def insertAt (place : Nat) (t : Token) : Scan Unit :=
  modify fun s => { s with tokens := s.tokens.insertIdxIfInBounds place t }

/-- The simple key of the innermost flow level. -/
def topKey : Scan SimpleKey := do pure ((← get).simpleKeys.back?.getD default)

/-- Replaces the simple key of the innermost flow level. -/
def setTopKey (k : SimpleKey) : Scan Unit :=
  modify fun s => { s with simpleKeys := s.simpleKeys.modify (s.simpleKeys.size - 1) (fun _ => k) }

/-- Forgets the simple key recorded for a token number. -/
def forgetToken (n : Nat) : Scan Unit :=
  modify fun s => { s with keysByToken := s.keysByToken.filter (·.1 != n) }

/-- Drops the possible simple key of the innermost level; a required one is a problem. -/
def removeSimpleKey : Scan Unit := do
  let k ← topKey
  if k.possible then
    if k.required then fail "while scanning a simple key" k.mark "could not find expected ':'"
    setTopKey { k with possible := false }
    forgetToken k.tokenNumber

/-- Records that a simple key may start here, if one may. -/
def saveSimpleKey : Scan Unit := do
  let s ← get
  let required := s.flowLevel == 0 && s.indent == (s.mark.column : Int)
  if s.simpleKeyAllowed then
    let key : SimpleKey := ⟨true, required, s.tokens.size, s.mark⟩
    removeSimpleKey
    setTopKey key
    modify fun s => { s with keysByToken :=
      (key.tokenNumber, s.simpleKeys.size - 1) :: s.keysByToken.filter (·.1 != key.tokenNumber) }

/-- Whether the simple key at a place of the stack is still possible: on the line where it
started and within 1024 characters. One that is no longer possible is dropped, and a problem if
it was required. -/
def keyIsValid (i : Nat) : Scan Bool := do
  let s ← get
  let k := s.simpleKeys.getD i default
  if !k.possible then return false
  if k.mark.line < s.mark.line || k.mark.index + 1024 < s.mark.index then
    if k.required then fail "while scanning a simple key" k.mark "could not find expected ':'"
    modify fun s => { s with simpleKeys := s.simpleKeys.modify i (fun k => { k with possible := false }) }
    return false
  return true

/-- Enters a flow collection. -/
def increaseFlowLevel : Scan Unit := do
  modify fun s => { s with simpleKeys := s.simpleKeys.push ⟨false, false, 0, s.mark⟩,
                           flowLevel := s.flowLevel + 1 }
  if (← get).flowLevel > 10000 then
    fail "while increasing flow level" (← topKey).mark "exceeded max depth of 10000"

/-- Leaves a flow collection. -/
def decreaseFlowLevel : Scan Unit := do
  let s ← get
  if s.flowLevel > 0 then
    let k := s.simpleKeys.back?.getD default
    set { s with flowLevel := s.flowLevel - 1, simpleKeys := s.simpleKeys.pop,
                 keysByToken := s.keysByToken.filter (·.1 != k.tokenNumber) }

/-- Opens a block at a deeper column with a start token, appended or put at a token number. -/
def rollIndent (column : Nat) (number : Option Nat) (kind : TokenKind) (m : Mark) : Scan Unit := do
  let s ← get
  if s.flowLevel == 0 && s.indent < (column : Int) then
    set { s with indents := s.indent :: s.indents, indent := column }
    if s.indents.length + 1 > 10000 then
      fail "while increasing indent level" (← topKey).mark "exceeded max depth of 10000"
    let t : Token := ⟨kind, m, m⟩
    match number with
    | none => append t
    | some n => insertAt n t

/-- Closes the blocks deeper than a column, with a BLOCK-END token each. -/
def unrollIndent (column : Int) (scanMark : Mark) : Nat → Scan Unit
  | 0 => pure ()
  | n + 1 => do
    let s ← get
    if s.flowLevel == 0 && s.indent > column then
      let blockMark := { scanMark with index := scanMark.index - 1 }
      append ⟨.blockEnd, blockMark, blockMark⟩
      modify fun s => match s.indents with
        | i :: rest => { s with indent := i, indents := rest }
        | [] => { s with indent := -1 }
      unrollIndent column scanMark n

/-- Moves past blanks, comments and line breaks to the next token. Tabs count as blanks only in
flow collections or where no simple key may start. -/
def scanToNextToken : Nat → Scan Unit
  | 0 => pure ()
  | n + 1 => do
    if (← get).mark.column == 0 && (← current) == '\uFEFF' then skip
    skipWhile (fun s c => c == ' ' || ((s.flowLevel > 0 || !s.simpleKeyAllowed) && c == '\t')) (← fuel)
    if (← current) == '#' then skipWhile (fun _ c => !isBreakz c) (← fuel)
    if isBreak (← current) then
      skipLine
      if (← get).flowLevel == 0 then modify fun s => { s with simpleKeyAllowed := true }
      scanToNextToken n

/-- Moves past a comment that ends the line after a token, with the blanks before it. -/
def skipLineComment : Scan Unit := do
  let s ← get
  let rest := (s.input.extract s.mark.index (s.mark.index + 512)).toList
  let blanks := rest.takeWhile isBlank
  if (rest.drop blanks.length).head? == some '#' then
    skipWhile (fun _ c => !isBreakz c) (← fuel)

/-- Fetches STREAM-START. -/
def fetchStreamStart : Scan Unit := do
  modify fun s => { s with indent := -1, simpleKeys := s.simpleKeys.push default,
                           simpleKeyAllowed := true, started := true }
  let m ← mark
  append ⟨.streamStart, m, m⟩

/-- Fetches STREAM-END, closing all blocks; the end counts as a new line. -/
def fetchStreamEnd : Scan Unit := do
  modify fun s => if s.mark.column != 0 then { s with mark := ⟨s.mark.index, s.mark.line + 1, 0⟩ } else s
  unrollIndent (-1) (← mark) ((← get).indents.length + 1)
  removeSimpleKey
  modify fun s => { s with simpleKeyAllowed := false }
  let m ← mark
  append ⟨.streamEnd, m, m⟩

/-- Reads a number of a version directive: one or two digits. -/
def versionNumber (start : Mark) : Scan Nat := do
  let digits ← readWhile Char.isDigit 3 ""
  if digits.length > 2 then fail "while scanning a %YAML directive" start "found extremely long version number"
  if digits.isEmpty then fail "while scanning a %YAML directive" start "did not find expected version number"
  pure digits.toNat!

/-- The context of a problem inside a tag or a tag directive. -/
def tagContext (directive : Bool) : String :=
  if directive then "while parsing a %TAG directive" else "while parsing a tag"

/-- Reads a tag handle: `!`, `!!` or `!word!`; outside a directive a lone `!word` is returned as
it is, to be read on as part of a tag. -/
def tagHandle (directive : Bool) (start : Mark) : Scan String := do
  if (← current) != '!' then fail (tagContext directive) start "did not find expected '!'"
  let s ← read ""
  let s ← readWhile isWordChar (← fuel) s
  if (← current) == '!' then read s
  else if directive && s != "!" then fail (tagContext directive) start "did not find expected '!'"
  else pure s

/-- The length of a UTF-8 sequence from its first byte; zero for a byte that starts none. -/
def utf8Width (b : Nat) : Nat :=
  if b < 0x80 then 1 else if b &&& 0xE0 == 0xC0 then 2 else if b &&& 0xF0 == 0xE0 then 3
  else if b &&& 0xF8 == 0xF0 then 4 else 0

/-- Reads `%XX` escapes making up one UTF-8 sequence. -/
def uriEscapes (directive : Bool) (start : Mark) : Nat → Nat → List UInt8 → Scan (List UInt8)
  | 0, _, acc => pure acc
  | fuel + 1, left, acc => do
    let c0 ← current
    let c1 ← charAt 1
    let c2 ← charAt 2
    if !(c0 == '%' && isHexDigit c1 && isHexDigit c2) then
      fail (tagContext directive) start "did not find URI escaped octet"
    let octet := hexValue c1 * 16 + hexValue c2
    let left ← if acc.isEmpty then
        let w := utf8Width octet
        if w == 0 then fail (tagContext directive) start "found an incorrect leading UTF-8 octet"
        pure w
      else if octet &&& 0xC0 != 0x80 then
        fail (tagContext directive) start "found an incorrect trailing UTF-8 octet"
      else pure left
    skip; skip; skip
    let acc := acc ++ [octet.toUInt8]
    if left ≤ 1 then pure acc else uriEscapes directive start fuel (left - 1) acc

/-- Whether a character may appear in a tag URI (and, inside `!<…>`, also `,`, `[` and `]`). -/
def isUriChar (verbatim : Bool) (c : Char) : Bool :=
  isWordChar c || ";/?:@&=+$.%!~*'()".contains c || (verbatim && (c == ',' || c == '[' || c == ']'))

/-- Reads the characters of a tag URI after a head (whose `!` is dropped). -/
def tagUriChars (verbatim directive : Bool) (start : Mark) : Nat → String → Bool → Scan (String × Bool)
  | 0, s, found => pure (s, found)
  | n + 1, s, found => do
    let c ← current
    if !isUriChar verbatim c then pure (s, found)
    else if c == '%' then
      let bytes ← uriEscapes directive start 4 0 []
      tagUriChars verbatim directive start n (s ++ Text.ofUtf8Lossy bytes) true
    else tagUriChars verbatim directive start n (← read s) true

/-- Reads a tag URI; it may not be empty. -/
def tagUri (verbatim directive : Bool) (head : String) (start : Mark) : Scan String := do
  let (s, found) ← tagUriChars verbatim directive start (← fuel) (String.ofList (head.toList.drop 1)) (!head.isEmpty)
  if !found then fail (tagContext directive) start "did not find expected tag URI"
  pure s

/-- Moves past the rest of a directive's line: blanks, a comment, the line break. -/
def directiveLineEnd (start : Mark) : Scan Unit := do
  skipWhile (fun _ c => isBlank c) (← fuel)
  if (← current) == '#' then skipWhile (fun _ c => !isBreakz c) (← fuel)
  if !isBreakz (← current) then
    fail "while scanning a directive" start "did not find expected comment or line break"
  if isBreak (← current) then skipLine

/-- Scans a `%YAML` or `%TAG` directive. -/
def scanDirective : Scan Token := do
  let start ← mark
  skip
  let name ← readWhile isWordChar (← fuel) ""
  if name.isEmpty then fail "while scanning a directive" start "could not find expected directive name"
  if !isBlankz (← current) then
    fail "while scanning a directive" start "found unexpected non-alphabetical character"
  let kind ← if name == "YAML" then do
      skipWhile (fun _ c => isBlank c) (← fuel)
      let major ← versionNumber start
      if (← current) != '.' then
        fail "while scanning a %YAML directive" start "did not find expected digit or '.' character"
      skip
      let minor ← versionNumber start
      pure (TokenKind.versionDirective major minor)
    else if name == "TAG" then do
      skipWhile (fun _ c => isBlank c) (← fuel)
      let handle ← tagHandle true start
      if !isBlank (← current) then fail "while scanning a %TAG directive" start "did not find expected whitespace"
      skipWhile (fun _ c => isBlank c) (← fuel)
      let pref ← tagUri true true "" start
      if !isBlankz (← current) then
        fail "while scanning a %TAG directive" start "did not find expected whitespace or line break"
      pure (TokenKind.tagDirective handle pref)
    else fail "while scanning a directive" start "found unknown directive name"
  let stop ← mark
  directiveLineEnd start
  pure ⟨kind, start, stop⟩

/-- Fetches a directive token. -/
def fetchDirective : Scan Unit := do
  unrollIndent (-1) (← mark) ((← get).indents.length + 1)
  removeSimpleKey
  modify fun s => { s with simpleKeyAllowed := false }
  append (← scanDirective)

/-- Fetches `---` or `...`. -/
def fetchDocumentIndicator (kind : TokenKind) : Scan Unit := do
  unrollIndent (-1) (← mark) ((← get).indents.length + 1)
  removeSimpleKey
  modify fun s => { s with simpleKeyAllowed := false }
  let start ← mark
  skip; skip; skip
  append ⟨kind, start, ← mark⟩

/-- Consumes a one-character indicator as a token. -/
def indicator (kind : TokenKind) : Scan Unit := do
  let start ← mark
  skip
  append ⟨kind, start, ← mark⟩

/-- Fetches `[` or `{`. -/
def fetchFlowCollectionStart (kind : TokenKind) : Scan Unit := do
  saveSimpleKey
  increaseFlowLevel
  modify fun s => { s with simpleKeyAllowed := true }
  indicator kind

/-- Fetches `]` or `}`. -/
def fetchFlowCollectionEnd (kind : TokenKind) : Scan Unit := do
  removeSimpleKey
  decreaseFlowLevel
  modify fun s => { s with simpleKeyAllowed := false }
  indicator kind

/-- Fetches `,`. -/
def fetchFlowEntry : Scan Unit := do
  removeSimpleKey
  modify fun s => { s with simpleKeyAllowed := true }
  indicator .flowEntry

/-- Fetches `-` of a block sequence entry. -/
def fetchBlockEntry : Scan Unit := do
  let s ← get
  if s.flowLevel == 0 then
    if !s.simpleKeyAllowed then fail "" s.mark "block sequence entries are not allowed in this context"
    rollIndent s.mark.column none .blockSequenceStart s.mark
  removeSimpleKey
  modify fun s => { s with simpleKeyAllowed := true }
  indicator .blockEntry

/-- Fetches `?` of a complex key. -/
def fetchKey : Scan Unit := do
  let s ← get
  if s.flowLevel == 0 then
    if !s.simpleKeyAllowed then fail "" s.mark "mapping keys are not allowed in this context"
    rollIndent s.mark.column none .blockMappingStart s.mark
  removeSimpleKey
  modify fun s => { s with simpleKeyAllowed := s.flowLevel == 0 }
  indicator .key

/-- Fetches `:`. After a simple key, the KEY token (and a BLOCK-MAPPING-START where a mapping
opens) goes in front of the key's first token. -/
def fetchValue : Scan Unit := do
  let s ← get
  let top := s.simpleKeys.size - 1
  if ← keyIsValid top then
    let k ← topKey
    insertAt k.tokenNumber ⟨.key, k.mark, k.mark⟩
    rollIndent k.mark.column (some k.tokenNumber) .blockMappingStart k.mark
    setTopKey { k with possible := false }
    forgetToken k.tokenNumber
    modify fun s => { s with simpleKeyAllowed := false }
  else
    let s ← get
    if s.flowLevel == 0 then
      if !s.simpleKeyAllowed then fail "" s.mark "mapping values are not allowed in this context"
      rollIndent s.mark.column none .blockMappingStart s.mark
    modify fun s => { s with simpleKeyAllowed := s.flowLevel == 0 }
  indicator .value

/-- Fetches an anchor `&name` or an alias `*name`. -/
def fetchAnchor (isAlias : Bool) : Scan Unit := do
  saveSimpleKey
  modify fun s => { s with simpleKeyAllowed := false }
  let start ← mark
  skip
  let name ← readWhile isWordChar (← fuel) ""
  let stop ← mark
  let c ← current
  if name.isEmpty || !(isBlankz c || "?:,]\x7d%@`".contains c) then
    fail (if isAlias then "while scanning an alias" else "while scanning an anchor") start
      "did not find expected alphabetic or numeric character"
  append ⟨if isAlias then .alias name else .anchor name, start, stop⟩

/-- Fetches a tag: `!<uri>`, `!handle!suffix`, `!suffix` or `!`. -/
def fetchTag : Scan Unit := do
  saveSimpleKey
  modify fun s => { s with simpleKeyAllowed := false }
  let start ← mark
  let (handle, suffix) ← if (← charAt 1) == '<' then do
      skip; skip
      let suffix ← tagUri true false "" start
      if (← current) != '>' then fail "while scanning a tag" start "did not find the expected '>'"
      skip
      pure ("", suffix)
    else do
      let handle ← tagHandle false start
      if handle.length > 1 && handle.startsWith "!" && handle.endsWith "!" then
        pure (handle, ← tagUri false false "" start)
      else
        let suffix ← tagUri false false handle start
        if suffix.isEmpty then pure ("", "!") else pure ("!", suffix)
  let c ← current
  if !isBlankz c && !((← get).flowLevel > 0 && c == ',') then
    fail "while scanning a tag" start "did not find expected whitespace or line break"
  append ⟨.tag handle suffix, start, ← mark⟩

/-- Joins the blanks and line breaks between two parts of a flow or plain scalar: a single line
break folds into a space, more line breaks keep all but the first. -/
def joinBreaks (s leadingBreak trailingBreaks : String) : String :=
  if leadingBreak.startsWith "\n" then
    if trailingBreaks.isEmpty then s.push ' ' else s ++ trailingBreaks
  else s ++ leadingBreak ++ trailingBreaks

/-- The text of an escape code point, when it is a Unicode scalar value. -/
def escapedChar? (n : Nat) : Option Char :=
  if (0xD800 ≤ n && n ≤ 0xDFFF) || n > 0x10FFFF then none else some (Char.ofNat n)

/-- Reads `k` hexadecimal digits of an escape. -/
def hexDigits (start : Mark) : Nat → Nat → Scan Nat
  | 0, acc => pure acc
  | k + 1, acc => do
    let c ← current
    if !isHexDigit c then
      fail "while parsing a quoted scalar" start "did not find expected hexdecimal number"
    skip
    hexDigits start k (acc * 16 + hexValue c)

/-- The single-character escapes of double-quoted scalars. -/
def simpleEscape (c : Char) : Option String :=
  match c with
  | '0' => some "\x00" | 'a' => some "\x07" | 'b' => some "\x08" | 't' => some "\t" | '\t' => some "\t"
  | 'n' => some "\n" | 'v' => some "\x0b" | 'f' => some "\x0c" | 'r' => some "\r" | 'e' => some "\x1b"
  | ' ' => some " " | '"' => some "\"" | '\'' => some "'" | '\\' => some "\\"
  | 'N' => some "\u0085" | '_' => some "\u00A0" | 'L' => some "\u2028" | 'P' => some "\u2029"
  | _ => none

/-- Reads the non-blank characters of a quoted scalar's line; tells whether an escaped line break
ended it. -/
def quotedChars (single : Bool) (start : Mark) : Nat → String → Scan (String × Bool)
  | 0, s => pure (s, false)
  | n + 1, s => do
    let c ← current
    let d ← charAt 1
    if isBlankz c then pure (s, false)
    else if single && c == '\'' && d == '\'' then
      skip; skip
      quotedChars single start n (s.push '\'')
    else if single && c == '\'' then pure (s, false)
    else if !single && c == '"' then pure (s, false)
    else if !single && c == '\\' && isBreak d then
      skip
      skipLine
      pure (s, true)
    else if !single && c == '\\' then
      let codeLength := if d == 'x' then 2 else if d == 'u' then 4 else if d == 'U' then 8 else 0
      if codeLength > 0 then
        skip; skip
        let v ← hexDigits start codeLength 0
        match escapedChar? v with
        | some ch => quotedChars single start n (s.push ch)
        | none => fail "while parsing a quoted scalar" start "found invalid Unicode character escape code"
      else
        match simpleEscape d with
        | some t =>
          skip; skip
          quotedChars single start n (s ++ t)
        | none => fail "while parsing a quoted scalar" start "found unknown escape character"
    else quotedChars single start n (← read s)

/-- Reads blanks and line breaks inside a flow or plain scalar: the blanks before a first break
are kept in `whitespaces`, the first break in `leading`, later ones in `trailing`. -/
def scalarBlanks (checkTab : Option (Nat × Mark)) : Nat → Bool → String → String → String →
    Scan (Bool × String × String × String)
  | 0, lb, ws, lead, trail => pure (lb, ws, lead, trail)
  | n + 1, lb, ws, lead, trail => do
    let c ← current
    if isBlank c then
      if let some (indent, start) := checkTab then
        if lb && (← get).mark.column < indent && c == '\t' then
          fail "while scanning a plain scalar" start "found a tab character that violates indentation"
      if !lb then scalarBlanks checkTab n lb (← read ws) lead trail
      else
        skip
        scalarBlanks checkTab n lb ws lead trail
    else if isBreak c then
      if !lb then scalarBlanks checkTab n true "" (← readLine "") trail
      else scalarBlanks checkTab n lb ws lead (← readLine trail)
    else pure (lb, ws, lead, trail)

/-- Whether the position starts a document marker `---` or `...` at the start of a line. -/
def atDocumentMarker : Scan Bool := do
  let s ← get
  let c0 ← charAt 0
  let c1 ← charAt 1
  let c2 ← charAt 2
  let c3 ← charAt 3
  pure (s.mark.column == 0 && ((c0 == '-' && c1 == '-' && c2 == '-') || (c0 == '.' && c1 == '.' && c2 == '.')) &&
    isBlankz c3)

/-- Reads the lines of a quoted scalar up to its closing quote. -/
def quotedLines (single : Bool) (start : Mark) : Nat → String → Scan String
  | 0, s => pure s
  | n + 1, s => do
    if ← atDocumentMarker then
      fail "while scanning a quoted scalar" start "found unexpected document indicator"
    if (← current) == endChar then
      fail "while scanning a quoted scalar" start "found unexpected end of stream"
    let (s, escapedBreak) ← quotedChars single start (← fuel) s
    let c ← current
    if (single && c == '\'') || (!single && c == '"') then pure s
    else
      let (lb, ws, lead, trail) ← scalarBlanks none (← fuel) escapedBreak "" "" ""
      let s := if lb then joinBreaks s lead trail else s ++ ws
      quotedLines single start n s

/-- Fetches a single- or double-quoted scalar. -/
def fetchFlowScalar (single : Bool) : Scan Unit := do
  saveSimpleKey
  modify fun s => { s with simpleKeyAllowed := false }
  let start ← mark
  skip
  let text ← quotedLines single start (← fuel) ""
  skip
  append ⟨.scalar text (if single then .singleQuoted else .doubleQuoted), start, ← mark⟩

/-- Whether a character ends a plain scalar here: `: ` anywhere, and in flow collections also
`,`, `?` and brackets. -/
def endsPlain (flow : Bool) (c d : Char) : Bool :=
  (c == ':' && isBlankz d) || (flow && (c == ',' || c == '?' || c == '[' || c == ']' || c == '{' || c == '}'))

/-- Reads the non-blank characters of a plain scalar's line, joining what came before. -/
def plainChars (flow : Bool) : Nat → String → Bool → String → String → String → Mark →
    Scan (String × Bool × String × String × String × Mark)
  | 0, s, lb, ws, lead, trail, stop => pure (s, lb, ws, lead, trail, stop)
  | n + 1, s, lb, ws, lead, trail, stop => do
    let c ← current
    let d ← charAt 1
    if isBlankz c || endsPlain flow c d then pure (s, lb, ws, lead, trail, stop)
    else
      let s := if lb then joinBreaks s lead trail else if !ws.isEmpty then s ++ ws else s
      let s ← read s
      plainChars flow n s false "" "" "" (← mark)

/-- Reads the lines of a plain scalar. -/
def plainLines (indent : Nat) (start : Mark) : Nat → String → Bool → String → String → String → Mark →
    Scan (String × Bool × Mark)
  | 0, s, lb, _, _, _, stop => pure (s, lb, stop)
  | n + 1, s, lb, ws, lead, trail, stop => do
    if ← atDocumentMarker then return (s, lb, stop)
    if (← current) == '#' then return (s, lb, stop)
    let flow := (← get).flowLevel > 0
    let (s, lb, ws, lead, trail, stop) ← plainChars flow (← fuel) s lb ws lead trail stop
    let c ← current
    if !(isBlank c || isBreak c) then return (s, lb, stop)
    let (lb, ws, lead, trail) ← scalarBlanks (some (indent, start)) (← fuel) lb ws lead trail
    if !flow && (← get).mark.column < indent then return (s, lb, stop)
    plainLines indent start n s lb ws lead trail stop

/-- Fetches a plain scalar; it ends at `: `, at ` #`, at a shallower line in a block, and in
flow collections at flow indicators. -/
def fetchPlainScalar : Scan Unit := do
  saveSimpleKey
  modify fun s => { s with simpleKeyAllowed := false }
  let s ← get
  let indent := (s.indent + 1).toNat
  let start ← mark
  let (text, leadingBlanks, stop) ← plainLines indent start (← fuel) "" false "" "" "" start
  append ⟨.scalar text .plain, start, stop⟩
  if leadingBlanks then modify fun s => { s with simpleKeyAllowed := true }

/-- Reads the indentation and empty lines before a line of a block scalar, fixing the
indentation from the deepest of them when it is not yet known. -/
def blockBreaks (start : Mark) (indent : Nat) : Nat → String → Nat → Mark → Scan (Nat × String × Mark)
  | 0, breaks, _, stop => pure (indent, breaks, stop)
  | n + 1, breaks, maxIndent, _ => do
    skipWhile (fun s c => (indent == 0 || s.mark.column < indent) && c == ' ') (← fuel)
    let s ← get
    let maxIndent := max maxIndent s.mark.column
    let c ← current
    if (indent == 0 || s.mark.column < indent) && c == '\t' then
      fail "while scanning a block scalar" start "found a tab character where an indentation space is expected"
    if !isBreak c then
      let indent := if indent == 0 then max (max maxIndent (s.indent + 1).toNat) 1 else indent
      return (indent, breaks, s.mark)
    let breaks ← readLine breaks
    blockBreaks start indent n breaks maxIndent (← mark)

/-- Reads the lines of a block scalar at its indentation. -/
def blockLines (literal : Bool) (start : Mark) : Nat → Nat → String → String → String → Bool → Mark →
    Scan (String × String × String × Mark)
  | 0, _, s, lead, trail, _, stop => pure (s, lead, trail, stop)
  | n + 1, indent, s, lead, trail, leadingBlank, stop => do
    if !((← get).mark.column == indent && (← current) != endChar) then
      return (s, lead, trail, stop)
    let trailingBlank := isBlank (← current)
    let s := if !literal && !leadingBlank && !trailingBlank && lead.startsWith "\n" then
        (if trail.isEmpty then s.push ' ' else s)
      else s ++ lead
    let s := s ++ trail
    let leadingBlank := isBlank (← current)
    let s ← readWhile (fun c => !isBreakz c) (← fuel) s
    let lead ← readLine ""
    let (indent, trail, stop) ← blockBreaks start indent (← fuel) "" 0 stop
    blockLines literal start n indent s lead trail leadingBlank stop

/-- Fetches a literal (`|`) or folded (`>`) block scalar with its chomping and indentation
indicators. -/
def fetchBlockScalar (literal : Bool) : Scan Unit := do
  removeSimpleKey
  modify fun s => { s with simpleKeyAllowed := true }
  let start ← mark
  skip
  let chompChar (c : Char) : Int := if c == '+' then 1 else -1
  let digit (c : Char) : Nat := c.toNat - 48
  let c ← current
  let (chomping, increment) ← if c == '+' || c == '-' then do
      skip
      let d ← current
      if d.isDigit then
        if d == '0' then fail "while scanning a block scalar" start "found an indentation indicator equal to 0"
        skip
        pure (chompChar c, digit d)
      else pure (chompChar c, 0)
    else if c.isDigit then do
      if c == '0' then fail "while scanning a block scalar" start "found an indentation indicator equal to 0"
      skip
      let d ← current
      if d == '+' || d == '-' then
        skip
        pure (chompChar d, digit c)
      else pure (0, digit c)
    else pure (0, 0)
  skipWhile (fun _ c => isBlank c) (← fuel)
  if (← current) == '#' then skipWhile (fun _ c => !isBreakz c) (← fuel)
  if !isBreakz (← current) then
    fail "while scanning a block scalar" start "did not find expected comment or line break"
  if isBreak (← current) then skipLine
  let s ← get
  let indent := if increment > 0 then (if s.indent ≥ 0 then s.indent.toNat + increment else increment) else 0
  let (indent, trail, stop) ← blockBreaks start indent (← fuel) "" 0 (← mark)
  let (text, lead, trail, stop) ← blockLines literal start (← fuel) indent "" "" trail false stop
  let text := if chomping != -1 then text ++ lead else text
  let text := if chomping == 1 then text ++ trail else text
  append ⟨.scalar text (if literal then .literal else .folded), start, stop⟩

/-- Whether a character may start a plain scalar, given the next one and the flow level. -/
def startsPlain (flow : Bool) (c d : Char) : Bool :=
  !(isBlankz c || "-?:,[]\x7b\x7d#&*!|>'\"%@`".contains c) || (c == '-' && !isBlank d) ||
    (!flow && (c == '?' || c == ':') && !isBlankz d)

/-- Fetches the token that an indicator or the start of a scalar begins. -/
def fetchIndicated : Scan Unit := do
  let c ← current
  let d ← charAt 1
  let flow := (← get).flowLevel > 0
  if c == '[' then fetchFlowCollectionStart .flowSequenceStart
  else if c == '{' then fetchFlowCollectionStart .flowMappingStart
  else if c == ']' then fetchFlowCollectionEnd .flowSequenceEnd
  else if c == '}' then fetchFlowCollectionEnd .flowMappingEnd
  else if c == ',' then fetchFlowEntry
  else if c == '-' && isBlankz d then fetchBlockEntry
  else if c == '?' && (flow || isBlankz d) then fetchKey
  else if c == ':' && (flow || isBlankz d) then fetchValue
  else if c == '*' then fetchAnchor true
  else if c == '&' then fetchAnchor false
  else if c == '!' then fetchTag
  else if c == '|' && !flow then fetchBlockScalar true
  else if c == '>' && !flow then fetchBlockScalar false
  else if c == '\'' then fetchFlowScalar true
  else if c == '"' then fetchFlowScalar false
  else if startsPlain flow c d then fetchPlainScalar
  else fail "while scanning for the next token" (← mark) "found character that cannot start any token"

/-- Fetches the next token (or several, when a simple key or block structure resolves). -/
def fetchNextToken : Scan Unit := do
  let s ← get
  if let some p := s.fault then throw p
  if !s.started then
    fetchStreamStart
    return
  let scanMark := s.mark
  scanToNextToken (← fuel)
  unrollIndent (← get).mark.column scanMark ((← get).indents.length + 1)
  let c ← current
  let column := (← get).mark.column
  if c == endChar then fetchStreamEnd
  else if column == 0 && c == '%' then fetchDirective
  else if column == 0 && c == '-' && (← charAt 1) == '-' && (← charAt 2) == '-' && isBlankz (← charAt 3) then
    fetchDocumentIndicator .documentStart
  else if column == 0 && c == '.' && (← charAt 1) == '.' && (← charAt 2) == '.' && isBlankz (← charAt 3) then
    fetchDocumentIndicator .documentEnd
  else
    fetchIndicated
    match (← get).tokens.back? with
    | some t => if !(t.kind == .blockEntry) then skipLineComment
    | none => skipLineComment

/-- Fetches tokens until at least three are ahead of the reader and the next one cannot still
turn out to start a simple key. -/
def fetchMoreTokens : Nat → Scan Unit
  | 0 => pure ()
  | n + 1 => do
    let s ← get
    let needMore ← if s.taken + 2 < s.tokens.size then
        match s.keysByToken.lookup s.taken with
        | none => pure false
        | some i => keyIsValid i
      else pure true
    if needMore then
      fetchNextToken
      fetchMoreTokens n

/-- The next token, fetched if need be. -/
def peekToken : Scan Token := do
  fetchMoreTokens ((← fuel) + 8)
  let s ← get
  pure (s.tokens.getD s.taken ⟨.streamEnd, s.mark, s.mark⟩)

/-- Takes the next token. -/
def skipToken : Scan Unit := modify fun s => { s with taken := s.taken + 1 }

end Scan

end ViewEngine.Yaml
