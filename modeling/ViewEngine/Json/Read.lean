import ViewEngine.Json.Basic

/-!
Reading JSON text. A syntax error names the first character that cannot continue the document and
what was expected there, or the end of input when the document stops early.
-/

namespace ViewEngine

namespace Json

/-- Why a text is not a JSON document. -/
inductive SyntaxError where
  /-- The text ends inside a value. -/
  | endOfInput
  /-- A character that cannot stand here; what was being read. -/
  | unexpected (c : Char) (context : String)
  deriving Repr, Inhabited

/-- A character as messages show it, between single quotes; a character beyond ASCII shows as its
lead byte, since the document is read byte by byte. -/
def quoteChar (c : Char) : String :=
  let c := Text.leadByte c
  if c == '\'' then "'\\''"
  else if c == '"' then "'\"'"
  else
    let q := (Text.quote (String.singleton c)).toList
    "'" ++ String.ofList ((q.drop 1).take (q.length - 2)) ++ "'"

/-- The message of a syntax error. -/
def SyntaxError.message : SyntaxError → String
  | .endOfInput => "unexpected end of JSON input"
  | .unexpected c context => "invalid character " ++ quoteChar c ++ " " ++ context

/-- Whether a character is JSON white space. -/
def isSpace (c : Char) : Bool := c == ' ' || c == '\t' || c == '\n' || c == '\r'

/-- Drops leading white space. -/
def skipSpace (cs : List Char) : List Char := cs.dropWhile isSpace

/-- A reading step: the rest of the input, or an error. -/
abbrev Parse (α : Type) := Except SyntaxError (α × List Char)

/-- The value of a hexadecimal digit. -/
def hexValue (c : Char) : Option Nat :=
  if '0' ≤ c && c ≤ '9' then some (c.toNat - 48)
  else if 'a' ≤ c && c ≤ 'f' then some (c.toNat - 87)
  else if 'A' ≤ c && c ≤ 'F' then some (c.toNat - 55)
  else none

/-- Reads four hexadecimal digits. -/
def readHex4 (cs : List Char) : Parse Nat :=
  let step (acc : Except SyntaxError (Nat × List Char)) (_ : Nat) : Except SyntaxError (Nat × List Char) :=
    match acc with
    | .error e => .error e
    | .ok (n, rest) =>
      match rest with
      | [] => .error .endOfInput
      | c :: more =>
        match hexValue c with
        | some d => .ok (n * 16 + d, more)
        | none => .error (.unexpected c "in \\u hexadecimal character escape")
  [0, 1, 2, 3].foldl step (.ok (0, cs))

/-- Whether a code unit is half of a surrogate pair. -/
def isSurrogate (n : Nat) : Bool := 0xD800 ≤ n && n < 0xE000

/-- Reads the body of a string after its opening quote, up to and including the closing quote. -/
def readString : Nat → List Char → List Char → Parse String
  | 0, _, _ => .error .endOfInput
  | _ + 1, [], _ => .error .endOfInput
  | fuel + 1, c :: rest, acc =>
    if c == '"' then .ok (String.ofList acc.reverse, rest)
    else if c.toNat < 0x20 then .error (.unexpected c "in string literal")
    else if c == '\\' then
      match rest with
      | [] => .error .endOfInput
      | e :: more =>
        match e with
        | '"' => readString fuel more ('"' :: acc)
        | '\\' => readString fuel more ('\\' :: acc)
        | '/' => readString fuel more ('/' :: acc)
        | 'b' => readString fuel more ('\x08' :: acc)
        | 'f' => readString fuel more ('\x0c' :: acc)
        | 'n' => readString fuel more ('\n' :: acc)
        | 'r' => readString fuel more ('\r' :: acc)
        | 't' => readString fuel more ('\t' :: acc)
        | 'u' =>
          match readHex4 more with
          | .error err => .error err
          | .ok (n, after) =>
            if isSurrogate n then
              -- A high surrogate followed by an escaped low one makes one character.
              match after with
              | '\\' :: 'u' :: more2 =>
                match readHex4 more2 with
                | .ok (m, after2) =>
                  if 0xD800 ≤ n && n < 0xDC00 && 0xDC00 ≤ m && m < 0xE000 then
                    readString fuel after2 (Char.ofNat (0x10000 + (n - 0xD800) * 0x400 + (m - 0xDC00)) :: acc)
                  else readString fuel after ('�' :: acc)
                | .error _ => readString fuel after ('�' :: acc)
              | _ => readString fuel after ('�' :: acc)
            else readString fuel after (Char.ofNat n :: acc)
        | other => .error (.unexpected other "in string escape code")
    else readString fuel rest (c :: acc)

/-- Reads the digits at the front. -/
def digits (cs : List Char) : List Char × List Char := (cs.takeWhile Char.isDigit, cs.dropWhile Char.isDigit)

/-- Reads a number literal. -/
def readNumber (cs : List Char) : Parse String :=
  let (sign, body) := match cs with
    | '-' :: rest => (['-'], rest)
    | rest => ([], rest)
  let intPart : Except SyntaxError (List Char × List Char) :=
    match body with
    | [] => .error .endOfInput
    | '0' :: rest => .ok (['0'], rest)
    | c :: rest =>
      if c.isDigit then let (ds, more) := digits rest; .ok (c :: ds, more)
      else .error (.unexpected c "in numeric literal")
  match intPart with
  | .error e => .error e
  | .ok (whole, rest) =>
    let fracPart : Except SyntaxError (List Char × List Char) :=
      match rest with
      | '.' :: more =>
        match more with
        | [] => .error .endOfInput
        | c :: _ =>
          if c.isDigit then let (ds, after) := digits more; .ok ('.' :: ds, after)
          else .error (.unexpected c "after decimal point in numeric literal")
      | _ => .ok ([], rest)
    match fracPart with
    | .error e => .error e
    | .ok (frac, rest2) =>
      let expPart : Except SyntaxError (List Char × List Char) :=
        match rest2 with
        | e :: more =>
          if e == 'e' || e == 'E' then
            let (signChars, afterSign) := match more with
              | '+' :: m => (['+'], m)
              | '-' :: m => (['-'], m)
              | m => ([], m)
            match afterSign with
            | [] => .error .endOfInput
            | c :: _ =>
              if c.isDigit then let (ds, after) := digits afterSign; .ok (e :: signChars ++ ds, after)
              else .error (.unexpected c "in exponent of numeric literal")
          else .ok ([], rest2)
        | [] => .ok ([], rest2)
      match expPart with
      | .error e => .error e
      | .ok (ex, rest3) => .ok (String.ofList (sign ++ whole ++ frac ++ ex), rest3)

/-- Reads the rest of a literal word after its first letter. -/
def readWord (word : String) (cs : List Char) : Parse Unit :=
  let expected := word.toList.drop 1
  let rec go : List Char → List Char → Parse Unit
    | [], rest => .ok ((), rest)
    | w :: ws, [] => let _ := w; let _ := ws; .error .endOfInput
    | w :: ws, c :: rest =>
      if c == w then go ws rest
      else .error (.unexpected c ("in literal " ++ word ++ " (expecting " ++ quoteChar w ++ ")"))
  go expected cs

mutual
/-- Reads a value after optional white space. -/
def readValue : Nat → List Char → Parse Json
  | 0, _ => .error .endOfInput
  | fuel + 1, cs =>
    match skipSpace cs with
    | [] => .error .endOfInput
    | c :: rest =>
      if c == '{' then readObject fuel rest
      else if c == '[' then readArray fuel rest
      else if c == '"' then (readString (rest.length + 1) rest []).map (fun r => (Json.str r.1, r.2))
      else if c == '-' || c.isDigit then (readNumber (c :: rest)).map (fun r => (Json.num r.1, r.2))
      else if c == 't' then (readWord "true" rest).map (fun r => (Json.bool true, r.2))
      else if c == 'f' then (readWord "false" rest).map (fun r => (Json.bool false, r.2))
      else if c == 'n' then (readWord "null" rest).map (fun r => (Json.null, r.2))
      else .error (.unexpected c "looking for beginning of value")

/-- Reads an object after its opening brace. -/
def readObject : Nat → List Char → Parse Json
  | 0, _ => .error .endOfInput
  | fuel + 1, cs =>
    match skipSpace cs with
    | [] => .error .endOfInput
    | '}' :: rest => .ok (.obj [], rest)
    | cs' => readMembers fuel cs' []

/-- Reads object members, starting at a key. -/
def readMembers : Nat → List Char → List (String × Json) → Parse Json
  | 0, _, _ => .error .endOfInput
  | fuel + 1, cs, acc =>
    match skipSpace cs with
    | [] => .error .endOfInput
    | '"' :: rest =>
      match readString (rest.length + 1) rest [] with
      | .error e => .error e
      | .ok (key, afterKey) =>
        match skipSpace afterKey with
        | [] => .error .endOfInput
        | ':' :: afterColon =>
          match readValue fuel afterColon with
          | .error e => .error e
          | .ok (v, afterValue) =>
            match skipSpace afterValue with
            | [] => .error .endOfInput
            | ',' :: more => readMembers fuel more ((key, v) :: acc)
            | '}' :: more => .ok (.obj ((key, v) :: acc).reverse, more)
            | c :: _ => .error (.unexpected c "after object key:value pair")
        | c :: _ => .error (.unexpected c "after object key")
    | c :: _ => .error (.unexpected c "looking for beginning of object key string")

/-- Reads an array after its opening bracket. -/
def readArray : Nat → List Char → Parse Json
  | 0, _ => .error .endOfInput
  | fuel + 1, cs =>
    match skipSpace cs with
    | [] => .error .endOfInput
    | ']' :: rest => .ok (.arr [], rest)
    | cs' => readItems fuel cs' []

/-- Reads array items, starting at a value. -/
def readItems : Nat → List Char → List Json → Parse Json
  | 0, _, _ => .error .endOfInput
  | fuel + 1, cs, acc =>
    match readValue fuel cs with
    | .error e => .error e
    | .ok (v, afterValue) =>
      match skipSpace afterValue with
      | [] => .error .endOfInput
      | ',' :: more => readItems fuel more (v :: acc)
      | ']' :: more => .ok (.arr (v :: acc).reverse, more)
      | c :: _ => .error (.unexpected c "after array element")
end

/-- Reads a whole text as one JSON document. -/
def parse (s : String) : Except SyntaxError Json :=
  let cs := s.toList
  match readValue (2 * cs.length + 2) cs with
  | .error e => .error e
  | .ok (v, rest) =>
    match skipSpace rest with
    | [] => .ok v
    | c :: _ => .error (.unexpected c "after top-level value")

end Json

end ViewEngine
