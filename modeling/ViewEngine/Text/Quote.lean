/-! Double-quoted text literals: printable characters stand for themselves, all others are escaped. -/

namespace ViewEngine.Text

/-- The lower-case hexadecimal digit of a value below sixteen. -/
def hexDigit (n : Nat) : Char :=
  if n < 10 then Char.ofNat (48 + n) else Char.ofNat (87 + n)

/-- The hexadecimal digits of a number, most significant first, padded to a width. -/
def hexDigits (width n : Nat) : List Char :=
  (List.range width).reverse.map (fun i => hexDigit (n / Nat.pow 16 i % 16))

/-- Whether a character is shown as itself: a letter, mark, number, punctuation or symbol, or the
plain space. Control, format, separator, private-use and noncharacter code points are not. -/
def isPrintable (c : Char) : Bool :=
  let n := c.toNat
  if n < 0x80 then 0x20 ≤ n && n < 0x7F
  else if n ≤ 0xFF then 0xA1 ≤ n && n != 0xAD
  else
    !(n == 0x034F || n == 0x061C || n == 0x1680 || n == 0x180E ||
      (0x2000 ≤ n && n ≤ 0x200F) || (0x2028 ≤ n && n ≤ 0x202F) ||
      (0x205F ≤ n && n ≤ 0x206F) || n == 0x3000 || n == 0xFEFF ||
      (0xD800 ≤ n && n ≤ 0xF8FF) || (0xFFF0 ≤ n && n ≤ 0xFFFB) || n == 0xFFFE || n == 0xFFFF ||
      (0xE0000 ≤ n && n ≤ 0xE0FFF) || n ≥ 0xF0000)

/-- The characters standing for one character inside a double-quoted literal. -/
def quotedChar (c : Char) : List Char :=
  if c == '"' || c == '\\' then ['\\', c]
  else if isPrintable c then [c]
  else
    match c.toNat with
    | 7 => ['\\', 'a']
    | 8 => ['\\', 'b']
    | 12 => ['\\', 'f']
    | 10 => ['\\', 'n']
    | 13 => ['\\', 'r']
    | 9 => ['\\', 't']
    | 11 => ['\\', 'v']
    | n =>
      if n < 0x20 || n == 0x7F then ['\\', 'x'] ++ hexDigits 2 n
      else if n < 0x10000 then ['\\', 'u'] ++ hexDigits 4 n
      else ['\\', 'U'] ++ hexDigits 8 n

/-- The first byte of a character's UTF-8 encoding, read as a code point: a reader that goes byte
by byte names a character beyond ASCII by this lead byte. -/
def leadByte (c : Char) : Char :=
  let n := c.toNat
  if n < 0x80 then c
  else if n < 0x800 then Char.ofNat (0xC0 + n / 64)
  else if n < 0x10000 then Char.ofNat (0xE0 + n / 4096)
  else Char.ofNat (0xF0 + n / 262144)

/-- A text as a double-quoted literal. -/
def quote (s : String) : String :=
  String.ofList ('"' :: (s.toList.flatMap quotedChar ++ ['"']))

end ViewEngine.Text
