import ViewEngine.Text.Quote

/-!
JSON documents: values with numbers kept as their literal text, and their compact written form.
-/

namespace ViewEngine

/-- A JSON value. Numbers keep the text they were written with; objects keep their members in
order. -/
inductive Json where
  | null
  | bool (b : Bool)
  | num (literal : String)
  | str (s : String)
  | arr (items : List Json)
  | obj (members : List (String × Json))
  deriving Repr, Inhabited

namespace Json

/-- The member of an object with a key (the last one, when repeated). -/
def get? (j : Json) (key : String) : Option Json :=
  match j with
  | .obj members => (members.reverse.find? (fun m => m.1 == key)).map Prod.snd
  | _ => none

/-- Whether an object has a member with a key. -/
def has (j : Json) (key : String) : Bool := (j.get? key).isSome

/-- The text of a string value. -/
def str? : Json → Option String
  | .str s => some s
  | _ => none

/-- The truth value of a boolean value. -/
def bool? : Json → Option Bool
  | .bool b => some b
  | _ => none

/-- The items of an array value. -/
def arr? : Json → Option (List Json)
  | .arr items => some items
  | _ => none

/-- The characters that stand for one character inside a JSON string. -/
def escapedChar (c : Char) : List Char :=
  if c == '"' then ['\\', '"']
  else if c == '\\' then ['\\', '\\']
  else if c == '\n' then ['\\', 'n']
  else if c == '\r' then ['\\', 'r']
  else if c == '\t' then ['\\', 't']
  else if c.toNat < 0x20 || c.toNat == 0x2028 || c.toNat == 0x2029 then
    ['\\', 'u'] ++ Text.hexDigits 4 c.toNat
  else [c]

/-- A text as a JSON string. -/
def quote (s : String) : String := String.ofList ('"' :: (s.toList.flatMap escapedChar ++ ['"']))

mutual
/-- The compact written form of a value. -/
def write : Json → String
  | .null => "null"
  | .bool b => if b then "true" else "false"
  | .num literal => literal
  | .str s => quote s
  | .arr items => "[" ++ writeItems items ++ "]"
  | .obj members => "\x7b" ++ writeMembers members ++ "\x7d"

/-- The written items of an array, separated by commas. -/
def writeItems : List Json → String
  | [] => ""
  | [j] => write j
  | j :: rest => write j ++ "," ++ writeItems rest

/-- The written members of an object, separated by commas. -/
def writeMembers : List (String × Json) → String
  | [] => ""
  | [(k, j)] => quote k ++ ":" ++ write j
  | (k, j) :: rest => quote k ++ ":" ++ write j ++ "," ++ writeMembers rest
end

end Json

end ViewEngine
