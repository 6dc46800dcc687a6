import ViewEngine.Yaml.Node
import ViewEngine.Yaml.Timestamp
import ViewEngine.Number.Read

/-!
Resolving scalars: what a plain scalar's text stands for. `~`, `null` and the empty text are
null; `true` and `false` (in three spellings each) are truth values; `.inf`, `-.inf` and `.nan`
are floats; a text that starts with a digit or sign may be a timestamp, an integer (in any base
prefix, underscores ignored) or a float. All else is text. An explicit standard tag must agree with
what the text resolves to (an integer may stand for a float).
-/

namespace ViewEngine.Yaml

open Number

/-- What a scalar resolves to. -/
inductive Resolved where
  | null
  | bool (b : Bool)
  /-- An integer that fits 64 bits signed. -/
  | int (n : Int)
  /-- An integer beyond the signed range but within 64 bits unsigned. -/
  | uint (n : Nat)
  | float (x : Binary64)
  | text (s : String)
  | time (t : Timestamp)
  deriving Inhabited

/-- The texts with a fixed meaning, and their tags. -/
def fixedMeaning (s : String) : Option (String × Resolved) :=
  if ["true", "True", "TRUE"].contains s then some ("!!bool", .bool true)
  else if ["false", "False", "FALSE"].contains s then some ("!!bool", .bool false)
  else if ["", "~", "null", "Null", "NULL"].contains s then some ("!!null", .null)
  else if [".nan", ".NaN", ".NAN"].contains s then some ("!!float", .float Binary64.nan)
  else if [".inf", ".Inf", ".INF", "+.inf", "+.Inf", "+.INF"].contains s then
    some ("!!float", .float (Binary64.infinity false))
  else if ["-.inf", "-.Inf", "-.INF"].contains s then some ("!!float", .float (Binary64.infinity true))
  else none

/-- What the first character of a text suggests: `N` for the empty text, `S` for a sign, `D` for
a digit, `M` for a letter that starts a fixed meaning, `.` for a point; `none` for text. -/
def hintOf (s : String) : Option Char :=
  match s.toList with
  | [] => some 'N'
  | c :: _ =>
    if c == '+' || c == '-' then some 'S'
    else if c.isDigit then some 'D'
    else if "yYnNtTfFoO~".contains c then some 'M'
    else if c == '.' then some '.'
    else none

/-- Digits, at least one. -/
def digitRun (cs : List Char) : Option (List Char) :=
  match cs with
  | c :: _ => if c.isDigit then some (cs.dropWhile Char.isDigit) else none
  | [] => none

/-- Whether a text is a decimal float: a sign, digits with an optional fraction (or a fraction
alone), and an optional exponent. -/
def isDecimalFloat (s : String) : Bool :=
  let cs := s.toList
  let cs := match cs with
    | '+' :: rest | '-' :: rest => rest
    | _ => cs
  let afterMantissa : Option (List Char) :=
    match cs with
    | '.' :: rest => digitRun rest
    | _ => (digitRun cs).map fun rest =>
      match rest with
      | '.' :: more => more.dropWhile Char.isDigit
      | _ => rest
  match afterMantissa with
  | none => false
  | some [] => true
  | some (e :: rest) =>
    if e == 'e' || e == 'E' then
      let rest := match rest with
        | '+' :: r | '-' :: r => r
        | _ => rest
      match digitRun rest with
      | some [] => true
      | _ => false
    else false

/-- What a text resolves to when untagged or tagged with a standard tag. -/
def resolveText (tag s : String) : String × Resolved :=
  match hintOf s with
  | none => ("!!str", .text s)
  | some hint =>
    if tag == "!!str" then ("!!str", .text s)
    else match fixedMeaning s with
    | some r => r
    | none =>
      if hint == '.' then
        match Binary64.readText s with
        | .ok x => ("!!float", .float x)
        | .error _ => ("!!str", .text s)
      else if hint == 'D' || hint == 'S' then
        let asTime := if tag == "" || tag == "!!timestamp" then Timestamp.parse? s else none
        match asTime with
        | some t => ("!!timestamp", .time t)
        | none =>
          let plain := String.ofList (s.toList.filter (· != '_'))
          match readInt plain 64 with
          | .ok n => ("!!int", .int n)
          | .error _ =>
            match (if plain.startsWith "+" || plain.startsWith "-" then .error .malformed else readNat plain 64) with
            | .ok n => ("!!int", .uint n)
            | .error _ =>
              if isDecimalFloat plain then
                match Binary64.readText plain with
                | .ok x => ("!!float", .float x)
                | .error _ => ("!!str", .text s)
              else ("!!str", .text s)
      else ("!!str", .text s)

/-- The tags whose meaning is resolved from the text. -/
def resolvableTag (tag : String) : Bool :=
  ["", "!!str", "!!bool", "!!int", "!!float", "!!timestamp", "!!null"].contains tag

/-- Resolves a scalar under a tag: the tag it ends up with and what it stands for. An explicit
tag that the text does not fit is an error (its message); a tag that is not resolvable leaves the
text as it is. -/
def resolve (tag s : String) : Except String (String × Resolved) :=
  let tag := shortTag tag
  if !resolvableTag tag then .ok (tag, .text s)
  else
    let (rtag, out) := resolveText tag s
    if tag == "" || tag == rtag || tag == "!!str" then .ok (rtag, out)
    else
      match tag, out with
      | "!!float", .int n => .ok ("!!float", .float (Binary64.ofInt n))
      | _, _ => .error ("cannot decode " ++ rtag ++ " `" ++ s ++ "` as a " ++ tag)

/-- The tag a plain untagged scalar gets from its text. -/
def implicitTag (s : String) : String := (resolveText "" s).1

end ViewEngine.Yaml
