import ViewEngine.Node.Basic

/-!
Classifying props: each prop, in key order, is tagged with the rules it matches. `class` is a class
name, `data` holding a mapping expands to data attributes, a truth value is a boolean property, and
a key `on<word>` names an event handler. The rules are independent; a prop that matches none is a
plain attribute.
-/

namespace ViewEngine

/-- A classified prop (an attribute-to-be). -/
structure Attr where
  /-- The key. -/
  name : String
  /-- The value. -/
  value : Value
  /-- The key is `class`. -/
  isClass : Bool
  /-- The key is `data` and the value a mapping: its entries sorted by key. -/
  data : Option (List (String × Value))
  /-- The value is a truth value. -/
  flag : Option Bool
  /-- The key is `on` followed by word characters: those characters in lower case. -/
  event : Option String

/-- Whether a prop matched no rule. -/
def Attr.isPlain (p : Attr) : Bool :=
  !p.isClass && p.data.isNone && p.flag.isNone && p.event.isNone

/-- Whether a character is a word character: an ASCII letter, digit or underscore. -/
def isWordChar (c : Char) : Bool := c.isAlphanum || c == '_'

/-- The event a key names: the word characters right after a leading `on`, lower-cased, when
there is at least one. -/
def eventOf? (key : String) : Option String :=
  match key.toList with
  | 'o' :: 'n' :: rest =>
    let word := rest.takeWhile isWordChar
    if word.isEmpty then none else some (String.ofList (word.map Char.toLower))
  | _ => none

/-- Classifies one prop. -/
def classifyOne (field : String × Value) : Attr :=
  let (name, value) := field
  { name, value
    isClass := name == "class"
    data := if name == "data" then (value.asProps?).map Props.sorted else none
    flag := match value with | .bool b => some b | _ => none
    event := eventOf? name }

/-- Classifies props in key order. -/
def classify (p : Props) : List Attr := p.sorted.map classifyOne

end ViewEngine
