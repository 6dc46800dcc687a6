import ViewEngine.Yaml.Token

/-!
The node tree of a YAML document: scalars with their tag and text, sequences, mappings, and
aliases that stand for an anchored node. Every node knows the line (from one) it starts on.
-/

namespace ViewEngine.Yaml

/-- The prefix of the standard tags, written `!!` in short. -/
def standardPrefix : String := "tag:yaml.org,2002:"

/-- A tag in its short form: `tag:yaml.org,2002:x` becomes `!!x`. -/
def shortTag (tag : String) : String :=
  if tag.startsWith standardPrefix then "!!" ++ String.ofList (tag.toList.drop standardPrefix.length)
  else tag

/-- A node of a YAML document. -/
inductive Node where
  /-- A scalar: its tag (explicit, or the one its text resolves to), its text and its style. -/
  | scalar (tag : String) (text : String) (style : ScalarStyle) (line : Nat)
  /-- A sequence and its items. -/
  | sequence (tag : String) (items : List Node) (line : Nat)
  /-- A mapping and its entries, in order. -/
  | mapping (tag : String) (entries : List (Node × Node)) (line : Nat)
  /-- An alias of an anchored node: the anchor's name, the number of the anchored node in its
  document's table of anchored nodes, and the place in the text the alias stands at (which tells
  two aliases apart). -/
  | alias (name : String) (target : Nat) (place : Nat) (line : Nat)
  deriving Inhabited

namespace Node

/-- The line a node starts on. -/
def line : Node → Nat
  | .scalar _ _ _ l | .sequence _ _ l | .mapping _ _ l | .alias _ _ _ l => l

/-- The text a node carries: a scalar's text, an alias's anchor name, nothing for collections. -/
def text : Node → String
  | .scalar _ t _ _ => t
  | .alias name _ _ _ => name
  | _ => ""

/-- The tag a node carries; aliases carry none. -/
def tag : Node → String
  | .scalar t _ _ _ | .sequence t _ _ | .mapping t _ _ => t
  | .alias _ _ _ _ => ""

/-- The kind of a node, as a number: scalars, sequences, mappings, aliases. -/
def kindRank : Node → Nat
  | .scalar _ _ _ _ => 0
  | .sequence _ _ _ => 1
  | .mapping _ _ _ => 2
  | .alias _ _ _ _ => 3

end Node

/-- A document: its root node and its anchored nodes, by number. An alias inside an anchored node
may refer to that very node, so the table is what ties aliases to their targets. -/
structure Document where
  root : Node
  anchored : Array Node
  deriving Inhabited

/-- The node an alias refers to. -/
def Document.target (d : Document) (k : Nat) : Node := d.anchored.getD k default

/-- The short form of a node's tag; an alias has the tag of the node it refers to. -/
def Document.shortTagOf (d : Document) : Node → String
  | .alias _ k _ _ => shortTag (d.target k).tag
  | n => shortTag n.tag

/-- The kind of a node, aliases seen through. -/
def Document.kindOf (d : Document) : Node → Nat
  | .alias _ k _ _ => (d.target k).kindRank
  | n => n.kindRank

end ViewEngine.Yaml
