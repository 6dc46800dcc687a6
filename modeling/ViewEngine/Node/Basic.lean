import ViewEngine.Value.Show

/-!
Nodes: a node is a list `[tag, props?, children...]`. The second item is the props when it is a
mapping; everything after is a child. The fragment tag `[]` stands for no wrapping element.
-/

namespace ViewEngine

/-- The reserved tag of a fragment. -/
def fragmentTag : String := "[]"

/-- A fragment node: the fragment tag before its items. -/
def Value.frag (items : List Value) : Value := .node (.str fragmentTag :: items)

/-- The items of a node-shaped value: a plain list or a node. -/
def Value.asNode? : Value → Option (List Value)
  | .list items => some items
  | .node items => some items
  | _ => none

/-- The props a mapping value stands for: props and plain mappings as they are (an absent one stays
absent), a mapping of texts with each text as a value. -/
def Value.asProps? : Value → Option Props
  | .props p => some p
  | .map p => some p
  | .textMap fields => some (some (fields.map (fun f => (f.1, Value.str f.2))))
  | _ => none

/-- A non-empty node taken apart. -/
structure Parts where
  /-- The first item: a host name, a component or the fragment tag. -/
  tag : Value
  /-- The props, when the second item is a mapping. -/
  props : Props
  /-- The remaining items. -/
  children : List Value

/-- Takes a node apart; the empty node has no parts. -/
def split : List Value → Option Parts
  | [] => none
  | tag :: rest =>
    match rest with
    | first :: children =>
      match first.asProps? with
      | some props => some ⟨tag, props, children⟩
      | none => some ⟨tag, none, rest⟩
    | [] => some ⟨tag, none, []⟩

/-- Whether a tag is the fragment tag. -/
def Value.isFragment : Value → Bool
  | .str s => s == fragmentTag
  | _ => false

/-- The fields of props, sorted by key. -/
def Props.sorted (p : Props) : List (String × Value) :=
  (p.getD []).mergeSort (fun a b => decide (a.1 ≤ b.1))

/-- The value of a key of props (absent when the props are). -/
def Props.get (p : Props) (key : String) : Value :=
  match (p.getD []).find? (fun f => f.1 == key) with
  | some f => f.2
  | none => .null

end ViewEngine
