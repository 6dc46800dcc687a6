import ViewEngine.Host.Document
import ViewEngine.Text.Escape

/-!
Reading a document back: markup of an element (the class attribute first, then the other
attributes sorted by name, texts and attribute values escaped), the markup of its children, its
text, and the first descendant with a tag in document order. Walks go at most as deep as the store
has elements, which bounds every tree that appending can build.
-/

namespace ViewEngine.Host

namespace Document

variable {L : Type}

/-- The attribute list of an element as markup. -/
def attrMarkup (e : Element L) : String :=
  let classAttr :=
    if e.classes.isEmpty then "" else " class=\"" ++ Text.escape (" ".intercalate e.classes) ++ "\""
  classAttr ++ String.join (e.attrs.map (fun a => " " ++ a.1 ++ "=\"" ++ Text.escape a.2 ++ "\""))

/-- The markup of an element and its subtree, down to a depth. -/
def outerAt (d : Document L) : Nat → Nat → String
  | 0, _ => ""
  | depth + 1, id =>
    match d.get? id with
    | none => ""
    | some e =>
      "<" ++ e.tag ++ attrMarkup e ++ ">" ++
        String.join (e.children.map (fun c =>
          match c with
          | .text data => Text.escape data
          | .element k => d.outerAt depth k)) ++
        "</" ++ e.tag ++ ">"

/-- The markup of an element and its subtree. -/
def outerHTML (d : Document L) (id : Nat) : String := d.outerAt (d.elements.size + 1) id

/-- The markup of the children of an element. -/
def innerHTML (d : Document L) (id : Nat) : String :=
  match d.get? id with
  | none => ""
  | some e =>
    String.join (e.children.map (fun c =>
      match c with
      | .text data => Text.escape data
      | .element k => d.outerHTML k))

/-- The text of an element's subtree, down to a depth. -/
def textAt (d : Document L) : Nat → Nat → String
  | 0, _ => ""
  | depth + 1, id =>
    match d.get? id with
    | none => ""
    | some e =>
      String.join (e.children.map (fun c =>
        match c with
        | .text data => data
        | .element k => d.textAt depth k))

/-- The concatenated texts of all descendants. -/
def textContent (d : Document L) (id : Nat) : String := d.textAt (d.elements.size + 1) id

/-- The first descendant with a tag, down to a depth. -/
def findAt (d : Document L) (tag : String) : Nat → Nat → Option Nat
  | 0, _ => none
  | depth + 1, id =>
    (d.childElements id).findSome? (fun k => if d.tagOf k == tag then some k else d.findAt tag depth k)

/-- The first descendant with a tag in document order. -/
def find? (d : Document L) (id : Nat) (tag : String) : Option Nat :=
  d.findAt tag (d.elements.size + 1) id

/-- Whether `id` lies in the subtree of `root` (itself included), down to a depth. -/
def reachesAt (d : Document L) (target : Nat) : Nat → Nat → Bool
  | 0, _ => false
  | depth + 1, root => root == target || (d.childElements root).any (fun k => d.reachesAt target depth k)

/-- Whether an element lies in the subtree of another (itself included). -/
def reaches (d : Document L) (root target : Nat) : Bool :=
  d.reachesAt target (d.elements.size + 1) root

end Document

end ViewEngine.Host
