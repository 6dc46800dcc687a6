import ViewEngine.Data.Dict
import ViewEngine.Text.Case
import ViewEngine.Value.Basic

/-!
An in-memory host document: elements with children, a class list, attributes, properties and
event listeners, held in one store and named by their place in it. Appending does not take an
element away from an earlier parent: it records the new parent and adds the element to the new
parent's children, so an element may be a child of two parents.
-/

namespace ViewEngine.Host

open Text

/-- A child of an element: a text, or an element by its place in the store. -/
inductive Child where
  | text (data : String)
  | element (id : Nat)
  deriving Repr, Inhabited, DecidableEq

/-- An element, with listeners of type `L`. -/
structure Element (L : Type) where
  /-- The element name. -/
  tag : String
  /-- The parent it was last appended to, if it is attached. -/
  parent : Option Nat
  /-- The children, in order. -/
  children : List Child
  /-- The class list, without repeats. -/
  classes : List String
  /-- The attributes other than `class`. -/
  attrs : Dict String
  /-- The properties. -/
  props : Dict Value
  /-- The listeners of each event, in registration order. -/
  listeners : Dict (List L)
  deriving Inhabited

/-- A fresh element. -/
def Element.fresh {L : Type} (tag : String) : Element L :=
  ⟨tag, none, [], [], Dict.empty, Dict.empty, Dict.empty⟩

/-- A store of elements. -/
structure Document (L : Type) where
  /-- The elements, by their place. -/
  elements : Array (Element L)
  deriving Inhabited

namespace Document

variable {L : Type}

/-- The empty store. -/
def empty : Document L := ⟨#[]⟩

/-- The element at a place. -/
def get? (d : Document L) (id : Nat) : Option (Element L) := d.elements[id]?

/-- Changes the element at a place (nothing when there is none). -/
def modify (d : Document L) (id : Nat) (f : Element L → Element L) : Document L :=
  ⟨d.elements.modify id f⟩

/-- Creates an element, returning its place. -/
def create (d : Document L) (tag : String) : Document L × Nat :=
  (⟨d.elements.push (Element.fresh tag)⟩, d.elements.size)

/-- Appends an element to the children of another and records the new parent. -/
def appendChild (d : Document L) (parent child : Nat) : Document L :=
  let d := d.modify child (fun e => { e with parent := some parent })
  d.modify parent (fun e => { e with children := e.children ++ [.element child] })

/-- Appends a text to the children of an element. -/
def appendText (d : Document L) (id : Nat) (data : String) : Document L :=
  d.modify id (fun e => { e with children := e.children ++ [.text data] })

/-- The elements among children. -/
def elementIds : List Child → List Nat
  | [] => []
  | .element i :: rest => i :: elementIds rest
  | .text _ :: rest => elementIds rest

/-- Removes every child of an element; the element children lose their parent. -/
def removeChildren (d : Document L) (id : Nat) : Document L :=
  match d.get? id with
  | none => d
  | some e =>
    let d := (elementIds e.children).foldl (fun d c => d.modify c (fun k => { k with parent := none })) d
    d.modify id (fun e => { e with children := [] })

/-- Adds a class unless the element has it. -/
def addClass (d : Document L) (id : Nat) (name : String) : Document L :=
  d.modify id (fun e => if e.classes.contains name then e else { e with classes := e.classes ++ [name] })

/-- The attribute name of a data key: each upper-case letter becomes `-` and its lower-case form. -/
def datasetName (key : String) : String :=
  "data-" ++ String.ofList (key.toList.flatMap (fun c => if isUpperCase c then ['-', lowerCase c] else [c]))

/-- Sets a data attribute. -/
def setDataset (d : Document L) (id : Nat) (key value : String) : Document L :=
  d.modify id (fun e => { e with attrs := e.attrs.insert (datasetName key) value })

/-- Sets an attribute; `class` replaces the class list by the words of the value. -/
def setAttribute (d : Document L) (id : Nat) (name value : String) : Document L :=
  if name == "class" then d.modify id (fun e => { e with classes := fields value })
  else d.modify id (fun e => { e with attrs := e.attrs.insert name value })

/-- Sets a property. -/
def setProperty (d : Document L) (id : Nat) (name : String) (value : Value) : Document L :=
  d.modify id (fun e => { e with props := e.props.insert name value })

/-- Deletes a property. -/
def deleteProperty (d : Document L) (id : Nat) (name : String) : Document L :=
  d.modify id (fun e => { e with props := e.props.erase name })

/-- Adds a listener for an event after those already there. -/
def addListener (d : Document L) (id : Nat) (event : String) (l : L) : Document L :=
  d.modify id (fun e => { e with listeners := e.listeners.insert event ((e.listeners.get? event).getD [] ++ [l]) })

/-- The listeners of an event on an element. -/
def listenersOf (d : Document L) (id : Nat) (event : String) : List L :=
  match d.get? id with
  | some e => (e.listeners.get? event).getD []
  | none => []

/-- The element children of an element. -/
def childElements (d : Document L) (id : Nat) : List Nat :=
  match d.get? id with
  | some e => elementIds e.children
  | none => []

/-- The attribute of a name: `class` reads the class list joined by blanks, when not empty. -/
def attribute? (d : Document L) (id : Nat) (name : String) : Option String :=
  match d.get? id with
  | none => none
  | some e =>
    if name == "class" then
      if e.classes.isEmpty then none else some (" ".intercalate e.classes)
    else e.attrs.get? name

/-- The tag of an element (empty for a place with no element). -/
def tagOf (d : Document L) (id : Nat) : String :=
  match d.get? id with
  | some e => e.tag
  | none => ""

end Document

end ViewEngine.Host
