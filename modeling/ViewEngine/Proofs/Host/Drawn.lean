import Mathlib
import ViewEngine.Proofs.Host.Written

/-! The markup of elements with classes. An element's markup writes its classes as one `class`
attribute, when it has any, before its other attributes; children draw a markup forest when each
text draws itself and each element its tag, those attributes and what its own children draw
(`Draws`, which `Writes` is for elements without classes). Such children serialize as the forest
written out, and an element whose children draw a forest has for its markup that element written
out (`outerHTML_of_draws`), so two elements drawing alike have the same markup. A run that mounts
into an element and leaves every other element there as it was is described by the forest its new
children draw (`Fills`). -/

namespace ViewEngine.Host

open Markup

variable {L : Type}

/-- The attributes the markup of an element with a class list and attributes writes: the classes
joined by blanks as one `class` attribute, when there are any, then the attributes. -/
def markupPairs (classes : List String) (attrs : Dict String) : List (String × String) :=
  (if classes.isEmpty then [] else [("class", " ".intercalate classes)]) ++ attrs

namespace Document

/-- The attributes of an element, as markup, are its markup pairs written out. -/
theorem attrMarkup_eq_writeAttrs (e : Element L) : attrMarkup e = writeAttrs Text.escape (markupPairs e.classes e.attrs) := by
  unfold attrMarkup markupPairs writeAttrs
  split
  · simp
  · -- The class attribute is written as any other attribute is.
    simp only [List.singleton_append, List.map_cons, String.join_cons, String.append_assoc]
    rw [← @String.append_assoc "class", ← @String.append_assoc " "]
    rfl

/-- Children draw a markup forest from place `b` on: a text draws itself, and an element its tag,
its markup pairs and what its own children draw; the element lies at a place from `b` on and its
children were made after it. -/
inductive Draws (d : Document L) : Nat → List Child → List Node → Prop where
  | nil {b : Nat} : Draws d b [] []
  | text {b : Nat} {data : String} {cs : List Child} {ms : List Node} :
      Draws d b cs ms → Draws d b (.text data :: cs) (.text data :: ms)
  | element {b e : Nat} {f : Face} {cs : List Child} {gs ms : List Node} :
      b ≤ e → d.face e = some f → Draws d (e + 1) f.children gs → Draws d b cs ms →
      Draws d b (.element e :: cs) (.element f.tag (markupPairs f.classes f.attrs) gs :: ms)

namespace Draws

variable {d d' : Document L} {b : Nat}

theorem append {cs cs' : List Child} {ms ms' : List Node} (h : Draws d b cs ms) (h' : Draws d b cs' ms') :
    Draws d b (cs ++ cs') (ms ++ ms') := by
  induction h with
  | nil => exact h'
  | text _ ih => exact .text (ih h')
  | element le face inner _ _ ih => exact .element le face inner (ih h')

/-- Children that draw a forest from a place on draw it from any earlier place. -/
theorem mono {b' : Nat} (le : b' ≤ b) {cs : List Child} {ms : List Node} (h : Draws d b cs ms) :
    Draws d b' cs ms := by
  induction h generalizing b' with
  | nil => exact .nil
  | text _ ih => exact .text (ih le)
  | element past face inner _ _ ih => exact .element (Nat.le_trans le past) face inner (ih le)

/-- What children draw depends only on the faces of the elements from the place on. -/
theorem frame {cs : List Child} {ms : List Node} (h : Draws d b cs ms) :
    (∀ e, b ≤ e → e < d.elements.size → d'.face e = d.face e) → Draws d' b cs ms := by
  induction h with
  | nil => exact fun _ => .nil
  | text _ ih => exact fun same => .text (ih same)
  | element past face _ _ inner rest =>
    intro same
    -- The element's children lie after it, so after the place too.
    refine .element past ((same _ past (lt_of_face face)).trans face) (inner fun e after => same e ?_) (rest same)
    omega

/-- Children that draw a forest serialize as the forest written out, with escaped texts, wherever
the depth reaches the last element. -/
theorem markup {cs : List Child} {ms : List Node} (h : d.Draws b cs ms) :
    ∀ depth, d.elements.size ≤ depth + b → String.join (cs.map (d.childMarkup depth)) = Node.writeAll Text.escape ms := by
  induction h with
  | nil => intro depth _; simp
  | @text b data cs ms _ ih =>
    intro depth reach
    rw [List.map_cons, String.join_cons, ih depth reach, show Node.text data :: ms = [.text data] ++ ms from rfl,
      Node.writeAll_append, Node.writeAll_text]
    rfl
  | @element b e f cs gs ms past face _ _ inner rest =>
    intro depth reach
    obtain ⟨el, found, rfl⟩ := Option.map_eq_some_iff.1 face
    -- An element lies below the end of the store, so the depth has a level for it.
    have inside : e < d.elements.size := lt_of_face face
    obtain ⟨depth, rfl⟩ : ∃ k, depth = k + 1 := ⟨depth - 1, by omega⟩
    rw [List.map_cons, String.join_cons, rest _ reach, show Node.element el.face.tag
      (markupPairs el.face.classes el.face.attrs) gs :: ms = [.element el.face.tag
      (markupPairs el.face.classes el.face.attrs) gs] ++ ms from rfl, Node.writeAll_append, Node.writeAll_element]
    have children := inner depth (by omega)
    simp only [childMarkup, Element.face] at children ⊢
    rw [outerAt_succ found, attrMarkup_eq_writeAttrs, children]

end Draws

/-- An element whose children draw a forest has for its markup the element written out with its
tag, its markup pairs and that forest. -/
theorem outerHTML_of_draws {d : Document L} {x : Nat} {f : Face} {ms : List Node} (found : d.face x = some f)
    (draws : d.Draws (x + 1) f.children ms) :
    d.outerHTML x = Node.writeAll Text.escape [.element f.tag (markupPairs f.classes f.attrs) ms] := by
  obtain ⟨el, got, rfl⟩ := Option.map_eq_some_iff.1 found
  rw [outerHTML, outerAt_succ got, attrMarkup_eq_writeAttrs, Node.writeAll_element,
    ← draws.markup d.elements.size (by omega)]
  rfl

/-- The properties of the element at a place. -/
def propsAt (d : Document L) (x : Nat) : Option (Dict Value) := (d.get? x).map (·.props)

/-- A change of one element that keeps its properties keeps every place's. -/
theorem propsAt_modify_of_props {d : Document L} {el : Nat} {f : Element L → Element L}
    (keeps : ∀ e, (f e).props = e.props) (x : Nat) : (d.modify el f).propsAt x = d.propsAt x := by
  simp only [propsAt, get?_modify]
  split
  · cases d.get? x <;> simp [keeps]
  · rfl

theorem propsAt_create (d : Document L) (tag : String) {x : Nat} (old : x < d.elements.size) :
    (d.create tag).1.propsAt x = d.propsAt x := by
  simp only [propsAt, get?_create, if_neg (Nat.ne_of_lt old)]

theorem propsAt_appendChild (d : Document L) (parent child x : Nat) :
    (d.appendChild parent child).propsAt x = d.propsAt x := by
  unfold appendChild
  dsimp only
  rw [propsAt_modify_of_props (f := fun e => { e with children := e.children ++ [.element child] }) (fun _ => rfl),
    propsAt_modify_of_props (f := fun e => { e with parent := some parent }) (fun _ => rfl)]

/-- What a run that mounts into an element leaves, against the document before it: the element has
its old children followed by children made since that draw `ms`, every other element that was there
keeps its face, and every element that was there keeps its properties. -/
structure Fills (d d' : Document L) (into : Nat) (ms : List Node) : Prop where
  children : ∃ C, d'.face into = (d.face into).map (fun f => { f with children := f.children ++ C }) ∧
    d'.Draws d.elements.size C ms
  frame : ∀ e < d.elements.size, e ≠ into → d'.face e = d.face e
  props : ∀ e < d.elements.size, d'.propsAt e = d.propsAt e
  size_le : d.elements.size ≤ d'.elements.size

namespace Fills

variable {d d' d₁ d₂ : Document L} {into : Nat} {ms ms' : List Node}

theorem refl (d : Document L) (into : Nat) : Fills d d into [] :=
  ⟨⟨[], by cases d.face into <;> simp, .nil⟩, fun _ _ _ => rfl, fun _ _ => rfl, Nat.le_refl _⟩

/-- Mounting in two runs: what the second fills follows what the first did, and the content of the
first, made before the second began, is not touched by it. -/
theorem trans (inside : into < d.elements.size) (h₁ : Fills d d₁ into ms) (h₂ : Fills d₁ d₂ into ms') :
    Fills d d₂ into (ms ++ ms') := by
  obtain ⟨C, face₁, draws₁⟩ := h₁.children
  obtain ⟨C', face₂, draws₂⟩ := h₂.children
  refine ⟨⟨C ++ C', ?_, ?_⟩, fun e he ne => ?_, fun e he => ?_, Nat.le_trans h₁.size_le h₂.size_le⟩
  · rw [face₂, face₁, Option.map_map]
    congr 1
    funext f
    simp
  · -- The first content's elements lie from the first document's size on, above the element mounted into.
    exact (draws₁.frame fun e past made => h₂.frame e made (by omega)).append (draws₂.mono h₁.size_le)
  · rw [h₂.frame e (Nat.lt_of_lt_of_le he h₁.size_le) ne, h₁.frame e he ne]
  · rw [h₂.props e (Nat.lt_of_lt_of_le he h₁.size_le), h₁.props e he]

/-- Appending a text draws that text. -/
theorem text (d : Document L) (into : Nat) (data : String) :
    Fills d (d.appendText into data) into [.text data] := by
  refine ⟨⟨[.text data], by simp [face_appendText], .text .nil⟩, fun e _ ne => ?_,
    fun e _ => propsAt_modify_of_props (f := fun e => { e with children := e.children ++ [.text data] })
      (fun _ => rfl) e, by simp⟩
  simp [face_appendText, ne]

/-- An element placed into the container, then filled by a mount into it. Before the inner mount,
the container has the new element last, the new element has its tag, class list and attributes and
no children, every other element that was there keeps its face, and every element that was there
keeps its properties; the mount into the element fills it. -/
theorem element {tag : String} {classes : List String} {attrs : Dict String} {gs : List Node}
    (inside : into < d.elements.size) (size₁ : d₁.elements.size = d.elements.size + 1)
    (container : d₁.face into = (d.face into).map (fun f => { f with children := f.children ++ [.element d.elements.size] }))
    (made : d₁.face d.elements.size = some ⟨tag, classes, attrs, []⟩)
    (others : ∀ e < d.elements.size, e ≠ into → d₁.face e = d.face e)
    (props : ∀ e < d.elements.size, d₁.propsAt e = d.propsAt e)
    (inner : Fills d₁ d₂ d.elements.size gs) :
    Fills d d₂ into [.element tag (markupPairs classes attrs) gs] := by
  obtain ⟨C, face₂, draws₂⟩ := inner.children
  have grown := inner.size_le
  have shown : d₂.face d.elements.size = some ⟨tag, classes, attrs, C⟩ := by
    rw [face₂, made]
    rfl
  refine ⟨⟨[.element d.elements.size], ?_, .element (Nat.le_refl _) shown (size₁ ▸ draws₂) .nil⟩,
    fun e he ne => ?_, fun e he => ?_, by omega⟩
  · rw [inner.frame into (by omega) (Nat.ne_of_lt inside), container]
  · rw [inner.frame e (by omega) (by omega), others e he ne]
  · rw [inner.props e (by omega), props e he]

end Fills

end Document

end ViewEngine.Host
