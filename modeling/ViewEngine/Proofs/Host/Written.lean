import Mathlib
import ViewEngine.Proofs.Host.Children
import ViewEngine.Proofs.Markup.Read

/-! The markup a document writes. What a reader of the markup sees of an element is its face: its
tag, class list, attributes and children. Children write a markup forest when each text writes
itself and each element, with no class, writes its tag, its attributes in order and what its own
children write; such children serialize as that forest written out with escaped texts. A run that
mounts into an element and leaves every other element that was there as it was is described by the
forest its new children write (`Appends`). -/

namespace ViewEngine.Host

open Markup

/-- What a reader of the markup sees of an element. -/
structure Face where
  /-- The element name. -/
  tag : String
  /-- The class list. -/
  classes : List String
  /-- The attributes other than `class`. -/
  attrs : Dict String
  /-- The children, in order. -/
  children : List Child

/-- The face of an element. -/
def Element.face {L : Type} (e : Element L) : Face := ⟨e.tag, e.classes, e.attrs, e.children⟩

namespace Document

variable {L : Type}

/-- The face of the element at a place. -/
def face (d : Document L) (x : Nat) : Option Face := (d.get? x).map Element.face

theorem face_of_size_le {d : Document L} {x : Nat} (past : d.elements.size ≤ x) : d.face x = none := by
  simp [face, get?, Array.getElem?_eq_none past]

theorem lt_of_face {d : Document L} {x : Nat} {f : Face} (h : d.face x = some f) : x < d.elements.size := by
  rcases Nat.lt_or_ge x d.elements.size with inside | past
  · exact inside
  · rw [face_of_size_le past] at h
    cases h

/-- A change of one element that changes its face by `g` changes that place's face alone. -/
theorem face_modify {d : Document L} {el : Nat} {f : Element L → Element L} {g : Face → Face}
    (changes : ∀ e, (f e).face = g e.face) (x : Nat) :
    (d.modify el f).face x = if x = el then (d.face x).map g else d.face x := by
  simp only [face, get?_modify]
  by_cases same : x = el
  · subst same
    cases d.get? x <;> simp [changes]
  · simp [same, Ne.symm same]

/-- A change of one element that keeps its face keeps every face. -/
theorem face_modify_of_face {d : Document L} {el : Nat} {f : Element L → Element L}
    (keeps : ∀ e, (f e).face = e.face) (x : Nat) : (d.modify el f).face x = d.face x := by
  rw [face_modify (g := id) keeps]
  split <;> simp_all

theorem face_create (d : Document L) (tag : String) (x : Nat) :
    (d.create tag).1.face x = if x = d.elements.size then some ⟨tag, [], [], []⟩ else d.face x := by
  simp only [face, get?_create]
  split <;> rfl

/-- Appending an element adds it after the parent's children; no other face changes, the child's
included, whose parent is not part of its face. -/
theorem face_appendChild (d : Document L) (parent child x : Nat) :
    (d.appendChild parent child).face x =
      if x = parent then (d.face x).map (fun f => { f with children := f.children ++ [.element child] })
      else d.face x := by
  unfold appendChild
  rw [face_modify (g := fun f => { f with children := f.children ++ [.element child] }) (fun _ => rfl),
    face_modify_of_face (f := fun e => { e with parent := some parent }) (fun _ => rfl)]

theorem face_appendText (d : Document L) (el : Nat) (data : String) (x : Nat) :
    (d.appendText el data).face x =
      if x = el then (d.face x).map (fun f => { f with children := f.children ++ [.text data] }) else d.face x :=
  face_modify (fun _ => rfl) x

/-- Setting an attribute other than `class` stores it among the element's attributes. -/
theorem face_setAttribute (d : Document L) (el : Nat) {name : String} (value : String) (plain : name ≠ "class")
    (x : Nat) :
    (d.setAttribute el name value).face x =
      if x = el then (d.face x).map (fun f => { f with attrs := f.attrs.insert name value }) else d.face x := by
  have other : (name == "class") = false := by simpa using plain
  simp only [setAttribute, other, Bool.false_eq_true, if_false]
  exact face_modify (fun _ => rfl) x

@[simp] theorem size_setAttribute (d : Document L) (el : Nat) (name value : String) :
    (d.setAttribute el name value).elements.size = d.elements.size := by
  unfold setAttribute
  split <;> simp

/-- Setting attributes other than `class` one after another stores each in the element's attributes
in turn. -/
theorem face_setAttributes (el : Nat) (attrs : List (String × String)) (plain : ∀ a ∈ attrs, a.1 ≠ "class")
    (d : Document L) (x : Nat) :
    (attrs.foldl (fun d a => d.setAttribute el a.1 a.2) d).face x =
      if x = el then (d.face x).map (fun f => { f with attrs := f.attrs.insertAll attrs }) else d.face x := by
  induction attrs generalizing d with
  | nil =>
    rw [List.foldl_nil]
    split
    · cases d.face x <;> rfl
    · rfl
  | cons a rest ih =>
    rw [List.foldl_cons, ih (fun b hb => plain b (List.mem_cons_of_mem a hb)),
      face_setAttribute _ _ _ (plain a List.mem_cons_self)]
    by_cases hx : x = el
    · simp only [hx, if_true, Option.map_map]
      cases d.face el <;> rfl
    · simp only [hx, if_false]

theorem size_setAttributes (el : Nat) (attrs : List (String × String)) (d : Document L) :
    (attrs.foldl (fun d a => d.setAttribute el a.1 a.2) d).elements.size = d.elements.size := by
  induction attrs generalizing d with
  | nil => rfl
  | cons a rest ih => rw [List.foldl_cons, ih, size_setAttribute]

/-! ## Children that write a forest -/

/-- Children write a markup forest from place `b` on: a text writes itself, and an element with no
class writes its tag, its attributes and what its own children write; the element lies at a place
from `b` on and its children were made after it. -/
inductive Writes (d : Document L) : Nat → List Child → List Node → Prop where
  | nil {b : Nat} : Writes d b [] []
  | text {b : Nat} {data : String} {cs : List Child} {ms : List Node} :
      Writes d b cs ms → Writes d b (.text data :: cs) (.text data :: ms)
  | element {b e : Nat} {tag : String} {attrs : Dict String} {children cs : List Child} {gs ms : List Node} :
      b ≤ e → d.face e = some ⟨tag, [], attrs, children⟩ → Writes d (e + 1) children gs → Writes d b cs ms →
      Writes d b (.element e :: cs) (.element tag attrs gs :: ms)

namespace Writes

variable {d d' : Document L} {b : Nat}

theorem append {cs cs' : List Child} {ms ms' : List Node} (h : Writes d b cs ms) (h' : Writes d b cs' ms') :
    Writes d b (cs ++ cs') (ms ++ ms') := by
  induction h with
  | nil => exact h'
  | text _ ih => exact .text (ih h')
  | element le face inner _ _ ih => exact .element le face inner (ih h')

/-- Children that write a forest from a place on write it from any earlier place. -/
theorem mono {b' : Nat} (le : b' ≤ b) {cs : List Child} {ms : List Node} (h : Writes d b cs ms) :
    Writes d b' cs ms := by
  induction h generalizing b' with
  | nil => exact .nil
  | text _ ih => exact .text (ih le)
  | element past face inner _ _ ih => exact .element (Nat.le_trans le past) face inner (ih le)

/-- What children write depends only on the faces of the elements from the place on. -/
theorem frame {cs : List Child} {ms : List Node} (h : Writes d b cs ms) :
    (∀ e, b ≤ e → e < d.elements.size → d'.face e = d.face e) → Writes d' b cs ms := by
  induction h with
  | nil => exact fun _ => .nil
  | text _ ih => exact fun same => .text (ih same)
  | element past face _ _ inner rest =>
    intro same
    -- The element's children lie after it, so after the place too.
    refine .element past ((same _ past (lt_of_face face)).trans face) (inner fun e after => same e ?_) (rest same)
    omega

end Writes

/-! ## Writing children out -/

/-- The markup of a child, an element's down to a depth. -/
def childMarkup (d : Document L) (depth : Nat) : Child → String
  | .text data => Text.escape data
  | .element k => d.outerAt depth k

/-- The attributes of an element with no class, as markup, are its attributes written out. -/
theorem attrMarkup_of_classless {e : Element L} (none : e.classes = []) :
    attrMarkup e = writeAttrs Text.escape e.attrs := by
  simp [attrMarkup, none, writeAttrs, String.append_assoc]

/-- An element's markup down to one more level: its tag, its attributes and its children's
markup. -/
theorem outerAt_succ {d : Document L} {x depth : Nat} {e : Element L} (found : d.get? x = some e) :
    d.outerAt (depth + 1) x =
      "<" ++ e.tag ++ attrMarkup e ++ ">" ++ String.join (e.children.map (d.childMarkup depth)) ++
        "</" ++ e.tag ++ ">" := by
  rw [outerAt, found]
  rfl

/-- Children that write a forest serialize as the forest written out, with escaped texts, wherever
the depth reaches the last element. -/
theorem Writes.markup {d : Document L} {cs : List Child} {ms : List Node} {b : Nat} (h : d.Writes b cs ms) :
    ∀ depth, d.elements.size ≤ depth + b → String.join (cs.map (d.childMarkup depth)) = Node.writeAll Text.escape ms := by
  induction h with
  | nil => intro depth _; simp
  | @text b data cs ms _ ih =>
    intro depth reach
    rw [List.map_cons, String.join_cons, ih depth reach, show Node.text data :: ms = [.text data] ++ ms from rfl,
      Node.writeAll_append, Node.writeAll_text]
    rfl
  | @element b e tag attrs children cs gs ms past face _ _ inner rest =>
    intro depth reach
    obtain ⟨el, found, same⟩ := Option.map_eq_some_iff.1 face
    -- An element lies below the end of the store, so the depth has a level for it.
    have inside : e < d.elements.size := lt_of_face face
    obtain ⟨depth, rfl⟩ : ∃ k, depth = k + 1 := ⟨depth - 1, by omega⟩
    simp only [Element.face, Face.mk.injEq] at same
    obtain ⟨tagged, classless, attrsOf, childrenOf⟩ := same
    rw [List.map_cons, String.join_cons, rest _ reach, show Node.element tag attrs gs :: ms = [.element tag attrs gs] ++ ms
      from rfl, Node.writeAll_append, Node.writeAll_element]
    simp only [childMarkup]
    rw [outerAt_succ found, attrMarkup_of_classless classless, tagged, attrsOf, childrenOf, inner depth (by omega)]

/-- The markup of the children of an element whose children write a forest is that forest written
out. -/
theorem innerHTML_of_writes {d : Document L} {x b : Nat} {f : Face} {ms : List Node} (found : d.face x = some f)
    (writes : d.Writes b f.children ms) : d.innerHTML x = Node.writeAll Text.escape ms := by
  obtain ⟨el, got, rfl⟩ := Option.map_eq_some_iff.1 found
  rw [← writes.markup (d.elements.size + 1) (by omega)]
  simp only [innerHTML, got, Element.face]
  congr

/-! ## Appending to an element -/

/-- What a run that mounts into an element leaves, against the document before it: the element has
its old children followed by children made since that write `ms`, and every other element that
was there keeps its face. -/
structure Appends (d d' : Document L) (into : Nat) (ms : List Node) : Prop where
  children : ∃ C, d'.face into = (d.face into).map (fun f => { f with children := f.children ++ C }) ∧
    d'.Writes d.elements.size C ms
  frame : ∀ e < d.elements.size, e ≠ into → d'.face e = d.face e
  size_le : d.elements.size ≤ d'.elements.size

namespace Appends

variable {d d₁ d₂ : Document L} {into : Nat} {ms ms' : List Node}

theorem refl (d : Document L) (into : Nat) : Appends d d into [] :=
  ⟨⟨[], by cases d.face into <;> simp, .nil⟩, fun _ _ _ => rfl, Nat.le_refl _⟩

/-- A change that keeps every face and the size appends nothing. -/
theorem of_faces (size : d'.elements.size = d.elements.size) (faces : ∀ x, d'.face x = d.face x) :
    Appends d d' into [] :=
  ⟨⟨[], by rw [faces]; cases d.face into <;> simp, .nil⟩, fun e _ _ => faces e, size.ge⟩

/-- Mounting in two runs: what the second appends follows what the first did, and the content of
the first, made before the second began, is not touched by it. -/
theorem trans (inside : into < d.elements.size) (h₁ : Appends d d₁ into ms) (h₂ : Appends d₁ d₂ into ms') :
    Appends d d₂ into (ms ++ ms') := by
  obtain ⟨C, face₁, writes₁⟩ := h₁.children
  obtain ⟨C', face₂, writes₂⟩ := h₂.children
  refine ⟨⟨C ++ C', ?_, ?_⟩, fun e he ne => ?_, Nat.le_trans h₁.size_le h₂.size_le⟩
  · rw [face₂, face₁, Option.map_map]
    congr 1
    funext f
    simp
  · -- The first content's elements lie from the first document's size on, above the element mounted into.
    exact (writes₁.frame fun e past made => h₂.frame e made (by omega)).append (writes₂.mono h₁.size_le)
  · rw [h₂.frame e (Nat.lt_of_lt_of_le he h₁.size_le) ne, h₁.frame e he ne]

/-- Appending a text writes that text. -/
theorem text (d : Document L) (into : Nat) (data : String) :
    Appends d (d.appendText into data) into [.text data] := by
  refine ⟨⟨[.text data], by simp [face_appendText], .text .nil⟩, fun e _ ne => ?_, by simp⟩
  simp [face_appendText, ne]

/-- An element placed into the container, then filled by a mount into it. Before the inner mount,
the container has the new element last, the element has its tag and attributes and no class and no
children, and every other element that was there keeps its face; the mount into the element
appends its children. -/
theorem element {tag : String} {attrs : Dict String} {gs : List Node} (inside : into < d.elements.size)
    (size₁ : d₁.elements.size = d.elements.size + 1)
    (container : d₁.face into = (d.face into).map (fun f => { f with children := f.children ++ [.element d.elements.size] }))
    (made : d₁.face d.elements.size = some ⟨tag, [], attrs, []⟩)
    (others : ∀ e < d.elements.size, e ≠ into → d₁.face e = d.face e)
    (inner : Appends d₁ d₂ d.elements.size gs) :
    Appends d d₂ into [.element tag attrs gs] := by
  obtain ⟨C, face₂, writes₂⟩ := inner.children
  have grown := inner.size_le
  refine ⟨⟨[.element d.elements.size], ?_, .element (Nat.le_refl _) ?_ (size₁ ▸ writes₂) .nil⟩, fun e he ne => ?_,
    by omega⟩
  · rw [inner.frame into (by omega) (Nat.ne_of_lt inside), container]
  · rw [face₂, made]
    rfl
  · rw [inner.frame e (by omega) (by omega), others e he ne]

end Appends

end Document

end ViewEngine.Host
