import ViewEngine.Proofs.Host.Children

/-! What the children of an element show: each text as itself, and each element as its tag with what
its own children show. Appending to an element changes what that element holds and nothing else, so
what children show survives every later change that leaves their elements' tags and children alone. -/

namespace ViewEngine.Host

/-- Mounted content as a reader of the document sees it: a text, or an element with its tag and the
forms of its children. -/
inductive Form where
  | text (data : String)
  | element (tag : String) (children : List Form)
  deriving Repr, Inhabited

namespace Document

variable {L : Type}

/-- The tag and the children of the element at a place. -/
def shapeAt (d : Document L) (x : Nat) : Option (String × List Child) :=
  (d.get? x).map (fun e => (e.tag, e.children))

/-- Children show forms from place `b` on: a text shows itself, and an element shows its tag and what
its own children show, at a place from `b` on, its children being made after it. -/
inductive Shows (d : Document L) : Nat → List Child → List Form → Prop where
  | nil {b : Nat} : Shows d b [] []
  | text {b : Nat} {data : String} {cs : List Child} {fs : List Form} :
      Shows d b cs fs → Shows d b (.text data :: cs) (.text data :: fs)
  | element {b e : Nat} {tag : String} {children cs : List Child} {gs fs : List Form} :
      b ≤ e → d.shapeAt e = some (tag, children) → Shows d (e + 1) children gs → Shows d b cs fs →
      Shows d b (.element e :: cs) (.element tag gs :: fs)

theorem shapeAt_of_size_le {d : Document L} {x : Nat} (past : d.elements.size ≤ x) : d.shapeAt x = none := by
  simp [shapeAt, get?, Array.getElem?_eq_none past]

theorem lt_of_shapeAt {d : Document L} {x : Nat} {sh : String × List Child} (h : d.shapeAt x = some sh) :
    x < d.elements.size := by
  rcases Nat.lt_or_ge x d.elements.size with inside | past
  · exact inside
  · rw [shapeAt_of_size_le past] at h
    cases h

/-- A change of one element that keeps its tag and children keeps every place's shape. -/
theorem shapeAt_modify_of_shape {d : Document L} {id : Nat} {f : Element L → Element L}
    (keeps : ∀ e, (f e).tag = e.tag ∧ (f e).children = e.children) (x : Nat) :
    (d.modify id f).shapeAt x = d.shapeAt x := by
  simp only [shapeAt, get?_modify]
  split
  · cases d.get? x <;> simp [keeps]
  · rfl

/-- A change of one element that keeps its tag and changes its children by a function changes that
place's shape alone. -/
theorem shapeAt_modify_children {d : Document L} {el : Nat} {f : Element L → Element L}
    {g : List Child → List Child} (changes : ∀ e, (f e).tag = e.tag ∧ (f e).children = g e.children) (x : Nat) :
    (d.modify el f).shapeAt x = if x = el then (d.shapeAt x).map (fun sh => (sh.1, g sh.2)) else d.shapeAt x := by
  simp only [shapeAt, get?_modify]
  by_cases same : x = el
  · subst same
    cases d.get? x <;> simp [changes]
  · simp [same, Ne.symm same]

theorem shapeAt_create (d : Document L) (tag : String) (x : Nat) :
    (d.create tag).1.shapeAt x = if x = d.elements.size then some (tag, []) else d.shapeAt x := by
  simp only [shapeAt, get?_create]
  split <;> rfl

/-- Appending an element adds it to the end of its parent's children; no other place changes
shape. -/
theorem shapeAt_appendChild (d : Document L) (parent child x : Nat) :
    (d.appendChild parent child).shapeAt x =
      if x = parent then (d.shapeAt x).map (fun sh => (sh.1, sh.2 ++ [.element child])) else d.shapeAt x := by
  -- Recording the child's parent changes no shape, even when the child is the parent itself.
  simp only [appendChild, shapeAt, get?_modify]
  by_cases same : x = parent
  · subst same
    by_cases self : child = x <;> cases d.get? x <;> simp [self]
  · by_cases self : child = x <;> cases d.get? x <;> simp [self, same, Ne.symm same]

theorem shapeAt_appendText (d : Document L) (el : Nat) (data : String) (x : Nat) :
    (d.appendText el data).shapeAt x =
      if x = el then (d.shapeAt x).map (fun sh => (sh.1, sh.2 ++ [.text data])) else d.shapeAt x := by
  simp only [appendText]
  refine @shapeAt_modify_children L d el _ (· ++ [.text data]) ?_ x
  intro e
  exact ⟨rfl, rfl⟩

/-- Two documents of one size in which every place has the same shape. -/
structure SameShapes (d d' : Document L) : Prop where
  size : d'.elements.size = d.elements.size
  shape : ∀ x, d'.shapeAt x = d.shapeAt x

namespace SameShapes

theorem refl (d : Document L) : d.SameShapes d := ⟨rfl, fun _ => rfl⟩

theorem trans {d₁ d₂ d₃ : Document L} (h₁ : d₁.SameShapes d₂) (h₂ : d₂.SameShapes d₃) : d₁.SameShapes d₃ :=
  ⟨h₂.size.trans h₁.size, fun x => (h₂.shape x).trans (h₁.shape x)⟩

theorem of_modify (d : Document L) (el : Nat) {f : Element L → Element L}
    (keeps : ∀ e, (f e).tag = e.tag ∧ (f e).children = e.children) : d.SameShapes (d.modify el f) :=
  ⟨size_modify d el f, shapeAt_modify_of_shape keeps⟩

theorem addClass (d : Document L) (el : Nat) (name : String) : d.SameShapes (d.addClass el name) :=
  of_modify d el (fun e => by split <;> exact ⟨rfl, rfl⟩)

theorem setDataset (d : Document L) (el : Nat) (key value : String) : d.SameShapes (d.setDataset el key value) :=
  of_modify d el (fun _ => ⟨rfl, rfl⟩)

theorem setProperty (d : Document L) (el : Nat) (name : String) (value : Value) :
    d.SameShapes (d.setProperty el name value) :=
  of_modify d el (fun _ => ⟨rfl, rfl⟩)

theorem deleteProperty (d : Document L) (el : Nat) (name : String) : d.SameShapes (d.deleteProperty el name) :=
  of_modify d el (fun _ => ⟨rfl, rfl⟩)

theorem setAttribute (d : Document L) (el : Nat) (name value : String) :
    d.SameShapes (d.setAttribute el name value) := by
  unfold Document.setAttribute
  split
  · exact of_modify d el (fun _ => ⟨rfl, rfl⟩)
  · exact of_modify d el (fun _ => ⟨rfl, rfl⟩)

theorem addListener (d : Document L) (el : Nat) (event : String) (l : L) : d.SameShapes (d.addListener el event l) :=
  of_modify d el (fun _ => ⟨rfl, rfl⟩)

end SameShapes

namespace Shows

variable {d d' : Document L} {b : Nat}

theorem append {cs cs' : List Child} {fs fs' : List Form} (h : Shows d b cs fs) (h' : Shows d b cs' fs') :
    Shows d b (cs ++ cs') (fs ++ fs') := by
  induction h with
  | nil => exact h'
  | text _ ih =>
    rw [List.cons_append, List.cons_append]
    exact .text (ih h')
  | element le shape inner _ _ ih =>
    rw [List.cons_append, List.cons_append]
    exact .element le shape inner (ih h')

/-- Children that show forms from a place on show them from any earlier place. -/
theorem mono {b' : Nat} (le : b' ≤ b) {cs : List Child} {fs : List Form} (h : Shows d b cs fs) :
    Shows d b' cs fs := by
  induction h generalizing b' with
  | nil => exact .nil
  | text _ ih => exact .text (ih le)
  | element past shape inner _ _ ih => exact .element (Nat.le_trans le past) shape inner (ih le)

/-- What children show depends only on the shapes of the elements from the place on. -/
theorem frame {cs : List Child} {fs : List Form} (h : Shows d b cs fs) :
    (∀ e, b ≤ e → e < d.elements.size → d'.shapeAt e = d.shapeAt e) → Shows d' b cs fs := by
  induction h with
  | nil => exact fun _ => .nil
  | text _ ih => exact fun same => .text (ih same)
  | element past shape _ _ inner rest =>
    intro same
    -- The element's children lie after it, so after the place too.
    refine .element past ((same _ past (lt_of_shapeAt shape)).trans shape) (inner fun e after => same e ?_) (rest same)
    omega

end Shows

end Document

end ViewEngine.Host
