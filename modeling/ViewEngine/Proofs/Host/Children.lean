import ViewEngine.Host.Markup

/-! How each change to a host document moves element children, and what hangs under what. -/

namespace ViewEngine.Host

namespace Document

variable {L : Type}

/-- Changing one element leaves every other place as it was. -/
@[simp] theorem get?_modify (d : Document L) (id x : Nat) (f : Element L → Element L) :
    (d.modify id f).get? x = if id = x then (d.get? x).map f else d.get? x := by
  -- The store is an array, and changing one slot is the array's own `modify`.
  simp [modify, get?, Array.getElem?_modify]

/-- Changing an element keeps the size of the store. -/
@[simp] theorem size_modify (d : Document L) (id : Nat) (f : Element L → Element L) :
    (d.modify id f).elements.size = d.elements.size := by
  simp [modify]

/-- A created element takes the next place of the store. -/
@[simp] theorem create_snd (d : Document L) (tag : String) : (d.create tag).2 = d.elements.size := rfl

/-- Creating adds one place to the store. -/
@[simp] theorem size_create (d : Document L) (tag : String) :
    (d.create tag).1.elements.size = d.elements.size + 1 := by
  simp [create]

/-- A created element is fresh, and the places before it keep their elements. -/
theorem get?_create (d : Document L) (tag : String) (x : Nat) :
    (d.create tag).1.get? x = if x = d.elements.size then some (Element.fresh tag) else d.get? x := by
  -- Pushing onto the array fills exactly the slot at its old size.
  simp [create, get?, Array.getElem?_push]

/-- The element ids among a concatenation of children are those of each part. -/
@[simp] theorem elementIds_append (a b : List Child) : elementIds (a ++ b) = elementIds a ++ elementIds b := by
  -- The filter walks the first part, then the second.
  induction a with
  | nil => rfl
  | cons c rest ih => cases c <;> simp [elementIds, ih]

@[simp] theorem elementIds_nil : elementIds [] = [] := rfl

@[simp] theorem elementIds_element (i : Nat) : elementIds [.element i] = [i] := rfl

@[simp] theorem elementIds_text (data : String) : elementIds [.text data] = [] := rfl

/-- The element children of a place, read through its element when there is one. -/
theorem childElements_eq (d : Document L) (x : Nat) :
    d.childElements x = ((d.get? x).map (fun e => elementIds e.children)).getD [] := by
  unfold childElements
  cases d.get? x <;> rfl

/-- A change that keeps an element's children keeps every place's element children. -/
theorem childElements_modify_of_children {d : Document L} {id : Nat} {f : Element L → Element L}
    (keeps : ∀ e, (f e).children = e.children) (x : Nat) :
    (d.modify id f).childElements x = d.childElements x := by
  -- Only the slot `id` changes, and its children read the same.
  rw [childElements_eq, childElements_eq, get?_modify]
  by_cases same : id = x
  · cases d.get? x <;> simp [same, keeps]
  · simp [same]

/-- A fresh element has no children, and creating one gives no other place new children. -/
theorem childElements_create (d : Document L) (tag : String) (x : Nat) :
    (d.create tag).1.childElements x = d.childElements x := by
  -- The new place holds a fresh element; an empty place before it had no children either.
  rw [childElements_eq, childElements_eq, get?_create]
  by_cases fresh : x = d.elements.size
  · subst fresh
    simp [get?, Element.fresh]
  · simp [fresh]

/-- Appending an element adds it after the parent's element children and nowhere else. -/
theorem childElements_appendChild (d : Document L) (parent child x : Nat) :
    (d.appendChild parent child).childElements x =
      if x = parent ∧ (d.get? parent).isSome then d.childElements x ++ [child] else d.childElements x := by
  -- The child only learns its parent; the parent's list grows by one element.
  unfold appendChild
  simp only
  rw [childElements_eq, childElements_eq, get?_modify, get?_modify]
  by_cases here : x = parent
  · subst here
    by_cases self : child = x
    · cases d.get? x <;> simp [self]
    · cases d.get? x <;> simp [self]
  · by_cases self : child = x
    · cases d.get? x <;> simp [self, here, Ne.symm here]
    · simp [self, here, Ne.symm here]

/-- Appending a text adds no element child anywhere. -/
theorem childElements_appendText (d : Document L) (id : Nat) (data : String) (x : Nat) :
    (d.appendText id data).childElements x = d.childElements x := by
  -- The new child is a text, which the element view skips.
  unfold appendText
  rw [childElements_eq, childElements_eq, get?_modify]
  by_cases same : id = x
  · cases d.get? x <;> simp [same]
  · simp [same]

/-- Forgetting the parents of some elements changes no list of children. -/
private theorem childElements_forgetParents (ids : List Nat) (start : Document L) (y : Nat) :
    (ids.foldl (fun d c => d.modify c (fun k => { k with parent := none })) start).childElements y =
      start.childElements y := by
  -- Each step of the fold only resets a parent field.
  induction ids generalizing start with
  | nil => rfl
  | cons c rest ih =>
    rw [List.foldl_cons, ih]
    exact childElements_modify_of_children (f := fun k => { k with parent := none }) (fun _ => rfl) y

/-- Clearing an element empties its element children and leaves every other list alone. -/
theorem childElements_removeChildren (d : Document L) (id x : Nat) :
    (d.removeChildren id).childElements x = if x = id then [] else d.childElements x := by
  -- Clearing first forgets the parent of each child, which changes no list, then empties `id`.
  unfold removeChildren
  cases found : d.get? id with
  | none =>
    by_cases same : x = id
    · subst same
      simp [childElements_eq, found]
    · simp [same]
  | some e =>
    simp only
    rw [childElements_eq, get?_modify]
    by_cases same : id = x
    · subst same
      cases (List.foldl (fun d c => d.modify c (fun k => { k with parent := none })) d
          (elementIds e.children)).get? id <;> simp
    · simp only [same, if_false, Ne.symm same]
      rw [← childElements_eq]
      exact childElements_forgetParents _ d x

/-- An element hangs under another, itself included, when a chain of element children leads from
the other down to it. -/
inductive Under (d : Document L) : Nat → Nat → Prop where
  | refl (x : Nat) : Under d x x
  | child {x y z : Nat} : Under d x y → z ∈ d.childElements y → Under d x z

/-- The shape of the documents the renderer builds on: every child is an element of the store,
the elements from `base` on only have children from `base` on, each of those has one parent and
comes after it. -/
structure Forest (d : Document L) (base : Nat) : Prop where
  closed : ∀ x, ∀ e ∈ d.childElements x, e < d.elements.size
  above : ∀ x, base ≤ x → ∀ e ∈ d.childElements x, base ≤ e
  parent_unique : ∀ e, base ≤ e → ∀ x y, e ∈ d.childElements x → e ∈ d.childElements y → x = y
  ordered : ∀ x, ∀ e ∈ d.childElements x, base ≤ e → x < e

@[simp] theorem size_appendChild (d : Document L) (parent child : Nat) :
    (d.appendChild parent child).elements.size = d.elements.size := by
  simp [appendChild]

@[simp] theorem size_appendText (d : Document L) (id : Nat) (data : String) :
    (d.appendText id data).elements.size = d.elements.size := by
  simp [appendText]

/-- Forgetting the parents of some elements keeps the store's size. -/
private theorem size_forgetParents (ids : List Nat) (start : Document L) :
    (ids.foldl (fun d c => d.modify c (fun k => { k with parent := none })) start).elements.size =
      start.elements.size := by
  induction ids generalizing start with
  | nil => rfl
  | cons c rest ih => rw [List.foldl_cons, ih, size_modify]

@[simp] theorem size_removeChildren (d : Document L) (id : Nat) :
    (d.removeChildren id).elements.size = d.elements.size := by
  unfold removeChildren
  split
  · rfl
  · rw [size_modify, size_forgetParents]

/-- A document with fewer links and no fewer elements keeps the forest shape. -/
theorem Forest.mono {d d' : Document L} {base : Nat} (forest : d.Forest base)
    (sub : ∀ x, d'.childElements x ⊆ d.childElements x) (size : d.elements.size ≤ d'.elements.size) :
    d'.Forest base where
  closed x e mem := Nat.lt_of_lt_of_le (forest.closed x e (sub x mem)) size
  above x hx e mem := forest.above x hx e (sub x mem)
  parent_unique e he x y hx hy := forest.parent_unique e he x y (sub x hx) (sub y hy)
  ordered x e mem he := forest.ordered x e (sub x mem) he

/-- Creating an element and appending it to an element of the store keeps the forest shape. -/
theorem Forest.create_appendChild {d : Document L} {base parent : Nat} (tag : String)
    (forest : d.Forest base) (fresh : base ≤ d.elements.size) (found : parent < d.elements.size) :
    ((d.create tag).1.appendChild parent d.elements.size).Forest base := by
  -- The new element is a leaf that only its parent names, so old links keep their shape.
  have present : ((d.create tag).1.get? parent).isSome := by
    rw [get?_create, if_neg (Nat.ne_of_lt found)]
    simp [get?, found]
  have links : ∀ x, ((d.create tag).1.appendChild parent d.elements.size).childElements x =
      if x = parent then d.childElements x ++ [d.elements.size] else d.childElements x := by
    intro x
    rw [childElements_appendChild, childElements_create]
    by_cases here : x = parent <;> simp [here, present]
  constructor
  · intro x e mem
    rw [links] at mem
    simp only [size_appendChild, size_create]
    split at mem
    · rcases List.mem_append.1 mem with old | new
      · exact Nat.lt_succ_of_lt (forest.closed x e old)
      · rw [List.mem_singleton.1 new]
        exact Nat.lt_succ_self _
    · exact Nat.lt_succ_of_lt (forest.closed x e mem)
  · intro x hx e mem
    rw [links] at mem
    split at mem
    · rcases List.mem_append.1 mem with old | new
      · exact forest.above x hx e old
      · rw [List.mem_singleton.1 new]
        exact fresh
    · exact forest.above x hx e mem
  · intro e he x y hx hy
    rw [links] at hx hy
    -- The new element sits in its parent's list alone; an old one in its one old list.
    by_cases new : e = d.elements.size
    · subst new
      have only : ∀ z, d.elements.size ∈ d.childElements z → False :=
        fun z mem => Nat.lt_irrefl _ (forest.closed z _ mem)
      split at hx <;> split at hy
      · simp_all
      · simp_all
      · simp_all
      · exact absurd hx (only x)
    · have old : ∀ z, e ∈ (if z = parent then d.childElements z ++ [d.elements.size]
          else d.childElements z) → e ∈ d.childElements z := by
        intro z mem
        split at mem
        · simpa [new] using mem
        · exact mem
      exact forest.parent_unique e he x y (old x hx) (old y hy)
  · intro x e mem he
    rw [links] at mem
    split at mem
    · rename_i here
      rcases List.mem_append.1 mem with old | new
      · exact forest.ordered x e old he
      · rw [List.mem_singleton.1 new, here]
        exact found
    · exact forest.ordered x e mem he

theorem Under.trans {d : Document L} {x y z : Nat} (h₁ : Under d x y) (h₂ : Under d y z) :
    Under d x z := by
  induction h₂ with
  | refl => exact h₁
  | child _ mem ih => exact .child ih mem

/-- A document whose children lists are those of another has the same hanging. -/
theorem under_congr {d d' : Document L} (same : ∀ x, d'.childElements x = d.childElements x)
    {x y : Nat} : Under d' x y ↔ Under d x y := by
  constructor
  · intro h
    induction h with
    | refl => exact .refl _
    | child _ mem ih => exact .child ih (same _ ▸ mem)
  · intro h
    induction h with
    | refl => exact .refl _
    | child _ mem ih => exact .child ih ((same _).symm ▸ mem)

/-- Two stores with the same places and the same element children: changes to classes,
attributes, properties, listeners and texts leave the element tree as it was. -/
structure SameTree (d d' : Document L) : Prop where
  size : d'.elements.size = d.elements.size
  children : ∀ x, d'.childElements x = d.childElements x

namespace SameTree

theorem refl (d : Document L) : d.SameTree d := ⟨rfl, fun _ => rfl⟩

theorem trans {d₁ d₂ d₃ : Document L} (h₁ : d₁.SameTree d₂) (h₂ : d₂.SameTree d₃) : d₁.SameTree d₃ :=
  ⟨h₂.size.trans h₁.size, fun x => (h₂.children x).trans (h₁.children x)⟩

/-- Changing an element without touching its children keeps the tree. -/
theorem of_modify (d : Document L) (id : Nat) {f : Element L → Element L}
    (keeps : ∀ e, (f e).children = e.children) : d.SameTree (d.modify id f) :=
  ⟨size_modify d id f, childElements_modify_of_children keeps⟩

theorem addClass (d : Document L) (id : Nat) (name : String) : d.SameTree (d.addClass id name) := by
  refine of_modify d id (fun e => ?_)
  split <;> rfl

theorem setDataset (d : Document L) (id : Nat) (key value : String) :
    d.SameTree (d.setDataset id key value) :=
  of_modify d id (fun _ => rfl)

theorem setAttribute (d : Document L) (id : Nat) (name value : String) :
    d.SameTree (d.setAttribute id name value) := by
  unfold Document.setAttribute
  split
  · exact of_modify d id (fun _ => rfl)
  · exact of_modify d id (fun _ => rfl)

theorem setProperty (d : Document L) (id : Nat) (name : String) (value : Value) :
    d.SameTree (d.setProperty id name value) :=
  of_modify d id (fun _ => rfl)

theorem deleteProperty (d : Document L) (id : Nat) (name : String) :
    d.SameTree (d.deleteProperty id name) :=
  of_modify d id (fun _ => rfl)

theorem addListener (d : Document L) (id : Nat) (event : String) (l : L) :
    d.SameTree (d.addListener id event l) :=
  of_modify d id (fun _ => rfl)

theorem appendText (d : Document L) (id : Nat) (data : String) : d.SameTree (d.appendText id data) :=
  ⟨size_appendText d id data, childElements_appendText d id data⟩

end SameTree

/-- The forest shape is read off the element tree alone. -/
theorem Forest.of_sameTree {d d' : Document L} {base : Nat} (h : d.SameTree d') (forest : d.Forest base) :
    d'.Forest base where
  closed x e mem := h.size ▸ forest.closed x e (h.children x ▸ mem)
  above x hx e mem := forest.above x hx e (h.children x ▸ mem)
  parent_unique e he x y hx hy := forest.parent_unique e he x y (h.children x ▸ hx) (h.children y ▸ hy)
  ordered x e mem he := forest.ordered x e (h.children x ▸ mem) he

/-- What hangs under an element from `base` on is from `base` on. -/
theorem Under.le_of_forest {d : Document L} {base x y : Nat} (forest : d.Forest base)
    (h : Under d x y) (hx : base ≤ x) : base ≤ y := by
  induction h with
  | refl => exact hx
  | child _ mem ih => exact forest.above _ ih _ mem

/-- A place that no children list names hangs under nothing but itself. -/
theorem Under.eq_of_orphan {d : Document L} {x y : Nat} (h : Under d x y)
    (orphan : ∀ z, y ∉ d.childElements z) : x = y := by
  cases h with
  | refl => rfl
  | child _ mem => exact absurd mem (orphan _)

/-- The last link of a chain of children that ends below its start. -/
theorem Under.last {d : Document L} {x z : Nat} (h : Under d x z) (ne : x ≠ z) :
    ∃ y, Under d x y ∧ z ∈ d.childElements y := by
  cases h with
  | refl => exact absurd rfl ne
  | child h mem => exact ⟨_, h, mem⟩

/-- A child of something under `a` hangs under one of the children of `a`. -/
theorem Under.strict {d : Document L} {a x e : Nat} (h : Under d a x) (mem : e ∈ d.childElements x) :
    ∃ k ∈ d.childElements a, Under d k e := by
  induction h generalizing e with
  | refl => exact ⟨e, mem, .refl _⟩
  | child _ link ih =>
    obtain ⟨k, hk, below⟩ := ih link
    exact ⟨k, hk, .child below mem⟩

/-- In a forest, what hangs under an element from `base` on comes after it. -/
theorem Under.le {d : Document L} {base x y : Nat} (forest : d.Forest base) (h : Under d x y)
    (hx : base ≤ x) : x ≤ y := by
  induction h with
  | refl => exact Nat.le_refl _
  | @child y z up mem ih =>
    have hy : base ≤ y := up.le_of_forest forest hx
    exact Nat.le_of_lt (Nat.lt_of_le_of_lt ih (forest.ordered y z mem (forest.above y hy z mem)))

/-- Appending a fresh element hangs it under everything its parent hangs under, and nothing else
moves. -/
theorem under_appendChild {d : Document L} {parent child x y : Nat}
    (found : (d.get? parent).isSome) (ne : child ≠ parent) (leaf : d.childElements child = []) :
    Under (d.appendChild parent child) x y ↔ Under d x y ∨ (y = child ∧ Under d x parent) := by
  constructor
  · intro h
    induction h with
    | refl => exact .inl (.refl _)
    | @child y z _ mem ih =>
      rw [childElements_appendChild] at mem
      rcases ih with below | ⟨rfl, _⟩
      · by_cases here : y = parent ∧ (d.get? parent).isSome
        · rw [if_pos here, List.mem_append, List.mem_singleton] at mem
          rcases mem with mem | rfl
          · exact .inl (.child below mem)
          · exact .inr ⟨rfl, here.1 ▸ below⟩
        · rw [if_neg here] at mem
          exact .inl (.child below mem)
      · -- The fresh element has no children to lead anywhere.
        rw [if_neg (fun h => ne h.1), leaf] at mem
        exact absurd mem (List.not_mem_nil)
  · have grows : ∀ {a b}, Under d a b → Under (d.appendChild parent child) a b := by
      intro a b h
      induction h with
      | refl => exact .refl _
      | @child y z _ mem ih =>
        refine .child ih ?_
        rw [childElements_appendChild]
        split
        · exact List.mem_append_left _ mem
        · exact mem
    rintro (h | ⟨rfl, h⟩)
    · exact grows h
    · refine .child (grows h) ?_
      rw [childElements_appendChild, if_pos ⟨rfl, found⟩]
      exact List.mem_append_right _ (List.mem_singleton_self _)

/-- Creating an element and appending it to an element of the store hangs it under what its parent
hangs under, and nothing else moves. -/
theorem under_create_appendChild {d : Document L} {parent x y : Nat} (tag : String)
    (found : parent < d.elements.size) :
    Under ((d.create tag).1.appendChild parent d.elements.size) x y ↔
      Under d x y ∨ (y = d.elements.size ∧ Under d x parent) := by
  have present : ((d.create tag).1.get? parent).isSome := by
    rw [get?_create, if_neg (Nat.ne_of_lt found)]
    simp [get?, found]
  have leaf : (d.create tag).1.childElements d.elements.size = [] := by
    rw [childElements_create, childElements_eq]
    simp [get?]
  have same : ∀ z, (d.create tag).1.childElements z = d.childElements z := childElements_create d tag
  rw [under_appendChild present (Nat.ne_of_gt found) leaf, under_congr same, under_congr same]

/-- Clearing an element only cuts chains through it: what hung under it by one of its children may
come loose, and nothing else does. -/
theorem under_of_under_removeChildren {d : Document L} {el x y : Nat}
    (h : Under (d.removeChildren el) x y) : Under d x y := by
  induction h with
  | refl => exact .refl _
  | @child y z _ mem ih =>
    rw [childElements_removeChildren] at mem
    split at mem
    · exact absurd mem List.not_mem_nil
    · exact .child ih mem

/-- Whatever hung before clearing still hangs, or hangs under one of the cleared children. -/
theorem under_removeChildren_or {d : Document L} {el x y : Nat} (h : Under d x y) :
    Under (d.removeChildren el) x y ∨ ∃ k ∈ d.childElements el, Under d k y := by
  induction h with
  | refl => exact .inl (.refl _)
  | @child y z _ mem ih =>
    rcases ih with kept | ⟨k, hk, below⟩
    · by_cases here : y = el
      · subst here
        exact .inr ⟨z, mem, .refl _⟩
      · refine .inl (.child kept ?_)
        rw [childElements_removeChildren, if_neg here]
        exact mem
    · exact .inr ⟨k, hk, .child below mem⟩

/-- In a forest, clearing an element from `base` on cuts loose everything under its children:
nothing from before `base` still reaches it. -/
theorem not_under_removeChildren {d : Document L} {base el x y : Nat} (forest : d.Forest base)
    (hel : base ≤ el) (hx : x < base) (h : Under (d.removeChildren el) x y) :
    ¬ ∃ k ∈ d.childElements el, Under d k y := by
  induction h with
  | refl =>
    rintro ⟨k, hk, below⟩
    have : base ≤ x := below.le_of_forest forest (forest.above _ hel _ hk)
    omega
  | @child y z _ mem ih =>
    rintro ⟨k, hk, below⟩
    rw [childElements_removeChildren] at mem
    split at mem
    · exact absurd mem List.not_mem_nil
    · rename_i ne
      have hz : base ≤ z := below.le_of_forest forest (forest.above _ hel _ hk)
      by_cases top : k = z
      · -- The cleared child itself: its one parent is the cleared element.
        subst top
        exact ne (forest.parent_unique _ hz _ _ mem hk)
      · obtain ⟨y', up, link⟩ := below.last top
        have : y' = y := forest.parent_unique _ hz _ _ link mem
        subst this
        exact ih ⟨k, hk, up⟩

end Document

end ViewEngine.Host
