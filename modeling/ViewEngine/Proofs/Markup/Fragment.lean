import ViewEngine.Proofs.Engine.Depth
import ViewEngine.Proofs.Markup.Render
import ViewEngine.Scenario.Setup

/-! Rendering a fragment to markup. A fragment writes its children one after another, up to the
first that fails, whose failure is then the result; and that is what rendering each child to
markup on its own, in turn, gives, down to the world it leaves. Two things set the fragment's
children apart from its items. A first item that is a mapping is taken as the fragment's props, as
for every node, and is not rendered. And each child of a fragment is rendered a level deeper than
the one before it, so the law holds wherever the fragment's rendering does not run out of depth,
and in the other direction given one more level of depth for each item. -/

namespace ViewEngine

/-- The children of a node with these items after its tag: all of them, less a first one that is a
mapping, which is the node's props. -/
def nodeChildren : List Value → List Value
  | first :: rest => if first.asProps?.isSome then rest else first :: rest
  | [] => []

theorem length_nodeChildren_le (items : List Value) : (nodeChildren items).length ≤ items.length := by
  cases items with
  | nil => rfl
  | cons first rest => by_cases mapping : first.asProps?.isSome <;> simp [nodeChildren, mapping]

/-- Taking a node apart keeps its tag and leaves its children. -/
theorem split_cons (tag : Value) (items : List Value) :
    ∃ props, split (tag :: items) = some ⟨tag, props, nodeChildren items⟩ := by
  cases items with
  | nil => exact ⟨none, rfl⟩
  | cons first rest =>
    cases mapping : first.asProps? with
    | none => exact ⟨none, by simp [split, nodeChildren, mapping]⟩
    | some props => exact ⟨props, by simp [split, nodeChildren, mapping]⟩

namespace Run

/-- Rendering to markup within a depth allowance, a failed capability check and a failure being
returned as the result. -/
def renderWithin (n r : Nat) (v : Value) : Run (Except Failure String) :=
  attempt (recover (renderString n r v))

theorem renderToString_eq_renderWithin (r : Nat) (v : Value) :
    renderToString r v = renderWithin depthAllowance r v := rfl

/-- Runs `x` and, on what it returns, `g`; a failure `x` returns is the result. -/
def bindOk {α β : Type} (x : Run (Except Failure α)) (g : α → Run (Except Failure β)) :
    Run (Except Failure β) := do
  match ← x with
  | .error f => pure (.error f)
  | .ok a => g a

/-- Renders values one after another, each with `render`, up to the first that fails: what they
wrote, one after another, or that failure. -/
def renderEach (render : Value → Run (Except Failure String)) : List Value → Run (Except Failure String)
  | [] => pure (.ok "")
  | v :: rest =>
    bindOk (render v) fun first => bindOk (renderEach render rest) fun others => pure (.ok (first ++ others))

section Handlers

variable {α β : Type}

theorem bindOk_run (x : Run (Except Failure α)) (g : α → Run (Except Failure β)) (w : World) :
    (bindOk x g).run w = match x.run w with
      | .ok (.error f) w' => .ok (.error f) w'
      | .ok (.ok a) w' => (g a).run w'
      | .error e w' => .error e w' := by
  rw [bindOk, bind_run]
  rcases x.run w with ⟨_ | _, _⟩ | _ <;> rfl

@[gcongr] theorem Extends.bindOk {x x' : Run (Except Failure α)} {g g' : α → Run (Except Failure β)}
    (hx : Extends x x') (hg : ∀ a, Extends (g a) (g' a)) : Extends (bindOk x g) (bindOk x' g') := by
  unfold Run.bindOk
  gcongr with result
  cases result with
  | error f => rfl
  | ok a => exact hg a

/-- Returning failures distributes over sequencing: a failure of the first step is the result,
else the second step runs. -/
theorem attempt_recover_bind (x : Run α) (g : α → Run β) :
    attempt (recover (x >>= g)) = bindOk (attempt (recover x)) fun a => attempt (recover (g a)) := by
  funext w
  show (attempt (recover (x >>= g))).run w = (bindOk _ _).run w
  rcases h : x.run w with ⟨a, w₁⟩ | ⟨e, w₁⟩
  · simp only [bindOk, attempt_run, recover_run, bind_run, h]
  · -- A capability stop and a failure are both returned, the other stops passed on, on both sides.
    cases e <;> simp only [bindOk, attempt_run, recover_run, bind_run, h] <;> rfl

theorem attempt_recover_pure (a : α) : attempt (recover (pure a : Run α)) = pure (.ok a) := rfl

theorem attempt_recover_exhausted : attempt (recover (throw .exhausted : Run α)) = throw .exhausted := rfl

end Handlers

theorem renderWithin_extends {m k : Nat} (le : m ≤ k) (r : Nat) (v : Value) :
    Extends (renderWithin m r v) (renderWithin k r v) := by
  unfold renderWithin
  gcongr
  exact renderString_extends le r v

theorem renderString_text (n r : Nat) {v : Value} (text : v.asNode? = none) :
    renderString (n + 1) r v = textOf r v.text := by
  rw [renderString.eq_def]
  simp only [text]

/-- A value that is no node renders as its text, escaped as the renderer says. -/
theorem renderWithin_text (n r : Nat) (v : Value) (text : v.asNode? = none) (w : World) :
    (renderWithin (n + 1) r v).run w = .ok (.ok (escaper (w.escapes r) v.text)) w := by
  rw [renderWithin, attempt_run, recover_run, renderString_text n r text, textOf_run]

/-- A fragment renders its children, a level below. -/
theorem renderString_frag (k r : Nat) (items : List Value) :
    renderString (k + 1) r (.frag items) = renderAll k r (nodeChildren items) := by
  obtain ⟨props, parted⟩ := split_cons (.str fragmentTag) items
  rw [renderString.eq_def]
  simp only [Value.frag, Value.asNode?, parted]
  rfl

theorem renderAll_nil_within (n r : Nat) : attempt (recover (renderAll (n + 1) r [])) = pure (.ok "") := rfl

/-- Rendering children to markup: the first a level below, then the others, up to the first that
fails. -/
theorem renderAll_cons_within (k r : Nat) (v : Value) (rest : List Value) :
    attempt (recover (renderAll (k + 1) r (v :: rest))) =
      bindOk (renderWithin k r v) fun first =>
        bindOk (attempt (recover (renderAll k r rest))) fun others => pure (.ok (first ++ others)) := by
  rw [renderAll.eq_def]
  simp only [attempt_recover_bind, attempt_recover_pure]
  rfl

/-- Out of depth, rendering children runs out at once. -/
theorem renderAll_zero_extends (r : Nat) (cs : List Value) (y : Run (Except Failure String)) :
    Extends (attempt (recover (renderAll 0 r cs))) y := by
  rw [renderAll.eq_def, attempt_recover_exhausted]
  exact .exhausted y

/-- Rendering children within `k`, the first a level below and each next one a level below the one
before, is extended by rendering each in turn within any `j ≥ k`. -/
theorem renderAll_extends_renderEach (r : Nat) (cs : List Value) :
    ∀ k j, k ≤ j → Extends (attempt (recover (renderAll k r cs))) (renderEach (renderWithin j r) cs) := by
  induction cs with
  | nil =>
    rintro (_ | k) j _
    · exact renderAll_zero_extends r [] _
    · rfl
  | cons v rest ih =>
    rintro (_ | k) j le
    · exact renderAll_zero_extends r _ _
    · -- The first child gains depth on the right, and the others by induction.
      rw [renderAll_cons_within, renderEach]
      gcongr
      · exact renderWithin_extends (by omega) r v
      · exact ih k j (by omega)

/-- Rendering children each in turn within `j` is extended by rendering them together within `k`,
when `k` leaves a level for each child and one for the end. -/
theorem renderEach_extends_renderAll (r : Nat) (cs : List Value) :
    ∀ k j, j + cs.length + 1 ≤ k →
      Extends (renderEach (renderWithin j r) cs) (attempt (recover (renderAll k r cs))) := by
  induction cs with
  | nil =>
    rintro (_ | k) j le
    · simp at le
    · rfl
  | cons v rest ih =>
    rintro (_ | k) j le
    · simp at le
    · have fits : j + rest.length + 1 ≤ k := by simp at le; omega
      rw [renderAll_cons_within, renderEach]
      gcongr
      · exact renderWithin_extends (by omega) r v
      · exact ih k j fits

/-- Within any depth allowance, a fragment renders as its children rendered each in turn within the
same allowance, wherever it does not run out. -/
theorem frag_extends_renderEach (n r : Nat) (items : List Value) :
    Extends (renderWithin n r (.frag items)) (renderEach (renderWithin n r) (nodeChildren items)) := by
  cases n with
  | zero => rw [renderWithin, renderString.eq_def]; exact .exhausted _
  | succ k =>
    rw [renderWithin, renderString_frag]
    exact renderAll_extends_renderEach r _ k (k + 1) (Nat.le_succ k)

/-- Children rendered each in turn within `n` render the same as a fragment's children within `n`
and two levels more than there are items. -/
theorem renderEach_extends_frag (n r : Nat) (items : List Value) :
    Extends (renderEach (renderWithin n r) (nodeChildren items))
      (renderWithin (n + items.length + 2) r (.frag items)) := by
  rw [renderWithin, renderString_frag]
  have fewer := length_nodeChildren_le items
  exact renderEach_extends_renderAll r _ _ n (by omega)

/-- Fragment rendering is rendering the children in turn. For every renderer and all items of a
fragment, wherever rendering the fragment to markup does not run out, it ends exactly as rendering
its children to markup one after another does, each on its own: with the children's markups
written one after another, or with the failure of the first child that fails (no later child
being rendered), and in the same world. The children are the items, less a first one that is a
mapping, which is taken as the fragment's props. Conversely, whenever the children render in turn
within some depth allowance, the fragment renders the same within that allowance and two levels
more than it has items. -/
theorem fragment_renders_children_in_turn (r : Nat) (items : List Value) :
    Extends (renderToString r (.frag items)) (renderEach (renderToString r) (nodeChildren items)) ∧
      ∀ n, Extends (renderEach (renderWithin n r) (nodeChildren items))
        (renderWithin (n + items.length + 2) r (.frag items)) :=
  ⟨frag_extends_renderEach depthAllowance r items, fun n => renderEach_extends_frag n r items⟩

/-- A fragment whose first item is a mapping does not render it: the fragment of an empty props
mapping and the text `x` renders `x`, while its two items rendered to markup in turn give `map[]x`.
-/
theorem leading_mapping_dropped (r : Nat) (w : World) :
    (renderToString r (.frag [.props (some []), .str "x"])).run w = .ok (.ok "x") w ∧
      (renderEach (renderToString r) [.props (some []), .str "x"]).run w = .ok (.ok "map[]x") w := by
  have plain : ∀ b, escaper b "x" = "x" ∧ escaper b "map[]" = "map[]" := by
    intro b
    cases b <;> decide
  have texts : (Value.props (some [])).text = "map[]" ∧ (Value.str "x").text = "x" := by
    simp [Value.text, Value.show, Value.showFields, showPairs, joinWith]
  have dropped : nodeChildren [.props (some []), .str "x"] = [.str "x"] := rfl
  constructor
  · rw [renderToString_eq_renderWithin, depthAllowance, renderWithin, renderString_frag, dropped,
      renderAll_cons_within, bindOk_run, renderWithin_text _ r (.str "x") rfl, renderAll_nil_within]
    simp [bindOk_run, plain, texts]
  · rw [renderEach, bindOk_run, renderToString_eq_renderWithin, depthAllowance,
      renderWithin_text _ r (.props (some [])) rfl]
    simp only [renderEach, bindOk_run, renderToString_eq_renderWithin, depthAllowance]
    rw [renderWithin_text _ r (.str "x") rfl]
    simp [plain, texts]

/-- With the configured renderer of a scenario's fresh world, the fragment of an empty props mapping
and the text `x` renders `x`, not `map[]x` as its items rendered in turn do. -/
theorem fragment_drops_leading_mapping :
    (renderToString Scenario.configured (.frag [.props (some []), .str "x"])).run (Scenario.worldFor Program.empty
        ⟨none, [], none, false, false, false⟩ ⟨Flavor.safe.plugins, false, false, none, 0, []⟩) =
      .ok (.ok "x") (Scenario.worldFor Program.empty ⟨none, [], none, false, false, false⟩
        ⟨Flavor.safe.plugins, false, false, none, 0, []⟩) ∧
    (renderEach (renderToString Scenario.configured) [.props (some []), .str "x"]).run (Scenario.worldFor
        Program.empty ⟨none, [], none, false, false, false⟩ ⟨Flavor.safe.plugins, false, false, none, 0, []⟩) =
      .ok (.ok "map[]x") (Scenario.worldFor Program.empty ⟨none, [], none, false, false, false⟩
        ⟨Flavor.safe.plugins, false, false, none, 0, []⟩) :=
  leading_mapping_dropped _ _

end Run

end ViewEngine
