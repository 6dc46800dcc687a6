import Mathlib
import ViewEngine.Proofs.Markup.Read
import ViewEngine.Proofs.Engine.Options

/-! Rendering to markup as a forest. The string backend walks a value, setting components up and
calling their render functions, and writes what it meets: the text of a plain value, a host node's
element with its attributes, the children of a fragment. `Run.renderTree` makes the same walk,
with the same engine steps, and keeps what it meets as markup nodes instead. The string backend's
output is that forest written out, escaped as the renderer says; so with an escaping renderer and
clean names, the output reads back as the forest of the walk. -/

namespace ViewEngine

open Markup Std.Do

/-- The attributes the string backend writes for one classified prop, each a name and a value
before escaping: none for an event key, one per entry for a data mapping (`data-` before its key),
an empty one for a truth value (`x-` before a false one's name), else the text of the value. -/
def Attr.pairs (p : Attr) : List (String × String) :=
  if p.name.startsWith "on" then []
  else
    match p.data, p.flag with
    | some entries, _ => entries.map fun e => ("data-" ++ e.1, e.2.text)
    | none, some b => [(if b then p.name else "x-" ++ p.name, "")]
    | none, none => [(p.name, p.value.text)]

/-- The attributes the string backend writes for props, in key order. -/
def attrPairs (props : Props) : List (String × String) := (classify props).flatMap Attr.pairs

/-- How a renderer writes texts: escaped, or as they are. -/
def escaper (escapes : Bool) : String → String := if escapes then Text.escape else id

/-- The empty text is written as it is, escaped or not: the value of a truth-value attribute. -/
@[simp] theorem escaper_empty (escapes : Bool) : escaper escapes "" = "" := by
  cases escapes
  · rfl
  · exact (Text.escape_eq_empty "").mpr rfl

/-- Whether a renderer of a world escapes texts. -/
def World.escapes (w : World) (r : Nat) : Bool := (w.renderers.getD r Renderer.default).escape

theorem World.escapes_of_options {w w' : World} (same : w'.options = w.options) (r : Nat) :
    w'.escapes r = w.escapes r :=
  congrArg (fun o => (o r).2.1) same

mutual
/-- The markup a value renders to with a renderer, as a forest: the walk of the string backend,
components set up and rendered by the same steps, with each host node kept as an element with the
attributes the backend writes for its props, and texts before escaping. -/
def Run.renderTree : Nat → Nat → Value → Run (List Node)
  | 0, _, _ => throw .exhausted
  | fuel + 1, r, v =>
    match v.asNode? with
    | none => pure [.text v.text]
    | some items =>
      match split items with
      | none => pure []
      | some parts =>
        match parts.tag.component? with
        | some (c, form) => do
          let caps ← compose (← renderer r).plugins .none
          let fn ← Run.instantiate fuel c (c.name form) parts.props caps
          count r (fun m => { m with setups := m.setups + 1 })
          let expr ← Run.callRender fuel fn parts.props parts.children
          count r (fun m => { m with renders := m.renders.bump "string" })
          Run.renderTree fuel r expr
        | none =>
          if parts.tag.isFragment then Run.renderForest fuel r parts.children
          else
            match parts.tag with
            | .str name => do
              let inner ← Run.renderForest fuel r parts.children
              pure [.element name (attrPairs parts.props) inner]
            | other => fail (.invalidNode (.unsupportedTag other.typeName))

/-- The markup values render to one after another, as a forest. -/
def Run.renderForest : Nat → Nat → List Value → Run (List Node)
  | 0, _, _ => throw .exhausted
  | _ + 1, _, [] => pure []
  | fuel + 1, r, v :: rest => do
    let first ← Run.renderTree fuel r v
    let others ← Run.renderForest fuel r rest
    pure (first ++ others)
end

namespace Run

/-! ## Runs of steps that read or keep the options -/

section Steps

variable {α β : Type}

theorem map_run (f : α → β) (x : Run α) (w : World) :
    (f <$> x).run w = match x.run w with
      | .ok a w' => .ok (f a) w'
      | .error e w' => .error e w' := by
  simp only [EStateM.run, Functor.map, EStateM.map]
  cases x w <;> rfl

theorem renderer_run (r : Nat) (w : World) :
    (renderer r).run w = .ok (w.renderers.getD r Renderer.default) w := rfl

theorem textOf_run (r : Nat) (s : String) (w : World) :
    (textOf r s).run w = .ok (escaper (w.escapes r) s) w := by
  show EStateM.Result.ok (if w.escapes r = true then Text.escape s else s) w = .ok (escaper (w.escapes r) s) w
  unfold escaper
  cases w.escapes r <;> rfl

/-- A step specified to keep the options keeps them when it finishes. -/
theorem options_of_ok {x : Run α}
    (keeps : ∀ o, ⦃fun w => ⌜w.options = o⌝⦄ x ⦃⇓ _ w => ⌜w.options = o⌝⦄) {w : World} {a : α} {w' : World}
    (run : x.run w = .ok a w') : w'.options = w.options := by
  have kept := keeps w.options w rfl
  simp only [wp, PredTrans.apply] at kept
  rw [run] at kept
  exact kept

/-- A step specified to keep the options, whether it finishes or stops, keeps them when it
finishes. -/
theorem options_of_ok' {x : Run α}
    (keeps : ∀ o, ⦃fun w => ⌜w.options = o⌝⦄ x ⦃post⟨fun _ w => ⌜w.options = o⌝, fun _ w => ⌜w.options = o⌝⟩⦄)
    {w : World} {a : α} {w' : World} (run : x.run w = .ok a w') : w'.options = w.options := by
  have kept := options_leaves keeps w
  rwa [Run.leaves, run] at kept

/-- Two continuations of a step that keeps the options agree after it, when they agree from every
world with the options it started from. -/
theorem bind_congr_options {x : Run α} {f g : α → Run β} {w : World} {o : Nat → List Plugin × Bool × Bool}
    (keeps : ∀ a w', x.run w = .ok a w' → w'.options = w.options)
    (start : w.options = o) (agree : ∀ a w', w'.options = o → (f a).run w' = (g a).run w') :
    (x >>= f).run w = (x >>= g).run w := by
  rw [bind_run, bind_run]
  cases h : x.run w with
  | ok a w' => exact agree a w' ((keeps a w' h).trans start)
  | error e w' => rfl

end Steps

/-! ## The attributes as written -/

/-- A loop whose every pass leaves the world as it is and appends a piece to its text appends the
pieces of all its items. -/
theorem forIn_appends {β : Type} (xs : List β) (body : β → String → Run (ForInStep String))
    (piece : β → String) (w : World) (step : ∀ x out, (body x out).run w = .ok (.yield (out ++ piece x)) w) :
    ∀ out, (forIn xs out body).run w = .ok (out ++ String.join (xs.map piece)) w := by
  induction xs with
  | nil => intro out; simp
  | cons x rest ih =>
    intro out
    rw [List.forIn_cons, bind_run, step]
    simp only
    rw [ih]
    simp [String.append_assoc]

theorem data_prefix (key : String) : " data-" ++ key = " " ++ ("data-" ++ key) := by
  rw [← String.append_assoc]
  rfl

theorem join_flatMap {γ : Type} (xs : List γ) (f : γ → List String) :
    String.join (xs.flatMap f) = String.join (xs.map fun x => String.join (f x)) := by
  induction xs with
  | nil => rfl
  | cons x rest ih => simp [String.join_append, ih]

/-- The string backend writes the attributes of props as their pairs, escaped as the renderer says,
and leaves the world as it is. -/
theorem attrMarkup_run (r : Nat) (props : Props) (w : World) :
    (attrMarkup r props).run w = .ok (writeAttrs (escaper (w.escapes r)) (attrPairs props)) w := by
  have pieces : writeAttrs (escaper (w.escapes r)) (attrPairs props) =
      "" ++ String.join ((classify props).map fun p => writeAttrs (escaper (w.escapes r)) p.pairs) := by
    rw [writeAttrs, attrPairs, List.map_flatMap, join_flatMap]
    simp [writeAttrs]
  rw [pieces, attrMarkup, bind_run, forIn_appends _ _ (fun p => writeAttrs (escaper (w.escapes r)) p.pairs) w ?step]
  · rfl
  case step =>
    intro p out
    simp only [Attr.pairs]
    -- Event keys are skipped; the other props write their pairs by kind.
    by_cases event : p.name.startsWith "on" = true
    · simp [event, writeAttrs]
    · simp only [event, if_false, Bool.false_eq_true]
      rcases hd : p.data with _ | entries <;> rcases hf : p.flag with _ | b
      · rw [bind_run, textOf_run]
        simp [writeAttrs, String.append_assoc]
      · simp [writeAttrs, String.append_assoc]
      all_goals
        rw [bind_run, forIn_appends _ _ (fun e => " data-" ++ e.1 ++ "=\"" ++ escaper (w.escapes r) e.2.text ++ "\"")
          w ?entry]
        · simp [writeAttrs, Function.comp_def, data_prefix, String.append_assoc]
        case entry =>
          intro e out'
          rw [bind_run, textOf_run]
          simp [String.append_assoc]

/-! ## The string backend writes the forest -/

/-- Rendering to a string writes out the forest `renderTree` makes by the same steps, escaped as the
renderer says, and leaves the same world; the same for values one after another. -/
theorem renderString_run_eq (n : Nat) :
    (∀ r v w, (renderString n r v).run w = (Node.writeAll (escaper (w.escapes r)) <$> renderTree n r v).run w) ∧
    (∀ r vs w, (renderAll n r vs).run w =
      (Node.writeAll (escaper (w.escapes r)) <$> renderForest n r vs).run w) := by
  induction n with
  | zero =>
    constructor
    · intro r v w
      rw [renderString.eq_def]
      rfl
    · intro r vs w
      rw [renderAll.eq_def]
      rfl
  | succ n ih =>
    obtain ⟨single, many⟩ := ih
    constructor
    · intro r v w
      rw [renderString.eq_def]
      simp only [renderTree]
      rcases hv : v.asNode? with _ | items
      · -- A plain value is its text.
        simp [textOf_run]
      rcases hs : split items with _ | parts
      · simp [hs]
      simp only [hs]
      rcases hc : parts.tag.component? with _ | ⟨c, form⟩
      · -- A fragment is its children; a host node is its element.
        by_cases frag : parts.tag.isFragment = true
        · simp only [frag, if_true]
          exact many r parts.children w
        · simp only [frag, Bool.false_eq_true, if_false]
          generalize parts.tag = tag
          cases tag
          case str name =>
            -- The element's attributes are written before its children are rendered.
            simp only [bind_run, attrMarkup_run, many, map_run, pure_run]
            cases (renderForest n r parts.children).run w <;> simp
          all_goals rfl
      · -- Both set the component up and render it by the same steps, which keep the options.
        simp only [map_bind]
        rw [bind_run, bind_run, renderer_run]
        refine bind_congr_options (fun _ _ => options_of_ok (compose_options · _ _)) rfl fun caps w₁ same₁ => ?_
        refine bind_congr_options (fun _ _ => options_of_ok' ((optionsKept n).instantiate · _ _ _ _)) same₁
          fun fn w₂ same₂ => ?_
        refine bind_congr_options (fun _ _ => options_of_ok (count_options · _ _)) same₂ fun _ w₃ same₃ => ?_
        refine bind_congr_options (fun _ _ => options_of_ok' (callRender_options · n _ _ _)) same₃
          fun expr w₄ same₄ => ?_
        refine bind_congr_options (fun _ _ => options_of_ok (count_options · _ _)) same₄ fun _ w₅ same₅ => ?_
        rw [single, World.escapes_of_options same₅]
    · intro r vs w
      rw [renderAll.eq_def]
      cases vs with
      | nil => rfl
      | cons v rest =>
        simp only [renderForest]
        rw [bind_run, single, map_run, map_run, bind_run]
        cases first : (renderTree n r v).run w with
        | ok ms w₁ =>
          -- The first value's rendering keeps the options, so the rest is escaped the same way.
          have same : w₁.options = w.options :=
            options_of_ok' ((optionsKept n).renderString · _ _) (by rw [single, map_run, first])
          simp only
          rw [bind_run, many, World.escapes_of_options same, map_run, bind_run]
          cases (renderForest n r rest).run w₁ <;> simp [Node.writeAll_append]
        | error e w₁ => rfl

/-- The string backend's run, when rendering to markup returns markup. -/
theorem renderString_of_renderToString {r : Nat} {v : Value} {w w' : World} {out : String}
    (rendered : (renderToString r v).run w = .ok (.ok out) w') :
    (renderString depthAllowance r v).run w = .ok out w' := by
  rw [renderToString, attempt_run, recover_run] at rendered
  -- Every stop of the backend ends the entry point with a failure or a stop, never with markup.
  cases h : (renderString depthAllowance r v).run w with
  | ok s w₁ => simp_all
  | error e w₁ => cases e <;> simp_all

/-- With a renderer that escapes, the markup rendered to a string is the forest of the string
backend's walk written out, and reads back as that forest. Tokenized and unescaped, it gives the
forest's start and end tags, matched and nested as its elements are, each start tag with the
attributes the backend writes for its props in key order, and between tags the joined texts of the
plain values there; nested, the tokens give the forest back with its adjacent texts joined. Reading
back needs the names of the forest's elements and attributes to be clean, and `unescape` to invert
escaping. -/
theorem escaped_markup_reads_back (unescape : String → String) (inverts : ∀ s, unescape (Text.escape s) = s)
    (r : Nat) (v : Value) (w w' : World) (out : String) (escapes : w.escapes r = true)
    (rendered : (renderToString r v).run w = .ok (.ok out) w') :
    ∃ ms, (renderTree depthAllowance r v).run w = .ok ms w' ∧ out = Node.writeAll Text.escape ms ∧
      ((∀ t ∈ Node.tokensAll ms, t.Clean) →
        (tokenize out).map (List.map (Token.mapTexts unescape)) = some (Node.tokensAll (Node.joinAll "" ms)) ∧
        read unescape out = some (Node.joinAll "" ms)) := by
  have written := (renderString_run_eq depthAllowance).1 r v w
  rw [renderString_of_renderToString rendered, map_run, escapes] at written
  cases tree : (renderTree depthAllowance r v).run w with
  | ok ms w₁ =>
    simp only [tree, EStateM.Result.ok.injEq] at written
    obtain ⟨rfl, rfl⟩ := written
    exact ⟨ms, rfl, rfl, fun clean => ⟨tokenize_writeAll _ inverts ms clean, read_writeAll _ inverts ms clean⟩⟩
  | error e w₁ => simp [tree] at written

/-- A paragraph holding a `<`, rendered by an escaping renderer, reads back as itself. -/
theorem paragraph_reads_back :
    let w := World.fresh default #[{ Renderer.default with escape := true }]
    let v := Value.node [.str "p", .str "a<b"]
    (w.escapes 0 = true ∧ (renderToString 0 v).run w = .ok (.ok "<p>a&lt;b</p>") w) ∧
      ∃ ms, (renderTree depthAllowance 0 v).run w = .ok ms w ∧ "<p>a&lt;b</p>" = Node.writeAll Text.escape ms ∧
        ((∀ t ∈ Node.tokensAll ms, t.Clean) →
          (tokenize "<p>a&lt;b</p>").map (List.map (Token.mapTexts Text.unescape)) =
            some (Node.tokensAll (Node.joinAll "" ms)) ∧
          read Text.unescape "<p>a&lt;b</p>" = some (Node.joinAll "" ms)) := by
  intro w v
  have tree : (renderTree depthAllowance 0 v).run w = .ok [.element "p" [] [.text "a<b"]] w := by
    simp [w, v, depthAllowance, renderTree, renderForest, split, Value.asNode?, Value.asProps?, Value.component?,
      Value.isFragment, fragmentTag, attrPairs, classify, Props.sorted, Value.text, Value.show]
  have rendered : (renderToString 0 v).run w = .ok (.ok "<p>a&lt;b</p>") w := by
    rw [renderToString, attempt_run, recover_run, (renderString_run_eq _).1, map_run, tree]
    have escapes : w.escapes 0 = true := rfl
    simp only [Node.writeAll_element, Node.writeAll_text, escapes, escaper, if_true]
    rfl
  exact ⟨⟨rfl, rendered⟩, escaped_markup_reads_back Text.unescape Text.unescape_escape 0 v w w _ rfl rendered⟩

end Run

end ViewEngine
