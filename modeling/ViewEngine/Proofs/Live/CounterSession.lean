import ViewEngine.Proofs.Live.Counter
import ViewEngine.Proofs.Props.Wrapped
import ViewEngine.Scenario.Mount

/-!
A counter session: in a fresh world with the safe plugins, a body is created, a counter is mounted
into it and its button is clicked `n` times. Main statement: every step succeeds, the button is the
body's first element, and it reads the label, a blank and the count `s + n` wrapped into the signed
64-bit range, `s` being the start the program's props decoder gives, within that range; a renderer that does not clear on update
shows the texts of every count from `s` to `s + n` in turn. The count is a 64-bit integer: one
click on a counter started at the largest one shows the smallest.
-/

namespace ViewEngine

open Host Run

/-- A click step on a tag found under the body clicks the element found. -/
theorem runStep_click_run {r body el : Nat} {refs : Array Nat} {tag : String} {w w' : World} {f : Option Failure}
    (found : w.doc.find? body tag = some el) (clicked : (click el).run w = .ok f w') :
    (Scenario.runStep r body refs (.click tag)).run w = .ok (f, false, refs) w' := by
  simp only [Scenario.runStep, bind_run, get_run, found, clicked, pure_run]

/-- Clicks the first button under an element `n` times, one scenario click step after another. -/
def clickButton (body : Nat) : Nat → Run Unit
  | 0 => pure ()
  | n + 1 => do
    clickButton body n
    let _ ← Scenario.runStep Scenario.configured body #[] (.click "button")
    pure ()

/-- The texts a counter's button holds after `n` clicks from the count `c` it was mounted with: the
last render's alone when the renderer clears on update, else every render's in turn. -/
def clickedTexts (label : String) (clear : Bool) (c : Int) (n : Nat) : List Child :=
  if clear then counterTexts label (IntKind.int.wrap (c + n))
  else (List.range (n + 1)).flatMap (fun (j : Nat) => counterTexts label (IntKind.int.wrap (c + j)))

/-- Before any click the button holds the texts of the first render. -/
theorem clickedTexts_zero (label : String) (clear : Bool) {c : Int} (wrapped : IntKind.int.wrap c = c) :
    clickedTexts label clear c 0 = counterTexts label c := by
  cases clear <;> simp [clickedTexts, wrapped]

/-- A click's render puts the texts of the next count after the button's texts, or in their place
when the renderer clears on update. -/
theorem clickedTexts_succ (label : String) (clear : Bool) (c : Int) (n : Nat) :
    (if clear then [] else clickedTexts label clear c n) ++ counterTexts label (IntKind.int.wrap (c + (n + 1 : Nat))) =
      clickedTexts label clear c (n + 1) := by
  cases clear <;> simp [clickedTexts, List.range_succ]

namespace Counting

variable {w : World} {k : CounterSite} {clear : Bool} {c : Int}

/-- Clicking the button of a live counter alone in a body `n` times: each click finds the button
first under the body, adds one to the count and renders it; the body keeps its shape. -/
theorem clicks (live : Counting w k clear c (counterTexts k.label c)) (wrapped : IntKind.int.wrap c = c)
    {body : Nat} (inBody : w.doc.shapeAt body = some ("body", [.element k.button])) (n : Nat) :
    ∃ w', (clickButton body n).run w = .ok () w' ∧
      Counting w' k clear (IntKind.int.wrap (c + n)) (clickedTexts k.label clear c n) ∧
      w'.doc.shapeAt body = w.doc.shapeAt body := by
  have apart : body ≠ k.button := by
    intro same
    have shape := live.shape
    rw [← same, inBody] at shape
    simp at shape
  induction n with
  | zero =>
    refine ⟨w, rfl, ?_, rfl⟩
    rw [clickedTexts_zero _ _ wrapped]
    simpa [wrapped] using live
  | succ n ih =>
    obtain ⟨w₁, ran, live₁, kept⟩ := ih
    have found : w₁.doc.find? body "button" = some k.button :=
      Document.find?_first_child (kept.trans inBody) live₁.shape
    obtain ⟨w₂, clicked, live₂, others⟩ := live₁.click
    have count : IntKind.int.wrap (IntKind.int.wrap (c + n) + 1) = IntKind.int.wrap (c + (n + 1 : Nat)) := by
      rw [IntKind.int_wrap_add_one]
      push_cast
      ring_nf
    rw [count, clickedTexts_succ] at live₂
    refine ⟨w₂, ?_, live₂, (others body apart).trans kept⟩
    simp only [clickButton, bind_run, ran, runStep_click_run found clicked, pure_run]

end Counting

/-- Mounting into an element reports no failure when the mount finishes. -/
theorem mountInto_run {r container : Nat} {v : Value} {w w' : World}
    (mounted : (mount mountAllowance r v container none).run w = .ok () w') :
    (mountInto r v container).run w = .ok none w' := by
  simp only [mountInto, bind_run, attempt_run, recover_run, mounted, pure_run]

/-- A counter session: a body is created, the counter node mounted into it with the configured
renderer, and its button clicked `n` times. -/
def counterSession (props : Props) (n : Nat) : Run Unit := do
  let body ← createElement "body"
  let _ ← mountInto Scenario.configured (counterNode props) body
  clickButton body n

/-- The text one render of a counter shows: the label, a blank and the count. -/
def counterText (label : String) (c : Int) : String := label ++ " " ++ toString c

/-- The text a counter's button shows after `n` clicks: the last render's when the renderer clears
on update, else every render's in turn. -/
theorem textContent_clickedTexts {d : Document Listener} {x : Nat} {label : String} {clear : Bool} {c : Int}
    {n : Nat} (shape : d.shapeAt x = some ("button", clickedTexts label clear c n)) :
    d.textContent x = if clear then counterText label (IntKind.int.wrap (c + n))
      else String.join ((List.range (n + 1)).map (fun (j : Nat) => counterText label (IntKind.int.wrap (c + j)))) := by
  cases clear with
  | true =>
    have children : clickedTexts label true c n = [label, " ", toString (IntKind.int.wrap (c + n))].map Child.text :=
      rfl
    rw [Document.textContent_of_texts (children ▸ shape)]
    simp [counterText, String.append_assoc]
  | false =>
    let texts (j : Nat) : List String := [label, " ", toString (IntKind.int.wrap (c + j))]
    -- Each render's three texts join into its one text.
    have joined : ∀ js : List Nat, String.join (js.flatMap texts) =
        String.join (js.map (fun (j : Nat) => counterText label (IntKind.int.wrap (c + j)))) := by
      intro js
      induction js with
      | nil => rfl
      | cons j js ih =>
        rw [List.flatMap_cons, List.map_cons, String.join_append, ih, String.join_cons]
        simp [counterText, String.append_assoc]
    have children : clickedTexts label false c n = ((List.range (n + 1)).flatMap texts).map Child.text := by
      simp [clickedTexts, counterTexts, List.map_flatMap, texts]
    rw [Document.textContent_of_texts (children ▸ shape)]
    exact joined _

/-- A counter session in a fresh world with the safe plugins: every step finishes, the body is
element 0 and the button element 1, holding the texts of the renders of every count so far, or of
the last one when the renderer clears on update. -/
theorem counterSession_run (program : Program) (spec : Scenario.RendererSpec) (escape clear : Bool)
    (metrics : Option Metrics) {props : Props} {k : IntKind} {s : Int} {t : String}
    (start : (program.decode counterShape props).1.field "start" = some (.int k s))
    (inRange : IntKind.int.wrap s = s)
    (label : (program.decode counterShape props).1.field "label" = some (.text t)) (n : Nat) :
    ∃ w, (counterSession props n).run
        (Scenario.worldFor program spec ⟨Flavor.safe.plugins, escape, clear, metrics, 0, []⟩) = .ok () w ∧
      w.doc.find? 0 "button" = some 1 ∧ w.doc.shapeAt 1 = some ("button", clickedTexts (counterLabel t) clear s n) := by
  let w₀ := Scenario.worldFor program spec ⟨Flavor.safe.plugins, escape, clear, metrics, 0, []⟩
  let w₁ : World := { w₀ with doc := (w₀.doc.create "body").1 }
  have created : (createElement "body").run w₀ = .ok 0 w₁ := createElement_run "body" w₀
  -- The configured renderer is there with no mount points, and the body is the one element.
  obtain ⟨w₂, mounted, live, grown, -⟩ := Counting.mounted (n := 199993) (r := Scenario.configured)
    (w := w₁) start label (by simp [w₁, w₀, Scenario.worldFor, World.fresh, Scenario.configured]) rfl
    (fun q hq => absurd hq List.not_mem_nil)
    (show 0 < w₁.doc.elements.size by simp [w₁, w₀, Scenario.worldFor, World.fresh, Document.create])
  have inBody : w₂.doc.shapeAt 0 = some ("body", [.element w₁.doc.elements.size]) := grown
  obtain ⟨w₃, clicked, live₃, kept⟩ := live.clicks inRange inBody n
  refine ⟨w₃, ?_, Document.find?_first_child (kept.trans inBody) live₃.shape, live₃.shape⟩
  show (counterSession props n).run w₀ = _
  simp only [counterSession, bind_run, created, mountInto_run mounted, clicked]

/-- Counter arithmetic, as 64-bit integers. For any program whose props decoder turns the start of
the props into an integer `s` within the signed 64-bit range and their label into `t`, mounting a counter into a fresh body and clicking its button `n` times
succeeds; the button is the body's first element, and it reads `t` (or "Clicked" when empty), a
blank, and `s + n` wrapped into the signed 64-bit range when the renderer clears on update, else
those texts for `s`, `s + 1`, ..., `s + n` in turn. -/
theorem counter_shows_wrapped_count (program : Program) (spec : Scenario.RendererSpec) (escape clear : Bool)
    (metrics : Option Metrics) {props : Props} {k : IntKind} {s : Int} {t : String}
    (start : (program.decode counterShape props).1.field "start" = some (.int k s))
    (inRange : IntKind.int.wrap s = s)
    (label : (program.decode counterShape props).1.field "label" = some (.text t)) (n : Nat) :
    ∃ w, (counterSession props n).run
        (Scenario.worldFor program spec ⟨Flavor.safe.plugins, escape, clear, metrics, 0, []⟩) = .ok () w ∧
      w.doc.find? 0 "button" = some 1 ∧
      w.doc.textContent 1 = if clear then counterText (counterLabel t) (IntKind.int.wrap (s + n))
        else String.join ((List.range (n + 1)).map (fun (j : Nat) => counterText (counterLabel t) (IntKind.int.wrap (s + j)))) := by
  obtain ⟨w, ran, found, shape⟩ := counterSession_run program spec escape clear metrics start inRange label n
  exact ⟨w, ran, found, textContent_clickedTexts shape⟩

/-- The props that start a counter at the largest 64-bit integer, written as text. -/
theorem maxStart_start :
    (Program.linked.decode counterShape (some [("start", .str "9223372036854775807")])).1.field "start" =
      some (.int .int 9223372036854775807) := by
  have read : Number.readInt "9223372036854775807" 64 = .ok 9223372036854775807 := by decide +kernel
  simp [Program.linked, weakDecode, counterShape, decodeInto, decodeFields, fieldInput?, decodeScalar, Shape.depth, Shape.depthFields,
    Value.depth, Value.depthFields, Value.numeric?, Value.mapFields?, partName, Decoded.field, Shape.zero,
    Shape.zeroFields, IntKind.signed, IntKind.wrap, IntKind.bits, read]

/-- Those props give no label, so the counter shows the default one. -/
theorem maxStart_label :
    (Program.linked.decode counterShape (some [("start", .str "9223372036854775807")])).1.field "label" = some (.text "") := by
  have apart : Text.equalFold ['s', 't', 'a', 'r', 't'] ['l', 'a', 'b', 'e', 'l'] = false := by decide
  simp [Program.linked, weakDecode, counterShape, decodeInto, decodeFields, fieldInput?, decodeScalar, Shape.depth, Shape.depthFields,
    Value.depth, Value.depthFields, Value.numeric?, Value.mapFields?, partName, Decoded.field, Shape.zero,
    Shape.zeroFields, IntKind.signed, IntKind.wrap, IntKind.bits, apart]

/-- A counter started at the largest 64-bit integer and clicked twice without clearing shows that
integer, then the smallest one, then the one after it. -/
theorem counter_appends_from_max :
    (Program.linked.decode counterShape (some [("start", .str "9223372036854775807")])).1.field "start" =
        some (.int .int 9223372036854775807) ∧
      IntKind.int.wrap 9223372036854775807 = 9223372036854775807 ∧
      (Program.linked.decode counterShape (some [("start", .str "9223372036854775807")])).1.field "label" =
        some (.text "") ∧
      ∃ w, (counterSession (some [("start", .str "9223372036854775807")]) 2).run
          (Scenario.worldFor Program.linked ⟨none, [], none, false, false, false⟩
            ⟨Flavor.safe.plugins, false, false, none, 0, []⟩) = .ok () w ∧
        w.doc.find? 0 "button" = some 1 ∧
        w.doc.textContent 1 =
          "Clicked 9223372036854775807Clicked -9223372036854775808Clicked -9223372036854775807" := by
  -- The linked decoder stores a decoded integer wrapped, so the start is in range.
  have inRange := (counterStart_wrapped maxStart_start).2
  obtain ⟨w, ran, found, text⟩ := counter_shows_wrapped_count Program.linked ⟨none, [], none, false, false, false⟩
    false false none maxStart_start inRange maxStart_label 2
  refine ⟨maxStart_start, inRange, maxStart_label, w, ran, found, ?_⟩
  rw [text]
  decide +kernel

/-- A counter started at the largest 64-bit integer and clicked once, clearing on update, shows the
smallest 64-bit integer, not the integer after the largest. -/
theorem counter_wraps_past_int_max :
    ∃ w, (counterSession (some [("start", .str "9223372036854775807")]) 1).run
        (Scenario.worldFor Program.linked ⟨none, [], none, false, true, false⟩
          ⟨Flavor.safe.plugins, false, true, none, 0, []⟩) = .ok () w ∧
      w.doc.textContent 1 = "Clicked -9223372036854775808" ∧
      w.doc.textContent 1 ≠ "Clicked 9223372036854775808" := by
  obtain ⟨w, ran, -, shape⟩ := counterSession_run Program.linked ⟨none, [], none, false, true, false⟩
    false true none maxStart_start (counterStart_wrapped maxStart_start).2 maxStart_label 1
  have shown : w.doc.textContent 1 = "Clicked -9223372036854775808" := by
    rw [textContent_clickedTexts shape]
    decide +kernel
  exact ⟨w, ran, shown, by rw [shown]; decide⟩

end ViewEngine
