import Mathlib
import ViewEngine.Engine.Run
import ViewEngine.Proofs.Data.Dict
import ViewEngine.Proofs.Host.Written

/-! The style props leave on an element: its class list, its attributes and its properties. A
classified prop's marks add class names, edit attributes and edit properties of the element they
are on, and change nothing else (`Attr.mark_eq_modify`). A sorted map edited so that every key it
held is edited again ends as the same edits leave the empty map. So props that restyle earlier ones
(key by key the same keys, the same class value, a mapping under `data` with the same keys or none,
a truth value where there was one, and no truth value turned from false to true), marked over the
style the earlier ones left on a fresh element, leave the style they leave on a fresh element
(`Props.Restyles.style_eq`). -/

namespace ViewEngine

namespace Dict

variable {α : Type}

/-- A change of one entry of a map: a value stored under a key, or the key's entry removed. -/
inductive Edit (α : Type) where
  | put (key : String) (value : α)
  | drop (key : String)

/-- The key an edit changes. -/
def Edit.key : Edit α → String
  | .put key _ => key
  | .drop key => key

/-- What an edit leaves its key reading. -/
def Edit.value? : Edit α → Option α
  | .put _ value => some value
  | .drop _ => none

/-- A map after an edit. -/
def edit (d : Dict α) : Edit α → Dict α
  | .put key value => d.insert key value
  | .drop key => d.erase key

/-- A map after edits, in order. -/
def editAll (d : Dict α) (es : List (Edit α)) : Dict α := es.foldl edit d

@[simp] theorem editAll_nil (d : Dict α) : d.editAll [] = d := rfl

@[simp] theorem editAll_cons (d : Dict α) (e : Edit α) (es : List (Edit α)) :
    d.editAll (e :: es) = (d.edit e).editAll es := rfl

theorem editAll_append (d : Dict α) (es fs : List (Edit α)) :
    d.editAll (es ++ fs) = (d.editAll es).editAll fs := by
  simp [editAll, List.foldl_append]

theorem get?_erase_self (d : Dict α) (key : String) : (d.erase key).get? key = none := by
  induction d with
  | nil => rfl
  | cons entry rest ih =>
    obtain ⟨k, v⟩ := entry
    by_cases same : k = key
    · simpa [erase, same] using ih
    · simpa [erase, get?, same] using ih

theorem get?_erase_other (d : Dict α) {key other : String} (apart : other ≠ key) :
    (d.erase key).get? other = d.get? other := by
  induction d with
  | nil => rfl
  | cons entry rest ih =>
    obtain ⟨k, v⟩ := entry
    by_cases same : k = key
    · subst same
      simpa [erase, get?, Ne.symm apart] using ih
    · by_cases hit : k = other
      · subst hit
        simp [erase, get?, same]
      · simpa [erase, get?, same, hit] using ih

/-- An edit decides what its own key reads. -/
theorem get?_edit_self (d : Dict α) (e : Edit α) :
    (d.edit e).get? e.key = e.value? := by
  cases e with
  | put key value => exact get?_insert_self d key value
  | drop key => exact get?_erase_self d key

theorem get?_edit_other (d : Dict α) (e : Edit α) {k : String} (apart : k ≠ e.key) :
    (d.edit e).get? k = d.get? k := by
  cases e with
  | put key value => exact get?_insert_other d key k value apart
  | drop key => exact get?_erase_other d apart

/-- Edits of other keys leave a key reading as before. -/
theorem get?_editAll_of_not_mem (d : Dict α) {es : List (Edit α)} {k : String} (untouched : k ∉ es.map Edit.key) :
    (d.editAll es).get? k = d.get? k := by
  induction es generalizing d with
  | nil => rfl
  | cons e rest ih =>
    simp only [List.map_cons, List.mem_cons, not_or] at untouched
    rw [editAll_cons, ih _ untouched.2, get?_edit_other _ _ untouched.1]

/-- A key some edit changes reads the same after the edits, whatever the map was before. -/
theorem get?_editAll_of_mem (d d' : Dict α) {es : List (Edit α)} {k : String} (touched : k ∈ es.map Edit.key) :
    (d.editAll es).get? k = (d'.editAll es).get? k := by
  induction es generalizing d d' with
  | nil => cases touched
  | cons e rest ih =>
    rw [editAll_cons, editAll_cons]
    by_cases later : k ∈ rest.map Edit.key
    · exact ih _ _ later
    · -- The last edit of the key is this one, and it decides the key on both sides.
      have first : k = e.key := by simpa [later] using touched
      rw [get?_editAll_of_not_mem _ later, get?_editAll_of_not_mem _ later, first, get?_edit_self, get?_edit_self]

theorem Sorted.erase {d : Dict α} (sorted : d.Sorted) (key : String) : (d.erase key).Sorted :=
  List.Pairwise.sublist ((List.filter_sublist).map Prod.fst) sorted

theorem Sorted.edit {d : Dict α} (sorted : d.Sorted) (e : Edit α) : (d.edit e).Sorted := by
  cases e with
  | put key value => exact sorted.insert key value
  | drop key => exact sorted.erase key

theorem Sorted.editAll {d : Dict α} (sorted : d.Sorted) (es : List (Edit α)) : (d.editAll es).Sorted := by
  induction es generalizing d with
  | nil => exact sorted
  | cons e rest ih => exact ih (sorted.edit e)

/-- A key below every key of a sorted map reads nothing there. -/
theorem get?_of_lt {d : Dict α} {k : String} (below : ∀ k' ∈ d.keys, k < k') : d.get? k = none := by
  rw [← Option.not_isSome_iff_eq_none, get?_isSome_iff]
  exact fun mem => lt_irrefl k (below k mem)

/-- Sorted maps are equal when every key reads the same in both. -/
theorem eq_of_get? {d d' : Dict α} (sorted : d.Sorted) (sorted' : d'.Sorted) (same : ∀ k, d.get? k = d'.get? k) :
    d = d' := by
  induction d generalizing d' with
  | nil =>
    cases d' with
    | nil => rfl
    | cons e rest =>
      have := same e.1
      simp [get?] at this
  | cons e rest ih =>
    obtain ⟨k, v⟩ := e
    cases d' with
    | nil =>
      have := same k
      simp [get?] at this
    | cons e' rest' =>
      obtain ⟨k', v'⟩ := e'
      have head := List.pairwise_cons.1 sorted
      have head' := List.pairwise_cons.1 sorted'
      -- Each map's first key is its least, so the two first keys are equal, and then their values.
      have keys : k = k' := by
        by_contra apart
        rcases lt_or_gt_of_ne apart with lt | gt
        · have := same k
          rw [get?, if_pos rfl, get?, if_neg (Ne.symm apart),
            get?_of_lt (fun k'' mem => lt.trans (head'.1 k'' mem))] at this
          cases this
        · have := same k'
          rw [get?, if_neg apart, get?, if_pos rfl, get?_of_lt (fun k'' mem => gt.trans (head.1 k'' mem))] at this
          cases this
      subst keys
      have values : v = v' := by simpa [get?] using same k
      subst values
      -- The rests read alike: past the first key both follow the full maps, and at it both read nothing.
      congr 1
      refine ih head.2 head'.2 fun k'' => ?_
      by_cases first : k = k''
      · subst first
        rw [get?_of_lt head.1, get?_of_lt head'.1]
      · simpa [get?, first] using same k''

/-- After edits a map holds the keys it held and those the edits store. -/
theorem mem_keys_editAll (d : Dict α) (es : List (Edit α)) {k : String} (mem : k ∈ (d.editAll es).keys) :
    k ∈ d.keys ∨ ∃ v, Edit.put k v ∈ es := by
  induction es generalizing d with
  | nil => exact .inl mem
  | cons e rest ih =>
    rcases ih _ mem with old | ⟨v, stored⟩
    · cases e with
      | put key value =>
        rcases (mem_keys_insert d key k value).1 old with rfl | held
        · exact .inr ⟨value, List.mem_cons_self⟩
        · exact .inl held
      | drop key =>
        rw [← get?_isSome_iff] at old
        by_cases same : k = key
        · subst same
          rw [edit, get?_erase_self] at old
          cases old
        · rw [edit, get?_erase_other _ same, get?_isSome_iff] at old
          exact .inl old
    · exact .inr ⟨v, List.mem_cons_of_mem _ stored⟩

/-- Edits that change every key a sorted map holds leave it as they leave the empty map. -/
theorem editAll_of_touched {d : Dict α} (sorted : d.Sorted) {es : List (Edit α)}
    (touched : ∀ k ∈ d.keys, k ∈ es.map Edit.key) : d.editAll es = editAll [] es := by
  refine eq_of_get? (sorted.editAll es) (sorted_nil.editAll es) fun k => ?_
  by_cases edited : k ∈ es.map Edit.key
  · exact get?_editAll_of_mem _ _ edited
  · -- A key no edit changes was not held.
    rw [get?_editAll_of_not_mem _ edited, get?_editAll_of_not_mem _ edited, show get? ([] : Dict α) k = none from rfl,
      ← Option.not_isSome_iff_eq_none, get?_isSome_iff]
    exact fun held => edited (touched k held)

end Dict

/-! ## The style of an element -/

/-- What props leave on an element: its class list, its attributes and its properties. -/
structure Style where
  /-- The class list. -/
  classes : List String
  /-- The attributes other than `class`. -/
  attrs : Dict String
  /-- The properties. -/
  props : Dict Value

/-- The style of an element no prop has marked. -/
def Style.fresh : Style := ⟨[], Dict.empty, Dict.empty⟩

/-- Adds class names in order, each unless the list has it. -/
def addClasses (classes names : List String) : List String :=
  names.foldl (fun cs n => if cs.contains n then cs else cs ++ [n]) classes

namespace Attr

/-- The class name a prop adds: its value's text, for the class prop. -/
def classNames (p : Attr) : List String := if p.isClass then [p.value.text] else []

/-- The attribute edits of a prop: a data attribute for each data entry, then the prop's own
attribute when it matched no rule. -/
def attrEdits (p : Attr) : List (Dict.Edit String) :=
  (p.data.getD []).map (fun kv => .put (Host.Document.datasetName kv.1) kv.2.text) ++
    if p.isPlain then [.put p.name p.value.text] else []

/-- The property edits of a prop: a true value stored under its name; for a false one, its name
removed and the value stored under `x-` and the name. -/
def propEdits (p : Attr) : List (Dict.Edit Value) :=
  p.flag.elim [] fun b => if b then [.put p.name (.bool true)] else [.drop p.name, .put ("x-" ++ p.name) (.bool false)]

/-- The style after a prop's marks. -/
def restyle (p : Attr) (st : Style) : Style :=
  ⟨addClasses st.classes p.classNames, st.attrs.editAll p.attrEdits, st.props.editAll p.propEdits⟩

end Attr

/-- The style after classified props' marks, in key order. -/
def Props.style (props : Props) (st : Style) : Style := (classify props).foldl (fun st p => p.restyle st) st

namespace Host

variable {L : Type}

/-- The style of an element. -/
def Element.style (e : Element L) : Style := ⟨e.classes, e.attrs, e.props⟩

/-- An element with another style. -/
def Element.withStyle (e : Element L) (st : Style) : Element L :=
  { e with classes := st.classes, attrs := st.attrs, props := st.props }

@[simp] theorem Element.style_withStyle (e : Element L) (st : Style) : (e.withStyle st).style = st := rfl

@[simp] theorem Element.face_withStyle (e : Element L) (st : Style) :
    (e.withStyle st).face = ⟨e.tag, st.classes, st.attrs, e.children⟩ := rfl

namespace Document

theorem ext_get? {d d' : Document L} (same : ∀ x, d.get? x = d'.get? x) : d = d' := by
  cases d
  cases d'
  congr
  exact Array.ext_getElem? same

theorem modify_modify (d : Document L) (el : Nat) (f g : Element L → Element L) :
    (d.modify el f).modify el g = d.modify el (g ∘ f) := by
  refine ext_get? fun x => ?_
  by_cases same : el = x <;> simp [same]

/-- Setting data attributes one after another edits the element's attributes. -/
theorem foldl_setDataset (d : Document L) (el : Nat) (entries : List (String × Value)) :
    entries.foldl (fun d kv => d.setDataset el kv.1 kv.2.text) d =
      d.modify el (fun e => { e with attrs := e.attrs.editAll (entries.map fun kv => .put (datasetName kv.1) kv.2.text) }) := by
  induction entries generalizing d with
  | nil =>
    refine ext_get? fun x => ?_
    by_cases same : el = x <;> simp [same]
  | cons kv rest ih =>
    rw [List.foldl_cons, ih, setDataset, modify_modify]
    rfl

end Document

end Host

open Host in
/-- A classified prop's marks restyle the element they are on and change nothing else. -/
theorem Attr.mark_eq_modify {L : Type} {p : Attr} (classified : p.isClass = (p.name == "class")) (el : Nat)
    (d : Document L) : p.mark el d = d.modify el (fun e => e.withStyle (p.restyle e.style)) := by
  refine Document.ext_get? fun x => ?_
  rcases p with ⟨name, value, isClass, data, flag, event⟩
  simp only at classified
  subst classified
  -- Adding a class that is there keeps the element, which is keeping its class list.
  have added : ∀ (e : Element L) (n : String),
      (if n ∈ e.classes then e else { e with classes := e.classes ++ [n] }) =
        { e with classes := if n ∈ e.classes then e.classes else e.classes ++ [n] } := by
    intro e n
    split <;> rfl
  rcases data with _ | entries <;> rcases flag with _ | ⟨_ | _⟩ <;> cases event <;> by_cases cls : name = "class" <;>
    by_cases same : el = x <;>
    simp [Attr.mark, Attr.restyle, Attr.classNames, Attr.attrEdits, Attr.propEdits, Attr.isPlain, addClasses,
      Document.addClass, Document.setProperty, Document.deleteProperty, Document.setAttribute,
      Document.foldl_setDataset, Dict.edit, Element.withStyle, Element.style, cls, same, added, Function.comp_def]

/-! ## Restyling -/

theorem addClasses_append (classes names names' : List String) :
    addClasses classes (names ++ names') = addClasses (addClasses classes names) names' :=
  List.foldl_append

/-- Adding class names keeps the names there and adds the new ones. -/
theorem mem_addClasses {classes names : List String} {n : String} :
    n ∈ addClasses classes names ↔ n ∈ classes ∨ n ∈ names := by
  induction names generalizing classes with
  | nil => simp [addClasses]
  | cons m rest ih =>
    rw [show m :: rest = [m] ++ rest from rfl, addClasses_append, ih, List.mem_append, List.mem_singleton]
    by_cases there : m ∈ classes
    · have held : n = m → n ∈ classes := fun same => same ▸ there
      simp only [addClasses, List.foldl_cons, List.foldl_nil, List.contains_iff_mem, there, if_true]
      tauto
    · simp [addClasses, there]
      tauto

/-- Adding class names the list has already keeps it. -/
theorem addClasses_of_mem {classes names : List String} (there : ∀ n ∈ names, n ∈ classes) :
    addClasses classes names = classes := by
  induction names with
  | nil => rfl
  | cons m rest ih =>
    rw [show m :: rest = [m] ++ rest from rfl, addClasses_append]
    have first : addClasses classes [m] = classes := by
      simp [addClasses, there m List.mem_cons_self]
    rw [first, ih fun n mem => there n (List.mem_cons_of_mem m mem)]

/-- Restyling by props in turn adds their class names, makes their attribute edits and makes their
property edits, each in order. -/
theorem restyle_foldl (ps : List Attr) (st : Style) :
    ps.foldl (fun st p => p.restyle st) st =
      ⟨addClasses st.classes (ps.flatMap Attr.classNames), st.attrs.editAll (ps.flatMap Attr.attrEdits),
        st.props.editAll (ps.flatMap Attr.propEdits)⟩ := by
  induction ps generalizing st with
  | nil => rfl
  | cons p rest ih =>
    rw [List.foldl_cons, ih]
    simp [Attr.restyle, addClasses_append, Dict.editAll_append]

/-- A prop as classification leaves it: the class rule and the event rule read its key. -/
def Attr.Classified (a : Attr) : Prop := a.isClass = (a.name == "class") ∧ a.event = eventOf? a.name

theorem classified_of_mem_classify {props : Props} {a : Attr} (mem : a ∈ classify props) : a.Classified := by
  obtain ⟨f, -, rfl⟩ := List.mem_map.1 mem
  exact ⟨rfl, rfl⟩

/-- A prop of a later output beside the prop in its place in an earlier one, both classified: the
same key; for the class, the same value; under `data`, a mapping with the same keys in both or in
neither; a truth value in both or in neither, and one that was false is false again. -/
structure Attr.Restyles (a a' : Attr) : Prop where
  name : a'.name = a.name
  class_value : a.isClass → a'.value = a.value
  data : a'.data.map (·.map Prod.fst) = a.data.map (·.map Prod.fst)
  flag : a'.flag.isSome = a.flag.isSome
  stays_false : a.flag = some false → a'.flag = some false

/-- Props of a later output against an earlier one's: their classified props restyle those in their
places, key by key. -/
def Props.Restyles (props props' : Props) : Prop := List.Forall₂ Attr.Restyles (classify props) (classify props')

namespace Attr.Restyles

variable {a a' : Attr} (h : a.Restyles a') (ca : a.Classified) (ca' : a'.Classified)
include h ca ca'

theorem isClass_eq : a'.isClass = a.isClass := by rw [ca.1, ca'.1, h.name]

theorem classNames_eq : a'.classNames = a.classNames := by
  unfold Attr.classNames
  rw [isClass_eq h ca ca']
  split
  · rw [h.class_value ‹_›]
  · rfl

theorem attrEdits_keys : a'.attrEdits.map Dict.Edit.key = a.attrEdits.map Dict.Edit.key := by
  -- The data entries give their keys and a plain prop its name, and the two props agree on both.
  have plain : a'.isPlain = a.isPlain := by
    have data : a'.data.isNone = a.data.isNone := by simpa using congrArg Option.isNone h.data
    have flag : a'.flag.isNone = a.flag.isNone := by simp only [← Option.not_isSome, h.flag]
    simp only [isPlain, isClass_eq h ca ca', data, flag, ca.2, ca'.2, h.name]
  have entries : (a'.data.getD []).map Prod.fst = (a.data.getD []).map Prod.fst := by
    have same := h.data
    -- With no mapping on either side there are no entries; a mapping on one side only is ruled out.
    rcases hd : a.data with _ | e <;> rcases hd' : a'.data with _ | e' <;> rw [hd, hd'] at same
    · cases same
    · cases same
    · simpa using same
  simp only [attrEdits, List.map_append, List.map_map, plain, h.name]
  congr 1
  · have : (Dict.Edit.key ∘ fun kv : String × Value => Dict.Edit.put (Host.Document.datasetName kv.1) kv.2.text) =
        Host.Document.datasetName ∘ Prod.fst := rfl
    rw [this, ← List.map_map, entries, List.map_map]
  · split <;> rfl

omit ca ca' in
/-- Every property a prop stores is edited again by the prop in its place of a later output. -/
theorem stored_edited {k : String} {v : Value} (stored : Dict.Edit.put k v ∈ a.propEdits) :
    k ∈ a'.propEdits.map Dict.Edit.key := by
  unfold propEdits at stored ⊢
  rcases hf : a.flag with _ | ⟨_ | _⟩ <;> rw [hf] at stored
  · cases stored
  · -- A false value is false again, and its `x-` property is stored again.
    rw [h.stays_false hf]
    simp only [Option.elim, Bool.false_eq_true, if_false, List.mem_cons, List.not_mem_nil, or_false,
      Dict.Edit.put.injEq, reduceCtorEq, false_or] at stored ⊢
    simp [stored.1, Dict.Edit.key, h.name]
  · -- A true value's name is edited again, whichever truth value the later prop has.
    obtain ⟨b, hb⟩ := Option.isSome_iff_exists.1 (h.flag.trans (by simp [hf]))
    simp only [Option.elim, if_true, List.mem_cons, List.not_mem_nil, or_false, Dict.Edit.put.injEq] at stored
    rw [hb]
    cases b <;> simp [Dict.Edit.key, h.name, stored.1]

end Attr.Restyles

/-- Classified props that restyle others in their places add the same class names, edit the same
attributes in the same order, and edit again every property the others store. -/
theorem Attr.restyles_flatMap {as as' : List Attr} (h : List.Forall₂ Attr.Restyles as as')
    (classified : ∀ a ∈ as, a.Classified) (classified' : ∀ a ∈ as', a.Classified) :
    as'.flatMap Attr.classNames = as.flatMap Attr.classNames ∧
      (as'.flatMap Attr.attrEdits).map Dict.Edit.key = (as.flatMap Attr.attrEdits).map Dict.Edit.key ∧
      ∀ k v, Dict.Edit.put k v ∈ as.flatMap Attr.propEdits → k ∈ (as'.flatMap Attr.propEdits).map Dict.Edit.key := by
  induction h with
  | nil => simp
  | @cons a a' rest rest' head _ ih =>
    have ca := classified a List.mem_cons_self
    have ca' := classified' a' List.mem_cons_self
    obtain ⟨names, edits, stored⟩ := ih (fun b hb => classified b (List.mem_cons_of_mem a hb))
      (fun b hb => classified' b (List.mem_cons_of_mem a' hb))
    refine ⟨by rw [List.flatMap_cons, List.flatMap_cons, head.classNames_eq ca ca', names], ?_, fun k v mem => ?_⟩
    · rw [List.flatMap_cons, List.flatMap_cons, List.map_append, List.map_append, head.attrEdits_keys ca ca', edits]
    · rw [List.flatMap_cons, List.mem_append] at mem
      rw [List.flatMap_cons, List.map_append, List.mem_append]
      rcases mem with here | later
      · exact .inl (head.stored_edited here)
      · exact .inr (stored k v later)

/-- Props that restyle earlier ones, marked over the style the earlier ones left on a fresh element,
leave the style they leave on a fresh element: they add the same class names again, and edit again
every attribute and property the earlier ones stored. -/
theorem Props.Restyles.style_eq {props props' : Props} (h : props.Restyles props') :
    props'.style (props.style .fresh) = props'.style .fresh := by
  obtain ⟨names, edits, stored⟩ := Attr.restyles_flatMap h (fun _ => classified_of_mem_classify)
    (fun _ => classified_of_mem_classify)
  unfold Props.style
  rw [restyle_foldl, restyle_foldl, restyle_foldl]
  simp only [Style.fresh, Style.mk.injEq]
  refine ⟨?_, ?_, ?_⟩
  · -- The class names added before are the ones added again.
    rw [names]
    exact addClasses_of_mem fun n mem => mem_addClasses.2 (.inr mem)
  · -- Every attribute stored before is stored again.
    refine Dict.editAll_of_touched (Dict.sorted_nil.editAll _) fun k held => ?_
    rcases Dict.mem_keys_editAll _ _ held with none | ⟨v, put⟩
    · cases none
    · rw [edits]
      exact List.mem_map_of_mem (f := Dict.Edit.key) put
  · -- Every property stored before is edited again.
    refine Dict.editAll_of_touched (Dict.sorted_nil.editAll _) fun k held => ?_
    rcases Dict.mem_keys_editAll _ _ held with none | ⟨v, put⟩
    · cases none
    · exact stored k v put

end ViewEngine
