import ViewEngine.Script
import ViewEngine.State
import ViewEngine.Node.Basic

/-!
Filling a template: placeholders take the state record's fields, the props, the render count and
the children of the instance that renders it, and handlers are bound to that instance.
-/

namespace ViewEngine

/-- What placeholders are filled from. -/
structure FillContext where
  /-- The instance's state record, if it has one. -/
  state : Option StateRecord
  /-- The props of the call. -/
  props : Props
  /-- The children of the call. -/
  children : List Value
  /-- The render count. -/
  count : Nat
  /-- The instance handlers are bound to, if any. -/
  owner : Option Nat
  /-- The instance's name. -/
  label : String

mutual
/-- The value a template stands for in a context. -/
def Template.fill (c : FillContext) : Template → Value
  | .value v => v
  | .list typed items => if typed then .node (Template.fillItems c items) else .list (Template.fillItems c items)
  | .children => .list c.children
  | .props fields => .props (some (Dict.ofList (Template.fillFields c fields)))
  | .state key =>
    match c.state with
    | some s => s.get key
    | none => .null
  | .prop key => c.props.get key
  | .allProps => .props c.props
  | .count => .int .int c.count
  | .handler shape body => .routine (.handler shape c.owner c.label body)

/-- The items of a list template, with the children spliced in where the template asks. -/
def Template.fillItems (c : FillContext) : List Template → List Value
  | [] => []
  | .children :: rest => c.children ++ Template.fillItems c rest
  | t :: rest => t.fill c :: Template.fillItems c rest

/-- The fields of a props template. -/
def Template.fillFields (c : FillContext) : List (String × Template) → List (String × Value)
  | [] => []
  | (k, t) :: rest => (k, t.fill c) :: Template.fillFields c rest
end

end ViewEngine
