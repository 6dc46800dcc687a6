import ViewEngine.Config.Load
import ViewEngine.Engine.Run

/-!
Node files: a node written as a YAML or JSON list, such as `[div, {class: box}, Hello]`. A file
whose name ends in `.json` (in any case) is JSON, any other YAML. Lists become nodes, their first
item naming a bundled component when it is a text starting with `@`; mappings from text become
props (their own values stay as read).
-/

namespace ViewEngine.Cli

/-- The bundled components, in the order of their names. -/
def bundled : List Demo := [.clock, .counter, .godspeedYou, .greeter, .page, .stateful]

/-- The bundled component of a name, compared exactly. -/
def bundledNamed? (name : String) : Option Demo := bundled.find? (·.name == name)

/-- The message for a name that is no bundled component, listing the names there are. -/
def unknownBundled (name : String) : String :=
  "unknown component " ++ Text.quote name ++ " (have " ++ ", ".intercalate (bundled.map Demo.name) ++ ")"

/-- Makes a decoded value a node tree: lists become nodes (a first item `@Name` naming a bundled
component), mappings from text become props, and anything else stays as it is. -/
def resolveNode : Nat → Value → Except String Value
  | 0, v => .ok v
  | fuel + 1, v =>
    match v with
    | .list items => do
      let mut out : Array Value := #[]
      for (item, i) in items.zipIdx do
        match item with
        | .str s =>
          if i == 0 && s.startsWith "@" then
            let name := (s.drop 1).toString
            match bundledNamed? name with
            | some d => out := out.push (.component (.demo d) .component)
            | none => throw (unknownBundled name)
          else out := out.push (← resolveNode fuel item)
        | _ => out := out.push (← resolveNode fuel item)
      pure (.node out.toList)
    | .map fields => .ok (.props fields)
    | other => .ok other

/-- How deeply a value nests, plus one. -/
def nesting : Value → Nat
  | .list items => 1 + (items.attach.map fun ⟨x, _⟩ => nesting x).foldl max 0
  | _ => 1
termination_by v => sizeOf v
decreasing_by
  simp_wf
  have := List.sizeOf_lt_of_mem ‹_ ∈ items›
  omega

/-- Reads a node file named `name` holding `text` into a node tree, or the message of why it
cannot be read. -/
def readNodeFile (name text : String) : Except String Value := do
  let raw ← if (extension name).toLower == ".json" then
      match Json.readDynamic text with
      | .ok v => pure v
      | .error m => throw ("failed to parse " ++ name ++ ": " ++ m)
    else
      match Yaml.decodeText text .any with
      | (_, _, some f) => throw ("failed to parse " ++ name ++ ": " ++ f.message)
      | (some (.value v), _, none) => pure v
      | _ => pure .null
  resolveNode (nesting raw + 1) raw

/-- Props from `key=value` pairs: the key is what comes before the first `=` and may not be empty;
of two pairs with one key the later wins. -/
def propsOfPairs (pairs : List String) : Except String (List (String × Value)) := do
  let mut props : List (String × Value) := []
  for p in pairs do
    match p.splitOn "=" with
    | key :: rest@(_ :: _) =>
      if key.isEmpty then throw ("invalid prop " ++ Text.quote p ++ ", want key=value")
      props := Dict.insert props key (.str ("=".intercalate rest))
    | _ => throw ("invalid prop " ++ Text.quote p ++ ", want key=value")
  pure props

end ViewEngine.Cli
