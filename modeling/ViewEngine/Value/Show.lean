import ViewEngine.Value.Basic
import ViewEngine.Number.Layout

/-!
How values show themselves: the name of their type, their general text (as inside a collection,
where absent values read `<nil>` and mappings list their keys in order) and their plain text (as a
child or an attribute value, where the absent value is empty and numbers are written digit by
digit).
-/

namespace ViewEngine

open Number

/-- The name of the function type of a handler shape. -/
def HandlerShape.typeName : HandlerShape → String
  | .eventError => "func(dom.Event) error"
  | .event => "func(dom.Event)"
  | .error => "func() error"
  | .plain => "func()"
  | .wrong => "func(int)"

/-- The name of a routine's type. Capability functions have the capability's named type when
`named`, else the plain function type of the same shape. -/
def Routine.typeName : Routine → String
  | .handler shape _ _ _ => shape.typeName
  | .counterClick _ _ => "func()"
  | .idle => "func()"
  | .wrongShape => "func(int)"
  | .newState named => if named then "rigor.StateFunc" else "func(map[string]interface {}) *rigor.State"
  | .log _ named => if named then "rigor.LogFunc" else "func(...interface {})"
  | .logText => "func(string)"
  | .setTimer _ _ => "rigor.SetTimerFunc"
  | .clearTimer _ => "rigor.ClearTimerFunc"
  | .fetch real => if real then "rigor.FetchFunc" else "func(*http.Request) (*http.Response, error)"
  | .emit viaBus => if viaBus then "rigor.EmitFunc" else "func(string, interface {})"
  | .on viaBus => if viaBus then "rigor.OnFunc" else "func(string, func(interface {})) func()"
  | .trigger _ => "rigor.Trigger"

/-- The name of the type a component is given as. -/
def ComponentForm.typeName : ComponentForm → String
  | .component => "rigor.Component"
  | .func => "func(rigor.Props, *rigor.Capabilities) rigor.RenderFunc"
  | .raw => "func(rigor.Props, *rigor.Capabilities) func(rigor.Props, []interface {}) rigor.Node"

/-- The name of a value's type; the absent value has the type name `<nil>`. -/
def Value.typeName : Value → String
  | .null => "<nil>"
  | .bool _ => "bool"
  | .str _ => "string"
  | .f64 _ => "float64"
  | .f32 _ => "float32"
  | .int k _ => k.name
  | .bytes _ => "[]uint8"
  | .list _ => "[]interface {}"
  | .node _ => "rigor.Node"
  | .props _ => "rigor.Props"
  | .map _ => "map[string]interface {}"
  | .textMap _ => "map[string]string"
  | .texts _ => "[]string"
  | .ints _ => "[]int"
  | .anyMap _ => "map[interface {}]interface {}"
  | .error _ => "*errors.errorString"
  | .stringer _ => "main.textStringer"
  | .moment _ => "time.Time"
  | .component _ form => form.typeName
  | .routine r => r.typeName

/-- Where a key of a mapping with keys of any kind goes: integers, then other numbers, texts,
truth values, and the rest. -/
def Value.keyRank : Value → Nat
  | .int _ _ => 0
  | .f64 _ | .f32 _ => 1
  | .str _ => 2
  | .bool _ => 3
  | _ => 4

/-- Orders two keys of a mapping with keys of any kind: by rank, then integers by value and the
rest by their text. -/
def keyBefore (a b : Value × String) : Bool :=
  match a.1, b.1 with
  | .int _ m, .int _ n => m ≤ n
  | x, y =>
    if x.keyRank == y.keyRank then decide (a.2 ≤ b.2) else x.keyRank < y.keyRank

/-- Joins texts with a separator. -/
def joinWith (sep : String) : List String → String
  | [] => ""
  | [s] => s
  | s :: rest => s ++ sep ++ joinWith sep rest

/-- Lists `key:value` pairs after sorting them by key. -/
def showPairs (pairs : List (String × String)) : String :=
  joinWith " " ((pairs.mergeSort (fun a b => decide (a.1 ≤ b.1))).map (fun p => p.1 ++ ":" ++ p.2))

/-- The text by which a function shows itself: the address of its code. -/
def codeAddress : String := "0x8d68e0"

mutual
/-- The general text of a value: texts as they are, numbers in the general layout, lists in
brackets separated by blanks, mappings as `map[k:v ...]` sorted by key, the absent value as
`<nil>`, errors and text-showing values by their own text. -/
def Value.show : Value → String
  | .null => "<nil>"
  | .bool b => if b then "true" else "false"
  | .str s => s
  | .f64 x => x.generalText
  | .f32 x => x.generalText
  | .int _ n => toString n
  | .bytes data => "[" ++ joinWith " " (data.map (fun b => toString b.toNat)) ++ "]"
  | .list items => "[" ++ Value.showItems items ++ "]"
  | .node items => "[" ++ Value.showItems items ++ "]"
  | .props none => "map[]"
  | .props (some fields) => "map[" ++ showPairs (Value.showFields fields) ++ "]"
  | .map none => "map[]"
  | .map (some fields) => "map[" ++ showPairs (Value.showFields fields) ++ "]"
  | .textMap fields => "map[" ++ showPairs fields ++ "]"
  | .texts items => "[" ++ joinWith " " items ++ "]"
  | .ints items => "[" ++ joinWith " " (items.map toString) ++ "]"
  | .anyMap entries =>
    let sorted := (Value.showKeys entries).mergeSort (fun a b => keyBefore a.1 b.1)
    "map[" ++ joinWith " " (sorted.map (fun e => e.1.2 ++ ":" ++ e.2)) ++ "]"
  | .error message => message
  | .stringer shown => shown
  | .moment shown => shown
  | .component _ _ => codeAddress
  | .routine _ => codeAddress

/-- The general texts of a list's items, separated by blanks. -/
def Value.showItems : List Value → String
  | [] => ""
  | [v] => v.show
  | v :: rest => v.show ++ " " ++ Value.showItems rest

/-- The general texts of a mapping's values, beside their keys. -/
def Value.showFields : List (String × Value) → List (String × String)
  | [] => []
  | (k, v) :: rest => (k, v.show) :: Value.showFields rest

/-- The keys of a mapping with keys of any kind, with their texts, beside the texts of the values. -/
def Value.showKeys : List (Value × Value) → List ((Value × String) × String)
  | [] => []
  | (k, v) :: rest => ((k, k.show), v.show) :: Value.showKeys rest
end

/-- The plain text of a value: empty for the absent value, texts as they are, `true`/`false`,
numbers digit by digit with the fewest digits that read back, errors and text-showing values by
their own text, anything else by its general text. -/
def Value.text : Value → String
  | .null => ""
  | .f64 x => x.plainText
  | .f32 x => x.plainText
  | v => v.show

end ViewEngine
