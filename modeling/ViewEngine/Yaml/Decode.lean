import ViewEngine.Yaml.Parse
import ViewEngine.Value.Show
import ViewEngine.Text.Base64
import ViewEngine.Text.Quote
import ViewEngine.Text.Utf8
import ViewEngine.Data.Dict
import ViewEngine.Value.Place

/-!
Decoding a YAML document into a place: a dynamic value, a text, a truth value, or
a record with named fields. Values that do not fit their place are noted and decoding goes on;
malformed tagged scalars, binary data that is not base64, an alias inside its own anchored node
and a mapping or sequence used as a key stop it. Fields of records are written as decoding goes,
so a stop leaves the fields set before it. A `<<` key merges mappings into its own mapping after
the mapping's other keys, and never over them.
-/

namespace ViewEngine.Yaml

open Text Number

/-- What a node decoded to; a record's fields are written to the decoder's state instead. -/
inductive Decoded where
  | value (v : Value)
  | text (s : String)
  | flag (b : Bool)
  | record

/-- The decoder's state: the fields written, the values that did not fit (one line each), the
aliases being expanded (by place), and the keys that a merge may no longer set. -/
structure Decoding where
  updates : Array Update := #[]
  mismatches : Array String := #[]
  expanding : List Nat := []
  merged : Option (Array Value) := none

/-- Decoding steps; the state survives a stop. -/
abbrev Decode := ExceptT Fault (StateM Decoding)

/-- What a resolved scalar is as a dynamic value: integers are of the machine's word size, or
unsigned 64-bit beyond it. -/
def Resolved.toValue : Resolved → Value
  | .null => .null
  | .bool b => .bool b
  | .int n => .int .int n
  | .uint n => .int .uint64 n
  | .float x => .f64 x
  | .text s => .str s
  | .time t => .moment t.text

/-- Whether two floats are equal as numbers: a NaN equals nothing, and the two zeros are equal. -/
def sameNumber (x y : Binary64) : Bool :=
  match x.read, y.read with
  | .nan, _ | _, .nan => false
  | _, _ => x.bits == y.bits || (x.isZero && y.isZero)

/-- Whether two values are the same key of a mapping: the same kind and an equal value. -/
def sameKey : Value → Value → Bool
  | .null, .null => true
  | .bool a, .bool b => a == b
  | .int k m, .int l n => k == l && m == n
  | .f64 x, .f64 y => sameNumber x y
  | .str a, .str b => a == b
  | .moment a, .moment b => a == b
  | _, _ => false

/-- Stores an entry in a mapping: an entry with the same key takes the new key and value in its
place, else the entry goes last. -/
def storeEntry (entries : List (Value × Value)) (k v : Value) : List (Value × Value) :=
  if entries.any (fun e => sameKey e.1 k) then
    entries.map (fun e => if sameKey e.1 k then (k, v) else e)
  else entries ++ [(k, v)]

/-- The spellings a text may take for a truth value. -/
def yesNo (s : String) : Option Bool :=
  if ["y", "Y", "yes", "Yes", "YES", "on", "On", "ON"].contains s then some true
  else if ["n", "N", "no", "No", "NO", "off", "Off", "OFF"].contains s then some false
  else none

/-- Whether a key is the merge key: a plain `<<`, untagged or tagged `!!merge`. -/
def isMergeKey : Node → Bool
  | .scalar tag text _ _ => text == "<<" && tag == "!!merge"
  | _ => false

/-- Whether a mapping's keys are all texts (or merge keys), so that it decodes to a mapping from
text. -/
def Document.textKeys (d : Document) (entries : List (Node × Node)) : Bool :=
  entries.all fun e => let t := d.shortTagOf e.1; t == "!!str" || t == "!!merge"

mutual
/-- How a value is written as source text in messages about keys. -/
def syntaxText : Value → String
  | .null => "interface \x7b\x7d(nil)"
  | .bool b => if b then "true" else "false"
  | .str s => quote s
  | .int .uint64 n => "0x" ++ String.ofList (Nat.toDigits 16 n.toNat)
  | .int _ n => toString n
  | .f64 x => x.generalText
  | .list items => "[]interface \x7b\x7d\x7b" ++ syntaxItems items ++ "\x7d"
  | .map none => "map[string]interface \x7b\x7d(nil)"
  | .map (some fields) => "map[string]interface \x7b\x7d\x7b" ++ syntaxFields fields ++ "\x7d"
  | .anyMap entries => "map[interface \x7b\x7d]interface \x7b\x7d\x7b" ++ syntaxEntries entries ++ "\x7d"
  | v => v.show

/-- The source texts of list items, separated by commas. -/
def syntaxItems : List Value → String
  | [] => ""
  | [v] => syntaxText v
  | v :: rest => syntaxText v ++ ", " ++ syntaxItems rest

/-- The source texts of text-keyed entries, separated by commas. -/
def syntaxFields : List (String × Value) → String
  | [] => ""
  | [(k, v)] => quote k ++ ":" ++ syntaxText v
  | (k, v) :: rest => quote k ++ ":" ++ syntaxText v ++ ", " ++ syntaxFields rest

/-- The source texts of entries with keys of any kind, separated by commas. -/
def syntaxEntries : List (Value × Value) → String
  | [] => ""
  | [(k, v)] => syntaxText k ++ ":" ++ syntaxText v
  | (k, v) :: rest => syntaxText k ++ ":" ++ syntaxText v ++ ", " ++ syntaxEntries rest
end

namespace Decode

/-- Stops decoding. -/
def stop {α : Type} (message : String) : Decode α := throw (.failure message)

/-- Notes a line about a value that does not fit. -/
def note (line : String) : Decode Unit :=
  modify fun d => { d with mismatches := d.mismatches.push line }

/-- Notes that a node (its line, tag and text) does not fit a place; the text of a collection is
not shown, and a long text is cut to seven bytes. -/
def mismatch (line : Nat) (tag text : String) (place : Place) : Decode Unit :=
  let shown :=
    if tag == "!!seq" || tag == "!!map" then ""
    else
      let bytes := text.toUTF8.toList
      if bytes.length > 10 then " `" ++ ofUtf8Lossy (bytes.take 7) ++ "...`" else " `" ++ text ++ "`"
  note ("line " ++ toString line ++ ": cannot unmarshal " ++ tag ++ shown ++ " into " ++ place.typeName)

/-- Writes a field of the record being decoded. -/
def write (path : List String) (v : Value) : Decode Unit :=
  modify fun d => { d with updates := d.updates.push (path, v) }

/-- The keys a merge may no longer set, leaving none in the state. -/
def takeMerged : Decode (Option (Array Value)) := do
  let d ← get
  set { d with merged := none }
  pure d.merged

/-- Puts back the keys a merge may no longer set. -/
def putMerged (m : Option (Array Value)) : Decode Unit :=
  modify fun d => { d with merged := m }

/-- Claims a key under the keys a merge may no longer set: `none` when the key is taken, else
the keys with this one added (no keys when no merge is on). -/
def claimKey (keys : Option (Array Value)) (key : Value) : Option (Option (Array Value)) :=
  match keys with
  | none => some none
  | some ks => if ks.any (sameKey key) then none else some (some (ks.push key))

/-- What a scalar stands for: a `!!str` scalar is its text; otherwise its text is resolved under
its tag, and `!!binary` data is decoded. -/
def scalarValue (tag text : String) : Decode Resolved := do
  if tag == "!!str" then return .text text
  match resolve tag text with
  | .error message => stop message
  | .ok (rtag, r) =>
    if rtag == "!!binary" then
      match Base64.decodeWith .standard text with
      | .ok bytes => pure (.text (ofUtf8Lossy bytes))
      | .error _ => stop "!!binary value contains invalid base64 data"
    else pure r

/-- Notes each key of a mapping that repeats an earlier one (same kind of node, same text).
Returns whether there was any. -/
def duplicates (entries : List (Node × Node)) : Decode Bool := do
  let keys := entries.map Prod.fst
  let mut found := false
  for (a, i) in keys.zipIdx do
    for b in keys.drop (i + 1) do
      if a.kindRank == b.kindRank && a.text == b.text then
        note ("line " ++ toString b.line ++ ": mapping key " ++ quote b.text ++
          " already defined at line " ++ toString a.line)
        found := true
  pure found

/-- Stops a merge whose value is not a mapping or a sequence of mappings. -/
def wantMapping {α : Type} : Decode α :=
  stop "map merge requires map or sequence of maps as the value"

/-- Whether a node is a mapping, aliases seen through. -/
def isMapping (doc : Document) (n : Node) : Bool := doc.kindOf n == 2

mutual

/-- Decodes a node into a place; `none` when nothing was stored. A record writes its
fields under `path`. -/
def node (doc : Document) : Nat → List String → Place → Node → Decode (Option Decoded)
  | 0, _, _, _ => stop "document nesting exceeds its length"
  | fuel + 1, path, place, n =>
    match n with
    | .alias name k pos _ => do
      if (← get).expanding.contains pos then stop ("anchor '" ++ name ++ "' value contains itself")
      modify fun d => { d with expanding := pos :: d.expanding }
      let r ← node doc fuel path place (doc.target k)
      modify fun d => { d with expanding := d.expanding.erase pos }
      pure r
    | .scalar tag text _ line => do
      let r ← scalarValue tag text
      match r, place with
      | .null, .any => pure (some (.value .null))
      | .null, _ => pure none
      | r, .any => pure (some (.value r.toValue))
      | .text s, .text => pure (some (.text s))
      | _, .text => pure (some (.text text))
      | .bool b, .flag => pure (some (.flag b))
      | .text s, .flag =>
        match yesNo s with
        | some b => pure (some (.flag b))
        | none => do mismatch line tag text place; pure none
      | _, _ => do mismatch line tag text place; pure none
    | .sequence tag items line => do
      match place with
      | .any =>
        let mut out : Array Value := #[]
        for item in items do
          if let some (.value v) ← node doc fuel path .any item then out := out.push v
        pure (some (.value (.list out.toList)))
      | _ => do mismatch line tag "" place; pure none
    | .mapping tag entries line => do
      if ← duplicates entries then return none
      match place with
      | .record name fields => do
        recordEntries doc fuel path name fields entries
        pure (some .record)
      | .any => do
        let textKeys := doc.textKeys entries
        let acc ← mapEntries doc fuel textKeys entries []
        if textKeys then
          pure (some (.value (.map (some (Dict.ofList (acc.map fun e => (e.1.show, e.2)))))))
        else pure (some (.value (.anyMap acc)))
      | _ => do mismatch line tag "" place; pure none

/-- Decodes the entries of a mapping into a record: each key names a field (unknown ones are
skipped, a field set twice is noted), and a merge key's mappings come last. -/
def recordEntries (doc : Document) (fuel : Nat) (path : List String) (name : String)
    (fields : List (String × Place)) (entries : List (Node × Node)) : Decode Unit := do
  let mut merged ← takeMerged
  let mut done : List String := []
  let mut mergeNode : Option Node := none
  for (k, v) in entries do
    if isMergeKey k then
      mergeNode := some v
      continue
    let some (.text key) ← node doc fuel [] .text k | continue
    let some claimed := claimKey merged (.str key) | continue
    merged := claimed
    match fields.lookup key with
    | none => pure ()
    | some fieldPlace =>
      if done.contains key then
        note ("line " ++ toString k.line ++ ": field " ++ key ++ " already set in type " ++ name)
        continue
      done := key :: done
      match ← node doc fuel (path ++ [key]) fieldPlace v with
      | some (.text s) => write (path ++ [key]) (.str s)
      | some (.flag b) => write (path ++ [key]) (.bool b)
      | some (.value x) => write (path ++ [key]) x
      | _ => pure ()
  putMerged merged
  if let some m := mergeNode then
    mergeInto doc fuel entries m fun source => do
      let _ ← node doc fuel path (.record name fields) source
      pure ()

/-- Decodes the entries of a mapping into a dynamic mapping, on top of `acc`: keys are texts or
values of any kind, a key that is a list or mapping stops decoding, and a merge key's mappings
come last. -/
def mapEntries (doc : Document) (fuel : Nat) (textKeys : Bool) (entries : List (Node × Node))
    (acc : List (Value × Value)) : Decode (List (Value × Value)) := do
  let mut merged ← takeMerged
  let mut acc := acc
  let mut mergeNode : Option Node := none
  for (k, v) in entries do
    if isMergeKey k then
      mergeNode := some v
      continue
    let key? ← if textKeys then do
        match ← node doc fuel [] .text k with
        | some (.text s) => pure (some (Value.str s))
        | _ => pure none
      else do
        match ← node doc fuel [] .any k with
        | some (.value x) => pure (some x)
        | _ => pure none
    let some key := key? | continue
    let some claimed := claimKey merged key | continue
    merged := claimed
    match key with
    | .list _ | .map _ | .anyMap _ => stop ("invalid map key: " ++ syntaxText key)
    | _ => pure ()
    match ← node doc fuel [] .any v with
    | some (.value x) => acc := storeEntry acc key x
    | _ =>
      if doc.shortTagOf v == "!!null" && !acc.any (fun e => sameKey e.1 key) then
        acc := storeEntry acc key .null
  putMerged merged
  if let some m := mergeNode then
    acc ← mergeMapInto doc fuel textKeys entries m acc
  pure acc

/-- Merges a merge key's value into a record: the keys of the merging mapping are claimed first
(unless an enclosing merge already holds claimed keys, which this merge then adds to), then each
source mapping is decoded in turn. -/
def mergeInto (doc : Document) (fuel : Nat) (parent : List (Node × Node)) (m : Node)
    (each : Node → Decode Unit) : Decode Unit := do
  let saved ← takeMerged
  match saved with
  | some keys => putMerged (some keys)
  | none =>
    let mut keys : Array Value := #[]
    for (k, _) in parent do
      if let some (.value x) ← node doc fuel [] .any k then keys := keys.push x
    putMerged (some keys)
  match m with
  | .mapping _ _ _ => each m
  | .alias _ _ _ _ => if isMapping doc m then each m else wantMapping
  | .sequence _ items _ =>
    for item in items do
      if isMapping doc item then each item else wantMapping
  | _ => wantMapping
  if saved.isNone then putMerged none

/-- Merges a merge key's value into a dynamic mapping, as `mergeInto` does for a record. -/
def mergeMapInto (doc : Document) (fuel : Nat) (textKeys : Bool) (parent : List (Node × Node))
    (m : Node) (acc : List (Value × Value)) : Decode (List (Value × Value)) := do
  let saved ← takeMerged
  match saved with
  | some keys => putMerged (some keys)
  | none =>
    let mut keys : Array Value := #[]
    for (k, _) in parent do
      if let some (.value x) ← node doc fuel [] .any k then keys := keys.push x
    putMerged (some keys)
  let mut acc := acc
  match m with
  | .mapping _ _ _ => acc ← intoMap doc fuel textKeys m acc
  | .alias _ _ _ _ => if isMapping doc m then acc ← intoMap doc fuel textKeys m acc else wantMapping
  | .sequence _ items _ =>
    for item in items do
      if isMapping doc item then acc ← intoMap doc fuel textKeys item acc else wantMapping
  | _ => wantMapping
  if saved.isNone then putMerged none
  pure acc

/-- Decodes a mapping (or an alias of one) into an existing dynamic mapping. -/
def intoMap (doc : Document) : Nat → Bool → Node → List (Value × Value) → Decode (List (Value × Value))
  | 0, _, _, _ => stop "document nesting exceeds its length"
  | fuel + 1, textKeys, n, acc =>
    match n with
    | .alias name k pos _ => do
      if (← get).expanding.contains pos then stop ("anchor '" ++ name ++ "' value contains itself")
      modify fun d => { d with expanding := pos :: d.expanding }
      let r ← intoMap doc fuel textKeys (doc.target k) acc
      modify fun d => { d with expanding := d.expanding.erase pos }
      pure r
    | .mapping _ entries _ => do
      if ← duplicates entries then return acc
      mapEntries doc fuel textKeys entries acc
    | _ => pure acc

end

end Decode

/-- Reads the first document of a text and decodes it into a place. Gives what the
root decoded to (`none` when the text holds no document or nothing was stored), the fields
written, and the fault that ended decoding, if any: a stop, or the values that did not fit. -/
def decodeText (text : String) (place : Place) : Option Decoded × Array Update × Option Fault :=
  match Document.read? text with
  | .error e => (none, #[], some e)
  | .ok none => (none, #[], none)
  | .ok (some doc) =>
    let fuel := Nat.pow (text.length * 4 + 8) 2
    let (r, st) := (Decode.node doc fuel [] place doc.root).run.run {}
    match r with
    | .error e => (none, st.updates, some e)
    | .ok out =>
      if st.mismatches.isEmpty then (out, st.updates, none)
      else (out, st.updates, some (.mismatches st.mismatches.toList))

end ViewEngine.Yaml
