import ViewEngine.Cli.Command
import ViewEngine.Cli.NodeFile
import ViewEngine.Engine.Api
import ViewEngine.Props.Decode

/-!
The command line as a function: from the arguments, standard input and the files of the working
directory to what is printed and the exit code. `version` prints the banner; `render` loads the
settings (the file named by `--config`, then `--log-level` and `--flavor` over it), builds the node
from `--component` and `--prop` or from a node file (`-` for standard input), and prints its markup,
or with `--live` the markup of a document body it was mounted into. `help`, `--help` and the
commands that only group others print help. A failure prints `error: ` and its message, and exits
with 1.
-/

namespace ViewEngine.Cli

/-- What a run of the command line printed, and its exit code. -/
structure Outcome where
  stdout : String
  stderr : String
  code : Nat
  deriving Repr

/-- What a run of the command line sees: its standard input and the files of its directory. -/
structure Surroundings where
  stdin : String
  files : List (String × String)

/-- The contents of a file, named relative to the working directory (a leading `./` aside). -/
def Surroundings.file? (env : Surroundings) (path : String) : Option String :=
  let strip (p : String) : String := if p.startsWith "./" then (p.drop 2).toString else p
  (env.files.lookup path).orElse fun _ => env.files.lookup (strip path)

/-- A run that printed a text and succeeded. -/
def Outcome.printed (text : String) : Outcome := ⟨text, "", 0⟩

/-- A run that failed with a message. -/
def Outcome.failed (message : String) : Outcome := ⟨"", "error: " ++ message ++ "\n", 1⟩

/-- The settings a render runs with: the settings file, then the overriding flags, validated. -/
def settingsFor (flags : FlagValues) (env : Surroundings) : Except String Settings := do
  let path := flags.text "config" "rigor.yaml"
  let (s, err) := Settings.load path (env.file? path)
  if let some e := err then throw e.message
  let level := flags.text "log-level" ""
  let flavor := flags.text "flavor" ""
  let s := if level.isEmpty then s else { s with logLevel := level }
  let s := if flavor.isEmpty then s else { s with flavor := flavor }
  match s.validate with
  | .error e => throw e.message
  | .ok () => pure s

/-- The node a render draws: a bundled component with props from flags, or a node file. -/
def nodeFor (flags : FlagValues) (positional : List String) (env : Surroundings) : Except String Value := do
  let component := flags.text "component" ""
  if !component.isEmpty then
    match bundledNamed? component with
    | none => throw ("unknown component " ++ Text.quote component)
    | some d =>
      let props ← propsOfPairs (flags.all "prop")
      pure (.node [.component (.demo d) .component, .props (some props)])
  else
    match positional with
    | [] => throw "a node file or --component is required"
    | name :: _ =>
      let text ← if name == "-" then pure env.stdin
        else match env.file? name with
          | some t => pure t
          | none => throw ("failed to read node: open " ++ name ++ ": no such file or directory")
      readNodeFile name text

/-- Draws a node with a renderer of the settings: its markup, or the markup of a fresh document
body it was mounted into. -/
def draw (s : Settings) (node : Value) (live : Bool) : Except String String :=
  match Flavor.byName s.flavor with
  | .error f => .error f.message
  | .ok flavor =>
    let r : Renderer := ⟨flavor.plugins, s.escape, s.clearOnUpdate, none, 0, []⟩
    let world := World.fresh Program.linked #[r]
    let steps : Run (Except Failure String) :=
      if live then do
        let body ← Run.createElement "body"
        match ← Run.mountInto 0 node body with
        | some f => pure (.error f)
        | none => pure (.ok ((← get).doc.innerHTML body))
      else Run.renderToString 0 node
    match steps.run world with
    | .ok (.ok html) _ => .ok html
    | .ok (.error f) _ => .error f.message
    | .error (.fail f) _ => .error f.message
    | .error (.capability f) _ => .error f.message
    | .error .exhausted _ => .error "step budget exhausted"

/-- Runs `render`. -/
def render (flags : FlagValues) (positional : List String) (env : Surroundings) : Outcome :=
  if positional.length > 1 then
    .failed ("accepts at most 1 arg(s), received " ++ toString positional.length)
  else
    let out : Except String String := do
      let s ← settingsFor flags env
      let node ← nodeFor flags positional env
      draw s node (flags.switch "live")
    match out with
    | .ok html => .printed html
    | .error message => .failed message

/-- A list of words as help topics are shown: each between backquotes. -/
def topicsText (words : List String) : String :=
  "[" ++ " ".intercalate (words.map fun w =>
    if w.contains '`' || !w.all Text.isPrintable then Text.quote w else "`" ++ w ++ "`") ++ "]"

/-- Runs `help` for the words given: the help of the command they name. -/
def helpAbout (words : List String) : Outcome :=
  match findCommand words with
  | .ok (c, _) => .printed c.helpText
  | .error _ => ⟨"", "Unknown help topic " ++ topicsText words ++ "\n" ++ Command.root.usage, 0⟩

/-- Runs the command line. -/
def run (args : List String) (env : Surroundings) : Outcome :=
  match findCommand args with
  | .error word => .failed (unknownCommandMessage word)
  | .ok (c, rest) =>
    match parseFlags c.allFlags rest with
    | .error .helpWanted => .printed c.helpText
    | .error e => .failed e.message
    | .ok (flags, positional) =>
      if flags.switch "help" || !c.runnable then .printed c.helpText
      else
        match c with
        | .version => .printed (welcome ++ "\n")
        | .help => helpAbout positional
        | .render => render flags positional env
        | .serve => .failed "serving is not available from this command line"
        | other => .failed ("no completion script for " ++ other.name)

end ViewEngine.Cli
