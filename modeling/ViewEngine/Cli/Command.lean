import ViewEngine.Cli.Flags

/-!
The commands of the command line and how an argument list selects one: words that are not flags
or flag values walk down the command tree, and a first word that names no command of the root is an
unknown command. Each command has its help text: its description, how it is used, its subcommands,
its own flags and the flags it inherits, each list aligned in columns.
-/

namespace ViewEngine.Cli

/-- The commands. -/
inductive Command where
  | root | completion | help | render | serve | version
  | bash | fish | powershell | zsh
  deriving DecidableEq, Repr, Inhabited

/-- The flags every command inherits from the root. -/
def globalFlags : List FlagSpec :=
  [⟨"config", none, .text, "Path to the configuration file (YAML or JSON)", "rigor.yaml"⟩,
   ⟨"log-level", none, .text, "Override the configured log level", ""⟩,
   ⟨"flavor", none, .text, "Override the configured flavor (safe, modern, debug)", ""⟩]

namespace Command

/-- The name of a command. -/
def name : Command → String
  | .root => "rigor"
  | .completion => "completion"
  | .help => "help"
  | .render => "render"
  | .serve => "serve"
  | .version => "version"
  | .bash => "bash"
  | .fish => "fish"
  | .powershell => "powershell"
  | .zsh => "zsh"

/-- The command above a command. -/
def parent : Command → Option Command
  | .root => none
  | .bash | .fish | .powershell | .zsh => some .completion
  | _ => some .root

/-- The subcommands of a command, by name. -/
def children : Command → List Command
  | .root => [.completion, .help, .render, .serve, .version]
  | .completion => [.bash, .fish, .powershell, .zsh]
  | _ => []

/-- How a command is written, with its arguments. -/
def use : Command → String
  | .root => "rigor"
  | .completion => "completion"
  | .help => "help [command]"
  | .render => "render [file]"
  | .serve => "serve"
  | .version => "version"
  | .bash => "bash"
  | .fish => "fish"
  | .powershell => "powershell"
  | .zsh => "zsh"

/-- The one-line description of a command. -/
def short : Command → String
  | .root => "Rigor renders component trees to markup or live documents"
  | .completion => "Generate the autocompletion script for the specified shell"
  | .help => "Help about any command"
  | .render => "Render a node file or a demo component to markup"
  | .serve => "Serve the demo components over HTTP"
  | .version => "Print the welcome banner with the version of rigor"
  | .bash => "Generate the autocompletion script for bash"
  | .fish => "Generate the autocompletion script for fish"
  | .powershell => "Generate the autocompletion script for powershell"
  | .zsh => "Generate the autocompletion script for zsh"

/-- The long description of a command; empty when it has none. -/
def long : Command → String
  | .root => "Rigor renders data-only component trees either to a markup string or into a live document that re-renders on events."
  | .completion => "Generate the autocompletion script for rigor for the specified shell.\nSee each sub-command's help for details on how to use the generated script.\n"
  | .help => "Help provides help for any command in the application.\nSimply type rigor help [path to command] for full details."
  | .render => "Render reads a node from a YAML or JSON file (\"-\" for stdin) or builds\none from --component and --prop, and prints its markup.\n\nWith --live the node is mounted into an in-memory document instead and the\nresulting document body is printed."
  | .serve => "Serve renders the demo components as markup, keeps a live in-memory\ndocument per session and pushes updates to the browser."
  | _ => ""

/-- Whether a command runs something (rather than only grouping subcommands). -/
def runnable : Command → Bool
  | .root | .completion => false
  | _ => true

/-- A command's own flags, the help flag aside. -/
def localFlags : Command → List FlagSpec
  | .root => globalFlags
  | .render =>
    [⟨"component", some 'c', .text, "Demo component to render instead of a file", ""⟩,
     ⟨"prop", some 'p', .texts, "Component prop as key=value (repeatable)", ""⟩,
     ⟨"live", none, .switch, "Mount into an in-memory document instead of rendering to a string", ""⟩]
  | .serve => [⟨"listen", some 'l', .text, "Address to listen on (overrides the config)", ""⟩]
  | .fish | .powershell | .zsh => [⟨"no-descriptions", none, .switch, "disable completion descriptions", ""⟩]
  | .bash => [⟨"no-descriptions", none, .switch, "disable completion descriptions", ""⟩]
  | _ => []

/-- The flags a command inherits. -/
def inheritedFlags : Command → List FlagSpec
  | .root => []
  | _ => globalFlags

/-- The help flag of a command. -/
def helpFlag (c : Command) : FlagSpec := ⟨"help", some 'h', .switch, "help for " ++ c.name, ""⟩

/-- Every flag a command reads while looking for its subcommand: its own and the inherited ones. -/
def findFlags (c : Command) : List FlagSpec := c.localFlags ++ c.inheritedFlags

/-- Every flag a command reads when it runs: the help flag too. -/
def allFlags (c : Command) : List FlagSpec := c.findFlags ++ [c.helpFlag]

/-- The path of a command from the root, its names joined by spaces. -/
def path : Command → String
  | .root => "rigor"
  | .bash => "rigor completion bash"
  | .fish => "rigor completion fish"
  | .powershell => "rigor completion powershell"
  | .zsh => "rigor completion zsh"
  | c => "rigor " ++ c.name

/-- Whether a command is listed among its parent's: runnable or with subcommands, and not the help
command. -/
def available (c : Command) : Bool := c != .help

end Command

/-- Whether a long flag (named after its dashes) takes its value from the next argument. -/
def takesNext (flags : List FlagSpec) (name : String) : Bool :=
  match flags.find? (·.name == name) with
  | some f => f.kind != .switch
  | none => true

/-- Whether a shorthand takes its value from the next argument. -/
def shortTakesNext (flags : List FlagSpec) (c : Char) : Bool :=
  match flags.find? (·.short == some c) with
  | some f => f.kind != .switch
  | none => true

/-- Whether an argument is a flag that takes the next argument as its value: `--name` or `-x`
without `=`, of a flag that is not a switch (or of no known flag). -/
def takesValue (flags : List FlagSpec) (arg : String) : Bool :=
  if arg.contains '=' then false
  else
    match arg.toList with
    | '-' :: '-' :: rest => takesNext flags (String.ofList rest)
    | ['-', c] => shortTakesNext flags c
    | _ => false

/-- The words of an argument list that are neither flags nor flag values, up to `--`. -/
def plainWords (flags : List FlagSpec) : List String → List String
  | [] => []
  | arg :: rest =>
    if arg == "--" then []
    else if takesValue flags arg then
      match rest with
      | [] | [_] => []
      | _ :: more => plainWords flags more
    else if arg != "" && !arg.startsWith "-" then arg :: plainWords flags rest
    else plainWords flags rest

/-- Removes the first occurrence of a word that is neither a flag nor a flag value. -/
def removeWord (flags : List FlagSpec) (word : String) : List String → List String
  | [] => []
  | arg :: rest =>
    if arg == "--" then arg :: rest
    else if takesValue flags arg then
      match rest with
      | [] => [arg]
      | v :: more => arg :: v :: removeWord flags word more
    else if !arg.startsWith "-" && arg == word then rest
    else arg :: removeWord flags word rest

/-- The subcommand of a command with a name. -/
def Command.child? (c : Command) (name : String) : Option Command :=
  c.children.find? (·.name == name)

/-- Walks down the command tree along the plain words of the arguments: the command found and
the arguments left for it. -/
def descend : Nat → Command → List String → Command × List String
  | 0, c, args => (c, args)
  | fuel + 1, c, args =>
    match plainWords c.findFlags args with
    | [] => (c, args)
    | word :: _ =>
      match c.child? word with
      | some sub => descend fuel sub (removeWord c.findFlags word args)
      | none => (c, args)

/-- The command an argument list selects and the arguments left for it; a plain word that names no
command of the root is an error (the word). -/
def findCommand (args : List String) : Except String (Command × List String) :=
  let (c, rest) := descend 3 .root args
  if c == .root then
    match plainWords c.findFlags rest with
    | word :: _ => .error word
    | [] => .ok (c, rest)
  else .ok (c, rest)

/-- The edit distance between two texts, ignoring ASCII case. -/
def editDistance (a b : String) : Nat :=
  let a := a.toLower.toList
  let b := b.toLower.toList
  let first : List Nat := List.range (b.length + 1)
  let last := a.foldl (fun (prev : List Nat) (ca : Char) =>
    let start := prev.headD 0 + 1
    let (row, _) := (b.zip (prev.zip prev.tail)).foldl (fun (acc : List Nat × Nat) (step : Char × Nat × Nat) =>
      let (cb, diag, up) := step
      let left := acc.2
      let cost := if ca == cb then 0 else 1
      let here := min (min (up + 1) (left + 1)) (diag + cost)
      (acc.1 ++ [here], here)) ([start], start)
    row) first
  last.getLastD 0

/-- The commands of the root a mistyped name may have meant: within two edits, or starting with
it. -/
def suggestionsFor (typed : String) : List String :=
  (Command.root.children.filter Command.available).filterMap fun c =>
    if editDistance typed c.name ≤ 2 || c.name.toLower.startsWith typed.toLower then some c.name else none

/-- The message for a word that names no command. -/
def unknownCommandMessage (word : String) : String :=
  let hints := suggestionsFor word
  "unknown command " ++ Text.quote word ++ " for " ++ Text.quote "rigor" ++
    (if hints.isEmpty then "" else "\n\nDid you mean this?\n" ++ String.join (hints.map fun h => "\t" ++ h ++ "\n"))

/-- A text padded with spaces on the right to a width. -/
def padRight (s : String) (width : Nat) : String :=
  s ++ String.ofList (List.replicate (width - s.length) ' ')

/-- Drops trailing blanks and line breaks. -/
def trimEnd (s : String) : String :=
  String.ofList (s.toList.reverse.dropWhile (fun c => c == ' ' || c == '\n' || c == '\t' || c == '\r')).reverse

/-- The help lines of flags, sorted by name: shorthand and name, the value's type, then the
description (and a default) in one column. -/
def flagUsages (flags : List FlagSpec) : String :=
  let sorted := flags.mergeSort (fun a b => decide (a.name ≤ b.name))
  let heads := sorted.map fun f =>
    let names := match f.short with
      | some c => "  -" ++ String.singleton c ++ ", --" ++ f.name
      | none => "      --" ++ f.name
    let typeName := match f.kind with
      | .text => " string"
      | .texts => " stringArray"
      | .switch => ""
    names ++ typeName
  let width := (heads.map String.length).foldl max 0 + 1
  let lines := (heads.zip sorted).map fun (head, f) =>
    let dflt := if f.shownDefault.isEmpty then "" else " (default " ++ Text.quote f.shownDefault ++ ")"
    head ++ String.ofList (List.replicate (width - head.length + 2) ' ') ++ f.usage ++ dflt ++ "\n"
  String.join lines

/-- How a command is used: its line of use (with `[flags]` when it has flags). -/
def Command.useLine (c : Command) : String :=
  let line := match c.parent with
    | some p => p.path ++ " " ++ c.use
    | none => c.use
  if (line.splitOn "[flags]").length > 1 then line else line ++ " [flags]"

/-- The usage part of a command's help. -/
def Command.usage (c : Command) : String :=
  let subs := c.children
  let listed := subs.filter fun s => s.available || s == .help
  let padding := max 11 ((subs.map (·.name.length)).foldl max 0)
  "Usage:" ++
    (if c.runnable then "\n  " ++ c.useLine else "") ++
    (if subs.isEmpty then "" else "\n  " ++ c.path ++ " [command]") ++
    (if subs.isEmpty then "" else
      "\n\nAvailable Commands:" ++ String.join (listed.map fun s => "\n  " ++ padRight s.name padding ++ " " ++ s.short)) ++
    "\n\nFlags:\n" ++ trimEnd (flagUsages (c.localFlags ++ [c.helpFlag])) ++
    (if c.inheritedFlags.isEmpty then "" else "\n\nGlobal Flags:\n" ++ trimEnd (flagUsages c.inheritedFlags)) ++
    (if subs.isEmpty then "" else
      "\n\nUse \"" ++ c.path ++ " [command] --help\" for more information about a command.") ++
    "\n"

/-- The help text of a command: its description, then its usage. -/
def Command.helpText (c : Command) : String :=
  let about := if c.long.isEmpty then c.short else c.long
  (if about.isEmpty then "" else trimEnd about ++ "\n\n") ++ c.usage

end ViewEngine.Cli
