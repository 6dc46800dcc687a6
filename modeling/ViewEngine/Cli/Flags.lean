import ViewEngine.Number.Read
import ViewEngine.Text.Quote

/-!
Flags of a command line. A flag has a long name and perhaps a one-letter shorthand, and takes a
text, a list of texts (one more each time it is given), or is a switch. Arguments are read left
to right: `--name=value`, `--name value`, `-x value`, `-xvalue` and `-x=value` set flags, switches
may share one dash (`-ab`), `--` ends the flags, and anything else is a positional argument. A
switch given without a value is on; with a value, the value must spell a truth value.
-/

namespace ViewEngine.Cli

/-- What a flag takes. -/
inductive FlagKind where
  | text | texts | switch
  deriving DecidableEq, Repr

/-- A flag: its long name, shorthand, kind, the help line and the default help shows (empty when
the default is the kind's zero). -/
structure FlagSpec where
  name : String
  short : Option Char
  kind : FlagKind
  usage : String
  shownDefault : String := ""

/-- The name of a flag as messages show it: with its shorthand when it has one. -/
def FlagSpec.displayName (f : FlagSpec) : String :=
  match f.short with
  | some c => "-" ++ String.singleton c ++ ", --" ++ f.name
  | none => "--" ++ f.name

/-- The values flags were given, in the order given; a switch's value is `true` or `false`. -/
structure FlagValues where
  given : Array (String × String) := #[]

namespace FlagValues

/-- Every value a flag was given, in order. -/
def all (v : FlagValues) (name : String) : List String :=
  (v.given.toList.filter (·.1 == name)).map (·.2)

/-- The last value a flag was given, or a fallback. -/
def text (v : FlagValues) (name fallback : String) : String :=
  (v.all name).getLast?.getD fallback

/-- Whether a switch is on. -/
def switch (v : FlagValues) (name : String) : Bool := v.text name "false" == "true"

end FlagValues

/-- Why the flags of a command line cannot be read. -/
inductive FlagError where
  /-- Help was asked for with a flag no command defines. -/
  | helpWanted
  /-- An argument of two dashes followed by a dash or `=`, or nothing. -/
  | badSyntax (arg : String)
  | unknownLong (name : String)
  /-- An unknown shorthand, and the shorthands from it on. -/
  | unknownShort (c : Char) (rest : String)
  /-- A long flag given last without its value. -/
  | needsValue (arg : String)
  /-- A shorthand given last without its value, and the shorthands from it on. -/
  | needsShortValue (c : Char) (rest : String)
  /-- A switch given a value that is not a truth value. -/
  | badValue (value : String) (flag : String)
  deriving Repr

/-- A character as a quoted character literal; a character beyond ASCII shows as the character
of its first encoded byte. -/
def quoteShorthand (c : Char) : String :=
  let c := Text.leadByte c
  let body := if c == '\'' then "\\'" else if c == '"' then "\"" else String.ofList (Text.quotedChar c)
  "'" ++ body ++ "'"

/-- The message of a flag error. -/
def FlagError.message : FlagError → String
  | .helpWanted => "pflag: help requested"
  | .badSyntax arg => "bad flag syntax: " ++ arg
  | .unknownLong name => "unknown flag: --" ++ name
  | .unknownShort c rest => "unknown shorthand flag: " ++ quoteShorthand c ++ " in -" ++ rest
  | .needsValue arg => "flag needs an argument: " ++ arg
  | .needsShortValue c rest => "flag needs an argument: " ++ quoteShorthand c ++ " in -" ++ rest
  | .badValue value flag =>
    "invalid argument " ++ Text.quote value ++ " for " ++ Text.quote flag ++
      " flag: strconv.ParseBool: parsing " ++ Text.quote value ++ ": invalid syntax"

/-- Gives a flag a value; a switch's value must spell a truth value. -/
def setFlag (f : FlagSpec) (value : String) (values : FlagValues) : Except FlagError FlagValues :=
  match f.kind with
  | .switch =>
    match Number.readBool value with
    | .ok b => .ok { given := values.given.push (f.name, if b then "true" else "false") }
    | .error _ => .error (.badValue value f.displayName)
  | _ => .ok { given := values.given.push (f.name, value) }

/-- Reads a run of shorthands after one dash; the last one may take the next argument as its
value. Gives the values and the arguments left. -/
def shorthands (specs : List FlagSpec) (args : List String) :
    List Char → FlagValues → Except FlagError (FlagValues × List String)
  | [], values => .ok (values, args)
  | c :: rest, values =>
    match specs.find? (·.short == some c) with
    | none => if c == 'h' then .error .helpWanted else .error (.unknownShort c (String.ofList (c :: rest)))
    | some f =>
      if rest.length ≥ 2 && rest.head? == some '=' then
        (setFlag f (String.ofList (rest.drop 1)) values).map (·, args)
      else if f.kind == .switch then
        match setFlag f "true" values with
        | .ok v => shorthands specs args rest v
        | .error e => .error e
      else if !rest.isEmpty then (setFlag f (String.ofList rest) values).map (·, args)
      else
        match args with
        | a :: more => (setFlag f a values).map (·, more)
        | [] => .error (.needsShortValue c (String.singleton c))

/-- Reads a long flag (the argument without its dashes); it may take the next argument as its
value. Gives the values and the arguments left. -/
def longFlag (specs : List FlagSpec) (arg : String) (args : List String) (values : FlagValues) :
    Except FlagError (FlagValues × List String) :=
  let body := arg.drop 2 |>.toString
  if body.isEmpty || body.startsWith "-" || body.startsWith "=" then .error (.badSyntax arg)
  else
    let name := (body.splitOn "=").headD ""
    let inline := if body.contains '=' then some (body.drop (name.length + 1) |>.toString) else none
    match specs.find? (·.name == name) with
    | none => if name == "help" then .error .helpWanted else .error (.unknownLong name)
    | some f =>
      match inline with
      | some v => (setFlag f v values).map (·, args)
      | none =>
        if f.kind == .switch then (setFlag f "true" values).map (·, args)
        else
          match args with
          | a :: more => (setFlag f a values).map (·, more)
          | [] => .error (.needsValue arg)

/-- Reads arguments left to right into flag values and positional arguments. -/
def readArgs (specs : List FlagSpec) : Nat → List String → FlagValues → Array String →
    Except FlagError (FlagValues × List String)
  | 0, _, values, positional => .ok (values, positional.toList)
  | _ + 1, [], values, positional => .ok (values, positional.toList)
  | fuel + 1, arg :: rest, values, positional =>
    let cs := arg.toList
    match cs with
    | '-' :: '-' :: [] => .ok (values, positional.toList ++ rest)
    | '-' :: '-' :: _ =>
      match longFlag specs arg rest values with
      | .ok (v, more) => readArgs specs fuel more v positional
      | .error e => .error e
    | '-' :: c :: group =>
      match shorthands specs rest (c :: group) values with
      | .ok (v, more) => readArgs specs fuel more v positional
      | .error e => .error e
    | _ => readArgs specs fuel rest values (positional.push arg)

/-- Reads a command line's arguments into flag values and positional arguments. -/
def parseFlags (specs : List FlagSpec) (args : List String) : Except FlagError (FlagValues × List String) :=
  readArgs specs (args.length + 1) args {} #[]

end ViewEngine.Cli
