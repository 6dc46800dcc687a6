/-!
The tokens of YAML text and the positions they are read at, and the problems that stop reading:
each names what was being read and where it began, and what went wrong and where.
-/

namespace ViewEngine.Yaml

/-- A position in the text: the character's index, and its line and column from zero. -/
structure Mark where
  index : Nat
  line : Nat
  column : Nat
  deriving Inhabited, Repr, BEq

/-- The stage of reading a problem comes from. -/
inductive Stage where
  | reader | scanner | parser
  deriving Inhabited, Repr, BEq

/-- A problem that stops reading: what was being read (from where), and what was found (where). -/
structure Problem where
  stage : Stage
  context : String
  contextMark : Mark
  problem : String
  problemMark : Mark
  deriving Inhabited, Repr

/-- How a scalar is written. -/
inductive ScalarStyle where
  | plain | singleQuoted | doubleQuoted | literal | folded
  deriving Inhabited, Repr, BEq

/-- The kinds of tokens. -/
inductive TokenKind where
  | streamStart | streamEnd
  | versionDirective (major minor : Nat)
  | tagDirective (handle pref : String)
  | documentStart | documentEnd
  | blockSequenceStart | blockMappingStart | blockEnd
  | flowSequenceStart | flowSequenceEnd | flowMappingStart | flowMappingEnd
  | blockEntry | flowEntry | key | value
  | alias (name : String)
  | anchor (name : String)
  | tag (handle suffix : String)
  | scalar (text : String) (style : ScalarStyle)
  deriving Inhabited, Repr, BEq

/-- A token with the positions where it starts and ends. -/
structure Token where
  kind : TokenKind
  start : Mark
  stop : Mark
  deriving Inhabited, Repr

/-- Whether a token is of the same kind as another, ignoring what it carries. -/
def TokenKind.sameAs : TokenKind → TokenKind → Bool
  | .versionDirective _ _, .versionDirective _ _ => true
  | .tagDirective _ _, .tagDirective _ _ => true
  | .alias _, .alias _ => true
  | .anchor _, .anchor _ => true
  | .tag _ _, .tag _ _ => true
  | .scalar _ _, .scalar _ _ => true
  | a, b => a == b

end ViewEngine.Yaml
