import ViewEngine.Text.Quote
import ViewEngine.Value.Show

/-!
Why rendering, mounting and event handling fail, each failure with its message and its kind. A
joined failure (several listeners failing on one event) has the messages of its parts on separate
lines and the most significant kind among them.
-/

namespace ViewEngine

/-- What is wrong with a node. -/
inductive NodeFault where
  /-- The tag is neither a host name, a component nor the fragment tag; the type of the tag. -/
  | unsupportedTag (typeName : String)
  /-- What was given to mount is not a non-empty node; its type. -/
  | cannotMount (typeName : String)
  /-- A render function of the named mount point returned an empty node. -/
  | emptyRender (name : String)
  /-- An event prop holds something that is not a handler; the prop and the value's type. -/
  | badHandler (prop typeName : String)
  deriving Repr, Inhabited, DecidableEq

/-- The kinds of failure, most significant first. -/
inductive FailureKind where
  | missingCapability | invalidComponent | invalidNode | unknownFlavor
  | invalidFormat | signatureInvalid | decryptFailed | handlerError | error
  deriving Repr, Inhabited, DecidableEq

/-- The name of a kind. -/
def FailureKind.name : FailureKind → String
  | .missingCapability => "MissingCapability"
  | .invalidComponent => "InvalidComponent"
  | .invalidNode => "InvalidNode"
  | .unknownFlavor => "UnknownFlavor"
  | .invalidFormat => "InvalidFormat"
  | .signatureInvalid => "SignatureInvalid"
  | .decryptFailed => "DecryptFailed"
  | .handlerError => "HandlerError"
  | .error => "Error"

/-- The rank of a kind: lower is more significant. -/
def FailureKind.rank : FailureKind → Nat
  | .missingCapability => 0
  | .invalidComponent => 1
  | .invalidNode => 2
  | .unknownFlavor => 3
  | .invalidFormat => 4
  | .signatureInvalid => 5
  | .decryptFailed => 6
  | .handlerError => 7
  | .error => 8

/-- Whether a kind is a decoding error's: an invalid format, a bad signature or a failed
decryption. -/
def FailureKind.isDecode : FailureKind → Bool
  | .invalidFormat | .signatureInvalid | .decryptFailed => true
  | _ => false

/-- The more significant of two kinds. -/
def FailureKind.max (a b : FailureKind) : FailureKind := if b.rank < a.rank then b else a

/-- A failure of the engine. -/
inductive Failure where
  /-- A component's setup returned no render function; the component's name. -/
  | invalidComponent (name : String)
  /-- A malformed node. -/
  | invalidNode (fault : NodeFault)
  /-- A capability was not provided (`got` is the absent value), or provided as `got`, of another
  type. -/
  | capability (name : String) (got : Value)
  /-- No flavor has this name. -/
  | unknownFlavor (name : String)
  /-- An event handler reported a failure with this message. -/
  | handler (message : String)
  /-- No element with the tag was found to click. -/
  | noElement (tag : String)
  /-- Any other failure, by its message. -/
  | plain (message : String)
  /-- Several failures at once. -/
  | joined (parts : List Failure)
  deriving Repr, Inhabited

/-- The text of a node fault. -/
def NodeFault.message : NodeFault → String
  | .unsupportedTag t => "unsupported tag type " ++ t
  | .cannotMount t => "cannot mount " ++ t
  | .emptyRender name => name ++ " rendered an empty node"
  | .badHandler prop t => prop ++ " handler has type " ++ t

/-- The message of a failure. -/
def Failure.message : Failure → String
  | .invalidComponent name => "rigor: component setup must return a render function: " ++ name ++ " returned nil"
  | .invalidNode fault => "rigor: invalid node: " ++ fault.message
  | .capability name got =>
    "rigor: capability not provided: " ++ Text.quote name ++
      (match got with
       | .null => ""
       | v => " has type " ++ v.typeName)
  | .unknownFlavor name => "rigor: unknown flavor: " ++ Text.quote name
  | .handler message => message
  | .noElement tag => "rigor: no <" ++ tag ++ "> to click"
  | .plain message => message
  | .joined parts => "\n".intercalate (parts.map Failure.message)

/-- The kind of a failure. -/
def Failure.kind : Failure → FailureKind
  | .invalidComponent _ => .invalidComponent
  | .invalidNode _ => .invalidNode
  | .capability _ _ => .missingCapability
  | .unknownFlavor _ => .unknownFlavor
  | .handler _ => .handlerError
  | .noElement _ => .error
  | .plain _ => .error
  | .joined parts => parts.foldl (fun k p => k.max p.kind) .error

/-- Joins the failures of several listeners: none when there are none. -/
def Failure.join : List Failure → Option Failure
  | [] => none
  | parts => some (.joined parts)

end ViewEngine
