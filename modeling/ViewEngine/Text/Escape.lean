/-! Markup escaping: the five characters that can end a text run or a quoted attribute value. -/

namespace ViewEngine.Text

/-- The entity written for a character that markup reserves, if it is one of the five. -/
def entity? : Char → Option String
  | '&' => some "&amp;"
  | '\'' => some "&#39;"
  | '<' => some "&lt;"
  | '>' => some "&gt;"
  | '"' => some "&#34;"
  | _ => none

/-- Escapes the characters of a text: each reserved character becomes its entity. -/
def escapeChars : List Char → List Char
  | [] => []
  | c :: rest =>
    match entity? c with
    | some e => e.toList ++ escapeChars rest
    | none => c :: escapeChars rest

/-- Escapes a text for use between tags or inside a double-quoted attribute value. -/
def escape (s : String) : String :=
  String.ofList (escapeChars s.toList)

/-- Escaping a text with no reserved character leaves it unchanged. -/
theorem escapeChars_of_plain (cs : List Char) (plain : ∀ c ∈ cs, entity? c = none) :
    escapeChars cs = cs := by
  -- Each character passes through when it has no entity.
  induction cs with
  | nil => rfl
  | cons c rest ih =>
    have here : entity? c = none := plain c (List.mem_cons_self ..)
    have later : ∀ d ∈ rest, entity? d = none := fun d mem => plain d (List.mem_cons_of_mem c mem)
    simp [escapeChars, here, ih later]

end ViewEngine.Text
