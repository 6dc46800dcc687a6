import ViewEngine.Text.Escape

/-! Markup read back. A markup node is text, or an element with a name, attributes in order and
children. Written out, with texts and attribute values escaped, a forest is a string of start tags
with double-quoted attributes, end tags and text runs. The tokenizer here reads such a string
character by character, the way a browser's tokenizer does, and the builder nests its tokens into
trees again. When every name is one markup can hold as it is, reading a written forest back gives
the forest, with each run of adjacent texts joined into one. -/

/-! ## Escaped text -/

namespace ViewEngine.Text

theorem escapeChars_append (a b : List Char) :
    escapeChars (a ++ b) = escapeChars a ++ escapeChars b := by
  induction a with
  | nil => rfl
  | cons c rest ih =>
    simp only [List.cons_append, escapeChars]
    split <;> simp [ih]

/-- Escaping a joined text escapes each part. -/
theorem escape_append (a b : String) : escape (a ++ b) = escape a ++ escape b := by
  simp [escape, String.toList_append, escapeChars_append, String.ofList_append]

theorem escapeChars_eq_nil (cs : List Char) : escapeChars cs = [] ↔ cs = [] := by
  cases cs with
  | nil => simp [escapeChars]
  | cons c rest =>
    simp only [escapeChars, reduceCtorEq, iff_false]
    split
    · -- Every entity has characters.
      rename_i e h
      unfold entity? at h
      split at h <;> simp only [Option.some.injEq, reduceCtorEq] at h <;> subst h <;> simp
    · simp

/-- Only the empty text escapes to the empty text. -/
theorem escape_eq_empty (s : String) : escape s = "" ↔ s = "" := by
  simp [escape, String.ofList_eq_empty_iff, escapeChars_eq_nil, String.toList_eq_nil_iff]

/-- An escaped text has no `<` to open a tag and no `"` to close an attribute value. -/
theorem mem_escapeChars {cs : List Char} {c : Char} (h : c ∈ escapeChars cs) : c ≠ '<' ∧ c ≠ '"' := by
  induction cs with
  | nil => simp [escapeChars] at h
  | cons x rest ih =>
    simp only [escapeChars] at h
    split at h
    · rename_i e entity
      rcases List.mem_append.mp h with here | later
      · -- The characters of the five entities.
        unfold entity? at entity
        split at entity <;> simp only [Option.some.injEq, reduceCtorEq] at entity <;> subst entity <;>
          revert here <;> simp only [String.reduceToList, List.mem_cons, List.not_mem_nil, or_false] <;>
          rintro (rfl | rfl | rfl | rfl | rfl) <;> decide
      · exact ih later
    · rename_i plain
      rcases List.mem_cons.mp h with rfl | later
      · constructor <;> (rintro rfl; simp [entity?] at plain)
      · exact ih later

theorem mem_escape {s : String} {c : Char} (h : c ∈ (escape s).toList) : c ≠ '<' ∧ c ≠ '"' := by
  simp only [escape, String.toList_ofList] at h
  exact mem_escapeChars h

/-- Decodes the five entities escaping writes, passing every other character through. -/
def unescapeChars : List Char → List Char
  | '&' :: 'a' :: 'm' :: 'p' :: ';' :: rest => '&' :: unescapeChars rest
  | '&' :: '#' :: '3' :: '9' :: ';' :: rest => '\'' :: unescapeChars rest
  | '&' :: 'l' :: 't' :: ';' :: rest => '<' :: unescapeChars rest
  | '&' :: 'g' :: 't' :: ';' :: rest => '>' :: unescapeChars rest
  | '&' :: '#' :: '3' :: '4' :: ';' :: rest => '"' :: unescapeChars rest
  | c :: rest => c :: unescapeChars rest
  | [] => []

/-- Undoes escaping: the five entities become their characters again. -/
def unescape (s : String) : String := String.ofList (unescapeChars s.toList)

theorem unescapeChars_escapeChars (cs : List Char) : unescapeChars (escapeChars cs) = cs := by
  induction cs with
  | nil => rfl
  | cons c rest ih =>
    simp only [escapeChars]
    -- A reserved character comes back from its entity; any other is not `&` and passes through.
    split
    · rename_i e entity
      unfold entity? at entity
      split at entity <;> simp only [Option.some.injEq, reduceCtorEq] at entity <;> subst entity <;>
        simp [unescapeChars, ih]
    · rename_i plain
      have notAmp : c ≠ '&' := by rintro rfl; simp [entity?] at plain
      simp [unescapeChars, notAmp, ih]

/-- Unescaping inverts escaping. -/
theorem unescape_escape (s : String) : unescape (escape s) = s := by
  simp [unescape, escape, unescapeChars_escapeChars]

end ViewEngine.Text

namespace ViewEngine.Markup

/-- A markup node: text, or an element with a name, its attributes in order and its children. -/
inductive Node where
  | text (s : String)
  | element (name : String) (attrs : List (String × String)) (children : List Node)
  deriving Inhabited

/-- A token of markup: a start tag with its attributes, an end tag, or a run of text. -/
inductive Token where
  | start (name : String) (attrs : List (String × String))
  | stop (name : String)
  | text (s : String)
  deriving DecidableEq

mutual
/-- The tokens of a node, in document order. -/
def Node.tokens : Node → List Token
  | .text s => [.text s]
  | .element name attrs children => .start name attrs :: Node.tokensAll children ++ [.stop name]

/-- The tokens of a forest, in document order. -/
def Node.tokensAll : List Node → List Token
  | [] => []
  | n :: rest => Node.tokens n ++ Node.tokensAll rest
end

/-- A token with its texts and attribute values passed through `f`, as escaping and unescaping do. -/
def Token.mapTexts (f : String → String) : Token → Token
  | .start name attrs => .start name (attrs.map fun a => (a.1, f a.2))
  | .stop name => .stop name
  | .text s => .text (f s)

/-! ## Writing -/

section Writing

variable (esc : String → String)

/-- The attributes of a start tag as written: ` name="value"` for each, the value escaped. -/
def writeAttrs (attrs : List (String × String)) : String :=
  String.join (attrs.map fun a => " " ++ a.1 ++ "=\"" ++ esc a.2 ++ "\"")

/-- A token as written, its text escaped. -/
def Token.write : Token → String
  | .start name attrs => "<" ++ name ++ writeAttrs esc attrs ++ ">"
  | .stop name => "</" ++ name ++ ">"
  | .text s => esc s

/-- A forest as written: its tokens one after another. -/
def Node.writeAll (ms : List Node) : String :=
  String.join ((Node.tokensAll ms).map (Token.write esc))

end Writing

/-! ## Reading -/

/-- Where the tokenizer is in the markup. -/
inductive Lexer where
  /-- Between tags, with the characters of the text run so far. -/
  | text (run : List Char)
  /-- In a start tag's name. -/
  | startName (name : List Char)
  /-- In an end tag's name. -/
  | stopName (name : List Char)
  /-- In an attribute's name, after the tag's name and the attributes before it. -/
  | key (name : List Char) (attrs : List (String × String)) (key : List Char)
  /-- In an attribute's quoted value. -/
  | value (name : List Char) (attrs : List (String × String)) (key : List Char) (value : List Char)
  /-- After an attribute's closing quote. -/
  | quoted (name : List Char) (attrs : List (String × String))

/-- The text token of a run of characters, unless the run is empty. -/
def runToken : List Char → List Token
  | [] => []
  | c :: cs => [.text (String.ofList (c :: cs))]

/-- The tokens of markup, read character by character from a tokenizer state: a `<` ends a text run
and opens a start tag, or an end tag when `/` follows; a start tag's name ends at a blank or `>`,
each attribute is `name="value"` after a blank, and `>` closes the tag. None when a tag is
malformed or left open. Its equations are simp lemmas: every lemma below runs it symbolically over
a written prefix. -/
@[simp] def lex : Lexer → List Char → Option (List Token)
  | .text run, [] => some (runToken run)
  | .text run, '<' :: '/' :: rest => (runToken run ++ ·) <$> lex (.stopName []) rest
  | .text run, '<' :: rest => (runToken run ++ ·) <$> lex (.startName []) rest
  | .text run, c :: rest => lex (.text (run ++ [c])) rest
  | .startName name, c :: rest =>
    if c = ' ' then lex (.key name [] []) rest
    else if c = '>' then (.start (String.ofList name) [] :: ·) <$> lex (.text []) rest
    else lex (.startName (name ++ [c])) rest
  | .stopName name, c :: rest =>
    if c = '>' then (.stop (String.ofList name) :: ·) <$> lex (.text []) rest
    else lex (.stopName (name ++ [c])) rest
  | .key name attrs key, '=' :: '"' :: rest => lex (.value name attrs key []) rest
  | .key _ _ _, '=' :: _ => none
  | .key name attrs key, c :: rest => lex (.key name attrs (key ++ [c])) rest
  | .value name attrs key value, c :: rest =>
    if c = '"' then lex (.quoted name (attrs ++ [(String.ofList key, String.ofList value)])) rest
    else lex (.value name attrs key (value ++ [c])) rest
  | .quoted name attrs, c :: rest =>
    if c = ' ' then lex (.key name attrs []) rest
    else if c = '>' then (.start (String.ofList name) attrs :: ·) <$> lex (.text []) rest
    else none
  | _, [] => none

/-- The tokens of markup. -/
def tokenize (s : String) : Option (List Token) := lex (.text []) s.toList

/-- An element whose end tag is still to come: its name, its attributes, and the nodes before it at
its level, last first. -/
structure Open where
  name : String
  attrs : List (String × String)
  before : List Node

/-- Nests tokens into a forest. `stack` holds the open elements, innermost first, and `level` the
nodes read so far at the innermost level, last first. None when an end tag does not match the
element it closes, or an element is left open. -/
def build : List Open → List Node → List Token → Option (List Node)
  | [], level, [] => some level.reverse
  | _ :: _, _, [] => none
  | stack, level, .text s :: rest => build stack (.text s :: level) rest
  | stack, level, .start name attrs :: rest => build (⟨name, attrs, level⟩ :: stack) [] rest
  | [], _, .stop _ :: _ => none
  | e :: stack, level, .stop name :: rest =>
    if name = e.name then build stack (.element name e.attrs level.reverse :: e.before) rest else none

/-- Markup read back into a forest: tokenized, its texts and attribute values unescaped, nested. -/
def read (unescape : String → String) (s : String) : Option (List Node) :=
  (tokenize s).bind fun toks => build [] [] (toks.map (Token.mapTexts unescape))

/-! ## Joined texts -/

/-- The text token of a text, unless it is empty. -/
def textToken (s : String) : List Token := if s = "" then [] else [.text s]

/-- Tokens with each run of adjacent texts joined into one and empty texts dropped, as a tokenizer
reads them back; `run` is the text joined so far. -/
def joinTexts (run : String) : List Token → List Token
  | [] => textToken run
  | .text s :: rest => joinTexts (run ++ s) rest
  | .start name attrs :: rest => textToken run ++ .start name attrs :: joinTexts "" rest
  | .stop name :: rest => textToken run ++ .stop name :: joinTexts "" rest

/-- The text node of a text, unless it is empty. -/
def textNode (s : String) : List Node := if s = "" then [] else [.text s]

/-- A forest with each run of adjacent texts joined into one and empty texts dropped, at every
level; `run` is the text joined so far. -/
def Node.joinAll (run : String) : List Node → List Node
  | [] => textNode run
  | .text s :: rest => Node.joinAll (run ++ s) rest
  | .element name attrs children :: rest =>
    textNode run ++ .element name attrs (Node.joinAll "" children) :: Node.joinAll "" rest


/-! ## Tokens of a forest -/

@[simp] theorem Node.tokensAll_nil : Node.tokensAll [] = [] := by simp [Node.tokensAll]

@[simp] theorem Node.tokensAll_cons (n : Node) (rest : List Node) :
    Node.tokensAll (n :: rest) = Node.tokens n ++ Node.tokensAll rest := by
  simp [Node.tokensAll]

@[simp] theorem Node.tokens_text (s : String) : Node.tokens (.text s) = [.text s] := by
  simp [Node.tokens]

@[simp] theorem Node.tokens_element (name : String) (attrs : List (String × String)) (children : List Node) :
    Node.tokens (.element name attrs children) = .start name attrs :: Node.tokensAll children ++ [.stop name] := by
  simp [Node.tokens]

theorem Node.tokensAll_append (xs ys : List Node) :
    Node.tokensAll (xs ++ ys) = Node.tokensAll xs ++ Node.tokensAll ys := by
  induction xs with
  | nil => simp
  | cons n rest ih => simp [ih]

/-! ## Written forests -/

section Written

variable (esc : String → String)

@[simp] theorem Node.writeAll_nil : Node.writeAll esc [] = "" := by simp [Node.writeAll]

theorem Node.writeAll_append (xs ys : List Node) :
    Node.writeAll esc (xs ++ ys) = Node.writeAll esc xs ++ Node.writeAll esc ys := by
  simp [Node.writeAll, Node.tokensAll_append, String.join_append]

@[simp] theorem Node.writeAll_text (s : String) : Node.writeAll esc [.text s] = esc s := by
  simp [Node.writeAll, Token.write]

@[simp] theorem Node.writeAll_element (name : String) (attrs : List (String × String)) (children : List Node) :
    Node.writeAll esc [.element name attrs children] =
      "<" ++ name ++ writeAttrs esc attrs ++ ">" ++ Node.writeAll esc children ++ "</" ++ name ++ ">" := by
  simp [Node.writeAll, Token.write, String.join_append, String.append_assoc]

end Written

/-! ## Clean names -/

/-- The characters a name cannot hold as it is: those that open or close a tag, quote, start an
entity, end an attribute's name or mark an end tag. -/
def reserved : List Char := ['<', '>', '"', '\'', '&', '=', '/']

/-- A name markup holds as it is: not empty, with no reserved character and no white space. -/
def Clean (name : String) : Prop :=
  name ≠ "" ∧ ∀ c ∈ name.toList, c ∉ reserved ∧ c.isWhitespace = false

instance : DecidablePred Clean := fun _ => inferInstanceAs (Decidable (_ ∧ _))

/-- The names of a token are clean: a tag's name and each of its attributes' names. -/
def Token.Clean : Token → Prop
  | .start name attrs => Markup.Clean name ∧ ∀ a ∈ attrs, Markup.Clean a.1
  | .stop name => Markup.Clean name
  | .text _ => True

instance : DecidablePred Token.Clean := fun t => by cases t <;> unfold Token.Clean <;> infer_instance

/-- The characters of a clean name are none of those the tokenizer stops at. -/
theorem Clean.chars {name : String} (clean : Clean name) :
    ∀ c ∈ name.toList, c ≠ '<' ∧ c ≠ '>' ∧ c ≠ '"' ∧ c ≠ '=' ∧ c ≠ '/' ∧ c ≠ ' ' := by
  intro c mem
  obtain ⟨out, white⟩ := clean.2 c mem
  simp only [reserved, List.mem_cons, List.not_mem_nil, or_false, not_or] at out
  refine ⟨out.1, out.2.1, out.2.2.1, out.2.2.2.2.2.1, out.2.2.2.2.2.2, ?_⟩
  rintro rfl
  exact absurd white (by decide)

/-- A clean name starts with a character that is not `/`. -/
theorem Clean.head {name : String} (clean : Clean name) : ∃ c cs, name.toList = c :: cs ∧ c ≠ '/' := by
  match h : name.toList, clean.chars with
  | [], _ => exact absurd (String.toList_eq_nil_iff.mp h) clean.1
  | c :: cs, chars => exact ⟨c, cs, rfl, (chars c List.mem_cons_self).2.2.2.2.1⟩

/-! ## The tokenizer on written tokens -/

/-- A state that reads each character short of a stop into its field reads a whole stretch of such
characters the same way. -/
theorem lex_stretch (state : List Char → Lexer) (stops : Char → Prop)
    (step : ∀ acc c rest, ¬ stops c → lex (state acc) (c :: rest) = lex (state (acc ++ [c])) rest) :
    ∀ (cs acc rest : List Char), (∀ c ∈ cs, ¬ stops c) →
      lex (state acc) (cs ++ rest) = lex (state (acc ++ cs)) rest := by
  intro cs
  induction cs with
  | nil => intro acc rest _; simp
  | cons c cs ih =>
    intro acc rest plain
    rw [List.cons_append, step acc c _ (plain c List.mem_cons_self),
      ih _ _ fun d mem => plain d (List.mem_cons_of_mem c mem)]
    simp

theorem lex_text_stretch (cs run rest : List Char) (plain : ∀ c ∈ cs, c ≠ '<') :
    lex (.text run) (cs ++ rest) = lex (.text (run ++ cs)) rest :=
  lex_stretch Lexer.text (· = '<') (fun acc c rest h => by simp [lex, h]) cs run rest plain

theorem lex_startName_stretch (cs name rest : List Char) (plain : ∀ c ∈ cs, c ≠ ' ' ∧ c ≠ '>') :
    lex (.startName name) (cs ++ rest) = lex (.startName (name ++ cs)) rest :=
  lex_stretch Lexer.startName (fun c => c = ' ' ∨ c = '>')
    (fun acc c rest h => by simp only [not_or] at h; simp [lex, h]) cs name rest
    (fun c mem => by simp [plain c mem])

theorem lex_stopName_stretch (cs name rest : List Char) (plain : ∀ c ∈ cs, c ≠ '>') :
    lex (.stopName name) (cs ++ rest) = lex (.stopName (name ++ cs)) rest :=
  lex_stretch Lexer.stopName (· = '>') (fun acc c rest h => by simp [lex, h]) cs name rest plain

theorem lex_key_stretch (name : List Char) (attrs : List (String × String)) (cs key rest : List Char)
    (plain : ∀ c ∈ cs, c ≠ '=') :
    lex (.key name attrs key) (cs ++ rest) = lex (.key name attrs (key ++ cs)) rest :=
  lex_stretch (Lexer.key name attrs) (· = '=') (fun acc c rest h => by simp [lex, h]) cs key rest plain

theorem lex_value_stretch (name : List Char) (attrs : List (String × String)) (key cs value rest : List Char)
    (plain : ∀ c ∈ cs, c ≠ '"') :
    lex (.value name attrs key value) (cs ++ rest) = lex (.value name attrs key (value ++ cs)) rest :=
  lex_stretch (Lexer.value name attrs key) (· = '"') (fun acc c rest h => by simp [lex, h]) cs value rest plain


/-- A `<` ends the text run before it and opens a start tag, unless `/` follows. -/
theorem lex_open (run : List Char) (c : Char) (rest : List Char) (h : c ≠ '/') :
    lex (.text run) ('<' :: c :: rest) = (runToken run ++ ·) <$> lex (.startName []) (c :: rest) := by
  simp [lex, h]

/-- A written attribute reads back from its name on, its value as written. -/
theorem lex_attr (name : List Char) (acc : List (String × String)) (a : String × String) (rest : List Char)
    (clean : Clean a.1) :
    lex (.key name acc []) ((" " ++ a.1 ++ "=\"" ++ Text.escape a.2 ++ "\"").toList.tail ++ rest) =
      lex (.quoted name (acc ++ [(a.1, Text.escape a.2)])) rest := by
  have chars : (" " ++ a.1 ++ "=\"" ++ Text.escape a.2 ++ "\"").toList.tail ++ rest =
      a.1.toList ++ '=' :: '"' :: ((Text.escape a.2).toList ++ '"' :: rest) := by
    simp [String.toList_append]
  rw [chars, lex_key_stretch _ _ _ _ _ fun c mem => (clean.chars c mem).2.2.2.1, List.nil_append]
  simp only [lex]
  rw [lex_value_stretch _ _ _ _ _ _ fun c mem => (Text.mem_escape mem).2]
  simp [lex]

/-- Written attributes read back up to the `>` that closes their tag. -/
theorem lex_attrs (name : List Char) (attrs : List (String × String)) (clean : ∀ a ∈ attrs, Clean a.1) :
    ∀ (acc : List (String × String)) (rest : List Char),
      lex (.quoted name acc) ((writeAttrs Text.escape attrs).toList ++ '>' :: rest) =
        (.start (String.ofList name) (acc ++ attrs.map fun a => (a.1, Text.escape a.2)) :: ·) <$>
          lex (.text []) rest := by
  induction attrs with
  | nil => intro acc rest; simp [writeAttrs, lex]
  | cons a more ih =>
    intro acc rest
    -- A blank opens the next attribute; after it the attribute reads back whole.
    have chars : (writeAttrs Text.escape (a :: more)).toList ++ '>' :: rest =
        ' ' :: ((" " ++ a.1 ++ "=\"" ++ Text.escape a.2 ++ "\"").toList.tail ++
          ((writeAttrs Text.escape more).toList ++ '>' :: rest)) := by
      simp [writeAttrs, String.toList_append]
    rw [chars]
    simp only [lex, if_pos]
    rw [lex_attr _ _ _ _ (clean a List.mem_cons_self), ih (fun b mem => clean b (List.mem_cons_of_mem a mem))]
    simp

/-- A written start tag reads back as itself, its attribute values as written, after the text run
before it. -/
theorem lex_start (run : List Char) (name : String) (attrs : List (String × String)) (rest : List Char)
    (clean : Token.Clean (.start name attrs)) :
    lex (.text run) ((Token.write Text.escape (.start name attrs)).toList ++ rest) =
      (runToken run ++ .start name (attrs.map fun a => (a.1, Text.escape a.2)) :: ·) <$> lex (.text []) rest := by
  obtain ⟨named, attrsClean⟩ := clean
  obtain ⟨c, cs, first, notSlash⟩ := named.head
  have chars : (Token.write Text.escape (.start name attrs)).toList ++ rest =
      '<' :: c :: (cs ++ ((writeAttrs Text.escape attrs).toList ++ '>' :: rest)) := by
    simp [Token.write, String.toList_append, first]
  rw [chars, lex_open _ _ _ notSlash, ← List.cons_append, ← first,
    lex_startName_stretch _ _ _ fun d mem => ⟨(named.chars d mem).2.2.2.2.2, (named.chars d mem).2.1⟩,
    List.nil_append]
  -- The tag either closes at once or a blank opens its first attribute.
  cases attrs with
  | nil => simp [writeAttrs, lex, Function.comp_def]
  | cons a more =>
    have split : (writeAttrs Text.escape (a :: more)).toList ++ '>' :: rest =
        ' ' :: ((" " ++ a.1 ++ "=\"" ++ Text.escape a.2 ++ "\"").toList.tail ++
          ((writeAttrs Text.escape more).toList ++ '>' :: rest)) := by
      simp [writeAttrs, String.toList_append]
    rw [split]
    simp only [lex, if_pos]
    rw [lex_attr _ _ _ _ (attrsClean a List.mem_cons_self),
      lex_attrs _ _ (fun b mem => attrsClean b (List.mem_cons_of_mem a mem))]
    simp [Function.comp_def]

/-- A written end tag reads back as itself, after the text run before it. -/
theorem lex_stop (run : List Char) (name : String) (rest : List Char) (clean : Markup.Clean name) :
    lex (.text run) ((Token.write Text.escape (.stop name)).toList ++ rest) =
      (runToken run ++ .stop name :: ·) <$> lex (.text []) rest := by
  have chars : (Token.write Text.escape (.stop name)).toList ++ rest = '<' :: '/' :: (name.toList ++ '>' :: rest) := by
    simp [Token.write, String.toList_append]
  rw [chars]
  simp only [lex]
  rw [lex_stopName_stretch _ _ _ fun c mem => (clean.chars c mem).2.1, List.nil_append]
  simp [lex, Function.comp_def]

theorem runToken_eq (run : List Char) : runToken run = textToken (String.ofList run) := by
  cases run with
  | nil => simp [runToken, textToken]
  | cons c cs => simp [runToken, textToken, String.ofList_eq_empty_iff]

/-- Written tokens read back as themselves, texts and attribute values as written, with each run of
adjacent texts joined. -/
theorem lex_written (toks : List Token) (clean : ∀ t ∈ toks, t.Clean) :
    ∀ run : List Char, lex (.text run) (toks.flatMap fun t => (Token.write Text.escape t).toList) =
      some (joinTexts (String.ofList run) (toks.map (Token.mapTexts Text.escape))) := by
  induction toks with
  | nil => intro run; simp [lex, joinTexts, runToken_eq]
  | cons t rest ih =>
    intro run
    have later := ih fun u mem => clean u (List.mem_cons_of_mem t mem)
    rw [List.flatMap_cons]
    cases t with
    | text s =>
      -- A text run goes on until the next tag; escaping left no `<` in it.
      rw [Token.write, lex_text_stretch _ _ _ fun c mem => (Text.mem_escape mem).1, later]
      simp [joinTexts, Token.mapTexts, String.ofList_append]
    | start name attrs =>
      rw [lex_start _ _ _ _ (clean _ List.mem_cons_self), later]
      simp [joinTexts, Token.mapTexts, runToken_eq]
    | stop name =>
      rw [lex_stop _ _ _ (clean _ List.mem_cons_self), later]
      simp [joinTexts, Token.mapTexts, runToken_eq]

/-! ## Joined texts, escaped and nested -/

theorem textToken_escape (s : String) : textToken (Text.escape s) = (textToken s).map (Token.mapTexts Text.escape) := by
  by_cases empty : s = ""
  · simp [textToken, empty, Text.escape_eq_empty]
  · simp [textToken, empty, Text.escape_eq_empty, Token.mapTexts]

/-- Joining escaped texts is escaping joined texts: escaping goes character by character. -/
theorem joinTexts_escape (toks : List Token) : ∀ run : String,
    joinTexts (Text.escape run) (toks.map (Token.mapTexts Text.escape)) =
      (joinTexts run toks).map (Token.mapTexts Text.escape) := by
  have empty : Text.escape "" = "" := (Text.escape_eq_empty "").mpr rfl
  induction toks with
  | nil => intro run; simp [joinTexts, textToken_escape]
  | cons t rest ih =>
    intro run
    cases t with
    | text s => simp [joinTexts, Token.mapTexts, ← Text.escape_append, ih]
    | start name attrs => simp [joinTexts, Token.mapTexts, textToken_escape, ← ih, empty]
    | stop name => simp [joinTexts, Token.mapTexts, textToken_escape, ← ih, empty]

/-- Unescaping undoes escaping, token by token, when it inverts escaping on every text. -/
theorem mapTexts_unescape (u : String → String) (inverts : ∀ s, u (Text.escape s) = s) (t : Token) :
    Token.mapTexts u (Token.mapTexts Text.escape t) = t := by
  cases t <;> simp [Token.mapTexts, inverts, Function.comp_def]

/-- Texts join up to an end tag and start afresh after it. -/
theorem joinTexts_append_stop (name : String) (after : List Token) (xs : List Token) : ∀ run : String,
    joinTexts run (xs ++ .stop name :: after) = joinTexts run xs ++ .stop name :: joinTexts "" after := by
  induction xs with
  | nil => intro run; simp [joinTexts]
  | cons t rest ih =>
    intro run
    cases t <;> simp [joinTexts, ih]

theorem tokensAll_textNode (s : String) : Node.tokensAll (textNode s) = textToken s := by
  by_cases empty : s = "" <;> simp [textNode, textToken, empty]

/-- The tokens of a forest with its texts joined are its tokens with their texts joined. -/
theorem Node.tokensAll_joinAll : ∀ (ms : List Node) (run : String),
    Node.tokensAll (Node.joinAll run ms) = joinTexts run (Node.tokensAll ms)
  | [], run => by simp [Node.joinAll, joinTexts, tokensAll_textNode]
  | .text s :: rest, run => by
    simp only [Node.joinAll, Node.tokensAll_cons, Node.tokens_text, List.cons_append, List.nil_append, joinTexts]
    exact Node.tokensAll_joinAll rest (run ++ s)
  | .element name attrs children :: rest, run => by
    -- Texts inside the element join apart from those around it: its tags end each run.
    simp only [Node.joinAll, Node.tokensAll_append, tokensAll_textNode, Node.tokensAll_cons, Node.tokens_element,
      List.cons_append, List.nil_append, List.append_assoc, joinTexts, joinTexts_append_stop,
      Node.tokensAll_joinAll children "", Node.tokensAll_joinAll rest ""]

/-- Building from the tokens of a forest puts the forest at the current level, whatever follows. -/
theorem build_tokensAll : ∀ (ms : List Node) (stack : List Open) (level : List Node) (rest : List Token),
    build stack level (Node.tokensAll ms ++ rest) = build stack (ms.reverse ++ level) rest
  | [], _, _, _ => by simp
  | .text s :: more, stack, level, rest => by
    simp only [Node.tokensAll_cons, Node.tokens_text, List.cons_append, List.nil_append, build]
    rw [build_tokensAll more]
    simp
  | .element name attrs children :: more, stack, level, rest => by
    -- The start tag opens a level for the children, and the end tag closes it into the element.
    simp only [Node.tokensAll_cons, Node.tokens_element, List.cons_append, List.append_assoc, build]
    rw [build_tokensAll children, List.append_nil]
    simp only [build, if_pos, List.reverse_reverse, List.nil_append]
    rw [build_tokensAll more]
    simp

/-! ## Written forests read back -/

section ReadBack

variable (u : String → String) (inverts : ∀ s, u (Text.escape s) = s) (ms : List Node)
  (clean : ∀ t ∈ Node.tokensAll ms, t.Clean)

include inverts clean

/-- Written with texts escaped, a forest tokenizes back, once unescaped, into the tokens of the
forest with its texts joined: its elements' start and end tags matched and nested as in the forest,
each with the attributes it was written with, and between tags the text there. -/
theorem tokenize_writeAll :
    (tokenize (Node.writeAll Text.escape ms)).map (List.map (Token.mapTexts u)) =
      some (Node.tokensAll (Node.joinAll "" ms)) := by
  have empty : Text.escape "" = "" := (Text.escape_eq_empty "").mpr rfl
  have lexed := lex_written _ clean []
  simp only [String.ofList_nil] at lexed
  rw [tokenize, Node.writeAll, String.toList_join, List.flatMap_map, lexed, ← empty, joinTexts_escape, empty,
    ← Node.tokensAll_joinAll]
  simp [Function.comp_def, mapTexts_unescape u inverts]

/-- Written with texts escaped, a forest reads back as itself with its texts joined. -/
theorem read_writeAll : read u (Node.writeAll Text.escape ms) = some (Node.joinAll "" ms) := by
  have tokens := tokenize_writeAll u inverts ms clean
  cases lexed : tokenize (Node.writeAll Text.escape ms) with
  | none => simp [lexed] at tokens
  | some toks =>
    simp only [lexed, Option.map_some, Option.some.injEq] at tokens
    simp only [read, lexed, Option.bind_some, tokens]
    simpa [build] using build_tokensAll (Node.joinAll "" ms) [] [] []

end ReadBack

end ViewEngine.Markup
