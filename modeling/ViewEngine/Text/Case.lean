/-!
Letter case: the simple upper- and lower-case mappings of the Latin, Greek, Cyrillic, Armenian,
Georgian and Glagolitic alphabets, the letterlike symbols and the fullwidth and Deseret forms;
upper-case letters; comparison ignoring case by simple case folding; and white space.
-/

namespace ViewEngine.Text

/-- How a block of code points maps between cases. -/
inductive CaseRule where
  /-- Add `upper` for the upper-case form and `lower` for the lower-case form. -/
  | shift (upper lower : Int)
  /-- Upper- and lower-case letters alternate; `upperEven`: the upper-case ones are even. -/
  | pairs (upperEven : Bool)
  deriving Repr, Inhabited

/-- A block of code points `lo ..= hi` sharing one case rule. -/
structure CaseRange where
  /-- The first code point. -/
  lo : Nat
  /-- The last code point. -/
  hi : Nat
  /-- The mapping of every code point in the block. -/
  rule : CaseRule
  deriving Repr, Inhabited

/-- The case blocks, ascending. -/
def caseRanges : List CaseRange := [
  ⟨0x41, 0x5A, .shift 0 32⟩, ⟨0x61, 0x7A, .shift (-32) 0⟩,
  ⟨0xB5, 0xB5, .shift 743 0⟩,
  ⟨0xC0, 0xD6, .shift 0 32⟩, ⟨0xD8, 0xDE, .shift 0 32⟩,
  ⟨0xE0, 0xF6, .shift (-32) 0⟩, ⟨0xF8, 0xFE, .shift (-32) 0⟩, ⟨0xFF, 0xFF, .shift 121 0⟩,
  ⟨0x100, 0x12F, .pairs true⟩, ⟨0x130, 0x130, .shift 0 (-199)⟩, ⟨0x131, 0x131, .shift (-232) 0⟩,
  ⟨0x132, 0x137, .pairs true⟩, ⟨0x139, 0x148, .pairs false⟩, ⟨0x14A, 0x177, .pairs true⟩,
  ⟨0x178, 0x178, .shift 0 (-121)⟩, ⟨0x179, 0x17E, .pairs false⟩, ⟨0x17F, 0x17F, .shift (-300) 0⟩,
  ⟨0x1C4, 0x1C4, .shift 0 2⟩, ⟨0x1C5, 0x1C5, .shift (-1) 1⟩, ⟨0x1C6, 0x1C6, .shift (-2) 0⟩,
  ⟨0x1C7, 0x1C7, .shift 0 2⟩, ⟨0x1C8, 0x1C8, .shift (-1) 1⟩, ⟨0x1C9, 0x1C9, .shift (-2) 0⟩,
  ⟨0x1CA, 0x1CA, .shift 0 2⟩, ⟨0x1CB, 0x1CB, .shift (-1) 1⟩, ⟨0x1CC, 0x1CC, .shift (-2) 0⟩,
  ⟨0x1CD, 0x1DC, .pairs false⟩, ⟨0x1DE, 0x1EF, .pairs true⟩,
  ⟨0x1F1, 0x1F1, .shift 0 2⟩, ⟨0x1F2, 0x1F2, .shift (-1) 1⟩, ⟨0x1F3, 0x1F3, .shift (-2) 0⟩,
  ⟨0x1F4, 0x1F5, .pairs true⟩, ⟨0x1F8, 0x21F, .pairs true⟩, ⟨0x222, 0x233, .pairs true⟩,
  ⟨0x370, 0x373, .pairs true⟩, ⟨0x376, 0x377, .pairs true⟩,
  ⟨0x386, 0x386, .shift 0 38⟩, ⟨0x388, 0x38A, .shift 0 37⟩, ⟨0x38C, 0x38C, .shift 0 64⟩,
  ⟨0x38E, 0x38F, .shift 0 63⟩, ⟨0x391, 0x3A1, .shift 0 32⟩, ⟨0x3A3, 0x3AB, .shift 0 32⟩,
  ⟨0x3AC, 0x3AC, .shift (-38) 0⟩, ⟨0x3AD, 0x3AF, .shift (-37) 0⟩, ⟨0x3B1, 0x3C1, .shift (-32) 0⟩,
  ⟨0x3C2, 0x3C2, .shift (-31) 0⟩, ⟨0x3C3, 0x3CB, .shift (-32) 0⟩, ⟨0x3CC, 0x3CC, .shift (-64) 0⟩,
  ⟨0x3CD, 0x3CE, .shift (-63) 0⟩, ⟨0x3D8, 0x3EF, .pairs true⟩,
  ⟨0x400, 0x40F, .shift 0 80⟩, ⟨0x410, 0x42F, .shift 0 32⟩, ⟨0x430, 0x44F, .shift (-32) 0⟩,
  ⟨0x450, 0x45F, .shift (-80) 0⟩, ⟨0x460, 0x481, .pairs true⟩, ⟨0x48A, 0x4BF, .pairs true⟩,
  ⟨0x4C0, 0x4C0, .shift 0 15⟩, ⟨0x4C1, 0x4CE, .pairs false⟩, ⟨0x4CF, 0x4CF, .shift (-15) 0⟩,
  ⟨0x4D0, 0x52F, .pairs true⟩,
  ⟨0x531, 0x556, .shift 0 48⟩, ⟨0x561, 0x586, .shift (-48) 0⟩,
  ⟨0x10A0, 0x10C5, .shift 0 7264⟩,
  ⟨0x1E00, 0x1E95, .pairs true⟩, ⟨0x1E9E, 0x1E9E, .shift 0 (-7615)⟩, ⟨0x1EA0, 0x1EFF, .pairs true⟩,
  ⟨0x1F00, 0x1F07, .shift 8 0⟩, ⟨0x1F08, 0x1F0F, .shift 0 (-8)⟩,
  ⟨0x1F10, 0x1F15, .shift 8 0⟩, ⟨0x1F18, 0x1F1D, .shift 0 (-8)⟩,
  ⟨0x1F20, 0x1F27, .shift 8 0⟩, ⟨0x1F28, 0x1F2F, .shift 0 (-8)⟩,
  ⟨0x1F30, 0x1F37, .shift 8 0⟩, ⟨0x1F38, 0x1F3F, .shift 0 (-8)⟩,
  ⟨0x1F40, 0x1F45, .shift 8 0⟩, ⟨0x1F48, 0x1F4D, .shift 0 (-8)⟩,
  ⟨0x1F60, 0x1F67, .shift 8 0⟩, ⟨0x1F68, 0x1F6F, .shift 0 (-8)⟩,
  ⟨0x2126, 0x2126, .shift 0 (-7517)⟩, ⟨0x212A, 0x212A, .shift 0 (-8383)⟩,
  ⟨0x212B, 0x212B, .shift 0 (-8262)⟩,
  ⟨0x2C00, 0x2C2F, .shift 0 48⟩, ⟨0x2C30, 0x2C5F, .shift (-48) 0⟩,
  ⟨0x2C80, 0x2CE3, .pairs true⟩,
  ⟨0xA640, 0xA66D, .pairs true⟩, ⟨0xA680, 0xA69B, .pairs true⟩,
  ⟨0xFF21, 0xFF3A, .shift 0 32⟩, ⟨0xFF41, 0xFF5A, .shift (-32) 0⟩,
  ⟨0x10400, 0x10427, .shift 0 40⟩, ⟨0x10428, 0x1044F, .shift (-40) 0⟩
]

/-- The case block holding a code point. -/
def caseRangeOf? (n : Nat) : Option CaseRange :=
  caseRanges.find? (fun r => r.lo ≤ n && n ≤ r.hi)

/-- Moves a code point by a signed amount. -/
def shiftChar (c : Char) (delta : Int) : Char :=
  Char.ofNat (c.toNat + delta).toNat

/-- The simple upper-case form of a character (itself if it has none). -/
def upperCase (c : Char) : Char :=
  match caseRangeOf? c.toNat with
  | some ⟨_, _, .shift upper _⟩ => shiftChar c upper
  | some ⟨_, _, .pairs upperEven⟩ =>
    -- In a block of pairs each lower-case letter follows its upper-case one.
    if (c.toNat % 2 == 0) == upperEven then c else shiftChar c (-1)
  | none => c

/-- The simple lower-case form of a character (itself if it has none). -/
def lowerCase (c : Char) : Char :=
  match caseRangeOf? c.toNat with
  | some ⟨_, _, .shift _ lower⟩ => shiftChar c lower
  | some ⟨_, _, .pairs upperEven⟩ =>
    if (c.toNat % 2 == 0) == upperEven then shiftChar c 1 else c
  | none => c

/-- The title-case letters, which have both an upper- and a lower-case form. -/
def isTitleCase (c : Char) : Bool :=
  c.toNat == 0x1C5 || c.toNat == 0x1C8 || c.toNat == 0x1CB || c.toNat == 0x1F2

/-- Whether a character is an upper-case letter: it has a distinct lower-case form and is not a
title-case letter. -/
def isUpperCase (c : Char) : Bool :=
  lowerCase c != c && !isTitleCase c

/-- The case variants that fold together but are not the plain upper/lower pair of a character,
as a cycle: each entry names the next member of its class. -/
def foldCycle : List (Nat × Nat) := [
  (0x4B, 0x6B), (0x53, 0x73), (0x6B, 0x212A), (0x73, 0x17F), (0xB5, 0x39C), (0xC5, 0xE5),
  (0xDF, 0x1E9E), (0xE5, 0x212B), (0x130, 0x130), (0x131, 0x131), (0x17F, 0x53),
  (0x1C4, 0x1C5), (0x1C5, 0x1C6), (0x1C6, 0x1C4), (0x1C7, 0x1C8), (0x1C8, 0x1C9), (0x1C9, 0x1C7),
  (0x1CA, 0x1CB), (0x1CB, 0x1CC), (0x1CC, 0x1CA), (0x1F1, 0x1F2), (0x1F2, 0x1F3), (0x1F3, 0x1F1),
  (0x345, 0x399), (0x392, 0x3B2), (0x395, 0x3B5), (0x398, 0x3B8), (0x399, 0x1FBE), (0x39A, 0x3BA),
  (0x39C, 0xB5), (0x3A0, 0x3C0), (0x3A1, 0x3C1), (0x3A3, 0x3C2), (0x3A6, 0x3C6), (0x3A9, 0x3C9),
  (0x3B2, 0x3D0), (0x3B5, 0x3F5), (0x3B8, 0x3D1), (0x3B9, 0x345), (0x3BA, 0x3F0), (0x3BC, 0x39C),
  (0x3C0, 0x3D6), (0x3C1, 0x3F1), (0x3C2, 0x3C3), (0x3C3, 0x3A3), (0x3C6, 0x3D5), (0x3C9, 0x2126),
  (0x3D0, 0x392), (0x3D1, 0x3F4), (0x3D5, 0x3A6), (0x3D6, 0x3A0), (0x3F0, 0x39A), (0x3F1, 0x3A1),
  (0x3F4, 0x398), (0x3F5, 0x395), (0x1E60, 0x1E61), (0x1E61, 0x1E9B), (0x1E9B, 0x1E60),
  (0x1E9E, 0xDF), (0x1FBE, 0x3B9), (0x2126, 0x3A9), (0x212A, 0x4B), (0x212B, 0xC5)
]

/-- The next member of a character's case-folding class, going round the class. -/
def simpleFold (c : Char) : Char :=
  match foldCycle.find? (fun p => p.1 == c.toNat) with
  | some (_, next) => Char.ofNat next
  | none => if lowerCase c != c then lowerCase c else upperCase c

/-- Walks a folding class from `start` while below `target`, for at most `fuel` steps. -/
def foldWalk (start target : Char) : Nat → Char → Char
  | 0, r => r
  | fuel + 1, r => if r != start && r < target then foldWalk start target fuel (simpleFold r) else r

/-- Whether two characters are equal under simple case folding. -/
def foldsTo (a b : Char) : Bool :=
  if a == b then true
  else
    let (lo, hi) := if a < b then (a, b) else (b, a)
    if hi.toNat < 0x80 then
      'A' ≤ lo && lo ≤ 'Z' && hi.toNat == lo.toNat + 32
    else foldWalk lo hi 8 (simpleFold lo) == hi

/-- Whether two texts are equal under simple case folding, character by character. -/
def equalFold : List Char → List Char → Bool
  | [], [] => true
  | a :: as, b :: bs => foldsTo a b && equalFold as bs
  | _, _ => false

/-- A text in lower case, character by character. -/
def toLowerCase (s : String) : String := String.ofList (s.toList.map lowerCase)

/-- Whether a character is white space: tab, line feed, vertical tab, form feed, carriage return,
space, next line, no-break space, and the Unicode space separators. -/
def isBlank (c : Char) : Bool :=
  let n := c.toNat
  (9 ≤ n && n ≤ 13) || n == 32 || n == 0x85 || n == 0xA0 || n == 0x1680 ||
    (0x2000 ≤ n && n ≤ 0x200A) || n == 0x2028 || n == 0x2029 || n == 0x202F || n == 0x205F ||
    n == 0x3000

/-- Splits a list of characters into the runs between blanks. -/
def fieldsOf : List Char → List (List Char) → List Char → List (List Char)
  | [], acc, cur => (if cur.isEmpty then acc else cur.reverse :: acc).reverse
  | c :: rest, acc, cur =>
    if isBlank c then fieldsOf rest (if cur.isEmpty then acc else cur.reverse :: acc) []
    else fieldsOf rest acc (c :: cur)

/-- The words of a text: its runs of characters between white space. -/
def fields (s : String) : List String := (fieldsOf s.toList [] []).map String.ofList

end ViewEngine.Text
