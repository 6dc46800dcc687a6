/-!
Timestamps in YAML scalars: a date `YYYY-M-D`, optionally followed by a time `H:M:S` with a
fraction of a second, after `T`, `t` or a space, and with `T`/`t` a zone `Z` or `±hh:mm`. A
timestamp shows itself as `2006-01-02 15:04:05.999999999 -0700 UTC`, the fraction without
trailing zeros, the zone named `UTC` at offset zero and by its offset otherwise.
-/

namespace ViewEngine.Yaml

/-- A point in time as written: its calendar fields, nanoseconds and zone offset in seconds. -/
structure Timestamp where
  year : Nat
  month : Nat
  day : Nat
  hour : Nat
  minute : Nat
  second : Nat
  nanos : Nat
  offset : Int
  deriving Repr, BEq

namespace Timestamp

/-- Whether a year has a 29th of February. -/
def isLeap (y : Nat) : Bool := y % 4 == 0 && (y % 100 != 0 || y % 400 == 0)

/-- The number of days of a month. -/
def daysIn (month year : Nat) : Nat :=
  match month with
  | 2 => if isLeap year then 29 else 28
  | 4 | 6 | 9 | 11 => 30
  | _ => 31

/-- Reads one or two digits. -/
def number (cs : List Char) : Option (Nat × List Char) :=
  match cs with
  | a :: b :: rest =>
    if a.isDigit then
      if b.isDigit then some ((a.toNat - 48) * 10 + (b.toNat - 48), rest)
      else some (a.toNat - 48, b :: rest)
    else none
  | [a] => if a.isDigit then some (a.toNat - 48, []) else none
  | [] => none

/-- Reads exactly two digits. -/
def twoDigits (cs : List Char) : Option (Nat × List Char) :=
  match cs with
  | a :: b :: rest =>
    if a.isDigit && b.isDigit then some ((a.toNat - 48) * 10 + (b.toNat - 48), rest) else none
  | _ => none

/-- Expects a character. -/
def expect (c : Char) (cs : List Char) : Option (List Char) :=
  match cs with
  | d :: rest => if c == d then some rest else none
  | [] => none

/-- Reads an optional fraction of a second: a point and digits, of which nine count. -/
def fraction (cs : List Char) : Nat × List Char :=
  match cs with
  | '.' :: d :: rest =>
    if d.isDigit then
      let digits := d :: rest.takeWhile Char.isDigit
      let nine := (digits.take 9 ++ List.replicate (9 - min 9 digits.length) '0')
      (String.ofList nine |>.toNat!, rest.dropWhile Char.isDigit)
    else (0, cs)
  | _ => (0, cs)

/-- Reads a zone: `Z` or `±hh:mm`, as an offset in seconds. -/
def zone (cs : List Char) : Option (Int × List Char) :=
  match cs with
  | 'Z' :: rest => some (0, rest)
  | sign :: rest => do
    if sign != '+' && sign != '-' then none
    let (h, rest) ← twoDigits rest
    let rest ← expect ':' rest
    let (m, rest) ← twoDigits rest
    let secs : Int := ((h * 60 + m) * 60 : Nat)
    some (if sign == '-' then -secs else secs, rest)
  | [] => none

/-- Reads the date part. -/
def date (cs : List Char) : Option (Nat × Nat × Nat × List Char) := do
  let y := cs.take 4
  if y.length != 4 || !y.all Char.isDigit then none
  let rest ← expect '-' (cs.drop 4)
  let (month, rest) ← number rest
  let rest ← expect '-' rest
  let (day, rest) ← number rest
  some ((String.ofList y).toNat!, month, day, rest)

/-- Reads a time `H:M:S` with an optional fraction. -/
def clock (cs : List Char) : Option (Nat × Nat × Nat × Nat × List Char) := do
  let (h, rest) ← number cs
  let rest ← expect ':' rest
  let (m, rest) ← number rest
  let rest ← expect ':' rest
  let (s, rest) ← number rest
  let (ns, rest) := fraction rest
  some (h, m, s, ns, rest)

/-- Whether the fields lie in their ranges. -/
def valid (t : Timestamp) : Bool :=
  1 ≤ t.month && t.month ≤ 12 && 1 ≤ t.day && t.day ≤ daysIn t.month t.year && t.hour < 24 &&
    t.minute < 60 && t.second < 60

/-- Reads a timestamp in one of the accepted forms, the whole text. -/
def parse? (s : String) : Option Timestamp :=
  let cs := s.toList
  let leading := cs.takeWhile Char.isDigit
  if leading.length != 4 || (cs.drop 4).head? != some '-' then none
  else
    let withTime (sep : Char) (zoned : Bool) : Option Timestamp := do
      let (y, mo, d, rest) ← date cs
      let rest ← expect sep rest
      let (h, mi, se, ns, rest) ← clock rest
      let (off, rest) ← if zoned then zone rest else some (0, rest)
      if !rest.isEmpty then none
      let t : Timestamp := ⟨y, mo, d, h, mi, se, ns, off⟩
      if t.valid then some t else none
    let dateOnly : Option Timestamp := do
      let (y, mo, d, rest) ← date cs
      if !rest.isEmpty then none
      let t : Timestamp := ⟨y, mo, d, 0, 0, 0, 0, 0⟩
      if t.valid then some t else none
    (withTime 'T' true).orElse fun _ => (withTime 't' true).orElse fun _ =>
      (withTime ' ' false).orElse fun _ => dateOnly

/-- A number in at least two digits. -/
def pad2 (n : Nat) : String := if n < 10 then "0" ++ toString n else toString n

/-- A number in at least four digits. -/
def pad4 (n : Nat) : String := String.ofList (List.replicate (4 - (toString n).length) '0') ++ toString n

/-- The text of a timestamp. -/
def text (t : Timestamp) : String :=
  let frac := if t.nanos == 0 then "" else
    let digits := (toString (t.nanos + 1000000000)).toList.drop 1
    "." ++ String.ofList (digits.reverse.dropWhile (· == '0')).reverse
  let sign := if t.offset < 0 then "-" else "+"
  let mins := t.offset.natAbs / 60
  let zoneText := sign ++ pad2 (mins / 60) ++ pad2 (mins % 60)
  let zoneName := if t.offset == 0 then "UTC" else zoneText
  pad4 t.year ++ "-" ++ pad2 t.month ++ "-" ++ pad2 t.day ++ " " ++ pad2 t.hour ++ ":" ++
    pad2 t.minute ++ ":" ++ pad2 t.second ++ frac ++ " " ++ zoneText ++ " " ++ zoneName

end Timestamp

end ViewEngine.Yaml
