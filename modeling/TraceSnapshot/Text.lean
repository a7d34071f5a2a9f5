/-!
# Text

Every name, value, path and file content is a sequence of characters. This file holds the
operations that all of them share: trimming, cutting at a character, comments and quotes.
-/

namespace TraceSnapshot

/-- Text is a sequence of characters, ordered code point by code point. A surrogate is a code
point but not a character, so a string with a lone surrogate is not a text: arguments that hold
one, such as the name of a directory that is not UTF-8, are not covered here. -/
abbrev Text := List Char

namespace Text

/-- The characters that may surround a name or a value without belonging to it. Other
Unicode white space is part of the value. -/
def isBlank (c : Char) : Bool :=
  c == ' ' || c == '\t' || c == '\r' || c == '\n' || c == '\x0b' || c == '\x0c'

def trimStart (t : Text) : Text := t.dropWhile isBlank

def trimEnd (t : Text) : Text := (t.reverse.dropWhile isBlank).reverse

/-- The text without the blank characters at its two ends. -/
def trim (t : Text) : Text := trimEnd (trimStart t)

/-- The parts before and after the first occurrence of `c`. -/
def cut (c : Char) : Text → Option (Text × Text)
  | [] => none
  | x :: xs =>
    if x = c then some ([], xs) else (cut c xs).map fun (before, after) => (x :: before, after)

/-- The parts before and after the last occurrence of `c`. -/
def cutLast (c : Char) : Text → Option (Text × Text)
  | [] => none
  | x :: xs =>
    match cutLast c xs with
    | some (before, after) => some (x :: before, after)
    | none => if x = c then some ([], xs) else none

/-- Only a line feed ends a line. -/
def lines (t : Text) : List Text := t.splitOn '\n'

/-- A comment starts at a semicolon or a number sign, quoted or not. A carriage return ends
the line as well. -/
def startsComment (c : Char) : Bool := c == '\r' || c == ';' || c == '#'

def withoutComment (line : Text) : Text := line.takeWhile fun c => !startsComment c

def isQuote (c : Char) : Bool := c == '\x22' || c == '\x27'

/-- The trimmed text without one pair of equal quotes around it. A lone quote and quotes
that differ stay. -/
def unquoted (t : Text) : Text :=
  match trim t with
  | [] => []
  | first :: rest =>
    if isQuote first && rest.getLast? == some first then rest.dropLast else first :: rest

/-- The decimal digits of a number. -/
def ofNat (n : Nat) : Text := Nat.toDigits 10 n

end Text

end TraceSnapshot
