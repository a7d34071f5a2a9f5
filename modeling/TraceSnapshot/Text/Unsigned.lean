import TraceSnapshot.Text

/-!
# Unsigned numerals

A numeral is written in hexadecimal after `0x`, in octal after a leading zero and in decimal
otherwise. A register id or an address must fit in 64 bits.
-/

namespace TraceSnapshot.Unsigned

/-- The value of an ASCII digit in a base of at most sixteen. -/
def digit? (base : Nat) (c : Char) : Option Nat :=
  let value? :=
    if '0' ≤ c ∧ c ≤ '9' then some (c.toNat - '0'.toNat)
    else if 'a' ≤ c ∧ c ≤ 'f' then some (c.toNat - 'a'.toNat + 10)
    else if 'A' ≤ c ∧ c ≤ 'F' then some (c.toNat - 'A'.toNat + 10)
    else none
  value?.filter fun value => value < base

/-- A numeral split into its base and its digits. -/
structure Numeral where
  base : Nat
  digits : Text
  deriving DecidableEq, Repr

/-- A text is read in the base that its first two characters announce; a lone `0` is the
octal numeral without digits. -/
def announced (t : Text) : Numeral :=
  match t with
  | '0' :: 'x' :: digits => ⟨16, digits⟩
  | '0' :: 'X' :: digits => ⟨16, digits⟩
  | '0' :: digits => ⟨8, digits⟩
  | digits => ⟨10, digits⟩

/-- The numeral that a text spells, if all of its characters are digits of the base. Only an
octal numeral may lack digits after what announces it. -/
def numeral? (t : Text) : Option Numeral :=
  let n := announced t
  if (n.digits.all fun c => (digit? n.base c).isSome) && (n.base == 8 || !n.digits.isEmpty) then
    some n
  else
    none

/-- The positional value of a digit sequence. -/
def value (base : Nat) (digits : Text) : Nat :=
  digits.foldl (fun total c => total * base + (digit? base c).getD 0) 0

def Numeral.value (n : Numeral) : Nat := Unsigned.value n.base n.digits

/-- The largest number of 64 bits. -/
def largest : Nat := UInt64.size - 1

/-- A decimal numeral of more digits than this is refused before its value is found. -/
def decimalLimit : Nat := 4300

/-- A decimal numeral with more digits than `decimalLimit`. -/
structure Overlong where
  digits : Nat
  deriving DecidableEq, Repr

/-- The number that a text spells, if it spells one of at most 64 bits. -/
def read (t : Text) : Except Overlong (Option Nat) :=
  match numeral? t with
  | none => .ok none
  | some n =>
    if n.base = 10 ∧ decimalLimit < n.digits.length then
      .error ⟨n.digits.length⟩
    else if n.value ≤ largest then
      .ok (some n.value)
    else
      .ok none

end TraceSnapshot.Unsigned
