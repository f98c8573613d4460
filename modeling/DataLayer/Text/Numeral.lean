/-! Numerals: numbers written with digits of a base up to 16. -/

namespace DataLayer.Text

/-- The value of a hexadecimal digit. -/
def digitValue? (c : Char) : Option Nat :=
  if '0' ≤ c ∧ c ≤ '9' then some (c.toNat - '0'.toNat)
  else if 'a' ≤ c ∧ c ≤ 'f' then some (c.toNat - 'a'.toNat + 10)
  else if 'A' ≤ c ∧ c ≤ 'F' then some (c.toNat - 'A'.toNat + 10)
  else none

/-- Appends a digit to a number, if it is a digit of the base. -/
def appendDigit (base : Nat) (number : Option Nat) (c : Char) : Option Nat := do
  let digit ← digitValue? c
  if digit < base then return base * (← number) + digit else none

/-- The number that a numeral denotes; it has at least one digit. -/
def numeral? (base : Nat) (digits : List Char) : Option Nat :=
  if digits = [] then none else digits.foldl (appendDigit base) (some 0)

end DataLayer.Text
