/-!
# Digits

Decimal digits at the start of a text, and the numbers they denote. Shared by
the readers of settings and of mesh files.
-/

set_option autoImplicit false

namespace RayTracer

/-- The digits at the start of a text and the text after them. -/
def takeDigits (text : List Char) : List Char × List Char := text.span Char.isDigit

/-- The number that digits denote. -/
def decimalValue (digits : List Char) : Nat :=
  digits.foldl (fun value digit => 10 * value + (digit.toNat - '0'.toNat)) 0

/-- The sign at the start of a text, marked when it is negative, and the text
after it. -/
def takeSign : List Char → Bool × List Char
  | '-' :: rest => (true, rest)
  | '+' :: rest => (false, rest)
  | text => (false, text)

/-- A magnitude with a sign. -/
def signed (negative : Bool) (magnitude : Nat) : Int :=
  if negative then -(magnitude : Int) else magnitude

end RayTracer
