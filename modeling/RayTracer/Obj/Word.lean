import RayTracer.Digits
import RayTracer.Scalar.Binary64

/-!
# Words of mesh files

A line of a mesh file consists of words between white space. Words are numbers
of 32 bits or integers of 64 bits. Both may have a sign; the other number
formats are decimal numerals, infinities and values that are not numbers.
-/

set_option autoImplicit false

namespace RayTracer.Obj

/-- White space: the characters that separate words. -/
def isSpace (char : Char) : Bool :=
  let code := char.toNat
  (0x9 ≤ code && code ≤ 0xD) || (0x2000 ≤ code && code ≤ 0x200A) ||
    [0x20, 0x85, 0xA0, 0x1680, 0x2028, 0x2029, 0x202F, 0x205F, 0x3000].contains code

/-- The words of a line. -/
def words (line : List Char) : List (List Char) :=
  (line.splitBy fun first second => isSpace first == isSpace second).filter fun run =>
    run.all fun char => !isSpace char

/-! ## Integers -/

/-- Read an integer of 64 bits. -/
def integer? (word : List Char) : Option Int :=
  let (negative, digits) := takeSign word
  if digits.isEmpty || !digits.all Char.isDigit then none
  else
    let value := signed negative (decimalValue digits)
    let bound : Int := 0x8000000000000000
    if -bound ≤ value ∧ value < bound then some value else none

/-! ## Numbers -/

/-- Read an exponent at the end of a numeral, zero if there is none. -/
def exponent? : List Char → Option Int
  | [] => some 0
  | letter :: rest =>
    let (negative, digits) := takeSign rest
    if letter.toLower ≠ 'e' ∨ digits.isEmpty ∨ !digits.all Char.isDigit then none
    else some (signed negative (decimalValue digits))

/-- Read the digits after a decimal point, none if there is no point. -/
def fraction : List Char → List Char × List Char
  | '.' :: rest => takeDigits rest
  | text => ([], text)

/-- Read a decimal numeral. There are digits before or after the point. -/
def decimal? (text : List Char) : Option Float32 := do
  let (whole, text) := takeDigits text
  let (decimals, text) := fraction text
  let digits := whole ++ decimals
  if digits.isEmpty then none
  let exponent ← exponent? text
  return decimalToFloat32 (decimalValue digits) (exponent - decimals.length)

/-- Read a magnitude: a numeral or the name of a special value. -/
def magnitude? (text : List Char) : Option Float32 :=
  match String.ofList (text.map Char.toLower) with
  | "inf" => some (1.0 / 0.0)
  | "infinity" => some (1.0 / 0.0)
  | "nan" => some (0.0 / 0.0)
  | _ => decimal? text

/-- Read a number of 32 bits. -/
def single? (word : List Char) : Option Float32 :=
  let (negative, text) := takeSign word
  (magnitude? text).map fun magnitude => if negative then -magnitude else magnitude

end RayTracer.Obj
