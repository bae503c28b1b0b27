import RayTracer.Digits
import RayTracer.Json.Text
import RayTracer.Scalar.Binary64

/-!
# Reading JSON

Reads a text as a value, from left to right and only as far as it has the form
of JSON. The results of a reading step are the value and the text after it, or
no text when it was not possible to go on.

Nesting is not limited. The reader takes at most three steps in a row without
reading a character, so the length of the text bounds the number of steps.
-/

set_option autoImplicit false

namespace RayTracer.Json

/-- The text after a value, or none when reading has stopped. -/
abbrev Rest := Option (List Char)

/-- White space between the parts of a text. -/
def isSpace (char : Char) : Bool :=
  char == ' ' || char == '\n' || char == '\t' || char == '\r'

/-- A text without the white space at its start. -/
def skipSpace (text : List Char) : List Char := text.dropWhile isSpace

/-! ## Words -/

/-- The text after the letters of a word. -/
def afterWord : List Char → List Char → Except Fault (List Char)
  | [], text => .ok text
  | _ :: _, [] => .error .truncated
  | letter :: letters, char :: rest =>
    if char = letter then afterWord letters rest else .error .malformed

/-- Read a word. -/
def readWord (value : Value) (word : String) (text : List Char) : Value × Rest :=
  match afterWord word.toList text with
  | .ok rest => (value, some rest)
  | .error fault => (.brokenWord fault, none)

/-! ## Numerals -/

/-- The fault when digits are expected in a numeral. -/
def digitsExpected : List Char → Fault
  | [] => .truncated
  | _ :: _ => .malformed

/-- Read digits, at least one. -/
def someDigits (text : List Char) : Except Fault (List Char × List Char) :=
  match takeDigits text with
  | ([], rest) => .error (digitsExpected rest)
  | (digits, rest) => .ok (digits, rest)

/-- Read the digits before the decimal point: several only if the first is not zero. -/
def wholeDigits (text : List Char) : Except Fault (List Char × List Char) :=
  match someDigits text with
  | .ok ('0' :: _ :: _, _) => .error .malformed
  | other => other

/-- Read the digits after a decimal point, if there is one. -/
def fractionDigits (text : List Char) : Except Fault (Option (List Char) × List Char) :=
  match text with
  | '.' :: rest => (someDigits rest).map fun (digits, rest) => (some digits, rest)
  | _ => .ok (none, text)

/-- Read an exponent, if there is one. -/
def exponentDigits (text : List Char) : Except Fault (Option Int × List Char) :=
  let read (text : List Char) : Except Fault (Option Int × List Char) :=
    let (negative, text) := takeSign text
    (someDigits text).map fun (digits, rest) => (some (signed negative (decimalValue digits)), rest)
  match text with
  | 'e' :: rest => read rest
  | 'E' :: rest => read rest
  | _ => .ok (none, text)

/-- Read a numeral after its sign. -/
def scanNumeral (negative : Bool) (text : List Char) : Except Fault (Numeral × List Char) := do
  let (whole, text) ← wholeDigits text
  let (fraction, text) ← fractionDigits text
  let (exponent, text) ← exponentDigits text
  let decimals := fraction.getD []
  let numeral : Numeral := {
    negative
    digits := decimalValue (whole ++ decimals)
    exponent := exponent.getD 0 - decimals.length
    integral := fraction.isNone && exponent.isNone }
  return (numeral, text)

/-- A numeral is in range when it does not round to infinity. -/
def Numeral.inRange (numeral : Numeral) : Bool :=
  !(decimalToFloat numeral.digits numeral.exponent).isInf

/-- Read a numeral after its sign. -/
def readNumeral (negative : Bool) (text : List Char) : Value × Rest :=
  match scanNumeral negative text with
  | .ok (numeral, rest) =>
    (if numeral.inRange then .number numeral else .excessiveNumber, some rest)
  | .error fault => (.brokenNumber fault, none)

/-! ## Values -/

/-- Read a value that has no parts. -/
def readScalar (text : List Char) : Value × Rest :=
  match text with
  | [] => (.missing, none)
  | '"' :: rest => readString rest
  | '-' :: rest => readNumeral true rest
  | 'n' :: rest => readWord .null "ull" rest
  | 't' :: rest => readWord (.bool true) "rue" rest
  | 'f' :: rest => readWord (.bool false) "alse" rest
  | char :: _ => if char.isDigit then readNumeral false text else (.unexpected, none)

/-- Read what stands in the place of the name of a member. Reading only goes on
after a string. -/
def readName (text : List Char) : Value × Rest :=
  match text with
  | '"' :: rest => readString rest
  | '[' :: _ => (.array (.done none), none)
  | '\x7b' :: _ => (.object (.done none), none)
  | _ => ((readScalar text).1, none)

mutual

/-- Read a value. -/
def readValue : Nat → List Char → Value × Rest
  | 0, _ => (.missing, none)
  | steps + 1, text =>
    match skipSpace text with
    | '[' :: rest =>
      let (items, rest) := readItems steps true rest
      (.array items, rest)
    | '\x7b' :: rest =>
      let (members, rest) := readMembers steps true rest
      (.object members, rest)
    | text => readScalar text

/-- Read the items of a list. An item that is not the first follows a comma. -/
def readItems : Nat → Bool → List Char → Items × Rest
  | 0, _, _ => (.done (some .truncated), none)
  | steps + 1, first, text =>
    match skipSpace text with
    | [] => (.done (some .truncated), none)
    | ']' :: rest => (.done none, some rest)
    | char :: rest =>
      if first then readItem steps (char :: rest)
      else if char = ',' then readItem steps rest
      else (.done (some .malformed), none)

/-- Read an item and those after it. -/
def readItem : Nat → List Char → Items × Rest
  | 0, _ => (.done (some .truncated), none)
  | steps + 1, text =>
    match readValue steps text with
    | (value, none) => (.item value (.done none), none)
    | (value, some rest) =>
      let (items, rest) := readItems steps false rest
      (.item value items, rest)

/-- Read the members of an object. A member that is not the first follows a comma. -/
def readMembers : Nat → Bool → List Char → Members × Rest
  | 0, _, _ => (.done (some .truncated), none)
  | steps + 1, first, text =>
    match skipSpace text with
    | [] => (.done (some .truncated), none)
    | '\x7d' :: rest => (.done none, some rest)
    | char :: rest =>
      if first then readMember steps (char :: rest)
      else if char = ',' then readMember steps (skipSpace rest)
      else (.done (some .malformed), none)

/-- Read a member and those after it. -/
def readMember : Nat → List Char → Members × Rest
  | 0, _ => (.done (some .truncated), none)
  | steps + 1, text =>
    match readName text with
    | (name, none) => (.member name .missing (.done none), none)
    | (name, some rest) =>
      match skipSpace rest with
      | ':' :: rest =>
        match readValue steps rest with
        | (value, none) => (.member name value (.done none), none)
        | (value, some rest) =>
          let (members, rest) := readMembers steps false rest
          (.member name value members, rest)
      | [] => (.member name .missing (.done none), none)
      | _ => (.member name .unexpected (.done none), none)

end

/-! ## Texts -/

/-- A text read as a value. -/
structure Document where
  /-- The value. -/
  value : Value
  /-- Something other than white space follows. -/
  trailing : Bool

/-- Read a text. -/
def Document.ofText (text : String) : Document :=
  let chars := text.toList
  match readValue (3 * chars.length + 3) chars with
  | (value, none) => ⟨value, false⟩
  | (value, some rest) => ⟨value, !(skipSpace rest).isEmpty⟩

end RayTracer.Json
