import RayTracer.Json.Value

/-!
# Strings in JSON

A string is scanned piece by piece: a piece is a character, or a code unit
written as an escape of four hexadecimal digits. Scanning a string is enough to
skip it. To use it, code units are put together to characters; half of a
surrogate pair without the other half is a fault.
-/

set_option autoImplicit false

namespace RayTracer.Json

/-- A piece of a string. -/
inductive Piece where
  /-- A character. -/
  | char (char : Char)
  /-- A code unit of sixteen bits, written as an escape. -/
  | unit (value : Nat)
deriving Repr, DecidableEq

/-! ## Scanning -/

/-- The value of a hexadecimal digit. -/
def hexDigit? (char : Char) : Option Nat :=
  if char.isDigit then some (char.toNat - '0'.toNat)
  else if 'a' ≤ char ∧ char ≤ 'f' then some (char.toNat - 'a'.toNat + 10)
  else if 'A' ≤ char ∧ char ≤ 'F' then some (char.toNat - 'A'.toNat + 10)
  else none

/-- The value of hexadecimal digits, the most significant first. -/
def hexValue? (digits : List Char) : Option Nat :=
  digits.foldlM (fun value digit => (hexDigit? digit).map (16 * value + ·)) 0

/-- The number of bytes that a text takes up. -/
def byteCount (text : List Char) : Nat :=
  text.foldl (fun count char => count + char.utf8Size) 0

/-- Read the four digits of a code unit. When four bytes are not left, the text
is truncated, whatever they are. -/
def codeUnit (text : List Char) : Except Fault (Nat × List Char) :=
  if byteCount (text.take 4) < 4 then .error .truncated
  else
    match text with
    | a :: b :: c :: d :: rest =>
      match hexValue? [a, b, c, d] with
      | some value => .ok (value, rest)
      | none => .error .malformed
    | _ => .error .malformed

/-- The character of an escape of one letter. -/
def escaped? : Char → Option Char
  | '"' => some '"'
  | '\\' => some '\\'
  | '/' => some '/'
  | 'b' => some '\x08'
  | 'f' => some '\x0c'
  | 'n' => some '\n'
  | 'r' => some '\r'
  | 't' => some '\t'
  | _ => none

/-- A scanned string: its pieces, and the text after it or why there is none. -/
structure ScannedString where
  /-- The pieces. -/
  pieces : List Piece
  /-- The text after the string, or the fault in finding its end. -/
  rest : Except Fault (List Char)

/-- A scanned string with one more piece in front. -/
def ScannedString.add (piece : Piece) (scanned : ScannedString) : ScannedString :=
  { scanned with pieces := piece :: scanned.pieces }

/-- Scan a string after its opening quotation mark. The first argument bounds
the number of pieces; the length of the text is enough. -/
def scanString : Nat → List Char → ScannedString
  | 0, _ => ⟨[], .error .truncated⟩
  | _ + 1, [] => ⟨[], .error .truncated⟩
  | _ + 1, '"' :: rest => ⟨[], .ok rest⟩
  | _ + 1, ['\\'] => ⟨[], .error .truncated⟩
  | pieces + 1, '\\' :: 'u' :: rest =>
    match codeUnit rest with
    | .ok (value, rest) => (scanString pieces rest).add (.unit value)
    | .error fault => ⟨[], .error fault⟩
  | pieces + 1, '\\' :: letter :: rest =>
    match escaped? letter with
    | some char => (scanString pieces rest).add (.char char)
    | none => ⟨[], .error .malformed⟩
  | pieces + 1, char :: rest =>
    if char.toNat < 0x20 then ⟨[], .error .malformed⟩
    else (scanString pieces rest).add (.char char)

/-! ## Putting code units together -/

/-- The first half of a surrogate pair. -/
def isLeading (value : Nat) : Bool := 0xD800 ≤ value && value ≤ 0xDBFF

/-- The second half of a surrogate pair. -/
def isTrailing (value : Nat) : Bool := 0xDC00 ≤ value && value ≤ 0xDFFF

/-- The character of a surrogate pair. -/
def ofPair (leading trailing : Nat) : Char :=
  Char.ofNat (0x10000 + (leading - 0xD800) * 0x400 + (trailing - 0xDC00))

/-- The text of pieces. The second argument is the fault after the last piece,
if the string does not end there. -/
def assemble : List Piece → Option Fault → Except Fault (List Char)
  | [], none => .ok []
  | [], some fault => .error fault
  | .char char :: rest, after => (assemble rest after).map (char :: ·)
  | .unit leading :: .unit trailing :: rest, after =>
    if isLeading leading then
      if isTrailing trailing then (assemble rest after).map (ofPair leading trailing :: ·)
      else .error .malformed
    else if isTrailing leading then .error .malformed
    else (assemble (.unit trailing :: rest) after).map (Char.ofNat leading :: ·)
  | .unit value :: .char char :: rest, after =>
    if isLeading value || isTrailing value then .error .malformed
    else (assemble (.char char :: rest) after).map (Char.ofNat value :: ·)
  | [.unit value], after =>
    if isTrailing value then .error .malformed
    else if isLeading value then .error (after.getD .malformed)
    else
      match after with
      | none => .ok [Char.ofNat value]
      | some fault => .error fault

/-- Read a string after its opening quotation mark. -/
def readString (text : List Char) : Value × Option (List Char) :=
  let scanned := scanString text.length text
  match scanned.rest with
  | .ok rest => (.string ((assemble scanned.pieces none).map String.ofList), some rest)
  | .error skipping =>
    match assemble scanned.pieces (some skipping) with
    | .ok _ => (.brokenString skipping skipping, none)
    | .error inUse => (.brokenString inUse skipping, none)

end RayTracer.Json
