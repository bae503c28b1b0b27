/-!
# JSON values, possibly cut short

A text is read from left to right as a JSON value. When the text cannot be read
any further, the value that has been read so far is kept, and ends in a part
that says why. So a consumer that walks through the value meets, in the order
of the text, both what is wrong with its form and what is wrong with its
content, and can report whichever comes first.

A consumer that only skips a part of the value is less strict than one that
uses it: a number may be out of range and a string may contain half of a
surrogate pair. Where the two would give different faults, the value keeps both.
-/

set_option autoImplicit false

namespace RayTracer.Json

/-- What is wrong with a text. -/
inductive Fault where
  /-- The text does not have the form of JSON. -/
  | malformed
  /-- The text ends too early. -/
  | truncated
  /-- The text does not have the content that is asked for. -/
  | mismatched
deriving Repr, DecidableEq, Inhabited

/-- A numeral: `digits * 10 ^ exponent`, negated when marked. -/
structure Numeral where
  /-- There is a minus sign. -/
  negative : Bool
  /-- All digits, as one number. -/
  digits : Nat
  /-- The power of ten. -/
  exponent : Int
  /-- There is neither a decimal point nor an exponent. -/
  integral : Bool
deriving Repr, DecidableEq

mutual

/-- A value read from a text. -/
inductive Value where
  /-- The word for nothing. -/
  | null
  /-- A truth value. -/
  | bool (value : Bool)
  /-- A number. -/
  | number (numeral : Numeral)
  /-- A number beyond the range of numbers. -/
  | excessiveNumber
  /-- A string, or the fault in using it. -/
  | string (text : Except Fault String)
  /-- A list of values. -/
  | array (items : Items)
  /-- A list of named values. -/
  | object (members : Members)
  /-- A string that cannot be read to its end, with the faults in using it and
  in skipping it. -/
  | brokenString (inUse skipping : Fault)
  /-- A numeral that cannot be read, with the fault in using it. -/
  | brokenNumber (inUse : Fault)
  /-- A word that cannot be read, with the fault. -/
  | brokenWord (fault : Fault)
  /-- A character with which no value begins. -/
  | unexpected
  /-- Nothing but the end of the text. -/
  | missing

/-- The items of a list. -/
inductive Items where
  /-- The end of the list, or the fault in finding it. -/
  | done (fault : Option Fault)
  /-- An item and those after it. -/
  | item (value : Value) (rest : Items)

/-- The members of an object. -/
inductive Members where
  /-- The end of the object, or the fault in finding it. -/
  | done (fault : Option Fault)
  /-- A member, with what stands in the place of its name, and those after it. -/
  | member (name value : Value) (rest : Members)

end

/-! ## Skipping

Reading stops at the first thing that cannot be read, so a value has at most
one fault in skipping it. -/

/-- The fault in skipping the name of a member, if any. -/
def Value.nameFault? : Value → Option Fault
  | .string _ => none
  | .brokenString _ skipping => some skipping
  | .missing => some .truncated
  | _ => some .malformed

mutual

/-- The fault in skipping a value, if any. -/
def Value.fault? : Value → Option Fault
  | .null => none
  | .bool _ => none
  | .number _ => none
  | .excessiveNumber => none
  | .string _ => none
  | .array items => items.fault?
  | .object members => members.fault?
  | .brokenString _ skipping => some skipping
  | .brokenNumber _ => some .malformed
  | .brokenWord fault => some fault
  | .unexpected => some .malformed
  | .missing => some .truncated

/-- The fault in skipping the items of a list, if any. -/
def Items.fault? : Items → Option Fault
  | .done fault => fault
  | .item value rest => value.fault?.or rest.fault?

/-- The fault in skipping the members of an object, if any. -/
def Members.fault? : Members → Option Fault
  | .done fault => fault
  | .member name value rest => (name.nameFault?.or value.fault?).or rest.fault?

end

end RayTracer.Json
