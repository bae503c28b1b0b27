import RayTracer.Json.Read
import RayTracer.Vec3

/-!
# Decoding JSON

Decoders walk through a value from left to right and build what it describes,
or find the first fault: in the form of the text, or in its content.

A record is written as an object, or as a list of its fields in order. The names
in an object that are not those of fields are skipped with their values, and a
field may not be given twice. Fields that are left out keep the values they have
in a record to start from, unless they are required.
-/

set_option autoImplicit false

namespace RayTracer.Json

/-- What a value describes, or the first fault in it. -/
abbrev Decoded := Except Fault

/-- The fault in finding a value of another kind than asked for. Such a value is
still read, unless it has parts. -/
def Value.wrongKind : Value → Fault
  | .brokenString inUse _ => inUse
  | .brokenNumber inUse => inUse
  | .brokenWord fault => fault
  | .string (.error fault) => fault
  | .excessiveNumber => .malformed
  | .unexpected => .malformed
  | .missing => .truncated
  | _ => .mismatched

/-! ## Simple values -/

/-- Decode a number. -/
def number {S : Type} [OfDecimal S] : Value → Decoded S
  | .number numeral =>
    .ok (OfDecimal.ofDecimal numeral.negative numeral.digits numeral.exponent)
  | other => .error other.wrongKind

/-- Decode a natural number below a bound. It is written without a sign, a
decimal point and an exponent. -/
def natural (bound : Nat) : Value → Decoded Nat
  | .number numeral =>
    if numeral.integral ∧ !numeral.negative ∧ numeral.digits < bound then .ok numeral.digits
    else .error .mismatched
  | other => .error other.wrongKind

/-- Decode a string. -/
def text : Value → Decoded String
  | .string text => text
  | other => .error other.wrongKind

/-- Decode the word for nothing. -/
def nothing : Value → Decoded Unit
  | .null => .ok ()
  | other => .error other.wrongKind

/-- Decode a value that may be left out by the word for nothing. -/
def optional {α : Type} (decode : Value → Decoded α) : Value → Decoded (Option α)
  | .null => .ok none
  | other => some <$> decode other

/-! ## Lists -/

/-- The next item of a list is required. -/
def Items.next : Items → Decoded (Value × Items)
  | .item value rest => .ok (value, rest)
  | .done none => .error .mismatched
  | .done (some fault) => .error fault

/-- No further item of a list is allowed. -/
def Items.close : Items → Decoded Unit
  | .item _ _ => .error .malformed
  | .done none => .ok ()
  | .done (some fault) => .error fault

/-- Decode all items of a list. -/
def Items.decode {α : Type} (decode : Value → Decoded α) : Items → Decoded (List α)
  | .item value rest => do return (← decode value) :: (← rest.decode decode)
  | .done none => .ok []
  | .done (some fault) => .error fault

/-- Decode a list. -/
def list {α : Type} (decode : Value → Decoded α) : Value → Decoded (List α)
  | .array items => items.decode decode
  | other => .error other.wrongKind

/-- Decode a vector, a list of three numbers. -/
def vector {S : Type} [OfDecimal S] : Value → Decoded (Vec3 S)
  | .array items => do
    let (first, items) ← items.next
    let x ← number first
    let (second, items) ← items.next
    let y ← number second
    let (third, items) ← items.next
    let z ← number third
    items.close
    return ⟨x, y, z⟩
  | other => .error other.wrongKind

/-! ## Records -/

/-- A field of a record. -/
structure RecordField (R : Type) where
  /-- The name of the field. -/
  name : String
  /-- The field may not be left out. -/
  required : Bool
  /-- Decode the value of the field and put it into a record. -/
  put : Value → R → Decoded R

/-- A field that may be left out. -/
def RecordField.free {R α : Type} (name : String) (decode : Value → Decoded α) (set : R → α → R) :
    RecordField R :=
  ⟨name, false, fun value record => return set record (← decode value)⟩

/-- A field that may not be left out. -/
def RecordField.compulsory {R α : Type} (name : String) (decode : Value → Decoded α)
    (set : R → α → R) : RecordField R :=
  { RecordField.free name decode set with required := true }

/-- Decode a record from a list of its fields in order. -/
def Items.record {R : Type} : List (RecordField R) → Items → R → Decoded R
  | [], items, record => do
    items.close
    return record
  | field :: fields, .item value rest, record => do
    Items.record fields rest (← field.put value record)
  | field :: fields, .done none, record =>
    if (field :: fields).any RecordField.required then .error .mismatched else .ok record
  | _ :: _, .done (some fault), _ => .error fault

/-- Decode the name of a member. -/
def Value.memberName : Value → Decoded String
  | .string text => text
  | .brokenString inUse _ => .error inUse
  | .missing => .error .truncated
  | _ => .error .malformed

/-- Decode a record from members. The third argument lists the names of the
fields that have been given before. -/
def Members.record {R : Type} (fields : List (RecordField R)) :
    Members → List String → R → Decoded R
  | .done none, given, record =>
    if fields.any fun field => field.required && !given.contains field.name then
      .error .mismatched
    else .ok record
  | .done (some fault), _, _ => .error fault
  | .member name value rest, given, record => do
    let name ← name.memberName
    match fields.find? fun field => field.name == name with
    | some field =>
      if given.contains name then .error .mismatched
      else rest.record fields (name :: given) (← field.put value record)
    | none =>
      match value.fault? with
      | some fault => .error fault
      | none => rest.record fields given record

/-- Decode a record, starting from a given one. -/
def record {R : Type} (fields : List (RecordField R)) (start : R) : Value → Decoded R
  | .array items => items.record fields start
  | .object members => members.record fields [] start
  | other => .error other.wrongKind

/-! ## Alternatives -/

/-- An alternative of a name, or a fault when there is none. -/
def alternative {α : Type} (ofName? : String → Option α) (name : String) : Decoded α :=
  match ofName? name with
  | some value => .ok value
  | none => .error .mismatched

/-- Decode the single member of an object as an alternative without content. -/
def Members.alternative {α : Type} (ofName? : String → Option α) : Members → Decoded α
  | .member name value rest => do
    let chosen ← Json.alternative ofName? (← name.memberName)
    nothing value
    match rest with
    | .done none => return chosen
    | .done (some fault) => .error fault
    | .member _ _ _ => .error .malformed
  | .done none => .error .malformed
  | .done (some fault) => .error fault

/-- Decode one of several alternatives, written as its name or as an object that
has nothing under its name. -/
def choice {α : Type} (ofName? : String → Option α) : Value → Decoded α
  | .string text => do alternative ofName? (← text)
  | .brokenString inUse _ => .error inUse
  | .object members => members.alternative ofName?
  | .missing => .error .truncated
  | _ => .error .malformed

/-- Decode a text. Nothing may follow the value. -/
def decodeText {α : Type} (decode : Value → Decoded α) (text : String) : Decoded α := do
  let document := Document.ofText text
  let result ← decode document.value
  if document.trailing then .error .malformed else return result

end RayTracer.Json
