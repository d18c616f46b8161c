import ClusterBootstrap.Json.Basic
import ClusterBootstrap.Decimal.Digits
import ClusterBootstrap.Decimal.Layout
import ClusterBootstrap.Text.Quoted

/-!
# Decoding JSON values

A record is read from an object by the names of its fields, or from an array by their places.  One
description (`Fields`) serves both.

From an object, unknown members are ignored.  When several members are wrong, the one whose name comes
first is blamed; a missing field is blamed only when no member is wrong, and then the first one declared.
From an array, items are read in order, and an item too few or too many is a fault of its own.
-/

namespace ClusterBootstrap.Json

/-! ## Faults -/

/-- Why a JSON value does not have the form asked for. -/
inductive DecodeFault where
  /-- A value of another kind stands where the form is expected. -/
  | invalidType (found : Json) (expected : String)
  /-- A value of the right kind is out of range. -/
  | invalidValue (found : Json) (expected : String)
  | invalidLength (length : Nat) (expected : String)
  | missingField (name : String)
  | unknownVariant (name : String) (expected : String)
  /-- A bare variant name stands where the variant needs a value. -/
  | variantWithoutValue
  /-- A value fits no alternative of an untagged choice. -/
  | noAlternative (choice : String)

/-- What a value is called in a message. -/
def description : Json → String
  | .null => "null"
  | .bool b => "boolean `" ++ (if b then "true" else "false") ++ "`"
  | .integer n => "integer `" ++ toString n ++ "`"
  | .decimal x => "floating point `" ++ Decimal.jsonText x ++ "`"
  | .string s => "string " ++ Text.quoted s
  | .array _ => "sequence"
  | .object _ => "map"

/-- The wording of a fault. -/
def DecodeFault.text : DecodeFault → String
  | .invalidType found expected =>
    "invalid type: " ++ found.description ++ ", expected " ++ expected
  | .invalidValue found expected =>
    "invalid value: " ++ found.description ++ ", expected " ++ expected
  | .invalidLength length expected =>
    "invalid length " ++ toString length ++ ", expected " ++ expected
  | .missingField name => "missing field `" ++ name ++ "`"
  | .unknownVariant name expected => "unknown variant `" ++ name ++ "`, expected " ++ expected
  | .variantWithoutValue => "invalid type: unit variant, expected newtype variant"
  | .noAlternative choice => "data did not match any variant of untagged enum " ++ choice

/-- Reads a value of type `α` out of a JSON value. -/
abbrev Decoder (α : Type) := Json → Except DecodeFault α

namespace Decoder

/-! ## Plain forms -/

/-- A text. -/
def string : Decoder String
  | .string s => .ok s
  | other => .error (.invalidType other "a string")

/-- A truth value. -/
def bool : Decoder Bool
  | .bool b => .ok b
  | other => .error (.invalidType other "a boolean")

/-- An integer of an unsigned 64-bit word. -/
def uint64 : Decoder UInt64
  | .integer n =>
    if Decimal.isWord n then .ok n.toNat.toUInt64
    else .error (.invalidValue (.integer n) "u64")
  | other => .error (.invalidType other "u64")

/-- Null for no value. -/
def option {α : Type} (decode : Decoder α) : Decoder (Option α)
  | .null => .ok none
  | other => (decode other).map some

/-- The items of an array. -/
def list {α : Type} (decode : Decoder α) : Decoder (List α)
  | .array items => items.mapM decode
  | other => .error (.invalidType other "a sequence")

/-- The fault of a name that is no variant: two variants are told apart by `or`, more are listed. -/
def unknownVariant (name : String) (variants : List String) : DecodeFault :=
  let ticked := variants.map fun v => "`" ++ v ++ "`"
  .unknownVariant name <| match ticked with
    | [a, b] => a ++ " or " ++ b
    | many => "one of " ++ ", ".intercalate many

/-- A named choice: a bare name, or an object whose one member has the name and the value with it. -/
def variant {α : Type} (choose : String → Option Json → Except DecodeFault α) : Decoder α
  | .string name => choose name none
  | .object [(name, value)] => choose name (some value)
  | .object members => .error (.invalidValue (.object members) "map with a single key")
  | other => .error (.invalidType other "string or map")

/-- A variant that carries no value: the bare name, or null beside it. -/
def bare {α : Type} (a : α) : Option Json → Except DecodeFault α
  | none | some .null => .ok a
  | some other => .error (.invalidType other "unit")

/-- A variant that carries a value. -/
def carrying {α : Type} (decode : Decoder α) : Option Json → Except DecodeFault α
  | none => .error .variantWithoutValue
  | some value => decode value

end Decoder

/-! ## Records -/

/-- What the members of an object say about some fields. -/
inductive Collected (α : Type) where
  | complete (value : α)
  /-- No member is wrong, but this one is not there. -/
  | missing (name : String)
  /-- The member of this name is wrong. -/
  | wrong (name : String) (fault : DecodeFault)

namespace Collected

/-- Joins what is known of earlier and of later fields. -/
def seq {α β : Type} : Collected (α → β) → Collected α → Collected β
  | .complete f, .complete a => .complete (f a)
  -- of two wrong members the one with the smaller name
  | .wrong n e, .wrong m d => if m < n then .wrong m d else .wrong n e
  | .wrong n e, _ => .wrong n e
  | _, .wrong m d => .wrong m d
  -- of two missing fields the one declared first
  | .missing n, _ => .missing n
  | .complete _, .missing m => .missing m

/-- The value, or the fault to blame. -/
def toExcept {α : Type} : Collected α → Except DecodeFault α
  | .complete a => .ok a
  | .missing name => .error (.missingField name)
  | .wrong _ fault => .error fault

end Collected

/-- The items of an array that are still to be read, and the number read before them. -/
structure Remaining where
  taken : Nat
  items : List Json

/-- What a place of an array that ends too early is good for. -/
inductive AtEnd (α : Type) where
  | refuse
  | default (value : α)

/-- A description of some fields, in the order of their declaration. -/
structure Fields (α : Type) where
  /-- Reads the fields by name. -/
  ofMembers : List (String × Json) → Collected α
  /-- Reads the fields by place; `expected` words what the array should have been. -/
  ofItems : (expected : String) → Remaining → Except DecodeFault (α × Remaining)

namespace Fields

/-- One field.  `absent` is its value in an object without it, `atEnd` in an array that ends before. -/
def field {α : Type} (name : String) (decode : Decoder α) (absent : Option α) (atEnd : AtEnd α) :
    Fields α where
  ofMembers members :=
    match members.lookup name with
    | some value =>
      match decode value with
      | .ok a => .complete a
      | .error fault => .wrong name fault
    | none =>
      match absent with
      | some a => .complete a
      | none => .missing name
  ofItems expected
    | ⟨taken, item :: items⟩ => (decode item).map fun a => (a, ⟨taken + 1, items⟩)
    | ⟨taken, []⟩ =>
      match atEnd with
      | .default a => .ok (a, ⟨taken, []⟩)
      | .refuse => .error (.invalidLength taken expected)

/-- A field that must be there. -/
def required {α : Type} (name : String) (decode : Decoder α) : Fields α :=
  field name decode none .refuse

/-- A field that an object may leave out or give as null, but that has its place in an array. -/
def optional {α : Type} (name : String) (decode : Decoder α) : Fields (Option α) :=
  field name (Decoder.option decode) (some none) .refuse

/-- A field with a default, in an object and at the end of an array alike. -/
def defaulted {α : Type} (name : String) (decode : Decoder α) (value : α) : Fields α :=
  field name decode (some value) (.default value)

/-- No fields. -/
protected def pure {α : Type} (a : α) : Fields α where
  ofMembers _ := .complete a
  ofItems _ remaining := .ok (a, remaining)

/-- Earlier fields and then later ones. -/
protected def seq {α β : Type} (f : Fields (α → β)) (a : Fields α) : Fields β where
  ofMembers members := (f.ofMembers members).seq (a.ofMembers members)
  ofItems expected remaining := do
    let (g, remaining) ← f.ofItems expected remaining
    let (x, remaining) ← a.ofItems expected remaining
    return (g x, remaining)

instance : Applicative Fields where
  pure := Fields.pure
  seq f a := f.seq (a ())

/-- A record of the given name and number of fields. -/
def record {α : Type} (name : String) (size : Nat) (fields : Fields α) : Decoder α
  | .object members => (fields.ofMembers members).toExcept
  | .array items => do
    let expected := "struct " ++ name ++ " with " ++ toString size ++
      (if size = 1 then " element" else " elements")
    let (a, remaining) ← fields.ofItems expected ⟨0, items⟩
    if remaining.items.isEmpty then return a
    else throw (.invalidLength items.length "fewer elements in array")
  | other => .error (.invalidType other ("struct " ++ name))

end Fields

end ClusterBootstrap.Json
