import LinkedSchema.Json.Value

/-!
# Values of enumerations

A value of an enumeration is written by its symbolic name or by its number. Any value may stand
there; it is read whole before it is looked at, so faults inside it come first.

* `Enumeration` — how the values of a type are written;
* `Enumeration.ofValue`, `Enumeration.decoder` — reading them from a value and from a document.
-/

namespace LinkedSchema.Json

/-- How the values of a type are written. -/
structure Enumeration (α : Type) where
  /-- What messages call a value. -/
  noun : String
  /-- What messages call the forms that a value may have. -/
  form : String
  ofName? : String → Option α
  ofNumber? : Int → Option α

/-- The value that a name or a thirty-two bit number stands for. -/
def Enumeration.ofValue {α : Type} (enumeration : Enumeration α) : Value → Except Mismatch α
  | .string name =>
      match enumeration.ofName? name with
      | some value => .ok value
      | none => .error (.unknownName enumeration.noun name)
  | .number (.integer number) =>
      if fitsInt32 number then
        match enumeration.ofNumber? number with
        | some value => .ok value
        | none => .error (.unknownNumber enumeration.noun number)
      else .error (.noForm enumeration.form)
  | _ => .error (.noForm enumeration.form)

/-- Reads a value of the enumeration. -/
def Enumeration.decoder {α : Type} (enumeration : Enumeration α) : Sized α := fun room document => do
  match enumeration.ofValue (← value room document) with
  | .ok value => .ok value
  | .error reason => .error (.mismatch reason)

end LinkedSchema.Json
