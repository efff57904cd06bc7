import Routebook.Binary64
import Routebook.Keyed

namespace Routebook

/-!
# JSON values

Examples, route lists and the generated document are JSON values.  The fields of an object
are kept in the order in which they were first written, because readers of the document see
that order.  Writing a field a second time keeps its place and replaces its value.

An integer is kept exactly when 64 bits hold it, signed or unsigned; every other number is a
`Binary64`.
-/

/-- A number of a JSON text. -/
inductive Number where
  /-- An integer within the signed or the unsigned range of 64 bits. -/
  | integer (value : Int) (inRange : -0x8000000000000000 ≤ value ∧ value < 0x10000000000000000)
  | real (value : Binary64)
  deriving DecidableEq, Repr

inductive Json where
  | null
  | bool (value : Bool)
  | number (value : Number)
  | text (value : String)
  | list (items : List Json)
  | object (fields : List (String × Json))
  deriving Repr, Inhabited

namespace Json

/-! ## Decidable equality -/

mutual

/-- Equality of values, field order included. -/
def same : Json → Json → Bool
  | null, null => true
  | bool a, bool b => a == b
  | number a, number b => a == b
  | text a, text b => a == b
  | list a, list b => sameItems a b
  | object a, object b => sameFields a b
  | _, _ => false

def sameItems : List Json → List Json → Bool
  | [], [] => true
  | a :: as, b :: bs => same a b && sameItems as bs
  | _, _ => false

def sameFields : List (String × Json) → List (String × Json) → Bool
  | [], [] => true
  | (key, a) :: as, (key', b) :: bs => key == key' && same a b && sameFields as bs
  | _, _ => false

end

mutual

theorem same_iff : ∀ a b : Json, same a b = true ↔ a = b
  | null, b => by cases b <;> simp [same]
  | bool a, b => by cases b <;> simp [same]
  | number a, b => by cases b <;> simp [same]
  | text a, b => by cases b <;> simp [same]
  | list a, b => by cases b <;> simp [same, sameItems_iff a]
  | object a, b => by cases b <;> simp [same, sameFields_iff a]

theorem sameItems_iff : ∀ a b : List Json, sameItems a b = true ↔ a = b
  | [], b => by cases b <;> simp [sameItems]
  | a :: as, b => by cases b <;> simp [sameItems, same_iff a, sameItems_iff as]

theorem sameFields_iff : ∀ a b : List (String × Json), sameFields a b = true ↔ a = b
  | [], b => by cases b <;> simp [sameFields]
  | (key, a) :: as, b => by
    cases b with
    | nil => simp [sameFields]
    | cons field bs =>
      obtain ⟨key', b⟩ := field
      simp [sameFields, same_iff a, sameFields_iff as, and_assoc]

end

instance : DecidableEq Json := fun a b =>
  decidable_of_iff (same a b = true) (same_iff a b)

/-! ## Construction -/

/-- An integer as a value, when 64 bits hold it. -/
def ofInt? (value : Int) : Option Json :=
  if inRange : -0x8000000000000000 ≤ value ∧ value < 0x10000000000000000 then
    some (number (.integer value inRange))
  else none

def ofUInt64 (value : UInt64) : Json :=
  number (.integer value.toNat ⟨by omega, by have := value.toNat_lt; omega⟩)

def ofOption {α : Type} (encode : α → Json) : Option α → Json
  | some value => encode value
  | none => null

def ofTexts (texts : List String) : Json :=
  list (texts.map text)

/-! ## Fields -/

def get? (value : Json) (key : String) : Option Json :=
  match value with
  | object fields => entryAt? key fields
  | _ => none

/-- A field of an object that is left out when there is no value. -/
def optionalField {α : Type} (key : String) (encode : α → Json) :
    Option α → List (String × Json)
  | some value => [(key, encode value)]
  | none => []

def isNull : Json → Bool
  | null => true
  | _ => false

def asText? : Json → Option String
  | text value => some value
  | _ => none

end Json

end Routebook
