import Routebook.Json
import Routebook.Proofs.Entries

namespace Routebook
namespace Json

/-!
# Places within a value

An example wraps the value of a relation in a list when the relation is one.  A place is
therefore a row of keys: each key is looked up in an object, or in the one item of a list.
`at?` reads the value at a place, and `Holds` says that a field occurs anywhere at all,
without a place.
-/

/-- The item of a list of one, and any other value itself. -/
def content : Json → Json
  | .list [item] => item
  | value => value

/-- The value at the end of a row of keys.  The list around the last value is kept. -/
def at? (value : Json) : List String → Option Json
  | [] => some value
  | key :: keys => (value.content.get? key).bind fun inner => inner.at? keys

theorem at?_cons (value : Json) (key : String) (keys : List String) :
    value.at? (key :: keys) = (value.content.get? key).bind fun inner => inner.at? keys := rfl

/-- Reading a longer place is reading on from a shorter one. -/
theorem at?_append (value : Json) (before after : List String) :
    value.at? (before ++ after) = (value.at? before).bind fun inner => inner.at? after := by
  induction before generalizing value with
  | nil => rfl
  | cons key keys inductionHypothesis =>
    rw [List.cons_append, at?_cons, at?_cons, Option.bind_assoc]
    exact congrArg _ (funext fun inner => inductionHypothesis inner)

/-- One key further. -/
theorem at?_concat (value : Json) (keys : List String) (key : String) :
    value.at? (keys ++ [key]) = (value.at? keys).bind fun inner => inner.content.get? key := by
  have last : ∀ inner : Json, inner.at? [key] = inner.content.get? key := by
    intro inner
    rw [at?_cons]
    exact Option.bind_fun_some _
  rw [at?_append]
  exact congrArg _ (funext last)

@[simp] theorem get?_object (fields : List (String × Json)) (key : String) :
    (object fields).get? key = entryAt? key fields := rfl

@[simp] theorem content_object (fields : List (String × Json)) :
    (object fields).content = object fields := rfl

/-- A field with this key and value occurs within a value, however deep. -/
inductive Holds (key : String) (value : Json) : Json → Prop where
  | here {fields : List (String × Json)} (field : (key, value) ∈ fields) :
      Holds key value (object fields)
  | within {fields : List (String × Json)} {other : String} {inner : Json}
      (field : (other, inner) ∈ fields) (deeper : Holds key value inner) :
      Holds key value (object fields)
  | item {items : List Json} {inner : Json} (member : inner ∈ items)
      (deeper : Holds key value inner) : Holds key value (list items)

/-- A value without parts. -/
def isScalar : Json → Bool
  | .list _ | .object _ => false
  | _ => true

/-- No field occurs within a value without parts. -/
theorem not_holds_of_isScalar {key : String} {value whole : Json} (scalar : whole.isScalar = true) :
    ¬ Holds key value whole := by
  intro held
  cases held <;> exact Bool.false_ne_true scalar

/-- No field occurs within an object without fields. -/
theorem not_holds_object_nil {key : String} {value : Json} : ¬ Holds key value (object []) := by
  rintro (member | ⟨member, _⟩)
  · cases member
  · cases member

/-- What occurs within a list of one occurs within its item. -/
theorem holds_of_holds_list_singleton {key : String} {value item : Json}
    (held : Holds key value (list [item])) : Holds key value item := by
  rcases held with _ | _ | ⟨member, deeper⟩
  exact List.mem_singleton.mp member ▸ deeper

/-- No field occurs within a list without items. -/
theorem not_holds_list_nil {key : String} {value : Json} : ¬ Holds key value (list []) := by
  rintro (_ | _ | ⟨member, _⟩)
  cases member

end Json
end Routebook
