import Routebook.Expansion
import Routebook.Proofs.Text.Cut

namespace Routebook
namespace Hops

/-!
# Paths of hops

The filters of an example speak of relations by paths, texts with points between the names.
Under a condition on the names the path tells what the row of hops is: without empty names
an empty path stands for no hops, and without points in names the last point of a path
stands before the last hop.
-/

/-- No hop has an empty name. -/
def Named (hops : Hops) : Prop :=
  ∀ key ∈ hops, key ≠ ""

/-- No hop has an empty name or a name with a point. -/
def Plain (hops : Hops) : Prop :=
  ∀ key ∈ hops, key ≠ "" ∧ '.' ∉ key.toList

theorem named_nil : Named [] := by
  intro key member
  cases member

theorem plain_nil : Plain [] := by
  intro key member
  cases member

theorem Plain.named {hops : Hops} (plain : hops.Plain) : hops.Named :=
  fun key member => (plain key member).1

theorem Named.concat {hops : Hops} (named : hops.Named) {key : String} (nonempty : key ≠ "") :
    Named (hops ++ [key]) := by
  intro other member
  rcases List.mem_append.mp member with early | last
  · exact named other early
  · exact List.mem_singleton.mp last ▸ nonempty

theorem Plain.concat {hops : Hops} (plain : hops.Plain) {key : String}
    (clean : key ≠ "" ∧ '.' ∉ key.toList) : Plain (hops ++ [key]) := by
  intro other member
  rcases List.mem_append.mp member with early | last
  · exact plain other early
  · exact List.mem_singleton.mp last ▸ clean

@[simp] theorem isRoot_nil : isRoot [] = true := rfl

@[simp] theorem path_singleton (key : String) : path [key] = key :=
  String.intercalate_singleton

/-- The path of a hop behind others. -/
theorem path_concat {hops : Hops} (nonempty : hops ≠ []) (key : String) :
    path (hops ++ [key]) = hops.fieldPath key := by
  rw [path, String.intercalate_append_of_ne_nil nonempty (List.cons_ne_nil key []),
    String.intercalate_singleton]
  rfl

/-- Only the path of no hops is empty. -/
theorem isRoot_iff {hops : Hops} (named : hops.Named) : hops.isRoot = true ↔ hops = [] := by
  rw [isRoot, String.isEmpty_iff]
  constructor
  · intro empty
    rcases List.eq_nil_or_concat hops with none | ⟨before, key, whole⟩
    · exact none
    · have last : key ≠ "" := named key (by rw [whole]; simp)
      have parts : (path hops).toList = [] := by rw [empty]; rfl
      rcases List.eq_nil_or_concat before with first | ⟨_, _, _⟩
      · rw [whole, first, List.concat_eq_append, List.nil_append, path_singleton] at empty
        exact absurd empty last
      · rw [whole, List.concat_eq_append, path_concat (by simp_all), fieldPath] at parts
        simp at parts
  · intro none
    rw [none]
    rfl

theorem isRoot_eq_false {hops : Hops} (named : hops.Named) (nonempty : hops ≠ []) :
    hops.isRoot = false := by
  rw [Bool.eq_false_iff, Ne, isRoot_iff named]
  exact nonempty

/-- Without empty names a step further adds the hop. -/
theorem child_eq {hops : Hops} (named : hops.Named) (key : String) :
    hops.child key = hops ++ [key] := by
  unfold child
  split
  next root => rw [(isRoot_iff named).mp root, List.nil_append]
  next => rfl

/-- Without points in names a path is nested from two hops on. -/
theorem isNested_iff {hops : Hops} (plain : hops.Plain) :
    hops.isNested = true ↔ 2 ≤ hops.length := by
  rw [isNested, List.contains_iff_mem]
  rcases hops with _ | ⟨first, _ | ⟨second, rest⟩⟩
  · simp [path]
  · have free : '.' ∉ first.toList := (plain first List.mem_cons_self).2
    simp [path_singleton, free]
  · simp [path, String.intercalate_cons_cons]

/-- Without points in names the last point of a path parts the last hop from the others. -/
theorem enclosing_concat {hops : Hops} (nonempty : hops ≠ []) {key : String}
    (free : '.' ∉ key.toList) : enclosing (hops ++ [key]) = hops.path := by
  have cut : Text.cutLastAt? '.' (path (hops ++ [key])).toList =
      some (hops.path.toList, key.toList) := by
    rw [path_concat nonempty, fieldPath]
    simpa using Text.cutLastAt?_append_cons free hops.path.toList
  rw [enclosing, cut]
  exact String.ofList_toList

end Hops
end Routebook
