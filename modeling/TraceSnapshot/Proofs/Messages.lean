import Mathlib
import TraceSnapshot.Proofs.Fitness
import TraceSnapshot.Proofs.Legibility
import TraceSnapshot.Proofs.OrderedMaps
import TraceSnapshot.Validator

/-!
# Messages

A message shows what a file, a path or a setting says. Names, keys and values of a file come
out of one line and are shown as they are; what may hold a line feed is shown as a quoted
literal. So every message stays on one line.
-/

namespace TraceSnapshot.Proofs
open Ini (Document Fault Line Outline)
open List (not_mem_append)
open Schema (Constraint Reason SectionRule Violation)

/-! ### Literals -/

/-- The names and keys of an outline, each of one line. -/
def OneLineNames (o : Outline) : Prop :=
  ∀ name pairs, o.get? name = some pairs → '\n' ∉ name ∧ ∀ key ∈ pairs.keys, '\n' ∉ key

lemma OneLineNames.upsert {o : Outline} (h : OneLineNames o) {name : Text} (hname : '\n' ∉ name)
    {f : Option (OrderedMap Text Text) → OrderedMap Text Text}
    (hf : ∀ key ∈ (f (o.get? name)).keys, '\n' ∉ key) : OneLineNames (o.upsert name f) := by
  intro other pairs hget
  rw [OrderedMap.get?_upsert] at hget
  split at hget
  next heq =>
    cases hget
    rw [heq]
    exact ⟨hname, hf⟩
  next => exact h other pairs hget

lemma OneLineNames.keys_getD {o : Outline} (h : OneLineNames o) (name : Text) :
    ∀ key ∈ ((o.get? name).getD .empty).keys, '\n' ∉ key := by
  cases hget : o.get? name with
  | none => simp [OrderedMap.empty, OrderedMap.keys]
  | some pairs => exact (h name pairs hget).2

lemma OneLineNames.put {o : Outline} (h : OneLineNames o) {name key : Text} (hname : '\n' ∉ name)
    (hkey : '\n' ∉ key) (value : Text) : OneLineNames (o.put name key value) := by
  apply h.upsert hname
  intro other hother
  unfold OrderedMap.insert at hother
  rw [OrderedMap.keys_upsert] at hother
  split at hother
  next => exact h.keys_getD name other hother
  next =>
    rcases List.mem_append.1 hother with hother | hother
    · exact h.keys_getD name other hother
    · rwa [List.mem_singleton.1 hother]

lemma mem_of_foremost?_eq_some {vs : List Violation} {v : Violation}
    (h : Violation.foremost? vs = some v) : v ∈ vs := by
  induction vs with
  | nil => cases h
  | cons w rest ih =>
    unfold Violation.foremost? at h
    split at h
    next =>
      cases h
      exact List.mem_cons_self
    next other hother =>
      split at h
      next =>
        cases h
        exact List.mem_cons_of_mem w (ih hother)
      next =>
        cases h
        exact List.mem_cons_self

end TraceSnapshot.Proofs
