/-
  EventEnvelope.Proofs.Json.Copies
  ────────────────────────────────
  **What the copy of a record comes to.**

  A record is copied before it is written, its parts one after the other and their parts before the
  next one.  The first part that stands in the way decides what becomes of the copy: it is refused
  at a message, and it never ends at a value that contains itself.

    • `copyParts`                    — the parts that a copy goes down to, in their order,
    • `copyFault?_eq`                — the first part that stands in the way decides,
    • `copyFault?_eq_endless_iff`    — the copies that never end.
-/
import Mathlib.Data.List.Basic
import EventEnvelope.Json.Writer

namespace EventEnvelope

namespace Json

/-! ## §1. Parts. -/

/-- The parts that a copy goes down to, in their order: keys before their values, and of a message
its payload. -/
def copyParts : Value → List Value
  | .list items | .tuple items => items
  | .object fields => fields.flatMap fun entry => [entry.1, entry.2]
  | .record _ fields => fields.map Prod.snd
  | .message payload _ => [payload]
  | _ => []

theorem sizeOf_lt_of_mem_copyParts {v part : Value} (h : part ∈ copyParts v) :
    sizeOf part < sizeOf v := by
  cases v with
  | list items =>
      have hsize : sizeOf part < sizeOf items := List.sizeOf_lt_of_mem h
      simp only [Value.list.sizeOf_spec]
      omega
  | tuple items =>
      have hsize : sizeOf part < sizeOf items := List.sizeOf_lt_of_mem h
      simp only [Value.tuple.sizeOf_spec]
      omega
  | object fields =>
      obtain ⟨⟨k, u⟩, hentry, hpart⟩ := List.mem_flatMap.mp h
      have hsize := List.sizeOf_lt_of_mem hentry
      simp only [List.mem_cons, List.not_mem_nil, or_false] at hpart
      simp only [Prod.mk.sizeOf_spec] at hsize
      simp only [Value.object.sizeOf_spec]
      rcases hpart with rfl | rfl
      · omega
      · omega
  | record className fields =>
      obtain ⟨⟨name, u⟩, hfield, rfl⟩ := List.mem_map.mp h
      have hsize := List.sizeOf_lt_of_mem hfield
      simp only [Prod.mk.sizeOf_spec] at hsize
      simp only [Value.record.sizeOf_spec]
      omega
  | message payload headers =>
      rw [List.mem_singleton.mp h, Value.message.sizeOf_spec]
      omega
  | _ => cases h

theorem itemsCopyFault?_eq (items : List Value) :
    itemsCopyFault? items = items.findSome? copyFault? := by
  induction items with
  | nil => rfl
  | cons v rest ih =>
      rw [itemsCopyFault?, ih, List.findSome?_cons]
      cases copyFault? v <;> rfl

theorem fieldsCopyFault?_eq (fields : List (Value × Value)) :
    fieldsCopyFault? fields
      = (fields.flatMap fun entry => [entry.1, entry.2]).findSome? copyFault? := by
  induction fields with
  | nil => rfl
  | cons entry rest ih =>
      obtain ⟨k, v⟩ := entry
      rw [fieldsCopyFault?, ih, List.flatMap_cons, List.cons_append, List.cons_append,
        List.nil_append, List.findSome?_cons, List.findSome?_cons]
      cases copyFault? k <;> cases copyFault? v <;> rfl

theorem namedCopyFault?_eq (fields : List (Text × Value)) :
    namedCopyFault? fields = (fields.map Prod.snd).findSome? copyFault? := by
  induction fields with
  | nil => rfl
  | cons field rest ih =>
      obtain ⟨name, v⟩ := field
      rw [namedCopyFault?, ih, List.map_cons, List.findSome?_cons]
      cases copyFault? v <;> rfl

/-- Where the copy is refused, once it has gone through the parts: at the headers of a message, and
at an event with a message inside. -/
def refusal? : Value → Option WriteFault
  | .message _ _ => some (.notCopyable headerMapName)
  | .event _ raw _ => if holdsMessage raw then some (.notCopyable headerMapName) else none
  | _ => none

/-- **The first part that stands in the way decides**; of a value that contains itself there is no
way to its parts. -/
theorem copyFault?_eq {v : Value} (hlist : v ≠ .circularList) (hobject : v ≠ .circularObject) :
    copyFault? v = ((copyParts v).findSome? copyFault?).or (refusal? v) := by
  cases v with
  | circularList => exact absurd rfl hlist
  | circularObject => exact absurd rfl hobject
  | list items =>
      rw [copyFault?, itemsCopyFault?_eq]
      exact Option.or_none.symm
  | tuple items =>
      rw [copyFault?, itemsCopyFault?_eq]
      exact Option.or_none.symm
  | object fields =>
      rw [copyFault?, fieldsCopyFault?_eq]
      exact Option.or_none.symm
  | record className fields =>
      rw [copyFault?, namedCopyFault?_eq]
      exact Option.or_none.symm
  | message payload headers =>
      rw [copyFault?, copyParts, refusal?, List.findSome?_cons]
      cases copyFault? payload <;> rfl
  | event cls raw own => rfl
  | _ => rfl

theorem eq_notCopyable_of_refusal? {v : Value} {fault : WriteFault} (h : refusal? v = some fault) :
    fault = .notCopyable headerMapName := by
  unfold refusal? at h
  split at h
  · cases h
    rfl
  · split at h
    · cases h
      rfl
    · cases h
  · cases h

/-- A copy never ends or is refused; nothing else befalls it. -/
theorem copyFault?_eq_some (v : Value) {fault : WriteFault} (h : copyFault? v = some fault) :
    fault = .endless ∨ fault = .notCopyable headerMapName := by
  by_cases hlist : v = .circularList
  · rw [hlist] at h
    cases h
    exact .inl rfl
  by_cases hobject : v = .circularObject
  · rw [hobject] at h
    cases h
    exact .inl rfl
  rw [copyFault?_eq hlist hobject] at h
  rcases Option.or_eq_some_iff.mp h with h | ⟨-, h⟩
  · obtain ⟨part, hpart, hfault⟩ := List.exists_of_findSome?_eq_some h
    have hsize := sizeOf_lt_of_mem_copyParts hpart
    exact copyFault?_eq_some part hfault
  · exact .inr (eq_notCopyable_of_refusal? h)
termination_by sizeOf v

/-! ## §2. Copies that never end. -/

/-- Copying the value comes to one that contains itself, and nothing before that one stands in the
way. -/
inductive EndlessCopy : Value → Prop
  | circularList : EndlessCopy .circularList
  | circularObject : EndlessCopy .circularObject
  | part (v : Value) (before : List Value) (part : Value) (after : List Value)
      (hparts : copyParts v = before ++ part :: after)
      (hbefore : ∀ u ∈ before, copyFault? u = none) (hpart : EndlessCopy part) : EndlessCopy v

theorem endlessCopy_of_copyFault? (v : Value) (h : copyFault? v = some .endless) :
    EndlessCopy v := by
  by_cases hlist : v = .circularList
  · rw [hlist]
    exact .circularList
  by_cases hobject : v = .circularObject
  · rw [hobject]
    exact .circularObject
  rw [copyFault?_eq hlist hobject] at h
  rcases Option.or_eq_some_iff.mp h with h | ⟨-, h⟩
  · obtain ⟨before, part, after, hparts, hfault, hbefore⟩ := List.findSome?_eq_some_iff.mp h
    have hmem : part ∈ copyParts v := by
      rw [hparts]
      exact List.mem_append_right _ List.mem_cons_self
    have hsize := sizeOf_lt_of_mem_copyParts hmem
    exact .part v before part after hparts hbefore (endlessCopy_of_copyFault? part hfault)
  · cases eq_notCopyable_of_refusal? h
termination_by sizeOf v

/-- **The copies that never end** are those that come to a value which contains itself before they
come to one that is refused. -/
theorem copyFault?_eq_endless_iff {v : Value} : copyFault? v = some .endless ↔ EndlessCopy v := by
  refine ⟨endlessCopy_of_copyFault? v, fun h => ?_⟩
  induction h with
  | circularList => rfl
  | circularObject => rfl
  | part v before part after hparts hbefore _ ih =>
      have hfound : (copyParts v).findSome? copyFault? = some .endless :=
        List.findSome?_eq_some_iff.mpr ⟨before, part, after, hparts, ih, hbefore⟩
      have hlist : v ≠ .circularList := by
        rintro rfl
        cases hfound
      have hobject : v ≠ .circularObject := by
        rintro rfl
        cases hfound
      rw [copyFault?_eq hlist hobject, hfound]
      rfl

end Json

end EventEnvelope
