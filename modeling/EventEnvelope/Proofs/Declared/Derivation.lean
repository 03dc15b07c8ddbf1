/-
  EventEnvelope.Proofs.Declared.Derivation
  ────────────────────────────────────────
  **Classes derived from event classes.**

  The family of a class is computed by going down from the class to what it is derived from.  Seen
  from the other end, a family has all the classes that are built upon its event class, in any
  number of steps.  The two views agree, so a class belongs to one family at most, and which one it
  is does not depend on the order in which the families are tried.

    • `ClassObject.IsBaseOf`                — a class and all that is derived from it,
    • `ClassObject.family?_eq_some_iff`     — the family of a class, seen from its event class,
    • `ClassObject.find?_isBaseOf`          — the first family that fits is the only one,
    • `DeclaredType.BelongsTo`              — the same for the class behind a declared type.
-/
import EventEnvelope.Declared.Type

namespace EventEnvelope

/-! ## §1. Classes. -/

namespace ClassObject

/-- The second class is the first one, or derived from it by any number of steps. -/
inductive IsBaseOf (base : ClassObject) : ClassObject → Prop
  | refl : IsBaseOf base base
  | derived (cls : ClassObject) (h : IsBaseOf base cls) : IsBaseOf base (.derived cls)

/-- **A class has the family of the event class that it is derived from.** -/
theorem family?_eq_some_iff {cls : ClassObject} {family : EventFamily} :
    cls.family? = some family ↔ (event family).IsBaseOf cls := by
  constructor
  · intro h
    induction cls with
    | event other =>
        cases h
        exact .refl
    | known other => cases h
    | derived base ih => exact .derived base (ih h)
  · intro h
    induction h with
    | refl => rfl
    | derived cls _ ih => exact ih

instance (family : EventFamily) (cls : ClassObject) : Decidable ((event family).IsBaseOf cls) :=
  decidable_of_iff (cls.family? = some family) family?_eq_some_iff

/-- **Trying the families in turn finds the family of a class**, if it has one: an event class that
it is derived from is the only one. -/
theorem find?_isBaseOf (cls : ClassObject) :
    (EventFamily.all.find? fun family => (event family).IsBaseOf cls) = cls.family? := by
  have hall : ∀ family, family ∈ EventFamily.all := by
    intro family
    cases family <;> decide
  cases hfamily : cls.family? with
  | none =>
      refine List.find?_eq_none.mpr fun family _ hbase => ?_
      rw [decide_eq_true_eq, ← family?_eq_some_iff, hfamily] at hbase
      cases hbase
  | some family =>
      cases hfound : EventFamily.all.find? fun family => (event family).IsBaseOf cls with
      | none =>
          have hno := List.find?_eq_none.mp hfound family (hall family)
          rw [decide_eq_true_eq, ← family?_eq_some_iff, hfamily] at hno
          exact absurd rfl hno
      | some other =>
          have hbase := List.find?_some hfound
          rw [decide_eq_true_eq, ← family?_eq_some_iff, hfamily] at hbase
          exact hbase.symm

end ClassObject

/-! ## §2. Declared types. -/

namespace DeclaredType

/-- The class behind the type is the family's event class or derived from it. -/
def BelongsTo (t : DeclaredType) (family : EventFamily) : Prop :=
  ∃ cls, t.rawClass? = some cls ∧ (ClassObject.event family).IsBaseOf cls

theorem family?_eq_some_iff {t : DeclaredType} {family : EventFamily} :
    t.family? = some family ↔ t.BelongsTo family := by
  unfold family? BelongsTo
  rw [Option.bind_eq_some_iff]
  exact exists_congr fun cls => and_congr_right fun _ => ClassObject.family?_eq_some_iff

end DeclaredType

end EventEnvelope
