import FilterQuery.FilterError
import FilterQuery.Request.Basic

/-!
# Overrides

A field can be taken out of the hands of the engine: every condition on it is then built by a
function of the caller's. The fields of a registry are pairwise distinct.
-/

namespace FilterQuery

/-- A field with the function that builds its conditions. -/
structure Override (F : Type) where
  field : String
  build : Param → Except FilterError F

/-- Overrides of pairwise distinct fields. -/
structure Overrides (F : Type) where
  entries : List (Override F) := []
  nodup : (entries.map (·.field)).Nodup := by exact List.nodup_nil

namespace Overrides

variable {F : Type}

instance : Inhabited (Overrides F) := ⟨{}⟩

/-- The override of a field. -/
def get? (o : Overrides F) (field : String) : Option (Override F) :=
  o.entries.find? (·.field == field)

/-- The fields in the order of registration. -/
def fields (o : Overrides F) : List String :=
  o.entries.map (·.field)

/-- The number of overrides. -/
def size (o : Overrides F) : Nat :=
  o.entries.length

/-- The registry with one more override, whose field must be new. -/
def insert (o : Overrides F) (new : Override F) : Except FilterError (Overrides F) :=
  if h : new.field ∈ o.fields then .error (.duplicateOverride new.field)
  else .ok
    { entries := o.entries ++ [new]
      nodup := by
        rw [List.map_append, List.nodup_append]
        refine ⟨o.nodup, by simp, ?_⟩
        intro a ha b hb
        have : b = new.field := by simpa using hb
        rintro rfl
        exact h (this ▸ ha) }

/-- The registry of a list of overrides. The first override of a field that has one already is
reported. -/
def ofList (overrides : List (Override F)) : Except FilterError (Overrides F) :=
  overrides.foldlM insert {}

end Overrides

end FilterQuery
