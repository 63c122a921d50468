import FilterQuery.Condition

/-!
# Backends

What a storage technology has to offer so that requests can be planned for it: how it expresses a
condition, how it joins fragments, and how it compares a field with a subquery.
-/

namespace FilterQuery

/-- How fragments of type `F` are made. -/
structure Backend (F : Type) where
  condition : Condition → Except FilterError F
  everything : F
  nothing : F
  conjunction : List F → F
  disjunction : List F → F
  /-- The fragment that compares a field with the same field of the rows that a subquery selects. -/
  nested : (field : String) → NestedOperation → (subquery : F) → Except FilterError F

namespace Backend

variable {F : Type}

/-- The fragment that joins several under a glue. -/
def join (b : Backend F) : Glue → List F → F
  | .and, fragments => b.conjunction fragments
  | .or, fragments => b.disjunction fragments

/-- The fragments under one glue: no fragment asks for nothing, and a single one stands for
itself. -/
def combine (b : Backend F) (glue : Glue) : List F → F
  | [] => b.everything
  | [fragment] => fragment
  | fragments => b.join glue fragments

/-- The fragment of a parameter with a searching operation. -/
def search (b : Backend F) (operation : SearchOperation) (p : Param) : Except FilterError F := do
  b.condition (← Condition.ofParam operation p)

end Backend

end FilterQuery
