import FilterQuery.Proofs.Engine.Requests
import FilterQuery.Proofs.Engine.Simulation

/-!
# What every fragment has in common

A property of fragments that a backend keeps when it makes one of a condition or of other fragments
(`Backend.Keeps`) is a property of every filter that is planned without overrides, at any depth of
nesting (`Keeps.filter`). A backend that keeps a property simulates itself with it
(`Keeps.simulation`), so the induction over groups in groups is the one for two backends.
-/

namespace FilterQuery

variable {F : Type}

/-- The fragments that a backend makes have a property: those of what parameters ask for, and those
of fragments that have it. -/
structure Backend.Keeps (b : Backend F) (I : F → Prop) : Prop where
  everything : I b.everything
  conjunction {fs : List F} : (∀ f ∈ fs, I f) → I (b.conjunction fs)
  disjunction {fs : List F} : (∀ f ∈ fs, I f) → I (b.disjunction fs)
  condition {operation : SearchOperation} {p : Param} {c : Condition} {f : F} :
    Condition.ofParam operation p = .ok c → b.condition c = .ok f → I f
  nested {field : String} {operation : NestedOperation} {subquery f : F} : I subquery →
    b.nested field operation subquery = .ok f → I f

namespace Backend.Keeps

variable {b : Backend F} {I : F → Prop}

/-- Two fragments that are one and the same, and have the property. -/
def Both (I : F → Prop) (f g : F) : Prop :=
  I f ∧ f = g

theorem forall₂_both {fs gs : List F} :
    List.Forall₂ (Both I) fs gs ↔ (∀ f ∈ fs, I f) ∧ fs = gs := by
  rw [← List.forall₂_eq_eq_eq]
  exact List.forall₂_and_left fs gs

theorem alike_self {x : Except FilterError F} (h : ∀ f, x = .ok f → I f) :
    Alike Eq (Both I) x x := by
  cases x with
  | ok f => exact .ok ⟨h f rfl, rfl⟩
  | error e => exact .error rfl

theorem simulation (h : b.Keeps I) (config : Config) :
    Simulation b b config (Both I) (fun _ => True) where
  everything := ⟨h.everything, rfl⟩
  conjunction hfg := by
    obtain ⟨hfs, rfl⟩ := forall₂_both.mp hfg
    exact ⟨h.conjunction hfs, rfl⟩
  disjunction hfg := by
    obtain ⟨hfs, rfl⟩ := forall₂_both.mp hfg
    exact ⟨h.disjunction hfs, rfl⟩
  search _ _ _ := by
    apply alike_self
    intro f hf
    obtain ⟨c, hc, hf⟩ := bind_eq_ok.mp hf
    exact h.condition hc hf
  nested _ _ _ _ hfg := by
    obtain ⟨hf, rfl⟩ := hfg
    exact alike_self fun f hnested => h.nested hf hnested
  inner _ _ _ _ _ _ _ := trivial

/-- **Every filter has the properties that its backend keeps.** -/
theorem filter (h : b.Keeps I) {config : Config} {r : Request} {f : F}
    (hf : (Engine.plain b config).filter r = .ok f) : I f := by
  rw [Engine.filter_eq_filterGroups] at hf
  have hall : ∀ g ∈ r.toGrouped.groups, ∀ p ∈ g.params, True := fun _ _ _ _ => trivial
  have halike := (h.simulation config).alike_filterGroups hall r.toGrouped.glue
  exact (halike.of_eq_ok hf hf).1

end Backend.Keeps

end FilterQuery
