import FilterQuery.Engine
import FilterQuery.Proofs.Engine.Outcome

/-!
# Two backends, one request

Planning asks a backend for little: fragments of conditions, of subqueries and of several fragments
together. If two backends answer each of these alike (`Simulation`), they answer whole requests
alike: both refuse with one error, or both plan, and the fragments are related
(`alike_filterGroups`).

What "related" means is left open. So is the class of parameters at issue: it must only be closed
under going into the group of a nested parameter.
-/

namespace FilterQuery

variable {F G : Type}

/-- The engine of a backend without overrides. -/
def Engine.plain (b : Backend F) (config : Config) : Engine F :=
  { backend := b, config }

/-- Two backends answer alike on the parameters of a class: the fragments that they make of related
fragments are related. -/
structure Simulation (b : Backend F) (c : Backend G) (config : Config) (R : F → G → Prop)
    (P : Param → Prop) : Prop where
  everything : R b.everything c.everything
  conjunction {fs gs} : List.Forall₂ R fs gs → R (b.conjunction fs) (c.conjunction gs)
  disjunction {fs gs} : List.Forall₂ R fs gs → R (b.disjunction fs) (c.disjunction gs)
  search {p operation} : P p → config.stripMarker? p.code = none →
    Operation.ofCode? p.code = some (.search operation) →
    Alike Eq R (b.search operation p) (c.search operation p)
  nested {p code operation f g} : P p → p.paging? = none →
    config.stripMarker? p.code = some code → NestedOperation.ofCode code = .ok operation →
    R f g → Alike Eq R (b.nested p.name operation f) (c.nested p.name operation g)
  /-- The class is closed under going into groups. -/
  inner {p code operation group} : P p → p.paging? = none →
    config.stripMarker? p.code = some code → NestedOperation.ofCode code = .ok operation →
    Engine.nestedGroup operation p = .ok group → ∀ q ∈ group.params, P q

namespace Simulation

variable {b : Backend F} {c : Backend G} {config : Config} {R : F → G → Prop}
  {P : Param → Prop}

theorem combine (h : Simulation b c config R P) (glue : Glue) {fs : List F} {gs : List G}
    (hfg : List.Forall₂ R fs gs) : R (b.combine glue fs) (c.combine glue gs) := by
  cases hfg with
  | nil => exact h.everything
  | cons hhead htail =>
    cases htail with
    | nil => exact hhead
    | cons hnext htail =>
      have hall := List.Forall₂.cons hhead (.cons hnext htail)
      cases glue with
      | and => exact h.conjunction hall
      | or => exact h.disjunction hall

/-- What plans the groups inside, if anything may, plans the groups of the class alike. -/
def Inner (R : F → G → Prop) (P : Param → Prop) :
    Option (Group → Except FilterError F) → Option (Group → Except FilterError G) → Prop :=
  Option.Rel fun plan plan' => ∀ g : Group, (∀ p ∈ g.params, P p) → Alike Eq R (plan g) (plan' g)

theorem planNested (h : Simulation b c config R P) {plan : Option (Group → Except FilterError F)}
    {plan' : Option (Group → Except FilterError G)} (hplan : Inner R P plan plan') {p : Param}
    (hp : P p) (hpaging : p.paging? = none) {code : String}
    (hcode : config.stripMarker? p.code = some code) :
    Alike Eq R ((Engine.plain b config).planNested plan p code)
      ((Engine.plain c config).planNested plan' p code) := by
  apply Alike.bind_same fun _ => rfl
  intro operation hoperation
  cases hplan with
  | none => exact .error rfl
  | some hplan =>
    apply Alike.bind_same fun _ => rfl
    intro group hgroup
    apply (hplan group (h.inner hp hpaging hcode hoperation hgroup)).bind
    intro f g hfg
    exact h.nested hp hpaging hcode hoperation hfg

theorem planParam (h : Simulation b c config R P) {plan : Option (Group → Except FilterError F)}
    {plan' : Option (Group → Except FilterError G)} (hplan : Inner R P plan plan') {p : Param}
    (hp : P p) :
    Alike Eq (Option.Rel R) ((Engine.plain b config).planParam plan p)
      ((Engine.plain c config).planParam plan' p) := by
  unfold Engine.planParam
  cases hpaging : p.paging? with
  | some _ => exact .ok .none
  | none =>
    simp only [Engine.plain, Overrides.get?, List.find?_nil, Option.isSome_none, Bool.false_eq_true,
      if_false]
    cases hcode : config.stripMarker? p.code with
    | some code => exact (h.planNested hplan hp hpaging hcode).map fun _ _ => .some
    | none =>
      apply Alike.bind_same fun _ => rfl
      intro operation hoperation
      cases operation with
      | paging operation => exact .ok .none
      | search operation =>
        have hsearch := Operation.ofCode_eq_ok.mp hoperation
        exact (h.search hp hcode hsearch).map fun _ _ => .some

theorem planParams (h : Simulation b c config R P) {plan : Option (Group → Except FilterError F)}
    {plan' : Option (Group → Except FilterError G)} (hplan : Inner R P plan plan') {g : Group}
    (hg : ∀ p ∈ g.params, P p) :
    Alike Eq R ((Engine.plain b config).planParams plan g)
      ((Engine.plain c config).planParams plan' g) := by
  apply (Alike.mapM_same fun p hp => h.planParam hplan (hg p hp)).bind
  intro fs gs hfg
  exact .ok (h.combine g.glue (forall₂_filterMap_id hfg))

theorem planGroup (h : Simulation b c config R P) (levels : Nat) {g : Group}
    (hg : ∀ p ∈ g.params, P p) :
    Alike Eq R ((Engine.plain b config).planGroup levels g)
      ((Engine.plain c config).planGroup levels g) := by
  induction levels generalizing g with
  | zero => exact h.planParams .none hg
  | succ levels ih => exact h.planParams (.some fun g hg => ih hg) hg

/-- **Backends that answer alike plan alike.** -/
theorem alike_filterGroups (h : Simulation b c config R P) {groups : List Group}
    (hgroups : ∀ g ∈ groups, ∀ p ∈ g.params, P p) (glue : Glue) :
    Alike Eq R ((Engine.plain b config).filterGroups groups glue)
      ((Engine.plain c config).filterGroups groups glue) := by
  apply (Alike.mapM_same fun g hg => h.planGroup config.maxNestingDepth (hgroups g hg)).bind
  intro fs gs hfg
  exact .ok (h.combine glue hfg)

end Simulation

end FilterQuery
