import Mathlib.Data.List.Forall2

/-!
# Computations that may fail

A list is worked through from the front, and the first failure is the outcome. So a list succeeds if
and only if each element does on its own, and fails with the error of the first that does not
(`exists_mapM_eq_ok`, `mapM_eq_error`). A fold likewise fails with the error of its first step that
fails, and the steps before have led to some state (`foldlM_eq_error_iff`).

Two computations are `Alike` if they succeed together, with related results, and fail together, with
related errors. In a list that is reordered another element may be the first to fail, so there the
errors are not related at all.
-/

namespace FilterQuery

variable {ε ζ α β γ δ : Type}

/-! ### Lists -/

theorem bind_eq_ok {x : Except ε α} {f : α → Except ε β} {b : β} :
    x >>= f = .ok b ↔ ∃ a, x = .ok a ∧ f a = .ok b := by
  cases x with
  | ok a =>
    constructor
    · exact fun h => ⟨a, rfl, h⟩
    · rintro ⟨a, ⟨⟩, h⟩
      exact h
  | error e =>
    constructor
    · exact fun h => nomatch h
    · rintro ⟨a, h, -⟩
      cases h

theorem map_eq_ok {x : Except ε α} {f : α → β} {b : β} :
    x.map f = .ok b ↔ ∃ a, x = .ok a ∧ f a = b := by
  cases x with
  | ok a => simp [Except.map]
  | error e => simp [Except.map]

theorem bind_eq_error {x : Except ε α} {f : α → Except ε β} {e : ε} :
    x >>= f = .error e ↔ x = .error e ∨ ∃ a, x = .ok a ∧ f a = .error e := by
  cases x with
  | ok a =>
    constructor
    · exact fun h => .inr ⟨a, rfl, h⟩
    · rintro (h | ⟨a, ⟨⟩, h⟩)
      · cases h
      · exact h
  | error e' =>
    constructor
    · exact fun h => .inl (congrArg _ (Except.error.inj h))
    · rintro (h | ⟨a, h, -⟩)
      · exact congrArg _ (Except.error.inj h)
      · cases h

theorem map_eq_error {x : Except ε α} {f : α → β} {e : ε} :
    x.map f = .error e ↔ x = .error e := by
  cases x <;> simp [Except.map]

theorem mapError_eq_ok {x : Except ε α} {f : ε → ζ} {a : α} :
    x.mapError f = .ok a ↔ x = .ok a := by
  cases x <;> simp [Except.mapError]

theorem mapM_cons_eq_ok {f : α → Except ε β} {x : α} {xs : List α} {ys : List β} :
    (x :: xs).mapM f = .ok ys ↔
      ∃ b bs, f x = .ok b ∧ xs.mapM f = .ok bs ∧ ys = b :: bs := by
  rw [List.mapM_cons, bind_eq_ok]
  constructor
  · rintro ⟨b, hb, h⟩
    obtain ⟨bs, hbs, h⟩ := bind_eq_ok.mp h
    exact ⟨b, bs, hb, hbs, (Except.ok.inj h).symm⟩
  · rintro ⟨b, bs, hb, hbs, rfl⟩
    exact ⟨b, hb, bind_eq_ok.mpr ⟨bs, hbs, rfl⟩⟩

theorem mapM_cons_eq_error {f : α → Except ε β} {x : α} {xs : List α} {e : ε} :
    (x :: xs).mapM f = .error e ↔
      f x = .error e ∨ (∃ b, f x = .ok b) ∧ xs.mapM f = .error e := by
  have hrest : ∀ b, (xs.mapM f >>= fun bs => .ok (b :: bs)) = .error e ↔
      xs.mapM f = .error e := by
    intro b
    rw [bind_eq_error]
    simp
  rw [List.mapM_cons, bind_eq_error]
  show (f x = .error e ∨
    ∃ b, f x = .ok b ∧ (xs.mapM f >>= fun bs => .ok (b :: bs)) = .error e) ↔ _
  simp only [hrest, exists_and_right]

theorem mapM_append_eq_ok {f : α → Except ε β} {xs xs' : List α} {ys : List β} :
    (xs ++ xs').mapM f = .ok ys ↔
      ∃ bs bs', xs.mapM f = .ok bs ∧ xs'.mapM f = .ok bs' ∧ ys = bs ++ bs' := by
  rw [List.mapM_append, bind_eq_ok]
  constructor
  · rintro ⟨bs, hbs, h⟩
    obtain ⟨bs', hbs', h⟩ := bind_eq_ok.mp h
    exact ⟨bs, bs', hbs, hbs', (Except.ok.inj h).symm⟩
  · rintro ⟨bs, bs', hbs, hbs', rfl⟩
    exact ⟨bs, hbs, bind_eq_ok.mpr ⟨bs', hbs', rfl⟩⟩

theorem mapM_congr {f g : α → Except ε β} {xs : List α} (h : ∀ x ∈ xs, f x = g x) :
    xs.mapM f = xs.mapM g := by
  induction xs with
  | nil => rfl
  | cons x xs ih =>
    obtain ⟨hx, hxs⟩ := List.forall_mem_cons.mp h
    rw [List.mapM_cons, List.mapM_cons, hx, ih hxs]

/-- A list of lists that is worked through as one fails where the first of its lists does. -/
theorem mapM_flatMap (f : β → Except ε γ) (parts : α → List β) (xs : List α) :
    (xs.flatMap parts).mapM f = (xs.mapM fun x => (parts x).mapM f).map List.flatten := by
  induction xs with
  | nil => rfl
  | cons x xs ih =>
    rw [List.flatMap_cons, List.mapM_append, List.mapM_cons, ih]
    cases (parts x).mapM f with
    | error e => rfl
    | ok cs => cases xs.mapM fun x => (parts x).mapM f <;> rfl

theorem mapM_map_each (f : α → Except ε β) (k : β → γ) (xs : List α) :
    xs.mapM (fun x => (f x).map k) = (xs.mapM f).map (List.map k) := by
  induction xs with
  | nil => rfl
  | cons x xs ih =>
    rw [List.mapM_cons, List.mapM_cons, ih]
    cases f x with
    | error e => rfl
    | ok b => cases xs.mapM f <;> rfl

/-- Results that are put together from the front are so while the list is worked through. -/
theorem mapM_cons_map (f : α → Except ε β) {join : List β → γ} {add : β → γ → γ}
    (hjoin : ∀ b bs, join (b :: bs) = add b (join bs)) (x : α) (xs : List α) :
    ((x :: xs).mapM f).map join = f x >>= fun b => ((xs.mapM f).map join).map (add b) := by
  rw [List.mapM_cons]
  cases f x with
  | error e => rfl
  | ok b =>
    cases xs.mapM f with
    | error e => rfl
    | ok bs => exact congrArg Except.ok (hjoin b bs)

/-- The results of a list are the results of its elements. -/
theorem mem_mapM {f : α → Except ε β} {xs : List α} {ys : List β} (h : xs.mapM f = .ok ys)
    {y : β} : y ∈ ys ↔ ∃ x ∈ xs, f x = .ok y := by
  induction xs generalizing ys with
  | nil =>
    obtain rfl : [] = ys := Except.ok.inj h
    simp
  | cons x xs ih =>
    obtain ⟨b, bs, hb, hbs, rfl⟩ := mapM_cons_eq_ok.mp h
    rw [List.mem_cons, ih hbs]
    simp [hb, eq_comm]

/-- A list succeeds with a result for each element, in order. -/
theorem mapM_eq_ok {f : α → Except ε β} {xs : List α} {ys : List β} :
    xs.mapM f = .ok ys ↔ List.Forall₂ (fun x y => f x = .ok y) xs ys := by
  induction xs generalizing ys with
  | nil =>
    rw [List.forall₂_nil_left_iff]
    constructor
    · exact fun h => (Except.ok.inj h).symm
    · rintro rfl
      rfl
  | cons x xs ih =>
    rw [mapM_cons_eq_ok, List.forall₂_cons_left_iff]
    simp only [ih]

/-- A list succeeds if and only if every element does. -/
theorem exists_mapM_eq_ok {f : α → Except ε β} {xs : List α} :
    (∃ ys, xs.mapM f = .ok ys) ↔ ∀ x ∈ xs, ∃ y, f x = .ok y := by
  induction xs with
  | nil => exact iff_of_true ⟨[], rfl⟩ (by simp)
  | cons x xs ih =>
    rw [List.forall_mem_cons, ← ih]
    constructor
    · rintro ⟨ys, h⟩
      obtain ⟨b, bs, hb, hbs, -⟩ := mapM_cons_eq_ok.mp h
      exact ⟨⟨b, hb⟩, bs, hbs⟩
    · rintro ⟨⟨b, hb⟩, bs, hbs⟩
      exact ⟨b :: bs, mapM_cons_eq_ok.mpr ⟨b, bs, hb, hbs, rfl⟩⟩

/-- What holds of all results holds of all elements, if it passes between them. -/
theorem forall_mem_mapM {f : α → Except ε β} {xs : List α} {ys : List β} (h : xs.mapM f = .ok ys)
    {P : β → Prop} {Q : α → Prop} (hPQ : ∀ x ∈ xs, ∀ y, f x = .ok y → (P y ↔ Q x)) :
    (∀ y ∈ ys, P y) ↔ ∀ x ∈ xs, Q x := by
  constructor
  · intro hP x hx
    obtain ⟨y, hy⟩ := exists_mapM_eq_ok.mp ⟨ys, h⟩ x hx
    exact (hPQ x hx y hy).mp (hP y ((mem_mapM h).mpr ⟨x, hx, hy⟩))
  · intro hQ y hy
    obtain ⟨x, hx, hfx⟩ := (mem_mapM h).mp hy
    exact (hPQ x hx y hfx).mpr (hQ x hx)

/-- A list fails with the error of its first element that fails. -/
theorem mapM_eq_error {f : α → Except ε β} {xs : List α} {e : ε} :
    xs.mapM f = .error e ↔ ∃ before x after, xs = before ++ x :: after ∧
      (∀ y ∈ before, ∃ b, f y = .ok b) ∧ f x = .error e := by
  induction xs with
  | nil =>
    constructor
    · exact fun h => nomatch h
    · rintro ⟨before, x, after, h, -⟩
      simp at h
  | cons y xs ih =>
    rw [mapM_cons_eq_error, ih]
    constructor
    · rintro (hy | ⟨hy, before, x, after, rfl, hbefore, hx⟩)
      · exact ⟨[], y, xs, rfl, by simp, hy⟩
      · exact ⟨y :: before, x, after, rfl, List.forall_mem_cons.mpr ⟨hy, hbefore⟩, hx⟩
    · rintro ⟨before, x, after, h, hbefore, hx⟩
      cases before with
      | nil =>
        obtain ⟨rfl, rfl⟩ := List.cons.inj h
        exact .inl hx
      | cons z before =>
        obtain ⟨rfl, rfl⟩ := List.cons.inj h
        obtain ⟨hz, hbefore⟩ := List.forall_mem_cons.mp hbefore
        exact .inr ⟨hz, before, x, after, rfl, hbefore, hx⟩

/-- A fold fails with the error of its first step that fails. -/
theorem foldlM_eq_error_iff {f : β → α → Except ε β} {xs : List α} {b : β} {e : ε} :
    xs.foldlM f b = .error e ↔ ∃ before x after c, xs = before ++ x :: after ∧
      before.foldlM f b = .ok c ∧ f c x = .error e := by
  induction xs generalizing b with
  | nil =>
    constructor
    · exact fun h => nomatch h
    · rintro ⟨before, x, after, c, h, -⟩
      simp at h
  | cons y xs ih =>
    rw [List.foldlM_cons, bind_eq_error]
    constructor
    · rintro (hy | ⟨c, hc, h⟩)
      · exact ⟨[], y, xs, b, rfl, rfl, hy⟩
      · obtain ⟨before, x, after, d, rfl, hd, hx⟩ := ih.mp h
        exact ⟨y :: before, x, after, d, rfl, bind_eq_ok.mpr ⟨c, hc, hd⟩, hx⟩
    · rintro ⟨before, x, after, d, h, hd, hx⟩
      cases before with
      | nil =>
        obtain ⟨rfl, rfl⟩ := List.cons.inj h
        obtain rfl : b = d := Except.ok.inj hd
        exact .inl hx
      | cons z before =>
        obtain ⟨rfl, rfl⟩ := List.cons.inj h
        obtain ⟨c, hc, hd⟩ := bind_eq_ok.mp hd
        exact .inr ⟨c, hc, ih.mpr ⟨before, x, after, d, rfl, hd, hx⟩⟩

/-- Computations that fail together succeed together. -/
theorem exists_eq_ok_iff {x : Except ε α} {y : Except ε β}
    (h : ∀ e, x = .error e ↔ y = .error e) : (∃ a, x = .ok a) ↔ ∃ b, y = .ok b := by
  cases x with
  | error e =>
    rw [(h e).mp rfl]
    simp
  | ok a =>
    cases y with
    | error e => cases (h e).mpr rfl
    | ok b => simp

/-! ### Two computations -/

/-- Both succeed with related results, or both fail with related errors. -/
inductive Alike (E : ε → ζ → Prop) (R : α → β → Prop) : Except ε α → Except ζ β → Prop
  | ok {a : α} {b : β} : R a b → Alike E R (.ok a) (.ok b)
  | error {e : ε} {f : ζ} : E e f → Alike E R (.error e) (.error f)

namespace Alike

variable {E : ε → ζ → Prop} {R : α → β → Prop} {S : γ → δ → Prop}

theorem of_eq_ok {x : Except ε α} {y : Except ζ β} {a : α} {b : β} (h : Alike E R x y)
    (hx : x = .ok a) (hy : y = .ok b) : R a b := by
  cases h with
  | ok h =>
    obtain rfl := Except.ok.inj hx
    obtain rfl := Except.ok.inj hy
    exact h
  | error _ => cases hx

theorem imp {T : α → β → Prop} {x : Except ε α} {y : Except ζ β} (h : Alike E R x y)
    (hRT : ∀ a b, R a b → T a b) : Alike E T x y := by
  cases h with
  | ok h => exact .ok (hRT _ _ h)
  | error h => exact .error h

theorem refl {E : ε → ε → Prop} {R : α → α → Prop} (hE : ∀ e, E e e) (hR : ∀ a, R a a)
    (x : Except ε α) : Alike E R x x := by
  cases x with
  | ok a => exact .ok (hR a)
  | error e => exact .error (hE e)

theorem bind {x : Except ε α} {y : Except ζ β} {f : α → Except ε γ} {g : β → Except ζ δ}
    (h : Alike E R x y) (hfg : ∀ a b, R a b → Alike E S (f a) (g b)) :
    Alike E S (x >>= f) (y >>= g) := by
  cases h with
  | ok h => exact hfg _ _ h
  | error h => exact .error h

theorem bind_same {E : ε → ε → Prop} (hE : ∀ e, E e e) {x : Except ε α} {f : α → Except ε γ}
    {g : α → Except ε δ} (hfg : ∀ a, x = .ok a → Alike E S (f a) (g a)) :
    Alike E S (x >>= f) (x >>= g) := by
  cases x with
  | ok a => exact hfg a rfl
  | error e => exact .error (hE e)

theorem map {x : Except ε α} {y : Except ζ β} {f : α → γ} {g : β → δ} (h : Alike E R x y)
    (hfg : ∀ a b, R a b → S (f a) (g b)) : Alike E S (x.map f) (y.map g) := by
  cases h with
  | ok h => exact .ok (hfg _ _ h)
  | error h => exact .error h

/-- Lists that are related place by place are worked through alike. -/
theorem mapM {T : γ → δ → Prop} {xs : List γ} {ys : List δ} {f : γ → Except ε α}
    {g : δ → Except ζ β} (hxs : List.Forall₂ T xs ys)
    (hfg : ∀ x ∈ xs, ∀ y, T x y → Alike E R (f x) (g y)) :
    Alike E (List.Forall₂ R) (xs.mapM f) (ys.mapM g) := by
  induction hxs with
  | nil => exact .ok .nil
  | @cons x y xs ys hxy _ ih =>
    have htail := ih fun z hz => hfg z (by simp [hz])
    rw [List.mapM_cons, List.mapM_cons]
    apply (hfg x (by simp) y hxy).bind
    intro a b hab
    apply htail.bind
    intro as bs habs
    exact .ok (.cons hab habs)

theorem mapM_same {xs : List γ} {f : γ → Except ε α} {g : γ → Except ζ β}
    (hfg : ∀ x ∈ xs, Alike E R (f x) (g x)) :
    Alike E (List.Forall₂ R) (xs.mapM f) (xs.mapM g) := by
  have hxs : List.Forall₂ Eq xs xs := List.forall₂_refl xs
  apply mapM hxs
  rintro x hx _ rfl
  exact hfg x hx

end Alike

/-- Both succeed with related results, or both fail. -/
abbrev BothOrNeither (R : α → β → Prop) : Except ε α → Except ζ β → Prop :=
  Alike (fun _ _ => True) R

theorem BothOrNeither.trans {R : α → β → Prop} {S : β → γ → Prop} {x y z}
    (h : BothOrNeither R (x : Except ε α) (y : Except ε β))
    (h' : BothOrNeither S y (z : Except ε γ)) :
    BothOrNeither (fun a c => ∃ b, R a b ∧ S b c) x z := by
  cases h with
  | ok h =>
    cases h' with
    | ok h' => exact .ok ⟨_, h, h'⟩
  | error _ =>
    cases h' with
    | error _ => exact .error trivial

/-- A list in another order has its results in another order; another error may come first. -/
theorem bothOrNeither_mapM_perm {f : α → Except ε β} {xs ys : List α} (h : xs.Perm ys) :
    BothOrNeither List.Perm (xs.mapM f) (ys.mapM f) := by
  induction h with
  | nil => exact .ok .nil
  | cons x _ ih =>
    rw [List.mapM_cons, List.mapM_cons]
    apply Alike.bind_same fun _ => trivial
    intro b _
    apply ih.bind
    intro bs cs hperm
    exact .ok (hperm.cons b)
  | swap x y xs =>
    rw [List.mapM_cons, List.mapM_cons, List.mapM_cons, List.mapM_cons]
    cases f x with
    | error e => cases f y <;> exact .error trivial
    | ok b =>
      cases f y with
      | error e => exact .error trivial
      | ok c =>
        cases xs.mapM f with
        | error e => exact .error trivial
        | ok bs => exact .ok (.swap b c bs)
  | trans _ _ ih ih' =>
    apply (ih.trans ih').imp
    rintro bs ds ⟨cs, hbc, hcd⟩
    exact hbc.trans hcd

/-- Lists of optional values, related place by place, are related without the gaps. -/
theorem forall₂_filterMap_id {R : α → β → Prop} {as : List (Option α)} {bs : List (Option β)}
    (h : List.Forall₂ (Option.Rel R) as bs) :
    List.Forall₂ R (as.filterMap id) (bs.filterMap id) := by
  induction h with
  | nil => exact .nil
  | cons hab _ ih =>
    cases hab with
    | some hab => exact .cons hab ih
    | none => exact ih

end FilterQuery
