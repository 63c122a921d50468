import FilterQuery.Proofs.Text.Case

/-!
# Lower case of a part of a text

A text is put in lower case part by part, each part beside the rest of the text (`lowercaseIn`). The
rest matters to a sigma only. It is final if a cased character comes before it and none after it,
and characters such as marks are passed over, so its neighbours may lie outside the part. A sigma is
settled (`Settled`) if no text around the part can change it. The lower case of a part is therefore
a part of the lower case of every text around it exactly if all its sigmas are settled
(`lowercase_infix_iff`).
-/

namespace FilterQuery.Text

/-! ### Contexts -/

/-- Whether a sigma with these characters before it, nearest first, and these after it is final. -/
def endsWord (before after : List Char) : Bool :=
  meetsCased before && !meetsCased after

/-- The two small forms of a sigma. -/
def smallSigma (final : Bool) : Char :=
  if final then 'ς' else 'σ'

/-- The lower case of a part of a text, where `before` holds the characters ahead of it, nearest
first, and `after` those behind it. -/
def lowercaseIn (before after : List Char) : (part : List Char) → List Char
  | [] => []
  | c :: part =>
    (if c = 'Σ' then [smallSigma (endsWord before (part ++ after))] else lowercaseChar c) ++
      lowercaseIn (c :: before) after part

variable {before before' after after' part : List Char}

theorem lowercaseFrom_append (before part after : List Char) :
    lowercaseFrom before (part ++ after) =
      lowercaseIn before after part ++ lowercaseFrom (part.reverse ++ before) after := by
  induction part generalizing before with
  | nil => rfl
  | cons c part ih =>
    rw [List.cons_append, lowercaseFrom, lowercaseIn, ih, List.reverse_cons, List.append_assoc,
      List.append_assoc]
    rfl

theorem lowercase_eq_lowercaseIn (cs : List Char) : lowercase cs = lowercaseIn [] [] cs := by
  have h := lowercaseFrom_append [] cs []
  rwa [List.append_nil, lowercaseFrom, List.append_nil] at h

theorem lowercaseIn_append (before after xs ys : List Char) :
    lowercaseIn before after (xs ++ ys) =
      lowercaseIn before (ys ++ after) xs ++ lowercaseIn (xs.reverse ++ before) after ys := by
  induction xs generalizing before with
  | nil => rfl
  | cons c xs ih => simp [lowercaseIn, ih]

theorem lowercase_append (before part after : List Char) :
    lowercase (before ++ part ++ after) =
      lowercaseIn [] (part ++ after) before ++ lowercaseIn before.reverse after part ++
        lowercaseIn (part.reverse ++ before.reverse) [] after := by
  simp [lowercase_eq_lowercaseIn, lowercaseIn_append]

/-- Only what is said of its sigmas ties a part to its context. -/
theorem lowercaseIn_congr
    (h : ∀ xs ys, part = xs ++ 'Σ' :: ys →
      endsWord (xs.reverse ++ before) (ys ++ after) =
        endsWord (xs.reverse ++ before') (ys ++ after')) :
    lowercaseIn before after part = lowercaseIn before' after' part := by
  induction part generalizing before before' with
  | nil => rfl
  | cons c part ih =>
    have htail : lowercaseIn (c :: before) after part = lowercaseIn (c :: before') after' part :=
      ih fun xs ys hpart => by simpa using h (c :: xs) ys (by rw [hpart]; rfl)
    rw [lowercaseIn, lowercaseIn, htail]
    split
    · next hsigma =>
      have hhead := h [] part (by rw [hsigma]; rfl)
      rw [List.reverse_nil, List.nil_append, List.nil_append] at hhead
      rw [hhead]
    · rfl

/-! ### Settled sigmas -/

/-- The first character that is not passed over. -/
def neighbour? (cs : List Char) : Option Char :=
  (cs.dropWhile isCaseIgnorable).head?

/-- A sigma with these characters around it has all the neighbours that it depends on: one before it
that is not cased, or one after it that is cased, or one on either side. -/
def Settled (before after : List Char) : Prop :=
  (neighbour? before).any (!isCased ·) = true ∨ (neighbour? after).any isCased = true ∨
    (neighbour? before).isSome = true ∧ (neighbour? after).isSome = true

instance (before after : List Char) : Decidable (Settled before after) :=
  inferInstanceAs (Decidable (_ ∨ _ ∨ _))

/-- All sigmas of a text are settled. -/
def SigmasSettled (cs : List Char) : Prop :=
  ∀ xs ys, cs = xs ++ 'Σ' :: ys → Settled xs.reverse ys

theorem sigmasSettled_iff {cs : List Char} :
    SigmasSettled cs ↔
      ∀ i < cs.length, cs[i]? = some 'Σ' → Settled (cs.take i).reverse (cs.drop (i + 1)) := by
  constructor
  · intro h i hi hsigma
    apply h
    obtain ⟨_, hget⟩ := List.getElem?_eq_some_iff.mp hsigma
    rw [← hget, List.getElem_cons_drop, List.take_append_drop]
  · rintro h xs ys rfl
    simpa using h xs.length (by simp) (by simp)

instance (cs : List Char) : Decidable (SigmasSettled cs) :=
  decidable_of_iff' _ sigmasSettled_iff

theorem meetsCased_eq (cs : List Char) : meetsCased cs = (neighbour? cs).any isCased := by
  rw [meetsCased, neighbour?]
  cases cs.dropWhile isCaseIgnorable <;> rfl

theorem neighbour?_append (cs ds : List Char) :
    neighbour? (cs ++ ds) = (neighbour? cs).or (neighbour? ds) := by
  rw [neighbour?, neighbour?, List.dropWhile_append]
  split
  · next h => rw [List.isEmpty_iff.mp h]; rfl
  · next h =>
    obtain ⟨c, rest, hrest⟩ := List.exists_cons_of_ne_nil (mt List.isEmpty_iff.mpr h)
    rw [hrest]
    rfl

theorem Settled.endsWord_append (h : Settled before after) (before' after' : List Char) :
    endsWord (before ++ before') (after ++ after') = endsWord before after := by
  simp only [endsWord, meetsCased_eq, neighbour?_append]
  rcases h with h | h | ⟨hbefore, hafter⟩
  · obtain ⟨c, hc, huncased⟩ := (Option.any_eq_true _ _).mp h
    rw [Bool.not_eq_true'] at huncased
    simp [hc, huncased]
  · obtain ⟨c, hc, hcased⟩ := (Option.any_eq_true _ _).mp h
    simp [hc, hcased]
  · obtain ⟨b, hb⟩ := Option.isSome_iff_exists.mp hbefore
    obtain ⟨a, ha⟩ := Option.isSome_iff_exists.mp hafter
    simp [hb, ha]

theorem SigmasSettled.lowercaseIn_eq (h : SigmasSettled part) (before after : List Char) :
    lowercaseIn before after part = lowercase part := by
  rw [lowercase_eq_lowercaseIn]
  apply lowercaseIn_congr
  intro xs ys hpart
  rw [(h xs ys hpart).endsWord_append, List.append_nil, List.append_nil]

/-! ### Sigmas that a context changes -/

/-- To change a sigma, any letter will do that is cased and not passed over. -/
theorem neighbour?_letter : neighbour? ['a'] = some 'a' ∧ isCased 'a' = true := by
  decide +kernel

/-- A letter at the end makes no sigma final. -/
theorem endsWord_of_append_letter (h : endsWord before (after ++ ['a']) = true) :
    endsWord before after = true := by
  simp only [endsWord, meetsCased_eq, neighbour?_append] at h ⊢
  cases hafter : neighbour? after <;> simp_all

/-- A letter at the front makes no final sigma another one. -/
theorem endsWord_append_letter (h : endsWord (before ++ ['a']) after = false) :
    endsWord before after = false := by
  simp only [endsWord, meetsCased_eq, neighbour?_append, neighbour?_letter] at h ⊢
  cases hbefore : neighbour? before <;> simp_all

/-- Where each sigma of one form has it in another context too, that context has as many of them. -/
theorem count_lowercaseIn_le {final : Bool}
    (h : ∀ xs ys, endsWord (xs ++ before) (ys ++ after) = final →
      endsWord (xs ++ before') (ys ++ after') = final) :
    (lowercaseIn before after part).count (smallSigma final) ≤
      (lowercaseIn before' after' part).count (smallSigma final) := by
  induction part generalizing before before' with
  | nil => exact Nat.le_refl _
  | cons c part ih =>
    rw [lowercaseIn, lowercaseIn, List.count_append, List.count_append]
    refine Nat.add_le_add ?_ (ih fun xs ys => by simpa using h (xs ++ [c]) ys)
    split
    · rw [List.count_singleton, List.count_singleton]
      have hhead := h [] part
      grind [smallSigma]
    · exact Nat.le_refl _

/-- And if there is a sigma that has the form in the other context only, that has more of them. -/
theorem count_lowercaseIn_lt {final : Bool} {xs ys : List Char}
    (h : ∀ xs ys, endsWord (xs ++ before) (ys ++ after) = final →
      endsWord (xs ++ before') (ys ++ after') = final)
    (hnot : endsWord (xs.reverse ++ before) (ys ++ after) ≠ final)
    (hthen : endsWord (xs.reverse ++ before') (ys ++ after') = final) :
    (lowercaseIn before after (xs ++ 'Σ' :: ys)).count (smallSigma final) <
      (lowercaseIn before' after' (xs ++ 'Σ' :: ys)).count (smallSigma final) := by
  have hxs : (lowercaseIn before ('Σ' :: ys ++ after) xs).count (smallSigma final) ≤
      (lowercaseIn before' ('Σ' :: ys ++ after') xs).count (smallSigma final) :=
    count_lowercaseIn_le fun us vs => by simpa using h us (vs ++ 'Σ' :: ys)
  have hys :
      (lowercaseIn ('Σ' :: (xs.reverse ++ before)) after ys).count (smallSigma final) ≤
        (lowercaseIn ('Σ' :: (xs.reverse ++ before')) after' ys).count (smallSigma final) :=
    count_lowercaseIn_le fun us vs => by simpa using h (us ++ 'Σ' :: xs.reverse) vs
  have hsigma : [smallSigma (endsWord (xs.reverse ++ before) (ys ++ after))].count
      (smallSigma final) = 0 := by
    rw [Bool.eq_not_of_ne hnot]
    cases final <;> decide
  rw [lowercaseIn_append, lowercaseIn_append, lowercaseIn, lowercaseIn, if_pos rfl, if_pos rfl,
    hthen]
  simp only [List.count_append, hsigma, List.count_singleton_self]
  omega

/-- A sigma that is not settled either lacks a neighbour after it and is final, or lacks a neighbour
before it and can become final. -/
theorem not_settled_iff :
    ¬ Settled before after ↔
      (meetsCased before = true ∧ neighbour? after = none) ∨
        (neighbour? before = none ∧ meetsCased after = false) := by
  rw [Settled, meetsCased_eq, meetsCased_eq]
  cases neighbour? before <;> cases neighbour? after <;> simp

theorem lowercase_append_letter (part : List Char) :
    lowercase (part ++ ['a']) = lowercaseIn [] ['a'] part ++ ['a'] := by
  rw [lowercase_eq_lowercaseIn, lowercaseIn_append]
  rfl

theorem lowercase_letter_cons (part : List Char) :
    lowercase ('a' :: part) = 'a' :: lowercaseIn ['a'] [] part := by
  rw [lowercase_eq_lowercaseIn]
  rfl

theorem not_infix_of_count_lt {c : Char} {cs ds : List Char} (h : ds.count c < cs.count c) :
    ¬ cs <:+: ds :=
  fun hwithin => absurd (hwithin.sublist.count_le c) (Nat.not_le.mpr h)

/-- A sigma that is not settled changes beside a letter, on the side where it has no neighbour. All
other sigmas that change there change in the same way, so that the text has too few of one form. -/
theorem exists_text_of_not_settled {xs ys : List Char} (h : ¬ Settled xs.reverse ys) :
    ∃ text, xs ++ 'Σ' :: ys <:+: text ∧
      ¬ lowercase (xs ++ 'Σ' :: ys) <:+: lowercase text := by
  rcases not_settled_iff.mp h with ⟨hbefore, hafter⟩ | ⟨hbefore, hafter⟩
  · refine ⟨xs ++ 'Σ' :: ys ++ ['a'], (List.prefix_append _ _).isInfix, ?_⟩
    have hfinal : endsWord (xs.reverse ++ []) (ys ++ []) = true := by
      simp [endsWord, hbefore, meetsCased_eq ys, hafter]
    have hchanged : endsWord (xs.reverse ++ []) (ys ++ ['a']) ≠ true := by
      simp [endsWord, meetsCased_eq, neighbour?_append, hafter, neighbour?_letter]
    have hcount := count_lowercaseIn_lt
      (fun us vs hus => by simpa using endsWord_of_append_letter hus) hchanged hfinal
    apply not_infix_of_count_lt (c := smallSigma true)
    rw [lowercase_append_letter, List.count_append, lowercase_eq_lowercaseIn]
    exact hcount
  · refine ⟨'a' :: (xs ++ 'Σ' :: ys), (List.suffix_cons _ _).isInfix, ?_⟩
    have hfinal : endsWord (xs.reverse ++ []) (ys ++ []) = false := by
      simp [endsWord, hafter, meetsCased_eq xs.reverse, hbefore]
    have hchanged : endsWord (xs.reverse ++ ['a']) (ys ++ []) ≠ false := by
      simp [endsWord, hafter, meetsCased_eq (_ ++ _), neighbour?_append, hbefore,
        neighbour?_letter]
    have hcount := count_lowercaseIn_lt
      (fun us vs hus => by simpa using endsWord_append_letter hus) hchanged hfinal
    apply not_infix_of_count_lt (c := smallSigma false)
    rw [lowercase_letter_cons, lowercase_eq_lowercaseIn, List.count_cons_of_ne (by decide)]
    exact hcount

/-- **The lower case of a part is a part of the lower case, if all sigmas are settled**, and only
then if every text around the part is to be met. -/
theorem lowercase_infix_iff :
    (∀ text, part <:+: text → lowercase part <:+: lowercase text) ↔ SigmasSettled part := by
  constructor
  · rintro h xs ys rfl
    refine Decidable.byContradiction fun hsettled => ?_
    obtain ⟨text, hwithin, hnot⟩ := exists_text_of_not_settled hsettled
    exact hnot (h text hwithin)
  · rintro hsettled _ ⟨before, after, rfl⟩
    rw [lowercase_append, hsettled.lowercaseIn_eq]
    exact List.infix_append _ _ _

/-- The sigma at the end of a word is settled by the blank behind it, if there is one. -/
example : ¬ SigmasSettled "ΟΔΟΣ".toList ∧ SigmasSettled "ΟΔΟΣ ΜΟΥ".toList := by
  decide +kernel

end FilterQuery.Text
