import FilterQuery.Text.Folding
import FilterQuery.Text.Lowercase

/-!
# Case in ASCII text, and signs

Lower case and case folding are tables of Unicode, but in ASCII both are the mapping of `A` to `Z`
(`lowercase_of_isAscii`, `fold_of_isAscii`), which keeps a text in ASCII and changes nothing the
second time. Beyond ASCII, every run of either table ends up among the letters. So a sign such as a
wildcard is the lower case of no other character (`Caseless.mem_lowercaseChar_iff`), and only a line
break folds to a line break (`fold_eq_newline_iff`).
-/

namespace FilterQuery.Text

/-- The characters count as the same letter. -/
def SameLetter (c d : Char) : Prop :=
  fold c = fold d

instance (c d : Char) : Decidable (SameLetter c d) :=
  inferInstanceAs (Decidable (fold c = fold d))

/-! ### ASCII -/

def IsAscii (cs : List Char) : Prop :=
  ∀ c ∈ cs, c.toNat < 0x80

instance (cs : List Char) : Decidable (IsAscii cs) :=
  List.decidableBAll _ cs

/-- What holds of the first 128 characters holds of an ASCII character. -/
theorem forall_ascii {P : Char → Prop} (h : ∀ n < 0x80, P (Char.ofNat n)) {c : Char}
    (hc : c.toNat < 0x80) : P c := by
  have hP := h c.toNat hc
  rwa [Char.ofNat_toNat] at hP

theorem toNat_toLower_lt {c : Char} (hc : c.toNat < 0x80) : c.toLower.toNat < 0x80 :=
  forall_ascii (P := fun c => c.toLower.toNat < 0x80) (by decide) hc

theorem toLower_toLower {c : Char} (hc : c.toNat < 0x80) : c.toLower.toLower = c.toLower :=
  forall_ascii (P := fun c => c.toLower.toLower = c.toLower) (by decide) hc

theorem fold_of_isAscii {c : Char} (hc : c.toNat < 0x80) : fold c = c.toLower :=
  if_pos hc

theorem lowercaseFrom_of_isAscii (before : List Char) {cs : List Char} (hcs : IsAscii cs) :
    lowercaseFrom before cs = cs.map Char.toLower := by
  induction cs generalizing before with
  | nil => rfl
  | cons c cs ih =>
    obtain ⟨hc, hcs⟩ := List.forall_mem_cons.mp hcs
    have hsigma : c ≠ 'Σ' := by
      rintro rfl
      exact absurd hc (by decide)
    have hchar : lowercaseChar c = [c.toLower] := if_pos hc
    rw [lowercaseFrom, if_neg hsigma, hchar, ih (c :: before) hcs]
    rfl

theorem lowercase_of_isAscii {cs : List Char} (hcs : IsAscii cs) :
    lowercase cs = cs.map Char.toLower :=
  lowercaseFrom_of_isAscii [] hcs

theorem isAscii_lowercase {cs : List Char} (hcs : IsAscii cs) : IsAscii (lowercase cs) := by
  rw [lowercase_of_isAscii hcs]
  exact List.forall_mem_map.mpr fun c hc => toNat_toLower_lt (hcs c hc)

/-- In ASCII, no other character is the upper case of this one. -/
def Caseless (d : Char) : Prop :=
  ∀ n < 0x80, (Char.ofNat n).toLower = d ↔ Char.ofNat n = d

instance (d : Char) : Decidable (Caseless d) :=
  inferInstanceAs (Decidable (∀ n < 0x80, (Char.ofNat n).toLower = d ↔ Char.ofNat n = d))

theorem Caseless.toLower_eq_iff {c d : Char} (hd : Caseless d) (hc : c.toNat < 0x80) :
    c.toLower = d ↔ c = d :=
  forall_ascii (P := fun c => c.toLower = d ↔ c = d) hd hc

theorem Caseless.mem_lowercase_iff {d : Char} (hd : Caseless d) {cs : List Char}
    (hcs : IsAscii cs) : d ∈ lowercase cs ↔ d ∈ cs := by
  rw [lowercase_of_isAscii hcs, List.mem_map]
  constructor
  · rintro ⟨c, hc, hcd⟩
    exact (hd.toLower_eq_iff (hcs c hc)).mp hcd ▸ hc
  · exact fun h => ⟨d, h, (hd.toLower_eq_iff (hcs d h)).mpr rfl⟩

/-- Lower case does not change a second time. -/
theorem toLower_of_mem_lowercase {cs : List Char} (hcs : IsAscii cs) {c : Char}
    (hc : c ∈ lowercase cs) : c.toLower = c := by
  rw [lowercase_of_isAscii hcs] at hc
  obtain ⟨d, hd, rfl⟩ := List.mem_map.mp hc
  exact toLower_toLower (hcs d hd)

theorem toLower_mem_lowercaseFrom {c : Char} (hc : c.toNat < 0x80) (before : List Char)
    {cs : List Char} (h : c ∈ cs) : c.toLower ∈ lowercaseFrom before cs := by
  induction cs generalizing before with
  | nil => cases h
  | cons d cs ih =>
    rw [lowercaseFrom, List.mem_append]
    rcases List.mem_cons.mp h with rfl | h
    · have hsigma : c ≠ 'Σ' := by
        rintro rfl
        exact absurd hc (by decide)
      have hchar : lowercaseChar c = [c.toLower] := if_pos hc
      exact .inl (by simp [hsigma, hchar])
    · exact .inr (ih (d :: before) h)

/-- Lower case of a text has the lower case of its ASCII characters in it. -/
theorem toLower_mem_lowercase {c : Char} (hc : c.toNat < 0x80) {cs : List Char} (h : c ∈ cs) :
    c.toLower ∈ lowercase cs :=
  toLower_mem_lowercaseFrom hc [] h

/-! ### Signs -/

theorem CaseRun.exists_of_image? {runs : List CaseRun} {n image : Nat}
    (h : image? runs n = some image) :
    ∃ run ∈ runs, run.covers n = true ∧ image = run.image + (n - run.first) := by
  obtain ⟨run, hrun, rfl⟩ := Option.map_eq_some_iff.mp h
  have hcovers := List.find?_some hrun
  exact ⟨run, List.mem_of_find?_eq_some hrun, hcovers, rfl⟩

theorem toNat_ofNat {n : Nat} (h : n.isValidChar) : (Char.ofNat n).toNat = n := by
  rw [Char.ofNat, dif_pos h]
  rfl

/-- A run with its images among the small letters leads to no sign before them. -/
theorem CaseRun.ofNat_ne_of_image? {runs : List CaseRun} {n image : Nat}
    (hruns : ∀ run ∈ runs, 0x61 ≤ run.image) (h : image? runs n = some image) {d : Char}
    (hpos : 0 < d.toNat) (hd : d.toNat < 0x61) : Char.ofNat image ≠ d := by
  obtain ⟨run, hrun, -, rfl⟩ := exists_of_image? h
  have hletter := hruns run hrun
  rintro rfl
  by_cases hvalid : (run.image + (n - run.first)).isValidChar
  · rw [toNat_ofNat hvalid] at hd
    omega
  -- a number that is no code point stands for the null character
  · rw [Char.ofNat, dif_neg hvalid] at hpos
    exact absurd hpos (by decide)

theorem Caseless.mem_lowercaseChar_iff {d : Char} (hd : Caseless d) (hpos : 0 < d.toNat)
    (hsign : d.toNat < 0x61) {c : Char} : d ∈ lowercaseChar c ↔ c = d := by
  rw [lowercaseChar]
  split
  · next hascii => rw [List.mem_singleton, eq_comm, hd.toLower_eq_iff hascii]
  · next hbeyond =>
    have hne : c ≠ d := by
      rintro rfl
      omega
    refine iff_of_false ?_ hne
    split
    · intro h
      have hdot : d = 'i' ∨ d = '\u0307' := by simpa using h
      rcases hdot with rfl | rfl <;> exact absurd hsign (by decide)
    · split
      · next image himage =>
        rw [List.mem_singleton]
        exact (CaseRun.ofNat_ne_of_image? (by decide +kernel) himage hpos hsign).symm
      · rw [List.mem_singleton]
        exact hne.symm

/-- **Only a line break folds to a line break.** -/
theorem fold_eq_newline_iff {c : Char} : fold c = '\n' ↔ c = '\n' := by
  by_cases hc : c.toNat < 0x80
  · rw [fold_of_isAscii hc]
    exact forall_ascii (P := fun c => c.toLower = '\n' ↔ c = '\n') (by decide) hc
  · have hne : c ≠ '\n' := by
      rintro rfl
      exact hc (by decide)
    refine iff_of_false ?_ hne
    rw [fold, if_neg hc]
    split
    · next image himage =>
      exact CaseRun.ofNat_ne_of_image? (by decide +kernel) himage (by decide) (by decide)
    · exact hne

theorem SameLetter.newline_iff {c d : Char} (h : SameLetter c d) : c = '\n' ↔ d = '\n' := by
  rw [← fold_eq_newline_iff, h, fold_eq_newline_iff]

end FilterQuery.Text
