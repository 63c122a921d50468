import FilterQuery.Proofs.Text.Sigma

/-!
# Lower case and case folding

A text folds as its lower case does (`map_fold_lowercaseIn`), unless `İ` is in it: folding leaves
that letter as it is, and lower case makes two characters of it, so the text grows
(`length_lowercaseIn`).

Both mappings are tables, and the tables are compared run by run. A run of the lower-case table is
mapped in step by one run of the folding table, or is apart from all of them, and so is the run of
its images (`CaseRun.imageOf?`); what the first code point of either is mapped to decides the rest.
-/

namespace FilterQuery.Text

/-! ### Runs -/

namespace CaseRun

variable {r s : CaseRun} {runs : List CaseRun} {n i : Nat}

theorem covers_iff :
    r.covers n = true ↔ r.first ≤ n ∧ n ≤ r.last ∧ (n - r.first) % r.stride = 0 := by
  simp [covers, and_assoc]

/-- Whether the code points of the run are all even or all odd. -/
def oneParity (r : CaseRun) : Bool :=
  r.first == r.last || r.stride == 2

/-- Whether the runs may share a code point: they overlap, and they are not an even and an odd one
side by side. -/
def meets (r s : CaseRun) : Bool :=
  r.first.ble s.last && s.first.ble r.last &&
    !(r.oneParity && s.oneParity && r.first % 2 != s.first % 2)

theorem mod_two_of_oneParity (h : r.oneParity = true) (hn : r.covers n = true) :
    n % 2 = r.first % 2 := by
  obtain ⟨hfirst, hlast, hmod⟩ := covers_iff.mp hn
  rw [oneParity, Bool.or_eq_true, beq_iff_eq, beq_iff_eq] at h
  rcases h with h | h
  · omega
  · rw [h] at hmod
    omega

theorem meets_of_covers (hr : r.covers n = true) (hs : s.covers n = true) : r.meets s = true := by
  obtain ⟨hrfirst, hrlast, -⟩ := covers_iff.mp hr
  obtain ⟨hsfirst, hslast, -⟩ := covers_iff.mp hs
  have hparity : ¬ (r.oneParity && s.oneParity && r.first % 2 != s.first % 2) = true := by
    simp only [Bool.and_eq_true, bne_iff_ne]
    rintro ⟨⟨hrparity, hsparity⟩, hne⟩
    exact hne ((mod_two_of_oneParity hrparity hr).symm.trans (mod_two_of_oneParity hsparity hs))
  rw [meets, Bool.and_eq_true, Bool.and_eq_true, Nat.ble_eq, Nat.ble_eq, Bool.not_eq_true']
  exact ⟨⟨by omega, by omega⟩, Bool.eq_false_iff.mpr hparity⟩

/-- The run of the images. -/
def images (r : CaseRun) : CaseRun :=
  { r with first := r.image, last := r.image + (r.last - r.first) }

theorem covers_images (hn : r.covers n = true) :
    r.images.covers (r.image + (n - r.first)) = true := by
  obtain ⟨hfirst, hlast, hmod⟩ := covers_iff.mp hn
  refine covers_iff.mpr ⟨Nat.le_add_right _ _, ?_, ?_⟩
  · exact Nat.add_le_add_left (Nat.sub_le_sub_right hlast _) _
  · rwa [images, Nat.add_sub_cancel_left]

/-- What the first code point of `r` is mapped to, if the list maps all of `r` in step or leaves all
of it alone. -/
def imageOf? (runs : List CaseRun) (r : CaseRun) : Option Nat :=
  match runs.find? r.meets with
  | none => some r.first
  | some s =>
    if s.first = r.first ∧ s.last = r.last ∧ s.stride = r.stride then some s.image else none

/-- What the list maps a code point of the run to. -/
theorem image?_of_imageOf? (h : imageOf? runs r = some i) (hn : r.covers n = true) :
    (image? runs n).getD n = i + (n - r.first) := by
  induction runs with
  | nil =>
    obtain rfl : r.first = i := Option.some.inj h
    obtain ⟨hfirst, -, -⟩ := covers_iff.mp hn
    change n = r.first + (n - r.first)
    omega
  | cons s runs ih =>
    by_cases hmeets : r.meets s = true
    · rw [imageOf?, List.find?_cons_of_pos hmeets] at h
      obtain ⟨⟨hfirst, hlast, hstride⟩, himage⟩ := Option.ite_none_right_eq_some.mp h
      obtain rfl := Option.some.inj himage
      have hs : s.covers n = true := by rwa [covers, hfirst, hlast, hstride]
      rw [image?, List.find?_cons_of_pos (by exact hs), ← hfirst]
      rfl
    · rw [imageOf?, List.find?_cons_of_neg hmeets] at h
      rw [image?, List.find?_cons_of_neg (by exact fun hs => hmeets (meets_of_covers hn hs))]
      exact ih h

theorem image?_eq_none (h : ∀ r ∈ runs, n < r.first) : image? runs n = none := by
  rw [image?, Option.map_eq_none_iff, List.find?_eq_none]
  intro r hr hn
  exact absurd (covers_iff.mp hn).1 (Nat.not_le.mpr (h r hr))

end CaseRun

/-! ### Letters -/

/-- Beyond the capital letters of ASCII, folding is what its table says. -/
theorem fold_of_le {c : Char} (hc : 0x61 ≤ c.toNat) :
    fold c = Char.ofNat ((CaseRun.image? foldingRuns c.toNat).getD c.toNat) := by
  rw [fold]
  split
  · next hascii =>
    have hbeyond : ∀ run ∈ foldingRuns, 0x80 ≤ run.first := by decide +kernel
    rw [CaseRun.image?_eq_none fun run hrun => Nat.lt_of_lt_of_le hascii (hbeyond run hrun)]
    exact forall_ascii (P := fun c => 0x61 ≤ c.toNat → c.toLower = Char.ofNat c.toNat) (by decide)
      hascii hc
  · cases CaseRun.image? foldingRuns c.toNat with
    | none => exact (Char.ofNat_toNat c).symm
    | some image => rfl

/-- Each run of the lower-case table folds as the run of its images does. -/
theorem imageOf?_lowercaseRuns : ∀ run ∈ lowercaseRuns,
    ∃ i ∈ CaseRun.imageOf? foldingRuns run, CaseRun.imageOf? foldingRuns run.images = some i := by
  decide +kernel

/-- The images of the lower-case table are code points beyond the capital letters of ASCII. -/
theorem images_lowercaseRuns : ∀ run ∈ lowercaseRuns, 0x61 ≤ run.image ∧
    (run.images.last < 0xD800 ∨ 0xDFFF < run.image ∧ run.images.last < 0x110000) := by
  decide +kernel

/-- A character beyond ASCII and its image in the lower-case table fold alike. -/
theorem fold_image {run : CaseRun} (hrun : run ∈ lowercaseRuns) {c : Char}
    (hc : run.covers c.toNat = true) (hbeyond : 0x80 ≤ c.toNat) :
    fold (Char.ofNat (run.image + (c.toNat - run.first))) = fold c := by
  obtain ⟨i, hrun', himages⟩ := imageOf?_lowercaseRuns run hrun
  obtain ⟨hletter, hvalid⟩ := images_lowercaseRuns run hrun
  have hcovers := CaseRun.covers_images hc
  obtain ⟨hfirst, hlast, -⟩ := CaseRun.covers_iff.mp hcovers
  have hchar : (run.image + (c.toNat - run.first)).isValidChar := by
    simp only [CaseRun.images] at hfirst hlast hvalid
    unfold Nat.isValidChar
    omega
  have htoNat := toNat_ofNat hchar
  rw [fold_of_le (by omega), fold_of_le (by omega), htoNat,
    CaseRun.image?_of_imageOf? hrun' hc, CaseRun.image?_of_imageOf? himages hcovers]
  simp [CaseRun.images]

/-- **The lower case of a letter folds as the letter does**, but for `İ`. -/
theorem fold_lowercaseChar {c : Char} (hc : c ≠ 'İ') : (lowercaseChar c).map fold = [fold c] := by
  rw [lowercaseChar, if_neg hc]
  split
  · next hascii =>
    rw [List.map_singleton, fold_of_isAscii (toNat_toLower_lt hascii), toLower_toLower hascii,
      fold_of_isAscii hascii]
  · next hbeyond =>
    split
    · next n hn =>
      obtain ⟨run, hrun, hcovers, rfl⟩ := CaseRun.exists_of_image? hn
      rw [List.map_singleton, fold_image hrun hcovers (Nat.le_of_not_lt hbeyond)]
    · rfl

theorem length_lowercaseChar (c : Char) :
    (lowercaseChar c).length = 1 + if c = 'İ' then 1 else 0 := by
  by_cases hc : c = 'İ'
  · subst hc
    rfl
  · rw [if_neg hc, ← List.length_map (f := fold), fold_lowercaseChar hc]
    rfl

/-! ### Texts -/

section

variable {before after part : List Char}

/-- **The lower case of a text folds as the text does**, wherever it stands. -/
theorem map_fold_lowercaseIn (h : 'İ' ∉ part) :
    (lowercaseIn before after part).map fold = part.map fold := by
  induction part generalizing before with
  | nil => rfl
  | cons c part ih =>
    obtain ⟨hc, hpart⟩ := not_or.mp (mt List.mem_cons.mpr h)
    have hsmall (final : Bool) : fold (smallSigma final) = fold 'Σ' := by
      cases final <;> decide +kernel
    rw [lowercaseIn, List.map_append, ih hpart, List.map_cons]
    split
    · next hsigma =>
      rw [hsigma, List.map_singleton, hsmall]
      rfl
    · rw [fold_lowercaseChar (Ne.symm hc)]
      rfl

/-- A text grows by one character for each `İ`. -/
theorem length_lowercaseIn :
    (lowercaseIn before after part).length = part.length + part.count 'İ' := by
  induction part generalizing before with
  | nil => rfl
  | cons c part ih =>
    have hhead (final : Bool) : (if c = 'Σ' then [smallSigma final] else lowercaseChar c).length =
        1 + if c = 'İ' then 1 else 0 := by
      split
      · next hsigma =>
        rw [hsigma]
        rfl
      · exact length_lowercaseChar c
    rw [lowercaseIn, List.length_append, hhead, ih, List.length_cons, List.count_cons]
    simp only [beq_iff_eq]
    omega

/-- No sign turns up that is not there. -/
theorem not_mem_lowercaseIn {d : Char} (hd : Caseless d) (hpos : 0 < d.toNat)
    (hsign : d.toNat < 0x61) (h : d ∉ part) : d ∉ lowercaseIn before after part := by
  induction part generalizing before with
  | nil => exact h
  | cons c part ih =>
    obtain ⟨hc, hpart⟩ := not_or.mp (mt List.mem_cons.mpr h)
    rw [lowercaseIn, List.mem_append, not_or]
    refine ⟨?_, ih hpart⟩
    split
    · have hbeyond (final : Bool) : 0x61 ≤ (smallSigma final).toNat := by
        cases final <;> decide
      rw [List.mem_singleton]
      rintro rfl
      exact absurd hsign (Nat.not_lt.mpr (hbeyond _))
    · rw [hd.mem_lowercaseChar_iff hpos hsign]
      exact Ne.symm hc

end

end FilterQuery.Text
