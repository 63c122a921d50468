import FilterQuery.Proofs.Paging.Precedence
import FilterQuery.Proofs.Request.RoundTrip
import FilterQuery.Proofs.Request.Typing

/-!
# One number in three places

A limit or an offset can stand in the page attribute, or be the value of a paging parameter, as a
number or as its text. Each place has a reader of its own: of a field up to its greatest value
(`ofJson_numberField_eq_ok`), of a long (`ofParams_number_eq_ok`), and of a text of digits
(`ofParams_text_eq_ok`).

They agree on all integers that JSON keeps, except on an offset beyond the longs. As the value of a
parameter such a number is turned into a double on its way in, and no double is an offset
(`page_numbers_agree_but_for_offsets_beyond_longs`).
-/

namespace FilterQuery

/-- A text without blanks has none to lose. -/
theorem Text.trim_eq_self {cs : List Char} (h : ∀ c ∈ cs, isBlank c = false) : trim cs = cs := by
  have hdrop : ∀ {ds : List Char}, (∀ c ∈ ds, isBlank c = false) → ds.dropWhile isBlank = ds := by
    intro ds hds
    cases ds with
    | nil => rfl
    | cons d ds => rw [List.dropWhile_cons_of_neg (by simp [hds d])]
  have hreverse : ∀ c ∈ cs.reverse, isBlank c = false := fun c hc => h c (List.mem_reverse.mp hc)
  rw [trim, hdrop h, hdrop hreverse, List.reverse_reverse]

/-! ### Numbers of a page -/

/-- The greatest number that an operation sets. A sort specification is no number. -/
def PagingOperation.greatest? : PagingOperation → Option Nat
  | .limit => some Numeral.limitMax
  | .offset => some Numeral.countMax
  | .sortBy => none

/-- The page attribute with a number in one field. -/
def PageAttribute.numbered : PagingOperation → Nat → PageAttribute
  | .limit, n => { limit := some n }
  | .offset, n => { offset := some n }
  | .sortBy, _ => {}

/-- A page attribute with a number in one field, as JSON. -/
def numberField (operation : PagingOperation) (i : Int) : Json :=
  .object [(operation.code, .integer i)]

/-- A paging parameter with a value, as JSON. -/
def pagingParam (name : String) (operation : PagingOperation) (value : Json) : Json :=
  .object [("name", .string name), ("operation", .string operation.code), ("value", value)]

variable {operation : PagingOperation} {greatest : Nat} {i : Int}

/-- **The page attribute takes numbers up to the greatest.** -/
theorem ofJson_numberField_eq_ok (hnumber : operation.greatest? = some greatest)
    {a : PageAttribute} :
    PageAttribute.ofJson (numberField operation i) = .ok a ↔
      0 ≤ i ∧ i ≤ greatest ∧ a = .numbered operation i.toNat := by
  have hput {expected : String} {high : Nat} (put : Option Nat → PageAttribute) :
      (((Json.natural expected high (.integer i)).map some >>= fun n => Except.ok (put n)) >>=
          Except.ok) = .ok a ↔ 0 ≤ i ∧ i ≤ high ∧ a = put (some i.toNat) := by
    simp only [bind_eq_ok, map_eq_ok, Json.natural_eq_ok, Json.integer.injEq, exists_eq_left']
    constructor
    · rintro ⟨_, ⟨_, ⟨n, ⟨hpos, hhigh, rfl⟩, rfl⟩, ⟨⟩⟩, ⟨⟩⟩
      exact ⟨hpos, hhigh, rfl⟩
    · rintro ⟨hpos, hhigh, rfl⟩
      exact ⟨_, ⟨_, ⟨_, ⟨hpos, hhigh, rfl⟩, rfl⟩, rfl⟩, rfl⟩
  cases operation with
  | limit =>
    cases hnumber
    exact hput fun limit => { limit }
  | offset =>
    cases hnumber
    exact hput fun offset => { offset }
  | sortBy => cases hnumber

theorem ofJson_pagingParam (name : String) (operation : PagingOperation) (value : Json) :
    Param.ofJson (pagingParam name operation value) =
      .ok ⟨name, (ParamValue.ofJson value).unlessNull, some operation.code⟩ := by
  rfl

theorem paging?_code (name : String) (value : Option ParamValue) (operation : PagingOperation) :
    Param.paging? ⟨name, value, some operation.code⟩ = some operation := by
  show Operation.pagingOfCode? operation.code = _
  cases operation <;> decide

/-- **A paging parameter takes counts up to the greatest.** -/
theorem ofParams_singleton_eq_ok (hnumber : operation.greatest? = some greatest) {name : String}
    {v : ParamValue} (hv : ∀ n, v.count? = some n → n ≤ Numeral.countMax)
    {b : Option PageAttribute} :
    PageAttribute.ofParams [⟨name, some v, some operation.code⟩] = .ok b ↔
      ∃ n, v.count? = some n ∧ n ≤ greatest ∧ b = some (.numbered operation n) := by
  have htakes : operation.Takes (some v) ↔ ∃ n, v.count? = some n ∧ n ≤ greatest := by
    cases operation with
    | limit =>
      cases hnumber
      rfl
    | offset =>
      cases hnumber
      exact exists_congr fun n => (and_iff_left_of_imp (hv n)).symm
    | sortBy => cases hnumber
  have hset : ∀ n, v.count? = some n →
      ({} : PageAttribute).set operation (some v) = .numbered operation n := by
    intro n hn
    cases operation with
    | limit => simp [PageAttribute.set, PageAttribute.numbered, hn]
    | offset => simp [PageAttribute.set, PageAttribute.numbered, hn]
    | sortBy => cases hnumber
  have hsingle : ∀ p : Param, PageAttribute.ofParams [p] = PageAttribute.addParam none p := by
    intro p
    show PageAttribute.addParam none p >>= Except.ok = _
    cases PageAttribute.addParam none p <;> rfl
  rw [hsingle, PageAttribute.addParam_eq_ok, Param.Usable, paging?_code]
  simp only [Option.some.injEq, forall_eq', htakes]
  constructor
  · rintro ⟨⟨n, hn, hle⟩, rfl⟩
    exact ⟨n, hn, hle, congrArg some (hset n hn)⟩
  · rintro ⟨n, hn, hle, rfl⟩
    exact ⟨⟨n, hn, hle⟩, congrArg some (hset n hn)⟩

/-- As a value the integer is a count if it is a long: beyond the longs it is a double. -/
theorem count?_number_eq_some {n : Nat} :
    (ParamValue.ofJson (.integer i)).count? = some n ↔
      Numeral.isLong i = true ∧ 0 ≤ i ∧ n = i.toNat := by
  rw [ParamValue.ofJson]
  by_cases hlong : Numeral.isLong i = true
  · rw [if_pos hlong, ParamValue.count?]
    simp [hlong, eq_comm]
  · have hdouble : (ParamValue.float (.ofInt i)).count? = none := rfl
    rw [if_neg hlong, hdouble]
    simp [hlong]

theorem count?_text_eq_some {n : Nat} :
    (ParamValue.text (toString i)).count? = some n ↔
      0 ≤ i ∧ i ≤ Numeral.countMax ∧ n = i.toNat := by
  rw [ParamValue.count?, Text.trim_eq_self fun c => ParamValue.isBlank_of_mem_toString,
    Numeral.count?_toString]
  simp [and_assoc, eq_comm]

theorem ofParams_number_eq_ok (hnumber : operation.greatest? = some greatest)
    (hi : Json.keepsInteger i = true) {name : String} {b : Option PageAttribute} :
    PageAttribute.ofParams [⟨name, some (.ofJson (.integer i)), some operation.code⟩] = .ok b ↔
      Numeral.isLong i = true ∧ 0 ≤ i ∧ i ≤ greatest ∧
        b = some (.numbered operation i.toNat) := by
  have hcount : ∀ n, (ParamValue.ofJson (.integer i)).count? = some n → n ≤ Numeral.countMax := by
    intro n hn
    obtain ⟨-, -, rfl⟩ := count?_number_eq_some.mp hn
    have hbounds := Json.keepsInteger_iff.mp hi
    simp only [Numeral.countMax]
    omega
  rw [ofParams_singleton_eq_ok hnumber hcount]
  simp only [count?_number_eq_some]
  constructor
  · rintro ⟨n, ⟨hlong, hpos, rfl⟩, hle, rfl⟩
    exact ⟨hlong, hpos, by omega, rfl⟩
  · rintro ⟨hlong, hpos, hle, rfl⟩
    exact ⟨_, ⟨hlong, hpos, rfl⟩, by omega, rfl⟩

theorem ofParams_text_eq_ok (hnumber : operation.greatest? = some greatest) {name : String}
    {b : Option PageAttribute} :
    PageAttribute.ofParams [⟨name, some (.text (toString i)), some operation.code⟩] = .ok b ↔
      0 ≤ i ∧ i ≤ greatest ∧ b = some (.numbered operation i.toNat) := by
  have hgreatest : greatest ≤ Numeral.countMax := by
    cases operation <;> cases hnumber <;> decide
  have hcount : ∀ n, (ParamValue.text (toString i)).count? = some n → n ≤ Numeral.countMax := by
    intro n hn
    obtain ⟨hpos, hmax, rfl⟩ := count?_text_eq_some.mp hn
    omega
  rw [ofParams_singleton_eq_ok hnumber hcount]
  simp only [count?_text_eq_some]
  constructor
  · rintro ⟨n, ⟨hpos, hmax, rfl⟩, hle, rfl⟩
    exact ⟨hpos, by omega, rfl⟩
  · rintro ⟨hpos, hle, rfl⟩
    exact ⟨_, ⟨hpos, by omega, rfl⟩, by omega, rfl⟩

/-- **A page number means the same in the page attribute and in a parameter, but for an offset
beyond the longs.** The page attribute takes the integers from zero to the greatest limit or offset.
The text of an integer as the value of a parameter is taken where the page attribute takes the
integer, and gives the same number; the integer itself is taken there too, and gives the same
number, if it is a long. So the three differ for the offsets from `2 ^ 63`, and for nothing else. -/
theorem page_numbers_agree_but_for_offsets_beyond_longs (name : String)
    (operation : PagingOperation) {greatest : Nat}
    (hnumber : operation.greatest? = some greatest) {i : Int} (hi : Json.keepsInteger i = true) :
    let inField := PageAttribute.ofJson (numberField operation i)
    ∃ number text : Param,
      Param.ofJson (pagingParam name operation (.integer i)) = .ok number ∧
      Param.ofJson (pagingParam name operation (.string (toString i))) = .ok text ∧
      (∀ a, inField = .ok a ↔ 0 ≤ i ∧ i ≤ greatest ∧ a = .numbered operation i.toNat) ∧
      (∀ a, PageAttribute.ofParams [text] = .ok a ↔ inField.map some = .ok a) ∧
      (∀ a, PageAttribute.ofParams [number] = .ok a ↔
        Numeral.isLong i = true ∧ inField.map some = .ok a) ∧
      ((∃ a, inField = .ok a ∧ PageAttribute.ofParams [number] ≠ .ok (some a)) ↔
        operation = .offset ∧ 0x8000000000000000 ≤ i) := by
  intro inField
  have hfield : ∀ a, inField = .ok a ↔ 0 ≤ i ∧ i ≤ greatest ∧ a = .numbered operation i.toNat :=
    fun a => ofJson_numberField_eq_ok hnumber
  have hmap : ∀ a, inField.map some = .ok a ↔
      0 ≤ i ∧ i ≤ greatest ∧ a = some (.numbered operation i.toNat) := by
    intro a
    rw [map_eq_ok]
    simp only [hfield]
    constructor
    · rintro ⟨_, ⟨hpos, hle, rfl⟩, rfl⟩
      exact ⟨hpos, hle, rfl⟩
    · rintro ⟨hpos, hle, rfl⟩
      exact ⟨_, ⟨hpos, hle, rfl⟩, rfl⟩
  have hvalue : (ParamValue.ofJson (.integer i)).unlessNull = some (.ofJson (.integer i)) := by
    rw [ParamValue.ofJson]
    split <;> rfl
  refine ⟨⟨name, some (.ofJson (.integer i)), some operation.code⟩,
    ⟨name, some (.text (toString i)), some operation.code⟩, ?_, rfl, hfield, ?_, ?_, ?_⟩
  · rw [ofJson_pagingParam, hvalue]
  · intro a
    rw [ofParams_text_eq_ok hnumber, hmap]
  · intro a
    rw [ofParams_number_eq_ok hnumber hi, hmap]
  · simp only [hfield, ne_eq, ofParams_number_eq_ok hnumber hi, Numeral.isLong_iff]
    have hbounds := Json.keepsInteger_iff.mp hi
    constructor
    · rintro ⟨a, ⟨hpos, hle, rfl⟩, hrefused⟩
      have hbig : 0x8000000000000000 ≤ i := by
        by_contra hsmall
        exact hrefused ⟨⟨by omega, by omega⟩, hpos, hle, rfl⟩
      refine ⟨?_, hbig⟩
      -- every limit is a long
      cases operation <;> cases hnumber
      · simp only [Numeral.limitMax] at hle
        omega
      · rfl
    · rintro ⟨rfl, hbig⟩
      cases hnumber
      have hle : i ≤ Numeral.countMax := by
        simp only [Numeral.countMax]
        omega
      exact ⟨_, ⟨by omega, hle, rfl⟩, fun h => by omega⟩

/-- The first offset that is no long: the page attribute takes it, and a parameter with its text,
but a parameter with the number itself is refused. -/
theorem page_numbers_agree_but_for_offsets_beyond_longs_at_first :
    let i : Int := 0x8000000000000000
    let number : Param := ⟨"p", some (.float (.ofInt i)), some "offset"⟩
    let text : Param := ⟨"p", some (.text "9223372036854775808"), some "offset"⟩
    PagingOperation.greatest? .offset = some 0xFFFFFFFFFFFFFFFF ∧ Json.keepsInteger i = true ∧
      Param.ofJson (pagingParam "p" .offset (.integer i)) = .ok number ∧
      PageAttribute.ofJson (.object [("offset", .integer i)]) =
        .ok { offset := some 0x8000000000000000 } ∧
      PageAttribute.ofParams [text] = .ok (some { offset := some 0x8000000000000000 }) ∧
      PageAttribute.ofParams [number] =
        .error (.invalidPagingValue "offset" "9223372036854776000") := by
  intro i number text
  have hi : Json.keepsInteger i = true := by decide
  obtain ⟨number', text', hnumber, htext, hfield, htaken, -, -⟩ :=
    page_numbers_agree_but_for_offsets_beyond_longs "p" .offset rfl hi
  have hnumber' : Param.ofJson (pagingParam "p" .offset (.integer i)) = .ok number := by
    unfold i number
    rfl
  have htext' : Param.ofJson (pagingParam "p" .offset (.string (toString i))) = .ok text := by
    unfold i text
    rfl
  obtain rfl : number = number' := Except.ok.inj (hnumber'.symm.trans hnumber)
  obtain rfl : text = text' := Except.ok.inj (htext'.symm.trans htext)
  have hread : PageAttribute.ofJson (numberField .offset i) =
      .ok { offset := some 0x8000000000000000 } :=
    (hfield _).mpr ⟨by decide, by decide, rfl⟩
  refine ⟨rfl, hi, hnumber', hread, ?_, ?_⟩
  · rw [htaken, hread]
    rfl
  · unfold number i
    decide +kernel

end FilterQuery
