import FilterQuery.Config
import FilterQuery.Operation
import FilterQuery.SortSpecification
import FilterQuery.Typing

/-!
# Paging

A request asks for a page in its page attribute or with paging parameters among its conditions. The
attribute goes before the parameters, and earlier groups before later ones; what nobody asks for
is taken from the configuration.
-/

namespace FilterQuery

/-- The paging operation of a parameter, if its code is one. -/
def Param.paging? (p : Param) : Option PagingOperation :=
  Operation.pagingOfCode? p.code

namespace PageAttribute

/-- The error of a paging value that cannot be used. -/
def unusable (operation : PagingOperation) (text : String) : FilterError :=
  .invalidPagingValue operation.code text

/-- The number that the value of a paging parameter is. A text may have blanks around it. -/
def number (operation : PagingOperation) : Option ParamValue → Except FilterError Nat
  | some (.integer i) =>
    if 0 ≤ i then .ok i.toNat else .error (unusable operation (toString i))
  | some (.text s) =>
    match Numeral.count? (Text.trim s.toList) with
    | some n => .ok n
    | none => .error (unusable operation s)
  | some v => .error (unusable operation v.raw)
  | none => .error (unusable operation "")

/-- The attribute with the value of one more paging parameter. -/
def add (a : PageAttribute) (operation : PagingOperation) (value : Option ParamValue) :
    Except FilterError PageAttribute :=
  match operation with
  | .limit => do
    let n ← number .limit value
    if n ≤ Numeral.limitMax then .ok { a with limit := some n }
    else .error (unusable .limit (toString n))
  | .offset => do .ok { a with offset := some (← number .offset value) }
  | .sortBy => .ok { a with sortBy := value.map ParamValue.raw }

/-- The attribute with what one more parameter says about the page. -/
def addParam (a : Option PageAttribute) (p : Param) : Except FilterError (Option PageAttribute) :=
  match p.paging? with
  | none => .ok a
  | some operation => do .ok (some (← (a.getD {}).add operation p.value))

/-- What a list of parameters says about the page: nothing if none of them is a paging parameter.
Of several values for one thing the last counts. -/
def ofParams (params : List Param) : Except FilterError (Option PageAttribute) :=
  params.foldlM addParam none

/-- The fields of `first`, and those of `second` where `first` has none. -/
def merge (first second : Option PageAttribute) : Option PageAttribute :=
  match first, second with
  | some a, some b => some (a.or b)
  | first, second => first.or second

/-- What a list of groups says about the page; earlier groups go before later ones. -/
def ofGroups (groups : List Group) : Except FilterError (Option PageAttribute) :=
  groups.foldlM (fun a g => do .ok (merge a (← ofParams g.params))) none

end PageAttribute

namespace Page

/-- The page that is asked for, with defaults from a configuration. -/
def resolve (config : Config) (allowed : List String) (wanted : Option PageAttribute) :
    Except FilterError Page := do
  let a := wanted.getD {}
  let orders ← SortSpecification.resolve allowed a.sortBy
  .ok ⟨a.offset.getD config.defaultOffset, a.limit.getD config.defaultLimit, orders⟩

/-- The page of a flat request. -/
def ofFlat (config : Config) (allowed : List String) (r : FlatRequest) :
    Except FilterError Page := do
  resolve config allowed (PageAttribute.merge r.page (← PageAttribute.ofParams r.params))

/-- The page of a grouped request. -/
def ofGrouped (config : Config) (allowed : List String) (r : GroupedRequest) :
    Except FilterError Page := do
  resolve config allowed (PageAttribute.merge r.page (← PageAttribute.ofGroups r.groups))

end Page

end FilterQuery
