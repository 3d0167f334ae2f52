import WideColumn.Collection
import WideColumn.Operator

/-! Queries, gathered part by part.  A part that is refused leaves the query as it was. -/

namespace WideColumn

inductive Operand where
  | single (value : Value)
  | many (values : List Value)
  deriving DecidableEq

namespace Operand

def values : Operand → List Value
  | single value => [value]
  | many values => values

def same : Operand → Operand → Bool
  | single x, single y => x.same y
  | many xs, many ys => sameItems Value.same xs ys
  | _, _ => false

end Operand

structure Predicate where
  column : String
  operator : Operator
  operand : Operand
  deriving DecidableEq

namespace Predicate

def connective : String := "and"

def placeholders (p : Predicate) : Nat :=
  p.operand.values.length

def same (p r : Predicate) : Bool :=
  p.column == r.column && p.operator == r.operator && p.operand.same r.operand

end Predicate

inductive Clause where
  | select
  | where
  deriving DecidableEq

abbrev RowLimit := { n : UInt32 // n ≠ 0 }

structure Query where
  table : Option String := none
  columns : Option (List String) := none
  predicates : List Predicate := []
  limit : Option RowLimit := none
  distinct : Bool := false
  allowFiltering : Bool := false
  selectBindings : List Value := []
  whereBindings : List Value := []
  updates : List CollectionWrite := []
  inserts : List CollectionWrite := []
  deleteColumns : Option (List String) := none
  deriving DecidableEq

namespace Query

def onTable (q : Query) (table : String) : Query :=
  { q with table := some table }

def selecting (q : Query) (columns : List String) : Query :=
  { q with columns := some columns }

def addPredicate (q : Query) (p : Predicate) : Query :=
  { q with
    predicates := q.predicates ++ [p]
    whereBindings := q.whereBindings ++ p.operand.values }

def restrict (q : Query) (column operator : String) (value : Value) : Except QueryError Query := do
  let operator ← Operator.ofString? operator
  return q.addPredicate ⟨column, operator, .single value⟩

def restrictEqual (q : Query) (column : String) (value : Value) : Query :=
  q.addPredicate ⟨column, .equal, .single value⟩

def restrictIn (q : Query) (column : String) (values : List Value) : Except QueryError Query :=
  if values.isEmpty then .error (.emptyInList column)
  else .ok (q.addPredicate ⟨column, .isIn, .many values⟩)

/-- Caps the number of rows; zero takes the cap away. -/
def limiting (q : Query) (n : UInt32) : Query :=
  { q with limit := if h : n ≠ 0 then some ⟨n, h⟩ else none }

def distinctRows (q : Query) : Query :=
  { q with distinct := true }

def allowingFiltering (q : Query) : Query :=
  { q with allowFiltering := true }

def replaceCollection (q : Query) (kind column : String) (contents : Collection.Contents) :
    Except QueryError Query := do
  let kind ← Collection.Kind.ofString? kind
  return { q with updates := q.updates ++ [⟨kind, column, contents, none⟩] }

def adjustCollection (q : Query) (kind column delta : String) (contents : Collection.Contents) :
    Except QueryError Query := do
  let kind ← Collection.Kind.ofString? kind
  let delta ← Delta.ofString? delta
  return { q with updates := q.updates ++ [⟨kind, column, contents, some delta⟩] }

def insertCollection (q : Query) (kind column : String) (contents : Collection.Contents) :
    Except QueryError Query := do
  let kind ← Collection.Kind.ofString? kind
  return { q with inserts := q.inserts ++ [⟨kind, column, contents, none⟩] }

def deletingColumns (q : Query) (columns : List String) : Query :=
  { q with deleteColumns := some columns }

/-- Binds a value that no predicate asks for. -/
def bindValue (q : Query) (value : Value) : Clause → Query
  | .select => { q with selectBindings := q.selectBindings ++ [value] }
  | .where => { q with whereBindings := q.whereBindings ++ [value] }

def placeholders (q : Query) : Nat :=
  q.predicates.foldr (fun p rest => p.placeholders + rest) 0

def boundCount (q : Query) : Nat :=
  q.selectBindings.length + q.whereBindings.length

def same (q r : Query) : Bool :=
  q.table == r.table && q.columns == r.columns &&
    sameItems Predicate.same q.predicates r.predicates && q.limit == r.limit &&
    q.distinct == r.distinct && q.allowFiltering == r.allowFiltering &&
    sameItems Value.same q.selectBindings r.selectBindings &&
    sameItems Value.same q.whereBindings r.whereBindings &&
    sameItems CollectionWrite.same q.updates r.updates &&
    sameItems CollectionWrite.same q.inserts r.inserts && q.deleteColumns == r.deleteColumns

end Query

end WideColumn
