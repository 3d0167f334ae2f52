import WideColumn.Query
import WideColumn.Row

/-! Statements and their text.  A value is bound in a slot of the text; collections are written
out in it. -/

namespace WideColumn

inductive Statement where
  | select (query : Query)
  | insert (query : Query) (row : Row)
  | update (query : Query) (row : Row)
  | delete (query : Query)
  | index (query : Query) (columns : List String)

structure Rendered where
  text : String
  params : List Value
  deriving DecidableEq

/-- How a bound value is shown in the text. -/
abbrev Slot := Value → String

namespace Query

def tableName (q : Query) : Except QueryError String :=
  match q.table with
  | some table => .ok (Identifier.wrap table)
  | none => .error .missingTable

/-- The first column written that is among `taken` or was written before. -/
def conflict? (taken : List String) : List CollectionWrite → Option String
  | [] => none
  | w :: rest =>
    if w.column ∈ taken then some w.column else conflict? (w.column :: taken) rest

def checkColumns (row : Row) (writes : List CollectionWrite) : Except QueryError Unit :=
  match conflict? row.columns writes with
  | some column => .error (.conflictingColumn column)
  | none => .ok ()

end Query

def Predicate.write (slot : Slot) (p : Predicate) : String :=
  Identifier.wrap p.column ++ " " ++ p.operator.spelling ++ " " ++
    match p.operand with
    | .single value => slot value
    | .many values => "(" ++ ", ".intercalate (values.map slot) ++ ")"

namespace Query

/-- The where clause, if there is one.  Every bound value has to have a placeholder in it. -/
def whereClause (slot : Slot) (q : Query) : Except QueryError (List String) :=
  if q.placeholders ≠ q.boundCount then .error (.bindingMismatch q.placeholders q.boundCount)
  else if q.predicates.isEmpty then .ok []
  else
    .ok ["where " ++
      (" " ++ Predicate.connective ++ " ").intercalate (q.predicates.map (Predicate.write slot))]

def projection (q : Query) : String :=
  match q.columns with
  | some (column :: columns) => Identifier.wrapAll (column :: columns)
  | _ => "*"

def limitClause (q : Query) : List String :=
  match q.limit with
  | some n => ["limit " ++ n.val.toNat.repr]
  | none => []

def writeSelect (slot : Slot) (q : Query) : Except QueryError String := do
  let table ← q.tableName
  let wheres ← q.whereClause slot
  return " ".intercalate
    (["select"] ++ (if q.distinct then ["distinct"] else []) ++ [q.projection, "from", table] ++
      wheres ++ q.limitClause ++ (if q.allowFiltering then ["allow filtering"] else []))

def writeInsert (slot : Slot) (q : Query) (row : Row) : Except QueryError String := do
  let table ← q.tableName
  checkColumns row q.inserts
  let literals ← q.inserts.mapM CollectionWrite.literal
  let columns := row.columns ++ q.inserts.map CollectionWrite.column
  return "insert into " ++ table ++ " (" ++ Identifier.wrapAll columns ++ ") values (" ++
    ", ".intercalate (row.values.map slot ++ literals) ++ ")"

def assignments (q : Query) : Except QueryError (List String) :=
  q.updates.mapM CollectionWrite.assignment

def plainAssignment (slot : Slot) (entry : String × Value) : String :=
  Identifier.wrap entry.1 ++ " = " ++ slot entry.2

def writeUpdate (slot : Slot) (q : Query) (row : Row) : Except QueryError String := do
  let table ← q.tableName
  checkColumns row q.updates
  let wheres ← q.whereClause slot
  let assigned := row.entries.map (plainAssignment slot) ++ (← q.assignments)
  return " ".intercalate
    (["update", table, "set"] ++
      (if assigned.isEmpty then [] else [", ".intercalate assigned]) ++ wheres)

def deleteProjection (q : Query) : List String :=
  match q.deleteColumns with
  | some (column :: columns) => [Identifier.wrapAll (column :: columns)]
  | _ => []

def writeDelete (slot : Slot) (q : Query) : Except QueryError String := do
  let table ← q.tableName
  let wheres ← q.whereClause slot
  return " ".intercalate (["delete"] ++ q.deleteProjection ++ ["from", table] ++ wheres)

def writeIndex (q : Query) (columns : List String) : Except QueryError String := do
  let table ← q.tableName
  if columns.isEmpty then .error .emptyIndex
  else
    return "create index if not exists on " ++ table ++ "(" ++ Identifier.wrapAll columns ++ ")"

end Query

namespace Statement

def query : Statement → Query
  | select q | insert q _ | update q _ | delete q | index q _ => q

def verb : Statement → String
  | select _ => "select"
  | insert _ _ => "insert"
  | update _ _ => "update"
  | delete _ => "delete"
  | index _ _ => "index"

/-- The text of a statement, with every bound value shown as `slot` says. -/
def write (slot : Slot) : Statement → Except QueryError String
  | select q => q.writeSelect slot
  | insert q row => q.writeInsert slot row
  | update q row => q.writeUpdate slot row
  | delete q => q.writeDelete slot
  | index q columns => q.writeIndex columns

def params : Statement → List Value
  | select q | delete q => q.whereBindings
  | insert _ row => row.values
  | update q row => row.values ++ q.whereBindings
  | index _ _ => []

def placeholder : Slot :=
  fun _ => "?"

def render (s : Statement) : Except QueryError Rendered := do
  return ⟨← s.write placeholder, s.params⟩

end Statement

end WideColumn
