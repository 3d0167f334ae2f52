namespace WideColumn

inductive Collection.Kind where
  | set
  | list
  | map
  deriving DecidableEq

namespace Collection.Kind

def all : List Kind := [set, list, map]

def name : Kind → String
  | set => "set"
  | list => "list"
  | map => "map"

def requirement : Kind → String
  | set | list => "a flat list of items"
  | map => "key/value pairs"

end Collection.Kind

inductive QueryError where
  | unknownKind (text : String)
  | wrongShape (kind : Collection.Kind)
  | unknownOperator (text : String)
  | emptyInList (column : String)
  | missingTable
  | bindingMismatch (placeholders bound : Nat)
  | conflictingColumn (column : String)
  | emptyIndex
  deriving DecidableEq

namespace QueryError

def message : QueryError → String
  | unknownKind text =>
    "Invalid collection type: " ++ text ++ ", should be any one of set, list, map"
  | wrongShape kind =>
    "Invalid collection shape: " ++ kind.name ++ " requires " ++ kind.requirement
  | unknownOperator text => "Unsupported operator: " ++ text
  | emptyInList column => "In-list for column " ++ column ++ " has no values"
  | missingTable => "Query has no target table"
  | bindingMismatch placeholders bound =>
    "Bindings mismatch: " ++ placeholders.repr ++ " placeholders but " ++ bound.repr ++
      " bound values"
  | conflictingColumn column =>
    "Column " ++ column ++ " is written both as a plain value and as a collection"
  | emptyIndex => "Index creation requires at least one column"

/-- Whether the part at fault was refused when it was declared. -/
def isDeclaration : QueryError → Bool
  | unknownKind _ | unknownOperator _ | emptyInList _ => true
  | _ => false

end QueryError

theorem bind_eq_ok {ε α β : Type} {x : Except ε α} {f : α → Except ε β} {b : β} :
    (x >>= f) = .ok b ↔ ∃ a, x = .ok a ∧ f a = .ok b := by
  cases x with
  | error error => simp [bind, Except.bind]
  | ok a => simp [bind, Except.bind]

theorem bind_eq_error {ε α β : Type} {x : Except ε α} {f : α → Except ε β} {error : ε} :
    (x >>= f) = .error error ↔ x = .error error ∨ ∃ a, x = .ok a ∧ f a = .error error := by
  cases x with
  | error other => simp [bind, Except.bind]
  | ok a => simp [bind, Except.bind]

@[simp] theorem pure_eq_ok {ε α : Type} {a b : α} :
    (pure a : Except ε α) = .ok b ↔ a = b := by
  simp [pure, Except.pure]

@[simp] theorem pure_ne_error {ε α : Type} {a : α} {error : ε} :
    (pure a : Except ε α) ≠ .error error := by
  simp [pure, Except.pure]

end WideColumn
