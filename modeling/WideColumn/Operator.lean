import WideColumn.QueryError
import WideColumn.Text.Blank

namespace WideColumn

inductive Operator where
  | equal
  | less
  | greater
  | lessOrEqual
  | greaterOrEqual
  | notEqual
  | isIn
  | contains
  | containsKey
  | like
  deriving DecidableEq

namespace Operator

def all : List Operator :=
  [equal, less, greater, lessOrEqual, greaterOrEqual, notEqual, isIn, contains, containsKey, like]

def spelling : Operator → String
  | equal => "="
  | less => "<"
  | greater => ">"
  | lessOrEqual => "<="
  | greaterOrEqual => ">="
  | notEqual => "!="
  | isIn => "in"
  | contains => "contains"
  | containsKey => "contains key"
  | like => "like"

theorem mem_all (op : Operator) : op ∈ all := by
  cases op <;> decide

/-- The words of `text` in lower case, with one space between them. -/
def normalized (text : String) : List Char :=
  Text.lowerCase ([' '].intercalate (Text.words text.toList))

def ofString? (text : String) : Except QueryError Operator :=
  match Text.spelled? spelling all (normalized text) with
  | some op => .ok op
  | none => .error (.unknownOperator text)

end Operator

end WideColumn
