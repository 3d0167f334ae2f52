import WideColumn.Execution

namespace WideColumn

inductive SessionError where
  | query (error : QueryError)
  | settings (fault : Settings.Fault)
  | execution (error : ExecutionError)
  /-- A count was given up when so many pages were counted. -/
  | cancelled (pages : Nat)
  deriving DecidableEq

namespace SessionError

def message : SessionError → String
  | query error => error.message
  | settings fault => "Configuration error: " ++ fault.message
  | execution error => error.message
  | cancelled pages => "Aggregation cancelled after " ++ pages.repr ++ " pages"

def isExecution : SessionError → Bool
  | execution _ => true
  | _ => false

end SessionError

end WideColumn
