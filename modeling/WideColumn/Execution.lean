import WideColumn.Settings
import WideColumn.Statement

namespace WideColumn

structure ExecutionError where
  detail : String
  cause : Option String := none
  deriving DecidableEq

namespace ExecutionError

def message (e : ExecutionError) : String :=
  "Execution failed: " ++ e.detail

def causedBy (detail : String) (cause : ExecutionError) : ExecutionError :=
  ⟨detail, some cause.message⟩

end ExecutionError

structure Options where
  pageSize : UInt32 := 5000
  consistency : Consistency := .localQuorum
  requestTimeout : Duration := Timeouts.request {}
  deriving DecidableEq

namespace Options

def ofSettings (s : Settings) : Options where
  pageSize := s.pageSize
  consistency := s.consistency
  requestTimeout := s.timeouts.request

end Options

structure Execution where
  statement : Rendered
  options : Options
  deriving DecidableEq

end WideColumn
