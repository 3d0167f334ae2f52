import WideColumn.Consistency
import WideColumn.Text.Escaped

namespace WideColumn

structure Timeouts where
  requestMillis : UInt64 := 12000
  connectMillis : UInt64 := 5000
  deriving DecidableEq

structure Credentials where
  username : String
  password : String
  deriving DecidableEq

structure Settings where
  keyspace : String
  hosts : List String := ["127.0.0.1"]
  port : UInt16 := 9042
  pageSize : UInt32 := 5000
  consistency : Consistency := .localQuorum
  timeouts : Timeouts := {}
  credentials : Option Credentials := none
  deriving DecidableEq

structure Duration where
  seconds : Nat
  nanos : Nat
  deriving DecidableEq

def Duration.ofMillis (millis : UInt64) : Duration :=
  ⟨millis.toNat / 1000, millis.toNat % 1000 * 1000000⟩

namespace Timeouts

def request (t : Timeouts) : Duration :=
  .ofMillis t.requestMillis

def connect (t : Timeouts) : Duration :=
  .ofMillis t.connectMillis

end Timeouts

inductive Settings.Fault where
  | missing (field : String)
  | invalid (field value : String)
  deriving DecidableEq

def Settings.Fault.message : Settings.Fault → String
  | missing field => "Missing required field: " ++ field
  | invalid field value => "Invalid value for " ++ field ++ ": " ++ value

def Consistency.parse (text : String) : Except Settings.Fault Consistency :=
  match Consistency.ofString? text with
  | some level => .ok level
  | none => .error (.invalid "consistency" text)

namespace Settings

def contactPoints (s : Settings) : List String :=
  s.hosts.map fun host => host ++ ":" ++ s.port.toNat.repr

def isBlankText (text : String) : Bool :=
  (Text.trim text.toList).isEmpty

/-- The first thing that no session could use, if there is one. -/
def fault? (s : Settings) : Option Fault :=
  if isBlankText s.keyspace then some (.missing "keyspace")
  else if s.hosts.isEmpty || s.hosts.any isBlankText then
    some (.invalid "hosts" (Text.escapedList s.hosts))
  else if s.port = 0 then some (.invalid "port" "0")
  else if s.pageSize = 0 then some (.invalid "page_size" "0")
  else if s.consistency.isSerial then
    some (.invalid "consistency"
      (s.consistency.name ++ " is only valid for lightweight transactions"))
  else
    match s.credentials with
    | some credentials =>
      if credentials.username.isEmpty || credentials.password.isEmpty then
        some (.invalid "credentials" "username and password are both required")
      else none
    | none => none

def validate (s : Settings) : Except Fault Unit :=
  match s.fault? with
  | some fault => .error fault
  | none => .ok ()

def showRecord (name : String) (fields : List (String × String)) : String :=
  name ++ " \x7b " ++ ", ".intercalate (fields.map fun (field, text) => field ++ ": " ++ text) ++
    " \x7d"

def showTimeouts (t : Timeouts) : String :=
  showRecord "TimeoutConfig"
    [("request_ms", t.requestMillis.toNat.repr), ("connect_ms", t.connectMillis.toNat.repr)]

def showCredentials : Option Credentials → String
  | some credentials =>
    "Some(" ++
      showRecord "Credentials"
        [("username", Text.escaped credentials.username),
          ("password", Text.escaped "<redacted>")] ++ ")"
  | none => "None"

def shown (s : Settings) : String :=
  showRecord "SessionConfig"
    [("keyspace", Text.escaped s.keyspace), ("hosts", Text.escapedList s.hosts),
      ("port", s.port.toNat.repr), ("page_size", s.pageSize.toNat.repr),
      ("consistency", s.consistency.shown), ("timeouts", showTimeouts s.timeouts),
      ("credentials", showCredentials s.credentials)]

end Settings

end WideColumn
