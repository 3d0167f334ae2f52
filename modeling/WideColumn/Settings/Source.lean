import WideColumn.Settings.Decode
import WideColumn.Toml.Document

namespace WideColumn.Settings

inductive FileFault where
  | missing
  | directory
  | notText
  deriving DecidableEq

inductive Error where
  | malformed
  | unfit (error : DecodeError)
  | refused (fault : Fault)
  | unreadable (path : String) (fault : FileFault)
  deriving DecidableEq

def ofDocument (text : String) : Except Error Settings :=
  match Toml.read text with
  | none => .error .malformed
  | some entries =>
    match ofEntries false entries with
    | .error error => .error (.unfit error)
    | .ok settings =>
      match settings.fault? with
      | some fault => .error (.refused fault)
      | none => .ok settings

inductive Source where
  | nothing
  | directory
  | file (bytes : ByteArray)

/-- The text that is found under a path, which has to be UTF-8. -/
def Source.text : Source → Except FileFault String
  | nothing => .error .missing
  | directory => .error .directory
  | file bytes =>
    match String.fromUTF8? bytes with
    | some text => .ok text
    | none => .error .notText

def load (path : String) (source : Source) : Except Error Settings :=
  match source.text with
  | .ok text => ofDocument text
  | .error fault => .error (.unreadable path fault)

end WideColumn.Settings
