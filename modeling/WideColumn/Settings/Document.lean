import WideColumn.Settings
import WideColumn.Toml.Quoted

namespace WideColumn.Settings

inductive Field where
  | text (s : String)
  | number (n : Nat)
  | texts (items : List String)
  deriving DecidableEq

def writeText (s : String) : List Char :=
  Toml.writeString s.toList

/-- An array: on one line up to one item, else with a line for each. -/
def writeTexts : List String → List Char
  | [] => ['[', ']']
  | [item] => '[' :: writeText item ++ [']']
  | items =>
    '[' :: '\n' :: items.flatMap (fun item => "    ".toList ++ writeText item ++ [',', '\n']) ++
      [']']

def Field.write : Field → List Char
  | text s => writeText s
  | number n => Text.digitsOf n
  | texts items => writeTexts items

structure Part where
  table : Option String
  fields : List (String × Field)
  deriving DecidableEq

def Part.write (p : Part) : List Char :=
  (match p.table with
    | some name => '\n' :: '[' :: name.toList ++ [']', '\n']
    | none => []) ++
  p.fields.flatMap fun (key, field) => key.toList ++ " = ".toList ++ field.write ++ ['\n']

def parts (s : Settings) : List Part :=
  [⟨none,
      [("keyspace", .text s.keyspace), ("hosts", .texts s.hosts), ("port", .number s.port.toNat),
        ("page_size", .number s.pageSize.toNat), ("consistency", .text s.consistency.name)]⟩,
    ⟨some "timeouts",
      [("request_ms", .number s.timeouts.requestMillis.toNat),
        ("connect_ms", .number s.timeouts.connectMillis.toNat)]⟩] ++
  match s.credentials with
  | some credentials =>
    [⟨some "credentials",
      [("username", .text credentials.username), ("password", .text credentials.password)]⟩]
  | none => []

def writeParts (parts : List Part) : String :=
  String.ofList (parts.flatMap Part.write)

def toDocument (s : Settings) : String :=
  writeParts s.parts

end WideColumn.Settings
