import WideColumn.Text.Extending
import WideColumn.Text.Unprintable

namespace WideColumn.Text

def inStretch (stretches : List (Nat × Nat)) (c : Char) : Bool :=
  stretches.any fun (first, last) => first ≤ c.toNat && c.toNat ≤ last

/-- Whether `c` is shown as itself; a printable ASCII character always is. -/
def isPrintable (c : Char) : Bool :=
  (0x20 ≤ c.toNat && c.toNat ≤ 0x7E) ||
    !(inStretch unprintable c || inStretch extending c)

def escapedChar (c : Char) : List Char :=
  if c = '"' then ['\\', '"']
  else if c = '\\' then ['\\', '\\']
  else if c = '\t' then ['\\', 't']
  else if c = '\r' then ['\\', 'r']
  else if c = '\n' then ['\\', 'n']
  else if c.toNat = 0 then ['\\', '0']
  else if isPrintable c then [c]
  else ['\\', 'u', '\x7b'] ++ Nat.toDigits 16 c.toNat ++ ['\x7d']

def escaped (text : String) : String :=
  "\"" ++ String.ofList (text.toList.flatMap escapedChar) ++ "\""

def escapedList (texts : List String) : String :=
  "[" ++ ", ".intercalate (texts.map escaped) ++ "]"

end WideColumn.Text
