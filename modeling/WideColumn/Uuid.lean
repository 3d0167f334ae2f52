import WideColumn.Text.Blank
import WideColumn.Text.Digits

namespace WideColumn

structure Uuid where
  digits : List (Fin 16)
  length_digits : digits.length = 32
  deriving DecidableEq

namespace Uuid

def groups : List Nat := [8, 4, 4, 4, 12]

def spread {α : Type} (separator : α) : (sizes : List Nat) → List α → List α
  | [], _ => []
  | [size], items => items.take size
  | size :: sizes, items =>
    items.take size ++ separator :: spread separator sizes (items.drop size)

def toChars (id : Uuid) : List Char :=
  spread '-' groups (id.digits.map Text.hexDigit)

def toString (id : Uuid) : String :=
  String.ofList id.toChars

def ofSimple? (text : List Char) : Option Uuid := do
  let digits ← text.mapM Text.hexValue?
  if h : digits.length = 32 then some ⟨digits, h⟩ else none

def gather (separator : Char) : (sizes : List Nat) → List Char → Option (List Char)
  | [], text => if text.isEmpty then some [] else none
  | [size], text => if text.length = size then some text else none
  | size :: sizes, text => do
    let rest ← Text.expect separator (text.drop size)
    let later ← gather separator sizes rest
    some (text.take size ++ later)

def ofHyphenated? (text : List Char) : Option Uuid :=
  (gather '-' groups text).bind ofSimple?

def urn : List Char :=
  "urn:uuid:".toList

/-- Reads thirty-two digits, or the hyphenated form: bare, in braces or after the URN scheme. -/
def ofChars? (text : List Char) : Option Uuid :=
  if text.length = 32 then ofSimple? text
  else if text.length = 36 then ofHyphenated? text
  else if text.length = 38 then
    if text.head? = some '\x7b' ∧ text.getLast? = some '\x7d' then
      ofHyphenated? ((text.drop 1).take 36)
    else none
  else if text.length = 45 ∧ Text.lowerCase (text.take 9) = urn then
    ofHyphenated? (text.drop 9)
  else none

def ofString? (text : String) : Option Uuid :=
  ofChars? text.toList

end Uuid

end WideColumn
