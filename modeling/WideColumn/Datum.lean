import WideColumn.Numeral

namespace WideColumn

inductive Real where
  | finite (x : Numeral)
  | infinite (negative : Bool)
  | notNumber
  deriving DecidableEq

namespace Datum

/-- How a table came about, which decides what may still be added to it. -/
inductive Origin where
  | closed
  | header
  | implied
  | dotted
  deriving DecidableEq

end Datum

/-- A piece of data.  `garbled` is an integer whose characters do not make a number. -/
inductive Datum where
  | null
  | text (s : String)
  | integer (n : Int)
  | garbled
  | real (x : Real)
  | boolean (b : Bool)
  | dateTime
  | list (items : List Datum)
  | tables (items : List (List (String × Datum)))
  | table (origin : Datum.Origin) (entries : List (String × Datum))

namespace Datum

abbrev Entries := List (String × Datum)

def find? (key : String) (entries : Entries) : Option Datum :=
  entries.lookup key

def replace (key : String) (value : Datum) : Entries → Entries
  | [] => []
  | (other, held) :: rest =>
    if other = key then (other, value) :: rest else (other, held) :: replace key value rest

def insertByKey {α : Type} (entry : String × α) : List (String × α) → List (String × α)
  | [] => [entry]
  | other :: rest =>
    if other.1 < entry.1 then other :: insertByKey entry rest else entry :: other :: rest

/-- The entries in the order of their keys, by code point. -/
def sortByKey {α : Type} (entries : List (String × α)) : List (String × α) :=
  entries.foldr insertByKey []

end Datum

end WideColumn
