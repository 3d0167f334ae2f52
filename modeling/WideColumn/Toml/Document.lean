import WideColumn.Toml.Scalar
import WideColumn.Toml.Table

namespace WideColumn.Toml

open Datum (Entries)

def skipSpaces (text : List Char) : List Char :=
  text.dropWhile isSpace

def dropComment : List Char → List Char
  | '#' :: rest => rest.dropWhile isTextChar
  | text => text

/-- Blanks and a comment up to the end of the line or of the text; gives the lines after it. -/
def endLine (text : List Char) : Option (List Char) :=
  match dropComment (skipSpaces text) with
  | [] => some []
  | rest => newline rest

def skipGap (comment : Bool) : List Char → Option (List Char)
  | [] => some []
  | c :: rest =>
    if endsLine c rest then skipGap false rest
    else if comment then if isTextChar c then skipGap true rest else none
    else if c = '#' then skipGap true rest
    else if isSpace c then skipGap false rest
    else some (c :: rest)

def isBareKeyChar (c : Char) : Bool :=
  c.isAlphanum || c == '_' || c == '-'

def readKey (text : List Char) : Option (String × List Char) :=
  match text.takeWhile isBareKeyChar with
  | [] => (readLineString text).map fun (key, rest) => (String.ofList key, rest)
  | key => some (String.ofList key, text.drop key.length)

/-- How many keys may be joined by dots, and how deep arrays and tables in braces may stand in one
another. -/
def depthLimit : Nat := 80

def readKeys : (limit : Nat) → List Char → Option (List String × List Char)
  | 0, _ => none
  | limit + 1, text => do
    let (key, rest) ← readKey (skipSpaces text)
    match skipSpaces rest with
    | '.' :: rest => do
      let (path, rest) ← readKeys limit rest
      some (key :: path, rest)
    | rest => some ([key], rest)

def readPath (text : List Char) : Option (List String × List Char) :=
  readKeys depthLimit text

mutual

def readValue : (fuel depth : Nat) → List Char → Option (Datum × List Char)
  | 0, _, _ => none
  | _, _, [] => none
  | fuel + 1, depth, c :: rest =>
    if c = '[' then
      if depth = 0 then none
      else (readItems fuel (depth - 1) rest).map fun (items, rest) => (.list items, rest)
    else if c = '\x7b' then
      if depth = 0 then none
      else (readMembers fuel (depth - 1) [] rest).map fun (entries, rest) =>
        (.table .closed entries, rest)
    else if c = '"' ∨ c = '\'' then
      (readString (c :: rest)).map fun (text, rest) => (.text (String.ofList text), rest)
    else readScalar (c :: rest)

def readItems : (fuel depth : Nat) → List Char → Option (List Datum × List Char)
  | 0, _, _ => none
  | fuel + 1, depth, text => do
    match ← skipGap false text with
    | ']' :: rest => some ([], rest)
    | text => do
      let (item, rest) ← readValue fuel depth text
      match ← skipGap false rest with
      | ',' :: rest => do
        let (items, rest) ← readItems fuel depth rest
        some (item :: items, rest)
      | ']' :: rest => some ([item], rest)
      | _ => none

def readMembers : (fuel depth : Nat) → Entries → List Char → Option (Entries × List Char)
  | 0, _, _, _ => none
  | fuel + 1, depth, entries, text => do
    match ← skipGap false text with
    | '\x7d' :: rest => some (entries, rest)
    | text => do
      let (path, rest) ← readPath text
      let rest ← Text.expect '=' (← skipGap false rest)
      let (value, rest) ← readValue fuel depth (← skipGap false rest)
      let entries ← assign value path true entries
      match ← skipGap false rest with
      | ',' :: rest => readMembers fuel depth entries rest
      | '\x7d' :: rest => some (entries, rest)
      | _ => none

end

inductive Line where
  | value (path : List String) (value : Datum)
  | header (repeated : Bool) (path : List String)

def readLine (text : List Char) : Option (Line × List Char) :=
  match text with
  | '[' :: '[' :: rest => do
    let (path, rest) ← readPath rest
    let rest ← Text.expect ']' rest
    let rest ← Text.expect ']' rest
    some (.header true path, ← endLine rest)
  | '[' :: rest => do
    let (path, rest) ← readPath rest
    let rest ← Text.expect ']' rest
    some (.header false path, ← endLine rest)
  | text => do
    let (path, rest) ← readPath text
    let rest ← Text.expect '=' rest
    let (value, rest) ← readValue (2 * rest.length + 2) depthLimit (skipSpaces rest)
    some (.value path value, ← endLine rest)

def readLines : (fuel : Nat) → List Char → Option (List Line)
  | 0, _ => none
  | fuel + 1, text =>
    match skipSpaces text with
    | [] => some []
    | text =>
      match endLine text with
      | some rest => readLines fuel rest
      | none => do
        let (line, rest) ← readLine text
        (readLines fuel rest).map (line :: ·)

def sections : List Line → List (List String × Datum) × List Section
  | [] => ([], [])
  | .value path value :: rest =>
    let (values, later) := sections rest
    ((path, value) :: values, later)
  | .header repeated path :: rest =>
    let (values, later) := sections rest
    ([], ⟨path, repeated, values⟩ :: later)

def dropMark : List Char → List Char
  | '\uFEFF' :: rest => rest
  | text => text

def read (text : String) : Option Entries := do
  let text := dropMark text.toList
  let lines ← readLines (text.length + 1) text
  let (values, later) := sections lines
  assemble values later

end WideColumn.Toml
