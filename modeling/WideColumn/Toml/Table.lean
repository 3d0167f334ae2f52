import WideColumn.Datum

/-! Tables of TOML documents as keys and headers add to them.  Nothing is ever defined twice. -/

namespace WideColumn.Toml

open Datum (Entries Origin)

def changeLast {α : Type} (change : α → Option α) : List α → Option (List α)
  | [] => none
  | [last] => (change last).map ([·])
  | first :: rest => (changeLast change rest).map (first :: ·)

/-- Adds a value under a dotted key.  The tables on the way are those that dotted keys made; `own`
tells whether the table at hand may be added to by this key. -/
def assign (value : Datum) : (path : List String) → (own : Bool) → Entries → Option Entries
  | [], _, _ => none
  | [key], own, entries =>
    if own && (Datum.find? key entries).isNone then some (entries ++ [(key, value)]) else none
  | key :: path, _, entries =>
    match Datum.find? key entries with
    | none => (assign value path true []).map fun inner =>
        entries ++ [(key, .table .dotted inner)]
    | some (.table origin inner) =>
      if origin = .dotted ∨ origin = .implied then
        (assign value path (origin = .dotted) inner).map fun inner =>
          Datum.replace key (.table origin inner) entries
      else none
    | some (.tables items) => (changeLast (assign value path false) items).map fun items =>
        Datum.replace key (.tables items) entries
    | some _ => none

def assignAll (entries : Entries) (values : List (List String × Datum)) : Option Entries :=
  values.foldlM (fun entries (path, value) => assign value path true entries) entries

structure Section where
  path : List String
  /-- Whether the header adds one more table to an array of them. -/
  repeated : Bool
  values : List (List String × Datum)

def addSection (repeated : Bool) (values : List (List String × Datum)) :
    (path : List String) → Entries → Option Entries
  | [], _ => none
  | [key], entries =>
    match Datum.find? key entries, repeated with
    | none, false => (assignAll [] values).map fun inner =>
        entries ++ [(key, .table .header inner)]
    | none, true => (assignAll [] values).map fun inner => entries ++ [(key, .tables [inner])]
    | some (.table .implied inner), false => (assignAll inner values).map fun inner =>
        Datum.replace key (.table .header inner) entries
    | some (.tables items), true => (assignAll [] values).map fun inner =>
        Datum.replace key (.tables (items ++ [inner])) entries
    | _, _ => none
  | key :: path, entries =>
    match Datum.find? key entries with
    | none => (addSection repeated values path []).map fun inner =>
        entries ++ [(key, .table .implied inner)]
    | some (.table .closed _) => none
    | some (.table origin inner) => (addSection repeated values path inner).map fun inner =>
        Datum.replace key (.table origin inner) entries
    | some (.tables items) => (changeLast (addSection repeated values path) items).map fun items =>
        Datum.replace key (.tables items) entries
    | some _ => none

def assemble (values : List (List String × Datum)) (sections : List Section) : Option Entries := do
  let entries ← assignAll [] values
  sections.foldlM (fun entries s => addSection s.repeated s.values s.path entries) entries

end WideColumn.Toml
