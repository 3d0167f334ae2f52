import WideColumn.Datum
import WideColumn.Settings

/-! Settings found in the data of a document.  Entries are looked at in the order of their keys, and
the first that does not fit is the one complained of.  What nothing asks for is looked through too:
there must be no number in it that cannot be held. -/

namespace WideColumn

inductive DecodeError where
  | wrongType (found expected : String)
  | outOfRange (n : Int) (expected : String)
  | integerOverflow
  | realOverflow
  | missingField (name : String)
  | wrongLength (length : Nat) (expected : String)
  | level (fault : Settings.Fault)
  deriving DecidableEq

namespace DecodeError

def quotedInteger (n : Int) : String :=
  "integer `" ++ String.ofList (Text.signedDigits n) ++ "`"

def message : DecodeError → String
  | wrongType found expected => "invalid type: " ++ found ++ ", expected " ++ expected
  | outOfRange n expected => "invalid value: " ++ quotedInteger n ++ ", expected " ++ expected
  | integerOverflow => "integer number overflowed"
  | realOverflow => "floating-point number overflowed"
  | missingField name => "missing field `" ++ name ++ "`"
  | wrongLength length expected =>
    "invalid length " ++ length.repr ++ ", expected " ++ expected
  | level fault => fault.message

end DecodeError

def Real.shown (x : Real) : Except DecodeError String :=
  match x with
  | finite x =>
    match x.nearest? with
    | some nearest =>
      let digits := nearest.shortest.positional
      .ok <| String.ofList <|
        (if x.negative then ['-'] else []) ++ digits ++
          if digits.contains '.' then [] else ['.', '0']
    | none => .error .realOverflow
  | infinite negative => .ok (if negative then "-inf" else "inf")
  | notNumber => .ok "NaN"

namespace Datum

def isWide (n : Int) : Bool :=
  -170141183460469231731687303715884105728 ≤ n && n < 170141183460469231731687303715884105728

def isWideUnsigned (n : Int) : Bool :=
  0 ≤ n && n < 340282366920938463463374607431768211456

def isWord (n : Int) : Bool :=
  -9223372036854775808 ≤ n && n < 18446744073709551616

def found : Datum → Except DecodeError String
  | .null => .ok "null"
  | .text s => .ok ("string " ++ Text.escaped s)
  | .integer n =>
    if isWord n then .ok (DecodeError.quotedInteger n)
    else if isWide n then .ok (DecodeError.quotedInteger n ++ " as i128")
    else if isWideUnsigned n then .ok (DecodeError.quotedInteger n ++ " as u128")
    else .error .integerOverflow
  | .garbled => .error .integerOverflow
  | .real x => x.shown.map fun shown => "floating point `" ++ shown ++ "`"
  | .boolean b => .ok ("boolean `" ++ (if b then "true" else "false") ++ "`")
  | .list _ | .tables _ => .ok "sequence"
  | .dateTime | .table _ _ => .ok "map"

def refuse {α : Type} (expected : String) (d : Datum) : Except DecodeError α :=
  d.found.bind fun found => .error (.wrongType found expected)

def asText : Datum → Except DecodeError String
  | .text s => .ok s
  | d => d.refuse "a string"

def asUnsigned (bits : Nat) : Datum → Except DecodeError Nat
  | .integer n =>
    let expected := "u" ++ bits.repr
    if 0 ≤ n ∧ n < Nat.pow 2 bits then .ok n.toNat
    else if isWord n then .error (.outOfRange n expected)
    else (Datum.integer n).refuse expected
  | d => d.refuse ("u" ++ bits.repr)

def items? : Datum → Option (List Datum)
  | .list items => some items
  | .tables items => some (items.map (.table .header ·))
  | _ => none

/-- The entries of a table.  A point in time has entries too, but none that is asked for. -/
def entries? : Datum → Option Entries
  | .table _ entries => some entries
  | .dateTime => some []
  | _ => none

def asTexts (d : Datum) : Except DecodeError (List String) :=
  match d.items? with
  | some items => items.mapM asText
  | none => d.refuse "a sequence"

mutual

def skip : Datum → Except DecodeError Unit
  | .list items => skipItems items
  | .tables items => skipTables items
  | .table _ entries => (sortByKey (skipEach entries)).forM (·.2)
  | d => d.found.map fun _ => ()

def skipItems : List Datum → Except DecodeError Unit
  | [] => .ok ()
  | d :: rest => do
    d.skip
    skipItems rest

def skipTables : List (List (String × Datum)) → Except DecodeError Unit
  | [] => .ok ()
  | entries :: rest => do
    (sortByKey (skipEach entries)).forM (·.2)
    skipTables rest

def skipEach : List (String × Datum) → List (String × Except DecodeError Unit)
  | [] => []
  | (key, d) :: rest => (key, d.skip) :: skipEach rest

end

def foldEntries {σ : Type} (take : σ → String → Datum → Except DecodeError σ) (start : σ)
    (entries : Entries) : Except DecodeError σ :=
  (sortByKey entries).foldlM (fun state (key, d) => take state key d) start

def item {α : Type} (read : Datum → Except DecodeError α) (fallback : α) (index : Nat)
    (items : List Datum) : Except DecodeError α :=
  match items[index]? with
  | some d => read d
  | none => .ok fallback

def require (key : String) (entries : Entries) : Except DecodeError Unit :=
  if (find? key entries).isSome then .ok () else .error (.missingField key)

end Datum

namespace Settings

open Datum

def asConsistency (d : Datum) : Except DecodeError Consistency := do
  match Consistency.parse (← d.asText) with
  | .ok level => .ok level
  | .error fault => .error (.level fault)

def asMillis (d : Datum) : Except DecodeError UInt64 :=
  (d.asUnsigned 64).map UInt64.ofNat

/-- Refuses a list longer than the record it stands for, when the format counts. -/
def checkLength (exact : Bool) (size : Nat) (expected : String) (items : List Datum) :
    Except DecodeError Unit :=
  if exact && size < items.length then .error (.wrongLength items.length expected) else .ok ()

def takeTimeout (t : Timeouts) (key : String) (d : Datum) : Except DecodeError Timeouts :=
  if key = "connect_ms" then (asMillis d).map ({ t with connectMillis := · })
  else if key = "request_ms" then (asMillis d).map ({ t with requestMillis := · })
  else d.skip.map fun _ => t

def asTimeouts (exact : Bool) (d : Datum) : Except DecodeError Timeouts :=
  let usual : Timeouts := {}
  match d.items?, d.entries? with
  | some items, _ => do
    let request ← item asMillis usual.requestMillis 0 items
    let connect ← item asMillis usual.connectMillis 1 items
    checkLength exact 2 "struct TimeoutConfig with 2 elements" items
    return ⟨request, connect⟩
  | none, some entries => foldEntries takeTimeout usual entries
  | none, none => d.refuse "struct TimeoutConfig"

def takeCredential (c : Credentials) (key : String) (d : Datum) :
    Except DecodeError Credentials :=
  if key = "password" then d.asText.map ({ c with password := · })
  else if key = "username" then d.asText.map ({ c with username := · })
  else d.skip.map fun _ => c

def asCredentials (exact : Bool) (d : Datum) : Except DecodeError Credentials :=
  let expected := "struct Credentials with 2 elements"
  match d.items?, d.entries? with
  | some (name :: secret :: rest), _ => do
    let username ← name.asText
    let password ← secret.asText
    checkLength exact 0 expected rest
    return ⟨username, password⟩
  | some items, _ => do
    let _ ← items.mapM asText
    .error (.wrongLength items.length expected)
  | none, some entries => do
    let credentials ← foldEntries takeCredential ⟨"", ""⟩ entries
    require "username" entries
    require "password" entries
    return credentials
  | none, none => d.refuse "struct Credentials"

def asOptionalCredentials (exact : Bool) : Datum → Except DecodeError (Option Credentials)
  | .null => .ok none
  | d => some <$> asCredentials exact d

/-- Reads one entry into settings; `exact` tells whether a list in place of a record may not be
longer than it. -/
def takeField (exact : Bool) (s : Settings) (key : String) (d : Datum) :
    Except DecodeError Settings :=
  if key = "consistency" then (asConsistency d).map ({ s with consistency := · })
  else if key = "credentials" then
    (asOptionalCredentials exact d).map ({ s with credentials := · })
  else if key = "hosts" then d.asTexts.map ({ s with hosts := · })
  else if key = "keyspace" then d.asText.map ({ s with keyspace := · })
  else if key = "page_size" then
    (d.asUnsigned 32).map fun n => { s with pageSize := UInt32.ofNat n }
  else if key = "port" then (d.asUnsigned 16).map fun n => { s with port := UInt16.ofNat n }
  else if key = "timeouts" then (asTimeouts exact d).map ({ s with timeouts := · })
  else d.skip.map fun _ => s

def ofEntries (exact : Bool) (entries : Entries) : Except DecodeError Settings := do
  let settings ← foldEntries (takeField exact) { keyspace := "" } entries
  require "keyspace" entries
  return settings

def fieldNames : List String :=
  ["keyspace", "hosts", "port", "page_size", "consistency", "timeouts", "credentials"]

/-- The settings in a piece of data: a table, or a list of the fields in their order. -/
def ofDatum (exact : Bool) (d : Datum) : Except DecodeError Settings :=
  match d.items?, d.entries? with
  | some items, _ => do
    checkLength exact fieldNames.length "struct SessionConfig with 7 elements" items
    ofEntries exact (fieldNames.zip items)
  | none, some entries => ofEntries exact entries
  | none, none => d.refuse "struct SessionConfig"

end Settings

end WideColumn
