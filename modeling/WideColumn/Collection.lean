import WideColumn.Identifier
import WideColumn.QueryError
import WideColumn.Value

namespace WideColumn

namespace Collection

namespace Kind

def ofString? (text : String) : Except QueryError Kind :=
  match Text.spelled? name all (Text.lowerCase (Text.trim text.toList)) with
  | some kind => .ok kind
  | none => .error (.unknownKind text)

def opening : Kind → String
  | set | map => "\x7b"
  | list => "["

def closing : Kind → String
  | set | map => "\x7d"
  | list => "]"

end Kind

inductive Contents where
  | items (values : List Value)
  | pairs (entries : List (Value × Value))
  deriving DecidableEq

namespace Contents

def size : Contents → Nat
  | items values => values.length
  | pairs entries => entries.length

def same : Contents → Contents → Bool
  | items xs, items ys => sameItems Value.same xs ys
  | pairs xs, pairs ys => sameItems (fun x y => x.1.same y.1 && x.2.same y.2) xs ys
  | _, _ => false

end Contents

def pairLiteral (entry : Value × Value) : String :=
  entry.1.literal ++ ":" ++ entry.2.literal

/-- The literals between the delimiters of a kind; none when the contents do not suit it. -/
def parts? : Kind → Contents → Option (List String)
  | .set, .items values | .list, .items values => some (values.map Value.literal)
  | .map, .pairs entries => some (entries.map pairLiteral)
  | _, _ => none

def encode (kind : Kind) (contents : Contents) : Except QueryError String :=
  match parts? kind contents with
  | some parts => .ok (kind.opening ++ ",".intercalate parts ++ kind.closing)
  | none => .error (.wrongShape kind)

end Collection

inductive Delta where
  | add
  | remove
  deriving DecidableEq

namespace Delta

def all : List Delta := [add, remove]

def spelling : Delta → String
  | add => "+"
  | remove => "-"

def ofString? (text : String) : Except QueryError Delta :=
  let sign := Text.trim text.toList
  match Text.spelled? spelling all sign with
  | some delta => .ok delta
  | none => .error (.unknownOperator (String.ofList sign))

end Delta

/-- A write to a collection column: a replacement, unless it carries a delta. -/
structure CollectionWrite where
  kind : Collection.Kind
  column : String
  contents : Collection.Contents
  delta : Option Delta := none
  deriving DecidableEq

namespace CollectionWrite

def literal (w : CollectionWrite) : Except QueryError String :=
  Collection.encode w.kind w.contents

def assign (w : CollectionWrite) (literal : String) : String :=
  let column := Identifier.wrap w.column
  match w.delta with
  | some delta => column ++ "=" ++ column ++ delta.spelling ++ literal
  | none => column ++ "=" ++ literal

def assignment (w : CollectionWrite) : Except QueryError String :=
  w.literal.map w.assign

def same (w v : CollectionWrite) : Bool :=
  w.kind == v.kind && w.column == v.column && w.contents.same v.contents && w.delta == v.delta

end CollectionWrite

end WideColumn
