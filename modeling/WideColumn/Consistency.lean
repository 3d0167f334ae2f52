import WideColumn.Text.Blank

namespace WideColumn

inductive Consistency where
  | any
  | one
  | two
  | three
  | quorum
  | all
  | localQuorum
  | eachQuorum
  | serial
  | localSerial
  | localOne
  deriving DecidableEq

namespace Consistency

def levels : List Consistency :=
  [any, one, two, three, quorum, all, localQuorum, eachQuorum, serial, localSerial, localOne]

def name : Consistency → String
  | any => "ANY"
  | one => "ONE"
  | two => "TWO"
  | three => "THREE"
  | quorum => "QUORUM"
  | all => "ALL"
  | localQuorum => "LOCAL_QUORUM"
  | eachQuorum => "EACH_QUORUM"
  | serial => "SERIAL"
  | localSerial => "LOCAL_SERIAL"
  | localOne => "LOCAL_ONE"

def shown : Consistency → String
  | any => "Any"
  | one => "One"
  | two => "Two"
  | three => "Three"
  | quorum => "Quorum"
  | all => "All"
  | localQuorum => "LocalQuorum"
  | eachQuorum => "EachQuorum"
  | serial => "Serial"
  | localSerial => "LocalSerial"
  | localOne => "LocalOne"

theorem mem_levels (c : Consistency) : c ∈ levels := by
  cases c <;> decide

def isSerial : Consistency → Bool
  | serial | localSerial => true
  | _ => false

def ofString? (text : String) : Option Consistency :=
  Text.spelled? name levels (Text.upperCase (Text.trim text.toList))

end Consistency

end WideColumn
