import WideColumn.Text.Quote

namespace WideColumn.Identifier

/-- One segment with its double quotes doubled.  The wildcard stands as it is. -/
def wrapSegment (segment : List Char) : List Char :=
  if segment = ['*'] then segment else Text.double '"' segment

def wrapChars (name : List Char) : List Char :=
  ['.'].intercalate ((Text.pieces '.' name).map wrapSegment)

def wrapOne (segment : String) : String :=
  String.ofList (wrapSegment segment.toList)

def wrap (name : String) : String :=
  String.ofList (wrapChars name.toList)

@[simp] theorem toList_wrap (name : String) : (wrap name).toList = wrapChars name.toList := by
  simp [wrap]

def wrapAll (names : List String) : String :=
  ", ".intercalate (names.map wrap)

end WideColumn.Identifier
