import WideColumn.Text.Digits

namespace WideColumn.Toml

def isSpace (c : Char) : Bool :=
  c == ' ' || c == '\t'

/-- The characters that may stand in a text as they are: all but the controls, of which only the tab
is let in. -/
def isTextChar (c : Char) : Bool :=
  c == '\t' || (0x20 ≤ c.toNat && c.toNat != 0x7F)

def endsLine (c : Char) (rest : List Char) : Bool :=
  c == '\n' || (c == '\r' && rest.head? == some '\n')

def newline : List Char → Option (List Char)
  | '\n' :: rest => some rest
  | '\r' :: '\n' :: rest => some rest
  | _ => none

inductive Progress where
  | plain
  /-- After a backslash. -/
  | escape
  /-- In a code point of which so many digits are still due. -/
  | code (due value : Nat)
  /-- After a backslash and blanks: the line has to end. -/
  | lineEnd
  /-- In the blanks and line ends that a backslash at the end of a line takes away. -/
  | gap
  deriving DecidableEq

def escape? (c : Char) : Option Char :=
  if c = 'b' then some '\x08'
  else if c = 't' then some '\t'
  else if c = 'n' then some '\n'
  else if c = 'f' then some '\x0c'
  else if c = 'r' then some '\r'
  else if c = 'e' then some '\x1b'
  else if c = '"' then some '"'
  else if c = '\\' then some '\\'
  else none

def codeWidth? (c : Char) : Option Nat :=
  if c = 'x' then some 2
  else if c = 'u' then some 4
  else if c = 'U' then some 8
  else none

def emit (c : Char) (later : Option (List Char × List Char)) : Option (List Char × List Char) :=
  later.map fun (text, rest) => (c :: text, rest)

/-- What ends a string on many lines, after the first quote of a run: two more, and before them at
most two that belong to the string. -/
def closing (quote : Char) : List Char → Option (List Char × List Char)
  | a :: b :: rest =>
    if a = quote ∧ b = quote then
      some <|
        match rest with
        | c :: d :: later =>
          if c = quote then
            if d = quote then ([quote, quote], later) else ([quote], d :: later)
          else ([], rest)
        | [c] => if c = quote then ([quote], []) else ([], rest)
        | [] => ([], [])
    else none
  | _ => none

def readBasic (multi : Bool) : Progress → List Char → Option (List Char × List Char)
  | _, [] => none
  | .escape, c :: rest =>
    match escape? c, codeWidth? c with
    | some meant, _ => emit meant (readBasic multi .plain rest)
    | none, some due => readBasic multi (.code due 0) rest
    | none, none =>
      if !multi then none
      else if c = '\n' then readBasic multi .gap rest
      else if isSpace c || endsLine c rest then readBasic multi .lineEnd rest
      else none
  | .code due value, c :: rest =>
    match Text.hexValue? c with
    | none => none
    | some digit =>
      let value := 16 * value + digit
      if 1 < due then readBasic multi (.code (due - 1) value) rest
      else if value.isValidChar then emit (Char.ofNat value) (readBasic multi .plain rest)
      else none
  | .lineEnd, c :: rest =>
    if c = '\n' then readBasic multi .gap rest
    else if isSpace c || endsLine c rest then readBasic multi .lineEnd rest
    else none
  | progress, c :: rest =>
    if progress = .gap ∧ (isSpace c || endsLine c rest) then readBasic multi .gap rest
    else if c = '"' then
      if multi then (closing '"' rest).or (emit c (readBasic multi .plain rest))
      else some ([], rest)
    else if c = '\\' then readBasic multi .escape rest
    else if isTextChar c || (multi && endsLine c rest) then
      emit c (readBasic multi .plain rest)
    else none

def readLiteral (multi : Bool) : List Char → Option (List Char × List Char)
  | [] => none
  | c :: rest =>
    if c = '\'' then
      if multi then (closing '\'' rest).or (emit c (readLiteral multi rest))
      else some ([], rest)
    else if isTextChar c || (multi && endsLine c rest) then emit c (readLiteral multi rest)
    else none

def dropFirstLine (text : List Char) : List Char :=
  (newline text).getD text

def openMulti? (quote : Char) : List Char → Option (List Char)
  | a :: b :: c :: rest =>
    if a = quote ∧ b = quote ∧ c = quote then some (dropFirstLine rest) else none
  | _ => none

def readLineString : List Char → Option (List Char × List Char)
  | c :: rest =>
    if c = '"' then readBasic false .plain rest
    else if c = '\'' then readLiteral false rest
    else none
  | [] => none

def readString (text : List Char) : Option (List Char × List Char) :=
  match openMulti? '"' text, openMulti? '\'' text with
  | some rest, _ => readBasic true .plain rest
  | none, some rest => readLiteral true rest
  | none, none => readLineString text

/-! Writing.  A string takes the first form in which nothing has to be escaped. -/

/-- Whether `c` is a control that no form shows as it is; a tab and a line end are not. -/
def isControl (c : Char) : Bool :=
  (c.toNat < 0x20 && c != '\t' && c != '\n') || c.toNat == 0x7F

def longestRun (c : Char) (run : Nat) : List Char → Nat
  | [] => run
  | d :: rest => if d = c then longestRun c (run + 1) rest else max run (longestRun c 0 rest)

def codeDigits (n : Nat) : List Char :=
  Text.padded 4 ((Nat.toDigits 16 n).map Char.toUpper)

def writeChar (multi : Bool) (c : Char) : List Char :=
  if c = '\t' then ['\\', 't']
  else if c = '\n' then if multi then [c] else ['\\', 'n']
  else if c = '\\' then ['\\', '\\']
  else if c = '\x08' then ['\\', 'b']
  else if c = '\x0c' then ['\\', 'f']
  else if c = '\r' then ['\\', 'r']
  else if isControl c then '\\' :: 'u' :: codeDigits c.toNat
  else [c]

/-- The inside of a basic string.  On one line every quote is escaped, on many every third of a run;
`run` counts those that went by since the last escape. -/
def writeBasic (multi : Bool) (run : Nat) : List Char → List Char
  | [] => []
  | c :: rest =>
    if c = '"' then
      if multi && run < 2 then c :: writeBasic multi (run + 1) rest
      else '\\' :: c :: writeBasic multi 0 rest
    else writeChar multi c ++ writeBasic multi 0 rest

/-- Three quotes on either side; a text with more than one line starts on a line of its own. -/
def betweenTriples (quote : Char) (text inside : List Char) : List Char :=
  let quotes := [quote, quote, quote]
  quotes ++ (if '\n' ∈ text then ['\n'] else []) ++ inside ++ quotes

def writeString (text : List Char) : List Char :=
  let clear := !text.any isControl
  let oneLine := !text.contains '\n'
  let noBackslash := !text.contains '\\'
  if clear && oneLine && noBackslash && !text.contains '"' then
    '"' :: writeBasic false 0 text ++ ['"']
  else if clear && oneLine && !text.contains '\'' then '\'' :: text ++ ['\'']
  else if clear && noBackslash && longestRun '"' 0 text ≤ 2 then
    betweenTriples '"' text (writeBasic true 0 text)
  else if clear && longestRun '\'' 0 text ≤ 2 then betweenTriples '\'' text text
  else if oneLine then '"' :: writeBasic false 0 text ++ ['"']
  else betweenTriples '"' text (writeBasic true 0 text)

end WideColumn.Toml
