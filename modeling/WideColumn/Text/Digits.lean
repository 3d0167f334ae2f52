namespace WideColumn.Text

def digitsOf (n : Nat) : List Char :=
  Nat.toDigits 10 n

def ofDigits (digits : List Char) : Nat :=
  Nat.ofDigitChars 10 digits 0

@[simp] theorem ofDigits_digitsOf (n : Nat) : ofDigits (digitsOf n) = n :=
  Nat.ofDigitChars_toDigits (by decide) (by decide)

theorem isDigit_of_mem_digitsOf {n : Nat} {c : Char} (h : c ∈ digitsOf n) :
    c.isDigit = true :=
  Nat.isDigit_of_mem_toDigits (by decide) (by decide) h

theorem digitsOf_ne_nil (n : Nat) : digitsOf n ≠ [] :=
  Nat.toDigits_ne_nil

def signedDigits : Int → List Char
  | .ofNat n => digitsOf n
  | .negSucc n => '-' :: digitsOf (n + 1)

def padded (width : Nat) (digits : List Char) : List Char :=
  List.replicate (width - digits.length) '0' ++ digits

/-- `digits` with a point before the last `scale` of them; with none when `scale` is zero. -/
def pointed (scale : Nat) (digits : List Char) : List Char :=
  let digits := padded (scale + 1) digits
  let whole := digits.length - scale
  if scale = 0 then digits else digits.take whole ++ '.' :: digits.drop whole

def readDigits (width : Nat) (text : List Char) : Option (Nat × List Char) :=
  match (text.take width).takeWhile Char.isDigit with
  | [] => none
  | digits => some (ofDigits digits, text.drop digits.length)

def readFixed (width : Nat) (text : List Char) : Option (Nat × List Char) :=
  let digits := (text.take width).takeWhile Char.isDigit
  if digits.length = width then some (ofDigits digits, text.drop width) else none

def expect (c : Char) : List Char → Option (List Char)
  | d :: rest => if d = c then some rest else none
  | [] => none

@[simp] theorem expect_cons_self (c : Char) (rest : List Char) :
    expect c (c :: rest) = some rest := by
  simp [expect]

def hexValue? (c : Char) : Option (Fin 16) :=
  if '0' ≤ c ∧ c ≤ '9' then some (Fin.ofNat 16 (c.toNat - 48))
  else if 'a' ≤ c ∧ c ≤ 'f' then some (Fin.ofNat 16 (c.toNat - 87))
  else if 'A' ≤ c ∧ c ≤ 'F' then some (Fin.ofNat 16 (c.toNat - 55))
  else none

def hexDigit (d : Fin 16) : Char :=
  Nat.digitChar d

@[simp] theorem hexValue?_hexDigit (d : Fin 16) : hexValue? (hexDigit d) = some d := by
  revert d; decide

end WideColumn.Text
