import WideColumn.Statement

/-! Placeholders of a text: the question marks outside its single-quoted stretches, and what they
stand for. -/

namespace WideColumn

namespace Placeholder

/-- Puts the literals in place of the question marks outside quotes, one after the other.
`quoted` tells whether the text starts inside a quoted stretch; marks left over stay. -/
def fill (quoted : Bool) : (literals : List (List Char)) → List Char → List Char
  | _, [] => []
  | literals, c :: rest =>
    if c = '\'' then c :: fill (!quoted) literals rest
    else if c = '?' ∧ quoted = false then
      match literals with
      | literal :: later => literal ++ fill quoted later rest
      | [] => c :: fill quoted [] rest
    else c :: fill quoted literals rest

def count (quoted : Bool) : List Char → Nat
  | [] => 0
  | c :: rest =>
    if c = '\'' then count (!quoted) rest
    else if c = '?' ∧ quoted = false then count quoted rest + 1
    else count quoted rest

def endsQuoted (quoted : Bool) : List Char → Bool
  | [] => quoted
  | c :: rest => endsQuoted (if c = '\'' then !quoted else quoted) rest

@[simp] theorem fill_nil (quoted : Bool) (literals : List (List Char)) :
    fill quoted literals [] = [] := by
  cases literals <;> rfl

@[simp] theorem fill_quote (quoted : Bool) (literals : List (List Char)) (rest : List Char) :
    fill quoted literals ('\'' :: rest) = '\'' :: fill (!quoted) literals rest := by
  simp [fill]

@[simp] theorem fill_mark (literal : List Char) (later : List (List Char)) (rest : List Char) :
    fill false (literal :: later) ('?' :: rest) = literal ++ fill false later rest := by
  simp [fill]

theorem fill_other {quoted : Bool} {c : Char} (unquoted : c ≠ '\'')
    (unmarked : c = '?' → quoted = true) (literals : List (List Char)) (rest : List Char) :
    fill quoted literals (c :: rest) = c :: fill quoted literals rest := by
  have passed : ¬(c = '?' ∧ quoted = false) := by
    rintro ⟨mark, outside⟩
    simp [unmarked mark] at outside
  simp [fill, unquoted, passed]

@[simp] theorem count_quote (quoted : Bool) (rest : List Char) :
    count quoted ('\'' :: rest) = count (!quoted) rest := by
  simp [count]

@[simp] theorem count_mark (rest : List Char) :
    count false ('?' :: rest) = count false rest + 1 := by
  simp [count]

theorem count_other {quoted : Bool} {c : Char} (unquoted : c ≠ '\'')
    (unmarked : c = '?' → quoted = true) (rest : List Char) :
    count quoted (c :: rest) = count quoted rest := by
  have passed : ¬(c = '?' ∧ quoted = false) := by
    rintro ⟨mark, outside⟩
    simp [unmarked mark] at outside
  simp [count, unquoted, passed]

@[simp] theorem endsQuoted_quote (quoted : Bool) (rest : List Char) :
    endsQuoted quoted ('\'' :: rest) = endsQuoted (!quoted) rest := rfl

theorem endsQuoted_other {quoted : Bool} {c : Char} (unquoted : c ≠ '\'') (rest : List Char) :
    endsQuoted quoted (c :: rest) = endsQuoted quoted rest := by
  simp [endsQuoted, unquoted]

theorem endsQuoted_append (quoted : Bool) (left right : List Char) :
    endsQuoted quoted (left ++ right) = endsQuoted (endsQuoted quoted left) right := by
  induction left generalizing quoted with
  | nil => rfl
  | cons c rest ih => simp [endsQuoted, ih]

theorem count_append (quoted : Bool) (left right : List Char) :
    count quoted (left ++ right) = count quoted left + count (endsQuoted quoted left) right := by
  induction left generalizing quoted with
  | nil => simp [count, endsQuoted]
  | cons c rest ih =>
    simp only [List.cons_append, count, endsQuoted]
    split
    · rw [ih]
    · split
      · rw [ih]
        omega
      · rw [ih]

end Placeholder

def Rendered.inline (r : Rendered) : String :=
  String.ofList (Placeholder.fill false (r.params.map Value.literalChars) r.text.toList)

end WideColumn
