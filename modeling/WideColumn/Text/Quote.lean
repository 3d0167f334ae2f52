namespace WideColumn.Text

def double (quote : Char) (text : List Char) : List Char :=
  text.flatMap fun c => if c = quote then [quote, quote] else [c]

/-- The text of which `double` makes the given one; none when a quote stands alone. -/
def undouble (quote : Char) : List Char → Option (List Char)
  | [] => some []
  | c :: rest =>
    if c = quote then
      match rest with
      | d :: rest => if d = quote then (undouble quote rest).map (quote :: ·) else none
      | [] => none
    else (undouble quote rest).map (c :: ·)

@[simp] theorem double_nil (quote : Char) : double quote [] = [] := rfl

@[simp] theorem double_cons_self (quote : Char) (rest : List Char) :
    double quote (quote :: rest) = quote :: quote :: double quote rest := by
  simp [double]

theorem double_cons_of_ne {quote c : Char} (h : c ≠ quote) (rest : List Char) :
    double quote (c :: rest) = c :: double quote rest := by
  simp [double, h]

@[simp] theorem double_append (quote : Char) (left right : List Char) :
    double quote (left ++ right) = double quote left ++ double quote right := by
  simp [double]

theorem undouble_double (quote : Char) (text : List Char) :
    undouble quote (double quote text) = some text := by
  induction text with
  | nil => rfl
  | cons c rest ih =>
    by_cases h : c = quote
    · subst h; simp [undouble, ih]
    · rw [double_cons_of_ne h, undouble.eq_def]
      simp [h, ih]

/-- The stretches between one separator and the next; one more than there are separators. -/
def pieces (separator : Char) : List Char → List (List Char)
  | [] => [[]]
  | c :: rest =>
    if c = separator then [] :: pieces separator rest
    else
      match pieces separator rest with
      | piece :: later => (c :: piece) :: later
      | [] => [[c]]

theorem pieces_ne_nil (separator : Char) (text : List Char) :
    pieces separator text ≠ [] := by
  cases text with
  | nil => simp [pieces]
  | cons c rest =>
    simp only [pieces]
    split
    · simp
    · split <;> simp

theorem intercalate_pieces (separator : Char) (text : List Char) :
    [separator].intercalate (pieces separator text) = text := by
  induction text with
  | nil => rfl
  | cons c rest ih =>
    have hne := pieces_ne_nil separator rest
    by_cases h : c = separator
    · subst h
      cases hp : pieces c rest with
      | nil => exact absurd hp hne
      | cons piece later =>
        rw [hp] at ih
        simp [pieces, hp, List.intercalate_cons_cons, ih]
    · cases hp : pieces separator rest with
      | nil => exact absurd hp hne
      | cons piece later =>
        rw [hp] at ih
        cases later with
        | nil => simp_all [pieces]
        | cons next later => simp_all [pieces, List.intercalate_cons_cons]

end WideColumn.Text
