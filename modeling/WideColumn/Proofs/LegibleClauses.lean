import WideColumn.Proofs.LegibleLiterals

/-! The parts of statements can be told apart: assignments, predicates and the where clause. -/

namespace WideColumn

open Identifier (Safe isWord wrapChars)

inductive Assigned where
  | plain (column : String)
  | collection (write : CollectionWrite)

/-- What the text of a write to a collection column shows. -/
structure CollectionWrite.Shown where
  column : String
  delta : Option Delta
  collection : Collection.Shown

def CollectionWrite.shown (w : CollectionWrite) : CollectionWrite.Shown :=
  ⟨w.column, w.delta, Collection.shown w.kind w.contents⟩

namespace Assigned

def column : Assigned → String
  | plain column => column
  | collection write => write.column

def valueChars : Assigned → List Char
  | plain _ => "?".toList
  | collection write => Collection.chars write.kind write.contents

def valueShown : Assigned → Option Collection.Shown
  | plain _ => none
  | collection write => some (Collection.shown write.kind write.contents)

def writeChars (write : CollectionWrite) : List Char :=
  match write.delta with
  | some delta =>
    wrapChars write.column.toList ++ delta.spelling.toList ++
      Collection.chars write.kind write.contents
  | none => Collection.chars write.kind write.contents

def assignedChars : Assigned → List Char
  | plain _ => " = ?".toList
  | collection write => "=".toList ++ writeChars write

def chars (a : Assigned) : List Char :=
  wrapChars a.column.toList ++ a.assignedChars

def shown : Assigned → String ⊕ CollectionWrite.Shown
  | plain column => .inl column
  | collection write => .inr write.shown

theorem valueChars_append_ne (a : Assigned) (x : List Char) {y : List Char} :
    a.valueChars ++ x ≠ ')' :: y := by
  intro same
  cases a with
  | plain column => simp [valueChars] at same
  | collection write =>
      obtain ⟨c, rest, spelled, rfl | rfl⟩ := Collection.exists_cons_chars write.kind write.contents
      · simp [valueChars, spelled] at same
      · simp [valueChars, spelled] at same

theorem legible_values :
    Legible (fun _ => True) valueChars valueShown (fun _ => True) := by
  have apart (write : CollectionWrite) {x y : List Char} :
      "?".toList ++ x ≠ Collection.chars write.kind write.contents ++ y := by
    intro same
    obtain ⟨c, rest, spelled, rfl | rfl⟩ := Collection.exists_cons_chars write.kind write.contents
    · simp [spelled] at same
    · simp [spelled] at same
  intro a b x y _ _ _ _ same
  cases a with
  | plain column =>
      cases b with
      | plain other => exact ⟨rfl, List.append_cancel_left same⟩
      | collection write => exact absurd same (apart write)
  | collection write =>
      cases b with
      | plain other => exact absurd same.symm (apart write)
      | collection other =>
          obtain ⟨collections, rest⟩ := Collection.chars_append_inj same
          exact ⟨congrArg some collections, rest⟩

theorem delta_append_inj {delta other : Delta} {x y : List Char}
    (same : delta.spelling.toList ++ x = other.spelling.toList ++ y) : delta = other ∧ x = y := by
  cases delta <;> cases other <;> simp_all [Delta.spelling]

theorem writeChars_append_inj {write other : CollectionWrite} {x y : List Char}
    (safe : Safe write.column) (columns : write.column = other.column)
    (same : writeChars write ++ x = writeChars other ++ y) :
    write.shown = other.shown ∧ x = y := by
  have apart (kind : Collection.Kind) (contents : Collection.Contents) {x y : List Char} :
      Collection.chars kind contents ++ x ≠ wrapChars write.column.toList ++ y := by
    intro same
    obtain ⟨c, rest, spelled, rfl | rfl⟩ := Collection.exists_cons_chars kind contents
    · rw [spelled] at same
      exact safe.append_ne_cons (by decide) same.symm
    · rw [spelled] at same
      exact safe.append_ne_cons (by decide) same.symm
  -- A replacement begins with the bracket of its collection, a delta with the column again.
  unfold writeChars at same
  rw [← columns] at same
  cases left : write.delta with
  | none =>
      cases right : other.delta with
      | none =>
          simp only [left, right] at same
          obtain ⟨collections, rest⟩ := Collection.chars_append_inj same
          exact ⟨by simp only [CollectionWrite.shown, columns, left, right, collections], rest⟩
      | some delta =>
          simp only [left, right, List.append_assoc] at same
          exact absurd same (apart write.kind write.contents)
  | some delta =>
      cases right : other.delta with
      | none =>
          simp only [left, right, List.append_assoc] at same
          exact absurd same.symm (apart other.kind other.contents)
      | some delta' =>
          simp only [left, right, List.append_assoc] at same
          obtain ⟨deltas, same⟩ := delta_append_inj (List.append_cancel_left same)
          obtain ⟨collections, rest⟩ := Collection.chars_append_inj same
          exact ⟨by simp only [CollectionWrite.shown, columns, left, right, deltas, collections],
            rest⟩

theorem breaks_assignedChars (a : Assigned) (x : List Char) :
    Breaks isWord (a.assignedChars ++ x) := by
  cases a with
  | plain column => simp [assignedChars, isWord]
  | collection write => simp [assignedChars, isWord]

theorem legible :
    Legible (fun a => Safe a.column) chars shown (fun _ => True) := by
  intro a b x y left right _ _ same
  simp only [chars, List.append_assoc] at same
  obtain ⟨columns, same⟩ := Identifier.legible left right (breaks_assignedChars a x)
    (breaks_assignedChars b y) same
  cases a with
  | plain column =>
      cases b with
      | plain other => exact ⟨congrArg Sum.inl columns, List.append_cancel_left same⟩
      | collection other => simp [assignedChars] at same
  | collection write =>
      cases b with
      | plain other => simp [assignedChars] at same
      | collection other =>
          simp only [assignedChars, List.append_assoc] at same
          obtain ⟨writes, rest⟩ := writeChars_append_inj left columns (List.append_cancel_left same)
          exact ⟨congrArg Sum.inr writes, rest⟩

end Assigned

namespace Predicate

def count? (p : Predicate) : Option Nat :=
  match p.operand with
  | .single _ => none
  | .many values => some values.length

def shown (p : Predicate) : String × Operator × Option Nat :=
  (p.column, p.operator, p.count?)

def operandChars : Operand → List Char
  | .single _ => "?".toList
  | .many values =>
    "(".toList ++ (joined [] ", ".toList (values.map fun _ => "?".toList) ++ ")".toList)

def comparison (p : Predicate) : List Char :=
  " ".toList ++ (p.operator.spelling.toList ++ " ".toList)

def chars (p : Predicate) : List Char :=
  wrapChars p.column.toList ++ (p.comparison ++ operandChars p.operand)

theorem toList_write (p : Predicate) : (p.write Statement.placeholder).toList = p.chars := by
  cases operand : p.operand with
  | single value => simp [write, chars, comparison, operand, operandChars, Statement.placeholder]
  | many values =>
      simp [write, chars, comparison, operand, operandChars, joined_eq_intercalate,
        String.toList_intercalate, Function.comp_def, Statement.placeholder]

theorem operandChars_append_inj {p r : Predicate} {x y : List Char}
    (same : operandChars p.operand ++ x = operandChars r.operand ++ y) :
    p.count? = r.count? ∧ x = y := by
  have marks :
      Legible (fun _ : Value => True) (fun _ => "?".toList) (fun _ => ()) fun _ => True := by
    intro _ _ x y _ _ _ _ same
    exact ⟨rfl, List.append_cancel_left same⟩
  have ends (x : List Char) : EndsJoined (fun _ : Value => True) (fun _ => "?".toList)
      (fun _ => True) [] ", ".toList (")".toList ++ x) :=
    ⟨trivial, by simp, by simp⟩
  cases left : p.operand with
  | single value =>
      cases right : r.operand with
      | single other =>
          rw [left, right] at same
          exact ⟨by simp only [count?, left, right], List.append_cancel_left same⟩
      | many others => simp [left, right, operandChars] at same
  | many values =>
      cases right : r.operand with
      | single other => simp [left, right, operandChars] at same
      | many others =>
          simp only [left, right, operandChars, List.append_assoc] at same
          obtain ⟨units, same⟩ := marks.joined (fun _ => trivial) (fun _ _ => trivial)
            (fun _ _ => trivial) (ends x) (ends y) (List.append_cancel_left same)
          have lengths := congrArg List.length units
          rw [List.length_map, List.length_map] at lengths
          exact ⟨by simp only [count?, left, right, lengths], List.append_cancel_left same⟩

theorem breaks_operandChars (operand : Operand) (x : List Char) :
    Breaks (fun c => c != '?' && c != '(') (operandChars operand ++ x) := by
  cases operand <;> simp [operandChars]

theorem comparison_append_inj {p r : Predicate} {x y : List Char}
    (same : p.comparison ++ (operandChars p.operand ++ x) =
      r.comparison ++ (operandChars r.operand ++ y)) :
    p.operator = r.operator ∧ operandChars p.operand ++ x = operandChars r.operand ++ y := by
  have within (op : Operator) : ∀ c ∈ " ".toList ++ (op.spelling.toList ++ " ".toList),
      (c != '?' && c != '(') = true := by
    rw [← List.all_eq_true]
    cases op <;> decide
  have spelled : ∀ op op' : Operator, op.spelling.toList = op'.spelling.toList → op = op' := by
    intro op op'
    cases op <;> cases op' <;> decide
  obtain ⟨comparisons, rest⟩ := Legible.run _ (within p.operator) (within r.operator)
    (breaks_operandChars p.operand x) (breaks_operandChars r.operand y) same
  exact ⟨spelled _ _ (List.append_cancel_right (List.append_cancel_left comparisons)), rest⟩

theorem legible :
    Legible (fun p => Safe p.column) chars shown (fun _ => True) := by
  intro p r x y left right _ _ same
  have breaks (p : Predicate) (x : List Char) :
      Breaks isWord (p.comparison ++ (operandChars p.operand ++ x)) := by
    simp [comparison, isWord]
  simp only [chars, List.append_assoc] at same
  obtain ⟨columns, same⟩ := Identifier.legible left right (breaks p x) (breaks r y) same
  obtain ⟨operators, same⟩ := comparison_append_inj same
  obtain ⟨counts, rest⟩ := operandChars_append_inj same
  have columns : p.column = r.column := columns
  exact ⟨by simp only [shown, columns, operators, counts], rest⟩

end Predicate

def whereChars (predicates : List Predicate) : List Char :=
  joined " where ".toList " and ".toList (predicates.map Predicate.chars)

theorem breaks_whereChars (predicates : List Predicate) {x : List Char} (breaks : Breaks isWord x) :
    Breaks isWord (whereChars predicates ++ x) := by
  cases predicates with
  | nil => exact breaks
  | cons p predicates => simp [whereChars, isWord]

theorem legible_wheres :
    Legible (fun predicates : List Predicate => ∀ p ∈ predicates, Safe p.column) whereChars
      (List.map Predicate.shown) (fun x => ¬" and ".toList <+: x ∧ ¬" where ".toList <+: x) := by
  apply (Predicate.legible.joined fun _ => trivial).mono
  intro x ends
  refine ⟨trivial, ends.1, ?_⟩
  intro p rest _ _ same
  exact ends.2 ⟨_, same.symm⟩

theorem nothing_follows : ¬" and ".toList <+: [] ∧ ¬" where ".toList <+: [] := by
  simp

end WideColumn
