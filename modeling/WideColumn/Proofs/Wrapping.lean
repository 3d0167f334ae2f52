import WideColumn.Proofs.Identifiers
import WideColumn.Proofs.Refusals
import WideColumn.Proofs.RowOrder

namespace WideColumn

namespace Text

variable {quote separator : Char} {text rest : List Char}

theorem pieces_double (apart : separator ≠ quote) (text : List Char) :
    pieces separator (double quote text) = (pieces separator text).map (double quote) := by
  induction text with
  | nil => rfl
  | cons c rest ih =>
      by_cases cuts : c = separator
      · subst cuts
        rw [double_cons_of_ne apart]
        simp only [pieces, if_true, ih, List.map_cons, double_nil]
      · obtain ⟨piece, later, here, there⟩ := pieces_cons_of_ne cuts rest
        rw [here, List.map_cons] at ih
        rw [there, List.map_cons]
        by_cases quoted : c = quote
        · subst quoted
          rw [double_cons_self, double_cons_self, pieces, if_neg cuts, pieces, if_neg cuts, ih]
        · rw [double_cons_of_ne quoted, double_cons_of_ne quoted, pieces, if_neg cuts, ih]

theorem double_eq_iff_of_not_mem (absent : quote ∉ rest) :
    double quote text = rest ↔ text = rest := by
  constructor
  · rintro rfl
    exact (double_eq_self (mt mem_double.mpr absent)).symm
  · rintro rfl
    exact double_eq_self absent

end Text

namespace Identifier

def segments (name : String) : List (List Char) :=
  Text.pieces '.' name.toList

theorem segments_wrap (name : String) :
    segments (wrap name) = (segments name).map (Text.double '"') := by
  rw [segments, toList_wrap_eq_double, Text.pieces_double (by decide), segments]

theorem segments_wrap_eq_wildcard (name : String) (i : Nat) :
    (segments (wrap name))[i]? = some ['*'] ↔ (segments name)[i]? = some ['*'] := by
  rw [segments_wrap, List.getElem?_map, Option.map_eq_some_iff]
  simp [Text.double_eq_iff_of_not_mem]

theorem wrap_inj {name other : String} : wrap name = wrap other ↔ name = other := by
  constructor
  · intro same
    have read := undouble_wrap name
    rw [same, undouble_wrap other, Option.some.injEq, String.toList_inj] at read
    exact read.symm
  · exact congrArg wrap

theorem nodup_map_wrap {names : List String} (distinct : names.Nodup) :
    (names.map wrap).Nodup :=
  distinct.map fun _ _ => wrap_inj.mp

/-- The assignment of a column: behind its name a sign, and what is assigned. -/
def Assigns (column text : String) : Prop :=
  ∃ value, text = wrap column ++ " = " ++ value ∨ text = wrap column ++ "=" ++ value

theorem assigns_of_assignment {w : CollectionWrite} {text : String}
    (assigned : w.assignment = .ok text) : Assigns w.column text := by
  obtain ⟨literal, -, rfl⟩ := CollectionWrite.assignment_eq_ok.mp assigned
  unfold CollectionWrite.assign
  cases w.delta with
  | none => exact ⟨literal, .inr rfl⟩
  | some delta =>
      refine ⟨wrap w.column ++ delta.spelling ++ literal, .inr ?_⟩
      simp [String.append_assoc]

theorem assigns_of_assignments {q : Query} {assignments : List String}
    (assigned : q.assignments = .ok assignments) :
    List.Forall₂ Assigns (q.updates.map CollectionWrite.column) assignments := by
  rw [List.forall₂_map_left_iff]
  exact (mapM_eq_ok.mp assigned).imp fun _ _ => assigns_of_assignment

theorem assigns_plain (row : Row) :
    List.Forall₂ Assigns row.columns (row.entries.map fun entry => wrap entry.1 ++ " = ?") := by
  rw [Row.columns, List.forall₂_map_left_iff, List.forall₂_map_right_iff, List.forall₂_same]
  intro entry _
  refine ⟨"?", .inl ?_⟩
  rw [String.append_assoc]
  rfl

/-- Wrapping doubles the double quotes of a name and does nothing else.  So its segments are as many
and in the same order, its wildcards stay, and undoubling gives the name back; names that differ
stay different.  An insertion or an update names the columns it writes in their order, and as no
column is written twice, no two of these names are the same in its text. -/
theorem wrap_lossless :
    (∀ name : String,
      (wrap name).toList = Text.double '"' name.toList ∧
      segments (wrap name) = (segments name).map (Text.double '"') ∧
      (∀ i : Nat, (segments (wrap name))[i]? = some ['*'] ↔ (segments name)[i]? = some ['*']) ∧
      Text.undouble '"' (wrap name).toList = some name.toList ∧
      ∀ other, wrap name = wrap other ↔ name = other) ∧
    (∀ row writes, Query.checkColumns row writes = .ok () →
      ((row.columns ++ writes.map CollectionWrite.column).map wrap).Nodup) ∧
    (∀ q row rendered, (Statement.insert q row).render = .ok rendered →
      let columns := row.columns ++ q.inserts.map CollectionWrite.column
      (columns.map wrap).Nodup ∧ ∃ table values, values.length = columns.length ∧
        rendered.text = "insert into " ++ wrap table ++ " (" ++
          ", ".intercalate (columns.map wrap) ++ ") values (" ++ ", ".intercalate values ++ ")") ∧
    ∀ q row rendered, (Statement.update q row).render = .ok rendered →
      let columns := row.columns ++ q.updates.map CollectionWrite.column
      (columns.map wrap).Nodup ∧ ∃ table assigned, List.Forall₂ Assigns columns assigned ∧
        rendered.text = "update " ++ wrap table ++ " set" ++
          spaced (if assigned.isEmpty then [] else [", ".intercalate assigned]) ++
          spaced (q.wheres Statement.placeholder) := by
  refine ⟨?_, ?_, ?_, ?_⟩
  · intro name
    exact ⟨toList_wrap_eq_double name, segments_wrap name, segments_wrap_eq_wildcard name,
      undouble_wrap name, fun _ => wrap_inj⟩
  · intro row writes free
    exact nodup_map_wrap (Query.nodup_of_checkColumns free)
  · intro q row rendered written columns
    obtain ⟨-, -, -, free, -⟩ := Query.writeInsert_eq_ok.mp (Statement.render_eq_ok.mp written).1
    obtain ⟨table, literals, -, encoded, text, -⟩ := Row.insert_of_render written
    refine ⟨nodup_map_wrap (Query.nodup_of_checkColumns free), table, _, ?_, text⟩
    simp [columns, Row.columns, (mapM_eq_ok.mp encoded).length_eq]
  · intro q row rendered written columns
    obtain ⟨-, -, -, free, -⟩ := Query.writeUpdate_eq_ok.mp (Statement.render_eq_ok.mp written).1
    obtain ⟨table, assignments, -, assigned, text, -⟩ := Row.update_of_render written
    exact ⟨nodup_map_wrap (Query.nodup_of_checkColumns free), table, _,
      List.rel_append (assigns_plain row) (assigns_of_assignments assigned), text⟩

theorem wrap_lossless_quotes :
    let table := ".*.\"\"a."
    let row := Row.ofList [("\"", .int 1)]
    let write : CollectionWrite := ⟨.set, "\"\"", .items [], none⟩
    let q : Query := { table := some table, inserts := [write], updates := [write] }
    let inserted : Rendered :=
      ⟨"insert into .*.\"\"\"\"a. (\"\", \"\"\"\") values (?, \x7b\x7d)", [.int 1]⟩
    let updated : Rendered :=
      ⟨"update .*.\"\"\"\"a. set \"\" = ?, \"\"\"\"=\x7b\x7d", [.int 1]⟩
    segments table = [[], ['*'], ['"', '"', 'a'], []] ∧
      segments (wrap table) = (segments table).map (Text.double '"') ∧
      Query.checkColumns row [write] = .ok () ∧ (["\"", "\"\""].map wrap).Nodup ∧
      (Statement.insert q row).render = .ok inserted ∧
      (Statement.update q row).render = .ok updated ∧
      ∃ assigned, List.Forall₂ Assigns ["\"", "\"\""] assigned := by
  intro table row write q inserted updated
  have free : Query.checkColumns row [write] = .ok () := by decide +kernel
  have insertion : (Statement.insert q row).render = .ok inserted := by decide +kernel
  have update : (Statement.update q row).render = .ok updated := by decide +kernel
  obtain ⟨names, columns, inserts, updates⟩ := wrap_lossless
  obtain ⟨-, table', assigned, assigns, -⟩ := updates q row updated update
  exact ⟨by decide, (names table).2.1, free, columns row [write] free, insertion, update, assigned,
    assigns⟩

end Identifier

end WideColumn
