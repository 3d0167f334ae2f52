import Mathlib.Data.List.Forall2
import WideColumn.Statement

/-! When a statement renders, and the text it then has. -/

namespace WideColumn

def spaced (parts : List String) : String :=
  parts.foldr (fun part rest => " " ++ part ++ rest) ""

@[simp] theorem spaced_nil : spaced [] = "" := rfl

@[simp] theorem spaced_cons (part : String) (parts : List String) :
    spaced (part :: parts) = " " ++ part ++ spaced parts := rfl

@[simp] theorem spaced_append (left right : List String) :
    spaced (left ++ right) = spaced left ++ spaced right := by
  induction left with
  | nil => simp
  | cons part parts ih => simp [ih, String.append_assoc]

theorem intercalate_space (part : String) (parts : List String) :
    " ".intercalate (part :: parts) = part ++ spaced parts := by
  induction parts generalizing part with
  | nil => simp
  | cons next parts ih =>
      rw [String.intercalate_cons_cons, ih, spaced_cons]
      simp [String.append_assoc]

theorem mapM_eq_ok {ε α β : Type} {f : α → Except ε β} {items : List α} {results : List β} :
    items.mapM f = .ok results ↔
      List.Forall₂ (fun item result => f item = .ok result) items results := by
  induction items generalizing results with
  | nil =>
      rw [List.mapM_nil, pure_eq_ok, List.forall₂_nil_left_iff, eq_comm]
  | cons item items ih =>
      simp only [List.mapM_cons, bind_eq_ok, pure_eq_ok, ih, List.forall₂_cons_left_iff]
      constructor
      · rintro ⟨result, here, later, there, rfl⟩
        exact ⟨result, later, here, there, rfl⟩
      · rintro ⟨result, later, here, there, rfl⟩
        exact ⟨result, here, later, there, rfl⟩

theorem exists_mem_of_mapM_eq_ok {ε α β : Type} {f : α → Except ε β} {items : List α}
    {results : List β} (mapped : items.mapM f = .ok results) {result : β}
    (member : result ∈ results) : ∃ item ∈ items, f item = .ok result := by
  induction mapM_eq_ok.mp mapped with
  | nil => cases member
  | @cons item result' items results here there ih =>
      rcases List.mem_cons.mp member with rfl | later
      · exact ⟨item, List.mem_cons_self, here⟩
      · obtain ⟨other, present, found⟩ := ih (mapM_eq_ok.mpr there) later
        exact ⟨other, List.mem_cons_of_mem item present, found⟩

namespace Collection

theorem encode_eq_ok {kind : Kind} {contents : Contents} {text : String} :
    encode kind contents = .ok text ↔
      ∃ parts, parts? kind contents = some parts ∧
        text = kind.opening ++ ",".intercalate parts ++ kind.closing := by
  unfold encode
  cases parts? kind contents with
  | none => simp
  | some parts => simp [eq_comm]

theorem encode_eq_error {kind : Kind} {contents : Contents} {error : QueryError} :
    encode kind contents = .error error ↔
      parts? kind contents = none ∧ error = .wrongShape kind := by
  unfold encode
  cases parts? kind contents with
  | none => simp [eq_comm]
  | some parts => simp

/-- Contents that a kind cannot hold: single items in a map, pairs in a set or a list. -/
inductive Misfit : Kind → Contents → Prop
  | items (values : List Value) : Misfit .map (.items values)
  | pairs {kind : Kind} (flat : kind ≠ .map) (entries : List (Value × Value)) :
      Misfit kind (.pairs entries)

theorem parts?_eq_none {kind : Kind} {contents : Contents} :
    parts? kind contents = none ↔ Misfit kind contents := by
  constructor
  · intro unshaped
    cases contents with
    | items values =>
        cases kind with
        | map => exact .items values
        | set | list => cases unshaped
    | pairs entries =>
        cases kind with
        | map => cases unshaped
        | set | list => exact .pairs Kind.noConfusion entries
  · intro misfit
    cases misfit with
    | items values => rfl
    | pairs flat entries =>
        cases kind with
        | map => exact absurd rfl flat
        | set | list => rfl

instance (kind : Kind) (contents : Contents) : Decidable (Misfit kind contents) :=
  decidable_of_iff (parts? kind contents = none) parts?_eq_none

theorem parts?_eq_some {kind : Kind} {contents : Contents} {parts : List String}
    (shaped : parts? kind contents = some parts) :
    (∃ values, contents = .items values ∧ kind ≠ .map ∧ parts = values.map Value.literal) ∨
      ∃ entries, contents = .pairs entries ∧ kind = .map ∧ parts = entries.map pairLiteral := by
  cases contents with
  | items values =>
      cases kind with
      | map => cases shaped
      | set | list =>
          cases shaped
          exact .inl ⟨values, rfl, Kind.noConfusion, rfl⟩
  | pairs entries =>
      cases kind with
      | map =>
          cases shaped
          exact .inr ⟨entries, rfl, rfl, rfl⟩
      | set | list => cases shaped

end Collection

namespace CollectionWrite

theorem assignment_eq_ok {w : CollectionWrite} {text : String} :
    w.assignment = .ok text ↔ ∃ literal, w.literal = .ok literal ∧ text = w.assign literal := by
  cases encoded : w.literal with
  | error error => simp [assignment, encoded, Except.map]
  | ok literal => simp [assignment, encoded, Except.map, eq_comm]

end CollectionWrite

namespace Query

def wheres (slot : Slot) (q : Query) : List String :=
  if q.predicates.isEmpty then []
  else
    ["where " ++
      (" " ++ Predicate.connective ++ " ").intercalate (q.predicates.map (Predicate.write slot))]

theorem tableName_eq_ok {q : Query} {name : String} :
    q.tableName = .ok name ↔ ∃ table, q.table = some table ∧ name = Identifier.wrap table := by
  cases named : q.table with
  | none => simp [tableName, named]
  | some table => simp [tableName, named, eq_comm]

theorem tableName_eq_error {q : Query} {error : QueryError} :
    q.tableName = .error error ↔ q.table = none ∧ error = .missingTable := by
  cases named : q.table with
  | none => simp [tableName, named, eq_comm]
  | some table => simp [tableName, named]

theorem whereClause_eq_ok {slot : Slot} {q : Query} {parts : List String} :
    q.whereClause slot = .ok parts ↔ q.placeholders = q.boundCount ∧ parts = q.wheres slot := by
  by_cases matched : q.placeholders = q.boundCount
  · by_cases bare : q.predicates.isEmpty = true
    · simp [whereClause, wheres, matched, bare, eq_comm]
    · simp [whereClause, wheres, matched, bare, eq_comm]
  · simp [whereClause, matched]

theorem whereClause_eq_error {slot : Slot} {q : Query} {error : QueryError} :
    q.whereClause slot = .error error ↔
      q.placeholders ≠ q.boundCount ∧
        error = .bindingMismatch q.placeholders q.boundCount := by
  by_cases matched : q.placeholders = q.boundCount
  · by_cases bare : q.predicates.isEmpty = true
    · simp [whereClause, matched, bare]
    · simp [whereClause, matched, bare]
  · simp [whereClause, matched, eq_comm]

/-! The text of each statement, clause by clause. -/

def selectText (slot : Slot) (q : Query) (table : String) : String :=
  "select" ++ spaced (if q.distinct then ["distinct"] else []) ++
    spaced [q.projection, "from", Identifier.wrap table] ++ spaced (q.wheres slot) ++
    spaced q.limitClause ++ spaced (if q.allowFiltering then ["allow filtering"] else [])

def insertText (slot : Slot) (q : Query) (row : Row) (table : String) (literals : List String) :
    String :=
  "insert into " ++ Identifier.wrap table ++ " (" ++
    Identifier.wrapAll (row.columns ++ q.inserts.map CollectionWrite.column) ++ ") values (" ++
    ", ".intercalate (row.values.map slot ++ literals) ++ ")"

def updateText (slot : Slot) (q : Query) (row : Row) (table : String)
    (assignments : List String) : String :=
  let assigned := row.entries.map (plainAssignment slot) ++ assignments
  "update" ++ spaced [Identifier.wrap table, "set"] ++
    spaced (if assigned.isEmpty then [] else [", ".intercalate assigned]) ++
    spaced (q.wheres slot)

def deleteText (slot : Slot) (q : Query) (table : String) : String :=
  "delete" ++ spaced q.deleteProjection ++ spaced ["from", Identifier.wrap table] ++
    spaced (q.wheres slot)

def indexText (columns : List String) (table : String) : String :=
  "create index if not exists on " ++ Identifier.wrap table ++ "(" ++
    Identifier.wrapAll columns ++ ")"

theorem writeSelect_eq_ok {slot : Slot} {q : Query} {text : String} :
    q.writeSelect slot = .ok text ↔
      ∃ table, q.table = some table ∧ q.placeholders = q.boundCount ∧
        text = q.selectText slot table := by
  simp only [writeSelect, bind_eq_ok, tableName_eq_ok, whereClause_eq_ok, pure_eq_ok,
    List.cons_append, List.nil_append, intercalate_space, spaced_append, spaced_cons]
  constructor
  · rintro ⟨name, ⟨table, named, rfl⟩, parts, ⟨matched, rfl⟩, rfl⟩
    exact ⟨table, named, matched, by simp [selectText, String.append_assoc]⟩
  · rintro ⟨table, named, matched, rfl⟩
    exact ⟨_, ⟨table, named, rfl⟩, _, ⟨matched, rfl⟩, by simp [selectText, String.append_assoc]⟩

theorem writeInsert_eq_ok {slot : Slot} {q : Query} {row : Row} {text : String} :
    q.writeInsert slot row = .ok text ↔
      ∃ table literals, q.table = some table ∧ checkColumns row q.inserts = .ok () ∧
        q.inserts.mapM CollectionWrite.literal = .ok literals ∧
        text = q.insertText slot row table literals := by
  simp only [writeInsert, bind_eq_ok, tableName_eq_ok, pure_eq_ok]
  constructor
  · rintro ⟨name, ⟨table, named, rfl⟩, ⟨⟩, checked, literals, encoded, rfl⟩
    exact ⟨table, literals, named, checked, encoded, rfl⟩
  · rintro ⟨table, literals, named, checked, encoded, rfl⟩
    exact ⟨_, ⟨table, named, rfl⟩, (), checked, literals, encoded, rfl⟩

theorem writeUpdate_eq_ok {slot : Slot} {q : Query} {row : Row} {text : String} :
    q.writeUpdate slot row = .ok text ↔
      ∃ table assignments, q.table = some table ∧ checkColumns row q.updates = .ok () ∧
        q.placeholders = q.boundCount ∧ q.assignments = .ok assignments ∧
        text = q.updateText slot row table assignments := by
  simp only [writeUpdate, bind_eq_ok, tableName_eq_ok, whereClause_eq_ok, pure_eq_ok,
    List.cons_append, List.nil_append, intercalate_space, spaced_append, spaced_cons]
  constructor
  · rintro ⟨name, ⟨table, named, rfl⟩, ⟨⟩, checked, parts, ⟨matched, rfl⟩, assignments,
      assigned, rfl⟩
    exact ⟨table, assignments, named, checked, matched, assigned, by
      simp [updateText, String.append_assoc]⟩
  · rintro ⟨table, assignments, named, checked, matched, assigned, rfl⟩
    exact ⟨_, ⟨table, named, rfl⟩, (), checked, _, ⟨matched, rfl⟩, assignments, assigned, by
      simp [updateText, String.append_assoc]⟩

theorem writeDelete_eq_ok {slot : Slot} {q : Query} {text : String} :
    q.writeDelete slot = .ok text ↔
      ∃ table, q.table = some table ∧ q.placeholders = q.boundCount ∧
        text = q.deleteText slot table := by
  simp only [writeDelete, bind_eq_ok, tableName_eq_ok, whereClause_eq_ok, pure_eq_ok,
    List.cons_append, List.nil_append, intercalate_space, spaced_append, spaced_cons]
  constructor
  · rintro ⟨name, ⟨table, named, rfl⟩, parts, ⟨matched, rfl⟩, rfl⟩
    exact ⟨table, named, matched, by simp [deleteText, String.append_assoc]⟩
  · rintro ⟨table, named, matched, rfl⟩
    exact ⟨_, ⟨table, named, rfl⟩, _, ⟨matched, rfl⟩, by simp [deleteText, String.append_assoc]⟩

theorem writeIndex_eq_ok {q : Query} {columns : List String} {text : String} :
    q.writeIndex columns = .ok text ↔
      ∃ table, q.table = some table ∧ columns ≠ [] ∧ text = indexText columns table := by
  simp only [writeIndex, bind_eq_ok, tableName_eq_ok]
  constructor
  · rintro ⟨name, ⟨table, named, rfl⟩, written⟩
    split at written
    · cases written
    · rename_i present
      cases written
      exact ⟨table, named, by simpa using present, rfl⟩
  · rintro ⟨table, named, present, rfl⟩
    refine ⟨_, ⟨table, named, rfl⟩, ?_⟩
    rw [if_neg (by simpa using present)]
    rfl

end Query

namespace Statement

/-- The names of tables and columns that a statement writes into its text. -/
def names : Statement → List String
  | select q => q.table.toList ++ q.columns.getD [] ++ q.predicates.map Predicate.column
  | insert q row =>
      q.table.toList ++ row.columns ++ q.inserts.map CollectionWrite.column
  | update q row =>
      q.table.toList ++ row.columns ++ q.updates.map CollectionWrite.column ++
        q.predicates.map Predicate.column
  | delete q => q.table.toList ++ q.deleteColumns.getD [] ++ q.predicates.map Predicate.column
  | index q columns => q.table.toList ++ columns

theorem render_eq_ok {s : Statement} {r : Rendered} :
    s.render = .ok r ↔ s.write placeholder = .ok r.text ∧ r.params = s.params := by
  simp only [render, bind_eq_ok, pure_eq_ok]
  constructor
  · rintro ⟨text, written, rfl⟩
    exact ⟨written, rfl⟩
  · rintro ⟨written, bound⟩
    exact ⟨r.text, written, by rw [← bound]⟩

theorem render_eq_error {s : Statement} {error : QueryError} :
    s.render = .error error ↔ s.write placeholder = .error error := by
  cases written : s.write placeholder with
  | error other => simp [render, written, bind, Except.bind]
  | ok text => simp [render, written, bind, Except.bind]

end Statement

end WideColumn
