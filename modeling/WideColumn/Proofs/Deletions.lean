import WideColumn.Proofs.Blanks
import WideColumn.Proofs.Identifiers
import WideColumn.Proofs.Rendering
import WideColumn.Proofs.SessionLog

namespace WideColumn

namespace Text

variable {part rest : List Char} {parts : List (List Char)}

theorem words_comma_cons (unbroken : Unbroken part) :
    words (part ++ [',', ' '] ++ rest) = (part ++ [',']) :: words rest := by
  have comma : Unbroken (part ++ [',']) := by
    refine ⟨by simp, fun c member => ?_⟩
    rcases List.mem_append.mp member with inside | last
    · exact unbroken.whole c inside
    · rw [List.mem_singleton.mp last]
      rfl
  have shape : part ++ [',', ' '] ++ rest = (part ++ [',']) ++ ' ' :: rest := by simp
  rw [shape, words_append_blank (by decide), words_eq_self_iff.mpr comma, List.singleton_append]

theorem flatten_words_commas (unbroken : ∀ part ∈ parts, Unbroken part) :
    (words ([',', ' '].intercalate parts)).flatten = [','].intercalate parts := by
  induction parts with
  | nil => rfl
  | cons part parts ih =>
      obtain ⟨here, there⟩ := List.forall_mem_cons.mp unbroken
      cases parts with
      | nil => simp [words_eq_self_iff.mpr here]
      | cons next parts =>
          rw [List.intercalate_cons_cons, words_comma_cons here, List.flatten_cons, ih there,
            List.intercalate_cons_cons]

theorem mem_words_commas (unbroken : ∀ part ∈ parts, Unbroken part) {word : List Char}
    (member : word ∈ words ([',', ' '].intercalate parts)) : word ∈ parts ∨ ',' ∈ word := by
  induction parts with
  | nil => cases member
  | cons part parts ih =>
      obtain ⟨here, there⟩ := List.forall_mem_cons.mp unbroken
      cases parts with
      | nil =>
          rw [List.intercalate_singleton, words_eq_self_iff.mpr here] at member
          exact .inl member
      | cons next parts =>
          rw [List.intercalate_cons_cons, words_comma_cons here] at member
          rcases List.mem_cons.mp member with rfl | later
          · exact .inr (by simp)
          · exact (ih there later).imp_left (List.mem_cons_of_mem part)

end Text

namespace Query

def rowsText (q : Query) (table : String) : String :=
  Identifier.wrap table ++ spaced (q.wheres Statement.placeholder)

def columnDeletion (q : Query) (table : String) (columns : List String) : String :=
  "delete " ++ Identifier.wrapAll columns ++ " from " ++ q.rowsText table

def rowDeletion (q : Query) (table : String) : String :=
  "delete from " ++ q.rowsText table

def isFrom (word : List Char) : Bool :=
  Text.lowerCase word == "from".toList

/-- The columns that the text of a deletion names: what stands between its first word and the first
`from` behind it, cut at the commas. -/
def namedColumns? (text : String) : Option (List String) :=
  match ((Text.words text.toList).tail.takeWhile (!isFrom ·)).flatten with
  | [] => some []
  | naming => ((Text.pieces ',' naming).mapM (Text.undouble '"')).map (·.map String.ofList)

/-- A name that is found again among others: a single word without commas, other than `from`. -/
structure Readable (name : List Char) : Prop where
  unbroken : Text.Unbroken name
  undivided : ',' ∉ name
  other : isFrom name = false

variable {q : Query} {table : String} {columns : List String}

theorem deleteText_deletingColumns (present : columns ≠ []) :
    (q.deletingColumns columns).deleteText Statement.placeholder table =
      q.columnDeletion table columns := by
  cases columns with
  | nil => exact absurd rfl present
  | cons column columns =>
      simp [deleteText, deleteProjection, deletingColumns, columnDeletion, rowsText, wheres,
        ← String.append_assoc]

theorem deleteText_deletingNothing :
    (q.deletingColumns []).deleteText Statement.placeholder table = q.rowDeletion table := by
  simp [deleteText, deleteProjection, deletingColumns, rowDeletion, rowsText, wheres,
    ← String.append_assoc]

theorem words_columnDeletion :
    Text.words (q.columnDeletion table columns).toList =
      "delete".toList :: (Text.words (Identifier.wrapAll columns).toList ++
        "from".toList :: Text.words (q.rowsText table).toList) := by
  have shape : (q.columnDeletion table columns).toList = "delete".toList ++
      ' ' :: ((Identifier.wrapAll columns).toList ++
        ' ' :: ("from".toList ++ ' ' :: (q.rowsText table).toList)) := by
    simp [columnDeletion]
  have first : Text.words "delete".toList = ["delete".toList] := by decide
  have last : Text.words "from".toList = ["from".toList] := by decide
  rw [shape, Text.words_append_blank (by decide), Text.words_append_blank (by decide),
    Text.words_append_blank (by decide), first, last, List.singleton_append,
    List.singleton_append]

theorem words_rowDeletion :
    Text.words (q.rowDeletion table).toList =
      "delete".toList :: "from".toList :: Text.words (q.rowsText table).toList := by
  have shape : (q.rowDeletion table).toList = "delete from".toList ++
      ' ' :: (q.rowsText table).toList := by
    simp [rowDeletion]
  have both : Text.words "delete from".toList = ["delete".toList, "from".toList] := by decide
  rw [shape, Text.words_append_blank (by decide), both, List.cons_append, List.singleton_append]

def wrapped (columns : List String) : List (List Char) :=
  columns.map fun column => (Identifier.wrap column).toList

theorem toList_wrapAll (columns : List String) :
    (Identifier.wrapAll columns).toList = [',', ' '].intercalate (wrapped columns) := by
  rw [Identifier.wrapAll, String.toList_intercalate, List.map_map]
  rfl

theorem blank_wrapAll : Text.Blank (Identifier.wrapAll columns).toList ↔
    columns = [] ∨ ∃ column, columns = [column] ∧ Text.Blank column.toList := by
  rw [toList_wrapAll]
  cases columns with
  | nil => exact iff_of_true nofun (.inl rfl)
  | cons column columns =>
      cases columns with
      | nil =>
          have same : Text.Blank (Identifier.wrap column).toList ↔ Text.Blank column.toList := by
            simp only [Text.Blank, Identifier.mem_toList_wrap]
          rw [wrapped, List.map_singleton, List.intercalate_singleton, same]
          simp
      | cons next columns =>
          refine iff_of_false (fun blank => ?_) (by simp)
          have comma := blank ',' (by simp [wrapped, List.intercalate_cons_cons])
          exact absurd comma (by decide)

/-- The words are those of a deletion of rows when no name puts a word between `delete` and `from`,
and no comma stands there either. -/
theorem words_columnDeletion_eq_iff :
    Text.words (q.columnDeletion table columns).toList =
        Text.words (q.rowDeletion table).toList ↔
      columns = [] ∨ ∃ column, columns = [column] ∧ Text.Blank column.toList := by
  rw [words_columnDeletion, words_rowDeletion, List.cons_inj_right, List.append_left_eq_self,
    Text.words_eq_nil_iff, blank_wrapAll]

theorem namedColumns?_rowDeletion : namedColumns? (q.rowDeletion table) = some [] := by
  rw [namedColumns?, words_rowDeletion, List.tail_cons, List.takeWhile_cons_of_neg (by decide)]
  rfl

theorem isFrom_of_mem {c : Char} {word : List Char} (member : c ∈ word)
    (foreign : c.toLower ∉ "from".toList) : isFrom word = false := by
  rw [isFrom, beq_eq_false_iff_ne]
  intro same
  apply foreign
  rw [← same]
  exact List.mem_map_of_mem member

theorem Readable.double {name : List Char} (readable : Readable name) :
    Readable (Text.double '"' name) := by
  obtain ⟨⟨present, whole⟩, undivided, other⟩ := readable
  refine ⟨⟨?_, fun c member => whole c (Text.mem_double.mp member)⟩,
    mt Text.mem_double.mp undivided, ?_⟩
  · obtain ⟨c, member⟩ := List.exists_mem_of_ne_nil name present
    exact List.ne_nil_of_mem (Text.mem_double.mpr member)
  · by_cases quoted : '"' ∈ name
    · exact isFrom_of_mem (Text.mem_double.mpr quoted) (by decide)
    · rwa [Text.double_eq_self quoted]

theorem readable_wrapped (readable : ∀ column ∈ columns, Readable column.toList) :
    ∀ name ∈ wrapped columns, Readable name := by
  intro name member
  obtain ⟨column, given, rfl⟩ := List.mem_map.mp member
  rw [Identifier.toList_wrap_eq_double]
  exact (readable column given).double

theorem namedColumns?_columnDeletion (readable : ∀ column ∈ columns, Readable column.toList) :
    namedColumns? (q.columnDeletion table columns) = some columns := by
  have legible := readable_wrapped readable
  have unbroken : ∀ name ∈ wrapped columns, Text.Unbroken name :=
    fun name member => (legible name member).unbroken
  have others : ∀ word ∈ Text.words (Identifier.wrapAll columns).toList,
      (!isFrom word) = true := by
    intro word member
    rw [Bool.not_eq_true']
    rw [toList_wrapAll] at member
    rcases Text.mem_words_commas unbroken member with name | comma
    · exact (legible word name).other
    · exact isFrom_of_mem comma (by decide)
  rw [namedColumns?, words_columnDeletion, List.tail_cons, List.takeWhile_append_of_pos others,
    List.takeWhile_cons_of_neg (by decide), List.append_nil, toList_wrapAll,
    Text.flatten_words_commas unbroken]
  by_cases bare : columns = []
  · rw [bare]
    rfl
  · have present : wrapped columns ≠ [] := mt List.map_eq_nil_iff.mp bare
    have cut := Text.pieces_intercalate present fun name member => (legible name member).undivided
    split
    · rename_i vacant
      -- The first piece of no text is no name.
      rw [vacant] at cut
      have empty : [] ∈ wrapped columns := cut ▸ List.mem_cons_self
      exact absurd rfl (unbroken [] empty).present
    · rw [cut, wrapped, mapM_map_eq_some Identifier.undouble_wrap]
      simp

theorem columnDeletion_ne_rowDeletion : q.columnDeletion table columns ≠ q.rowDeletion table := by
  intro same
  have lists := congrArg String.toList same
  have column : (q.columnDeletion table columns).toList =
      "delete ".toList ++ ((Identifier.wrapAll columns).toList ++ [' '] ++
        ("from ".toList ++ (q.rowsText table).toList)) := by
    simp [columnDeletion]
  have row : (q.rowDeletion table).toList =
      "delete ".toList ++ ("from ".toList ++ (q.rowsText table).toList) := by
    simp [rowDeletion]
  rw [column, row, List.append_cancel_left_eq, List.append_left_eq_self] at lists
  simp at lists

theorem render_deletingColumns {rendered : Rendered} :
    (Statement.delete (q.deletingColumns columns)).render = .ok rendered ↔
      ∃ table, q.table = some table ∧ q.placeholders = q.boundCount ∧
        rendered = ⟨(q.deletingColumns columns).deleteText Statement.placeholder table,
          q.whereBindings⟩ := by
  rw [Statement.render_eq_ok, Statement.write, writeDelete_eq_ok]
  constructor
  · rintro ⟨⟨table, named, matched, text⟩, params⟩
    refine ⟨table, named, matched, ?_⟩
    rw [← text, Rendered.mk.injEq]
    exact ⟨rfl, params⟩
  · rintro ⟨table, named, matched, rfl⟩
    exact ⟨⟨table, named, matched, rfl⟩, rfl⟩

end Query

namespace Session

variable {s : Session} {q : Query} {store : Store} {columns : List String}

theorem log_deletingColumns_unsent (unfit : q.table = none ∨ q.placeholders ≠ q.boundCount) :
    (s.run (.delete (q.deletingColumns columns)) store).store.log = store.log := by
  cases written : (Statement.delete (q.deletingColumns columns)).render with
  | error error => rw [run_unrendered written]
  | ok rendered =>
      obtain ⟨table, named, matched, -⟩ := Query.render_deletingColumns.mp written
      rcases unfit with unnamed | unmatched
      · rw [unnamed] at named
        cases named
      · exact absurd matched unmatched

theorem log_deletingColumns {table : String} (named : q.table = some table)
    (matched : q.placeholders = q.boundCount) :
    (s.run (.delete (q.deletingColumns columns)) store).store.log = store.log ++
      [⟨⟨(q.deletingColumns columns).deleteText Statement.placeholder table, q.whereBindings⟩,
        s.options⟩] := by
  have written : (Demand.render (.delete (q.deletingColumns columns))).text =
      .ok ⟨(q.deletingColumns columns).deleteText Statement.placeholder table, q.whereBindings⟩ :=
    Query.render_deletingColumns.mpr ⟨table, named, matched, rfl⟩
  have sends := run_sends s store (.delete (q.deletingColumns columns))
  rw [texts_rendered written] at sends
  exact sends.log

/-- Nothing is sent to delete columns, or rows, for a query without a table or with another number
of values than placeholders.  For any other, one statement is sent, whatever the query has queued.
It names the columns between `delete` and `from`, in their order, and these can be read off it if
they are readable.  It is the deletion of whole rows only if there are no columns; and it has the
same words only then, or if the only column has a blank name. -/
theorem deleteColumns_names_iff (s : Session) (q : Query) (columns : List String) (store : Store) :
    (q.table = none ∨ q.placeholders ≠ q.boundCount →
      (s.deleteColumns q columns store).store.log = store.log ∧
        (s.deleteRow q store).store.log = store.log) ∧
    ∀ table, q.table = some table → q.placeholders = q.boundCount →
      let sent : Rendered :=
        ⟨if columns = [] then q.rowDeletion table else q.columnDeletion table columns,
          q.whereBindings⟩
      let whole : Rendered := ⟨q.rowDeletion table, q.whereBindings⟩
      (s.deleteColumns q columns store).store.log = store.log ++ [⟨sent, s.options⟩] ∧
      (s.deleteRow q store).store.log = store.log ++ [⟨whole, s.options⟩] ∧
      (sent = whole ↔ columns = []) ∧
      (Text.words sent.text.toList = Text.words whole.text.toList ↔
        columns = [] ∨ ∃ column, columns = [column] ∧ Text.Blank column.toList) ∧
      Query.namedColumns? whole.text = some [] ∧
      ((∀ column ∈ columns, Query.Readable column.toList) →
        Query.namedColumns? sent.text = some columns) := by
  refine ⟨fun unfit => ⟨log_deletingColumns_unsent unfit, log_deletingColumns_unsent unfit⟩, ?_⟩
  intro table named matched sent whole
  have rows : (s.deleteRow q store).store.log = store.log ++ [⟨whole, s.options⟩] := by
    rw [deleteRow, log_deletingColumns named matched, Query.deleteText_deletingNothing]
  by_cases bare : columns = []
  · -- Without columns both operations run one and the same deletion.
    subst bare
    exact ⟨rows, rows, by simp [sent, whole], by simp [sent, whole],
      Query.namedColumns?_rowDeletion, fun _ => Query.namedColumns?_rowDeletion⟩
  · have text : sent.text = q.columnDeletion table columns := if_neg bare
    refine ⟨?_, rows, ?_, ?_, Query.namedColumns?_rowDeletion, ?_⟩
    · rw [deleteColumns, log_deletingColumns named matched, Query.deleteText_deletingColumns bare,
        ← text]
    · refine iff_of_false (fun same => ?_) bare
      have texts := congrArg Rendered.text same
      rw [text] at texts
      exact Query.columnDeletion_ne_rowDeletion texts
    · rw [text]
      exact Query.words_columnDeletion_eq_iff
    · intro readable
      rw [text]
      exact Query.namedColumns?_columnDeletion readable

/-- Without columns, whole rows are deleted.  Names are not checked: a blank one leaves no more than
a blank in the text, and one with a comma in it passes for two. -/
theorem deleteColumns_without_columns :
    let s : Session := ⟨{ keyspace := "k" }, {}⟩
    let q : Query := ({ table := some "posts" } : Query).restrictEqual "id" (.int 1)
    let store : Store := { script := {} }
    let sent (text : String) : List Execution := [⟨⟨text, [.int 1]⟩, {}⟩]
    (s.deleteColumns q [] store).store.log = sent "delete from posts where id = ?" ∧
      (s.deleteRow q store).store.log = sent "delete from posts where id = ?" ∧
      (s.deleteColumns q [""] store).store.log = sent "delete  from posts where id = ?" ∧
      (s.deleteColumns q ["a, b"] store).store.log = sent "delete a, b from posts where id = ?" ∧
      (s.deleteColumns q ["a", "b"] store).store.log =
        sent "delete a, b from posts where id = ?" := by
  decide +kernel

theorem deleteColumns_names_title :
    let s : Session := ⟨{ keyspace := "k" }, {}⟩
    let q : Query := { table := some "posts", deleteColumns := some ["body"] }
    let store : Store := { script := {} }
    let sent : Rendered := ⟨"delete title, a\"\"b from posts", []⟩
    let whole : Rendered := ⟨"delete from posts", []⟩
    (s.deleteColumns q ["title", "a\"b"] store).store.log = [⟨sent, {}⟩] ∧
      (s.deleteRow q store).store.log = [⟨whole, {}⟩] ∧ sent ≠ whole ∧
      Query.namedColumns? sent.text = some ["title", "a\"b"] ∧
      (s.deleteColumns { q with table := none } ["title"] store).store.log = [] := by
  intro s q store sent whole
  obtain ⟨log, rows, same, -, -, read⟩ :=
    (deleteColumns_names_iff s q ["title", "a\"b"] store).2 "posts" rfl rfl
  have unfit := (deleteColumns_names_iff s { q with table := none } ["title"] store).1 (.inl rfl)
  have readable : ∀ column ∈ ["title", "a\"b"], Query.Readable column.toList := by
    intro column member
    rcases List.mem_cons.mp member with rfl | later
    · exact ⟨Text.words_eq_self_iff.mp (by decide), by decide, by decide⟩
    · rw [List.mem_singleton.mp later]
      exact ⟨Text.words_eq_self_iff.mp (by decide), by decide, by decide⟩
  exact ⟨log, rows, mt same.mp (by decide), read readable, unfit.1⟩

end Session

end WideColumn
