import WideColumn.Proofs.Bindings
import WideColumn.Proofs.LegibleTexts

namespace WideColumn

open Identifier (Safe)

namespace Query

theorem Applied.inserts {q r : Query} {call : Call} (applied : Applied q call r) :
    r.inserts = q.inserts ∨
      ∃ kind column contents, r.inserts = q.inserts ++ [⟨kind, column, contents, none⟩] := by
  cases applied with
  | insertCollection => exact .inr ⟨_, _, _, rfl⟩
  | bindValue value clause =>
      cases clause with
      | select => exact .inl rfl
      | «where» => exact .inl rfl
  | _ => exact .inl rfl

theorem delta_inserts_step {q : Query} (plain : ∀ write ∈ q.inserts, write.delta = none)
    (call : Call) : ∀ write ∈ (q.step call).inserts, write.delta = none := by
  unfold step
  cases applied : q.apply call with
  | error error => exact plain
  | ok r =>
      rcases (applied_of_apply applied).inserts with same | ⟨kind, column, contents, longer⟩
      · rw [same]
        exact plain
      · rw [longer]
        intro write member
        rcases List.mem_append.mp member with before | now
        · exact plain write before
        · rw [List.mem_singleton.mp now]

theorem delta_inserts_run (calls : List Call) {q : Query}
    (plain : ∀ write ∈ q.inserts, write.delta = none) :
    ∀ write ∈ (q.run calls).inserts, write.delta = none := by
  induction calls generalizing q with
  | nil => exact plain
  | cons call calls ih => exact ih (delta_inserts_step plain call)

theorem Reachable.delta_inserts {q : Query} (reachable : q.Reachable) :
    ∀ write ∈ q.inserts, write.delta = none := by
  obtain ⟨calls, rfl⟩ := reachable
  apply delta_inserts_run
  intro write member
  cases member

end Query

theorem Predicate.eq_of_shown {p r : Predicate} (shown : p.shown = r.shown)
    (values : p.operand.values = r.operand.values) : p = r := by
  obtain ⟨column, operator, operand⟩ := p
  obtain ⟨column', operator', operand'⟩ := r
  simp only [Predicate.shown, Prod.mk.injEq] at shown
  obtain ⟨rfl, rfl, counts⟩ := shown
  cases operand with
  | single value =>
      cases operand' with
      | single value' =>
          cases values
          rfl
      | many values' => cases counts
  | many held =>
      cases operand' with
      | single value' => cases counts
      | many held' =>
          cases values
          rfl

theorem Predicate.length_values_of_shown {p r : Predicate} (shown : p.shown = r.shown) :
    p.operand.values.length = r.operand.values.length := by
  simp only [Predicate.shown, Prod.mk.injEq] at shown
  have counts := shown.2.2
  cases left : p.operand with
  | single value =>
      cases right : r.operand with
      | single value' => rfl
      | many values' => simp [count?, left, right] at counts
  | many held =>
      cases right : r.operand with
      | single value' => simp [count?, left, right] at counts
      | many held' => simpa [count?, left, right, Operand.values] using counts

theorem predicates_eq_of_shown {predicates others : List Predicate}
    (shown : predicates.map Predicate.shown = others.map Predicate.shown)
    (asked : predicates.flatMap (·.operand.values) = others.flatMap (·.operand.values)) :
    predicates = others := by
  induction predicates generalizing others with
  | nil =>
      cases others with
      | nil => rfl
      | cons r others => cases shown
  | cons p predicates ih =>
      cases others with
      | nil => cases shown
      | cons r others =>
          obtain ⟨here, later⟩ := List.cons.inj shown
          rw [List.flatMap_cons, List.flatMap_cons] at asked
          obtain ⟨values, rest⟩ :=
            List.append_inj asked (Predicate.length_values_of_shown here)
          rw [Predicate.eq_of_shown here values, ih later rest]

/-- Two queries with all placeholders bound, to the same values, ask the same if it looks so. -/
theorem Query.Reachable.predicates_eq {q r : Query} (left : q.Reachable) (right : r.Reachable)
    (matched : q.placeholders = q.boundCount) (matched' : r.placeholders = r.boundCount)
    (bound : q.whereBindings = r.whereBindings)
    (shown : q.predicates.map Predicate.shown = r.predicates.map Predicate.shown) :
    q.predicates = r.predicates := by
  rw [left.whereBindings_eq matched, right.whereBindings_eq matched'] at bound
  exact predicates_eq_of_shown shown bound

theorem Row.entries_eq {row other : Row} (columns : row.columns = other.columns)
    (values : row.values = other.values) : row.entries = other.entries := by
  have here : row.entries = other.columns.zip other.values := List.zip_of_prod columns values
  have there : other.entries = other.columns.zip other.values := List.zip_of_prod rfl rfl
  rw [here, there]

theorem CollectionWrite.map_shown_eq {writes others : List CollectionWrite}
    (left : ∀ write ∈ writes, write.delta = none) (right : ∀ write ∈ others, write.delta = none)
    (columns : writes.map CollectionWrite.column = others.map CollectionWrite.column)
    (collections : (writes.map fun write => Collection.shown write.kind write.contents) =
      others.map fun write => Collection.shown write.kind write.contents) :
    writes.map CollectionWrite.shown = others.map CollectionWrite.shown := by
  induction writes generalizing others with
  | nil =>
      cases others with
      | nil => rfl
      | cons other others => cases columns
  | cons write writes ih =>
      cases others with
      | nil => cases columns
      | cons other others =>
          obtain ⟨column, columns⟩ := List.cons.inj columns
          obtain ⟨collection, collections⟩ := List.cons.inj collections
          have collection : Collection.shown write.kind write.contents =
            Collection.shown other.kind other.contents := collection
          have delta : write.delta = other.delta :=
            (left write List.mem_cons_self).trans (right other List.mem_cons_self).symm
          have here : write.shown = other.shown := by
            rw [shown, shown, column, delta, collection]
          have later := ih (fun w member => left w (List.mem_cons_of_mem write member))
            (fun w member => right w (List.mem_cons_of_mem other member)) columns collections
          rw [List.map_cons, List.map_cons, here, later]

namespace Query

variable {row other : Row} {writes writes' : List CollectionWrite}

theorem safe_written (columns : ∀ name ∈ row.columns, Safe name)
    (collections : ∀ write ∈ writes, Safe write.column) :
    ∀ a ∈ written row writes, Safe a.column := by
  intro a member
  rcases List.mem_append.mp member with first | second
  · obtain ⟨column, present, rfl⟩ := List.mem_map.mp first
    exact columns column present
  · obtain ⟨write, present, rfl⟩ := List.mem_map.mp second
    exact collections write present

theorem shown_written_inj
    (same : (written row writes).map Assigned.shown = (written other writes').map Assigned.shown) :
    row.columns = other.columns ∧
      writes.map CollectionWrite.shown = writes'.map CollectionWrite.shown := by
  constructor
  · have columns := congrArg (List.filterMap Sum.getLeft?) same
    simpa [written, Assigned.shown, List.filterMap_map, Function.comp_def] using columns
  · have shown := congrArg (List.filterMap Sum.getRight?) same
    simpa [written, Assigned.shown, List.filterMap_map, Function.comp_def] using shown

theorem values_written_inj (plain : ∀ write ∈ writes, write.delta = none)
    (plain' : ∀ write ∈ writes', write.delta = none) (values : row.values = other.values)
    (columns : (written row writes).map Assigned.column =
      (written other writes').map Assigned.column)
    (shown : (written row writes).map Assigned.valueShown =
      (written other writes').map Assigned.valueShown) :
    row.columns = other.columns ∧
      writes.map CollectionWrite.shown = writes'.map CollectionWrite.shown := by
  have lengths : row.columns.length = other.columns.length := by
    have := congrArg List.length values
    simpa [Row.values, Row.columns] using this
  rw [column_written, column_written] at columns
  obtain ⟨plainColumns, columns⟩ := List.append_inj columns lengths
  have collections := congrArg (List.filterMap id) shown
  refine ⟨plainColumns, CollectionWrite.map_shown_eq plain plain' columns ?_⟩
  simpa [written, Assigned.valueShown, List.filterMap_map, Function.comp_def] using collections

end Query

namespace Statement

/-- What a statement says.  A selection without columns is of all of them; a collection counts as
far as its text shows it. -/
inductive Meaning where
  | select (table : Option String) (columns : List String) (distinct : Bool)
      (predicates : List Predicate) (limit : Option RowLimit) (allowFiltering : Bool)
  | insert (table : Option String) (entries : List (String × Value))
      (writes : List CollectionWrite.Shown)
  | update (table : Option String) (entries : List (String × Value))
      (writes : List CollectionWrite.Shown) (predicates : List Predicate)
  | delete (table : Option String) (columns : List String) (predicates : List Predicate)
  | index (table : Option String) (columns : List String)

def meaning : Statement → Meaning
  | select q =>
    .select q.table (q.columns.getD []) q.distinct q.predicates q.limit q.allowFiltering
  | insert q row => .insert q.table row.entries (q.inserts.map CollectionWrite.shown)
  | update q row =>
    .update q.table row.entries (q.updates.map CollectionWrite.shown) q.predicates
  | delete q => .delete q.table (q.deleteColumns.getD []) q.predicates
  | index q columns => .index q.table columns

variable {q r : Query} {row other : Row} {rendered : Rendered}

theorem meaning_select (left : q.Reachable) (right : r.Reachable)
    (leftSafe : ∀ name ∈ (select q).names, Safe name)
    (rightSafe : ∀ name ∈ (select r).names, Safe name)
    (leftRendered : (select q).render = .ok rendered)
    (rightRendered : (select r).render = .ok rendered) :
    (select q).meaning = (select r).meaning := by
  obtain ⟨leftWritten, leftBound⟩ := render_eq_ok.mp leftRendered
  obtain ⟨rightWritten, rightBound⟩ := render_eq_ok.mp rightRendered
  obtain ⟨table, named, matched, text⟩ := Query.writeSelect_eq_ok.mp leftWritten
  obtain ⟨table', named', matched', text'⟩ := Query.writeSelect_eq_ok.mp rightWritten
  simp only [names, named, named', List.mem_append, or_imp, forall_and, Option.mem_toList,
    Option.some_inj, List.forall_mem_map] at leftSafe rightSafe
  obtain ⟨⟨tables, columns⟩, predicates⟩ := leftSafe
  obtain ⟨⟨tables', columns'⟩, predicates'⟩ := rightSafe
  obtain ⟨rfl, columns, distinct, shown, limit, filtering⟩ := Query.selectText_inj
    (tables table rfl) (tables' table' rfl) columns columns' predicates predicates'
    (text.symm.trans text')
  have bound : q.whereBindings = r.whereBindings := leftBound.symm.trans rightBound
  have predicates := left.predicates_eq right matched matched' bound shown
  simp only [meaning, named, named', columns, distinct, predicates, limit, filtering]

theorem meaning_delete (left : q.Reachable) (right : r.Reachable)
    (leftSafe : ∀ name ∈ (delete q).names, Safe name)
    (rightSafe : ∀ name ∈ (delete r).names, Safe name)
    (leftRendered : (delete q).render = .ok rendered)
    (rightRendered : (delete r).render = .ok rendered) :
    (delete q).meaning = (delete r).meaning := by
  obtain ⟨leftWritten, leftBound⟩ := render_eq_ok.mp leftRendered
  obtain ⟨rightWritten, rightBound⟩ := render_eq_ok.mp rightRendered
  obtain ⟨table, named, matched, text⟩ := Query.writeDelete_eq_ok.mp leftWritten
  obtain ⟨table', named', matched', text'⟩ := Query.writeDelete_eq_ok.mp rightWritten
  simp only [names, named, named', List.mem_append, or_imp, forall_and, Option.mem_toList,
    Option.some_inj, List.forall_mem_map] at leftSafe rightSafe
  obtain ⟨⟨tables, columns⟩, predicates⟩ := leftSafe
  obtain ⟨⟨tables', columns'⟩, predicates'⟩ := rightSafe
  obtain ⟨rfl, columns, shown⟩ := Query.deleteText_inj (tables table rfl) (tables' table' rfl)
    columns columns' predicates predicates' (text.symm.trans text')
  have bound : q.whereBindings = r.whereBindings := leftBound.symm.trans rightBound
  have predicates := left.predicates_eq right matched matched' bound shown
  simp only [meaning, named, named', columns, predicates]

theorem meaning_index {columns others : List String}
    (leftSafe : ∀ name ∈ (index q columns).names, Safe name)
    (rightSafe : ∀ name ∈ (index r others).names, Safe name)
    (leftRendered : (index q columns).render = .ok rendered)
    (rightRendered : (index r others).render = .ok rendered) :
    (index q columns).meaning = (index r others).meaning := by
  obtain ⟨leftWritten, -⟩ := render_eq_ok.mp leftRendered
  obtain ⟨rightWritten, -⟩ := render_eq_ok.mp rightRendered
  obtain ⟨table, named, -, text⟩ := Query.writeIndex_eq_ok.mp leftWritten
  obtain ⟨table', named', -, text'⟩ := Query.writeIndex_eq_ok.mp rightWritten
  simp only [names, named, named', List.mem_append, or_imp, forall_and, Option.mem_toList,
    Option.some_inj] at leftSafe rightSafe
  obtain ⟨rfl, rfl⟩ := Query.indexText_inj (leftSafe.1 table rfl) (rightSafe.1 table' rfl)
    leftSafe.2 rightSafe.2 (text.symm.trans text')
  simp only [meaning, named, named']

theorem meaning_insert (left : q.Reachable) (right : r.Reachable)
    (leftSafe : ∀ name ∈ (insert q row).names, Safe name)
    (rightSafe : ∀ name ∈ (insert r other).names, Safe name)
    (leftRendered : (insert q row).render = .ok rendered)
    (rightRendered : (insert r other).render = .ok rendered) :
    (insert q row).meaning = (insert r other).meaning := by
  obtain ⟨leftWritten, leftBound⟩ := render_eq_ok.mp leftRendered
  obtain ⟨rightWritten, rightBound⟩ := render_eq_ok.mp rightRendered
  obtain ⟨table, literals, named, -, encoded, text⟩ := Query.writeInsert_eq_ok.mp leftWritten
  obtain ⟨table', literals', named', -, encoded', text'⟩ := Query.writeInsert_eq_ok.mp rightWritten
  simp only [names, named, named', List.mem_append, or_imp, forall_and, Option.mem_toList,
    Option.some_inj, List.forall_mem_map] at leftSafe rightSafe
  obtain ⟨⟨tables, columns⟩, writes⟩ := leftSafe
  obtain ⟨⟨tables', columns'⟩, writes'⟩ := rightSafe
  obtain ⟨rfl, columns, shown⟩ := Query.insertText_inj (tables table rfl) (tables' table' rfl)
    (Query.safe_written columns writes) (Query.safe_written columns' writes') encoded encoded'
    (text.symm.trans text')
  have values : row.values = other.values := leftBound.symm.trans rightBound
  obtain ⟨plain, writes⟩ := Query.values_written_inj left.delta_inserts right.delta_inserts values
    columns shown
  have entries := Row.entries_eq plain values
  simp only [meaning, named, named', entries, writes]

theorem meaning_update (left : q.Reachable) (right : r.Reachable)
    (leftSafe : ∀ name ∈ (update q row).names, Safe name)
    (rightSafe : ∀ name ∈ (update r other).names, Safe name)
    (leftRendered : (update q row).render = .ok rendered)
    (rightRendered : (update r other).render = .ok rendered) :
    (update q row).meaning = (update r other).meaning := by
  obtain ⟨leftWritten, leftBound⟩ := render_eq_ok.mp leftRendered
  obtain ⟨rightWritten, rightBound⟩ := render_eq_ok.mp rightRendered
  obtain ⟨table, assignments, named, -, matched, assigned, text⟩ :=
    Query.writeUpdate_eq_ok.mp leftWritten
  obtain ⟨table', assignments', named', -, matched', assigned', text'⟩ :=
    Query.writeUpdate_eq_ok.mp rightWritten
  simp only [names, named, named', List.mem_append, or_imp, forall_and, Option.mem_toList,
    Option.some_inj, List.forall_mem_map] at leftSafe rightSafe
  obtain ⟨⟨⟨tables, columns⟩, writes⟩, predicates⟩ := leftSafe
  obtain ⟨⟨⟨tables', columns'⟩, writes'⟩, predicates'⟩ := rightSafe
  obtain ⟨rfl, assignments, shown⟩ := Query.updateText_inj (tables table rfl)
    (tables' table' rfl) (Query.safe_written columns writes) (Query.safe_written columns' writes')
    predicates predicates' assigned assigned' (text.symm.trans text')
  obtain ⟨plain, writes⟩ := Query.shown_written_inj assignments
  -- The columns of the row are as many as its values, so they tell where its values end.
  have bound : row.values ++ q.whereBindings = other.values ++ r.whereBindings :=
    leftBound.symm.trans rightBound
  have lengths : row.values.length = other.values.length := by
    have := congrArg List.length plain
    simpa [Row.values, Row.columns] using this
  obtain ⟨values, bound⟩ := List.append_inj bound lengths
  have entries := Row.entries_eq plain values
  have predicates := left.predicates_eq right matched matched' bound shown
  simp only [meaning, named, named', entries, writes, predicates]

def initial : Statement → Char
  | select _ => 's'
  | insert _ _ => 'i'
  | update _ _ => 'u'
  | delete _ => 'd'
  | index _ _ => 'c'

theorem head?_text {s : Statement} (written : s.write placeholder = .ok rendered.text) :
    rendered.text.toList.head? = some s.initial := by
  cases s with
  | select q =>
      obtain ⟨table, -, -, text⟩ := Query.writeSelect_eq_ok.mp written
      rw [text, Query.toList_selectText]
      simp [initial]
  | insert q row =>
      obtain ⟨table, literals, -, -, encoded, text⟩ := Query.writeInsert_eq_ok.mp written
      rw [text, Query.toList_insertText encoded]
      simp [initial]
  | update q row =>
      obtain ⟨table, assignments, -, -, -, assigned, text⟩ := Query.writeUpdate_eq_ok.mp written
      rw [text, Query.toList_updateText assigned]
      simp [initial]
  | delete q =>
      obtain ⟨table, -, -, text⟩ := Query.writeDelete_eq_ok.mp written
      rw [text, Query.toList_deleteText]
      simp [initial]
  | index q columns =>
      obtain ⟨table, -, -, text⟩ := Query.writeIndex_eq_ok.mp written
      rw [text, Query.toList_indexText]
      simp [initial]

theorem initial_eq {s t : Statement} (left : s.render = .ok rendered)
    (right : t.render = .ok rendered) : s.initial = t.initial := by
  have left := head?_text (render_eq_ok.mp left).1
  have right := head?_text (render_eq_ok.mp right).1
  exact Option.some_inj.mp (left.symm.trans right)

/-- Statements with safe names that render to one text and one list of values say the same. -/
theorem meaning_eq_of_render_eq {s t : Statement} (left : s.query.Reachable)
    (right : t.query.Reachable) (leftSafe : ∀ name ∈ s.names, Safe name)
    (rightSafe : ∀ name ∈ t.names, Safe name) (leftRendered : s.render = .ok rendered)
    (rightRendered : t.render = .ok rendered) : s.meaning = t.meaning := by
  have initials := initial_eq leftRendered rightRendered
  cases s with
  | select q =>
      cases t with
      | select r => exact meaning_select left right leftSafe rightSafe leftRendered rightRendered
      | _ => exact absurd initials (by simp [initial])
  | insert q row =>
      cases t with
      | insert r other =>
          exact meaning_insert left right leftSafe rightSafe leftRendered rightRendered
      | _ => exact absurd initials (by simp [initial])
  | update q row =>
      cases t with
      | update r other =>
          exact meaning_update left right leftSafe rightSafe leftRendered rightRendered
      | _ => exact absurd initials (by simp [initial])
  | delete q =>
      cases t with
      | delete r => exact meaning_delete left right leftSafe rightSafe leftRendered rightRendered
      | _ => exact absurd initials (by simp [initial])
  | index q columns =>
      cases t with
      | index r others => exact meaning_index leftSafe rightSafe leftRendered rightRendered
      | _ => exact absurd initials (by simp [initial])

theorem meaning_eq_of_render_eq_sets :
    let q := Query.run {} [.onTable "t",
      .adjustCollection "set" "c" "+" (.items [.int 1, .text "' where"]),
      .restrictEqual "a" (.boolean true)]
    let r := Query.run {} [.restrictEqual "a" (.boolean true), .onTable "t",
      .adjustCollection "Set" "c" "+"
        (.items [.decimal ⟨false, 1, 0, by decide, by decide⟩, .text "' where"])]
    let row := Row.ofList [("b", .text "?")]
    (∃ rendered, (update q row).render = .ok rendered ∧ (update r row).render = .ok rendered) ∧
      (update q row).meaning = (update r row).meaning ∧ q.updates ≠ r.updates := by
  intro q r row
  let rendered : Rendered := ⟨"update t set b = ?, c=c+\x7b1,''' where'\x7d where a = ?",
    [.text "?", .boolean true]⟩
  have left : (update q row).render = .ok rendered := by decide +kernel
  have right : (update r row).render = .ok rendered := by decide +kernel
  have meanings : (update q row).meaning = (update r row).meaning :=
    meaning_eq_of_render_eq ⟨_, rfl⟩ ⟨_, rfl⟩ (by decide +kernel) (by decide +kernel) left right
  exact ⟨⟨rendered, left, right⟩, meanings, by decide +kernel⟩

end Statement

end WideColumn
