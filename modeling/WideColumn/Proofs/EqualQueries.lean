import WideColumn.Proofs.Bindings
import WideColumn.Proofs.EqualValues
import WideColumn.Proofs.LegibleTexts

namespace WideColumn

/-- Two outcomes agree: both are the same error, or both are results in that relation. -/
inductive Agree {ε α β : Type} (R : α → β → Prop) : Except ε α → Except ε β → Prop
  | refused (error : ε) : Agree R (.error error) (.error error)
  | made {a : α} {b : β} (related : R a b) : Agree R (.ok a) (.ok b)

namespace Agree

variable {ε α β γ δ : Type} {R : α → β → Prop} {S : γ → δ → Prop} {x : Except ε α} {y : Except ε β}

theorem refl (x : Except ε α) : Agree Eq x x := by
  cases x with
  | error error => exact .refused error
  | ok a => exact .made rfl

theorem bind {f : α → Except ε γ} {g : β → Except ε δ} (agree : Agree R x y)
    (next : ∀ a b, R a b → Agree S (f a) (g b)) : Agree S (x >>= f) (y >>= g) := by
  cases agree with
  | refused error => exact .refused error
  | made related => exact next _ _ related

theorem bind_same {z : Except ε α} {f : α → Except ε γ} {g : α → Except ε δ}
    (next : ∀ a, Agree S (f a) (g a)) : Agree S (z >>= f) (z >>= g) :=
  (refl z).bind fun a _ equal => equal ▸ next a

theorem map {f : α → γ} {g : β → δ} (agree : Agree R x y) (next : ∀ a b, R a b → S (f a) (g b)) :
    Agree S (x.map f) (y.map g) := by
  cases agree with
  | refused error => exact .refused error
  | made related => exact .made (next _ _ related)

theorem mapM {items : List α} {others : List β} {f : α → Except ε γ} {g : β → Except ε δ}
    (aligned : List.Forall₂ R items others) (each : ∀ a b, R a b → Agree S (f a) (g b)) :
    Agree (List.Forall₂ S) (items.mapM f) (others.mapM g) := by
  induction aligned with
  | nil => exact .made .nil
  | cons here _ ih =>
      rw [List.mapM_cons, List.mapM_cons]
      refine (each _ _ here).bind fun a b related => ?_
      exact ih.bind fun as bs rest => .made (.cons related rest)

theorem strengthen {R' : α → β → Prop} (agree : Agree R x y)
    (related : ∀ a b, x = .ok a → y = .ok b → R a b → R' a b) : Agree R' x y := by
  cases agree with
  | refused error => exact .refused error
  | made known => exact .made (related _ _ rfl rfl known)

theorem errors (agree : Agree R x y) : Agree (fun _ _ => True) x y :=
  agree.strengthen fun _ _ _ _ _ => trivial

end Agree

namespace Collection

variable {kind : Kind} {contents others : Contents}

theorem encode_eq_error_of_same (same : contents.same others = true) {error : QueryError} :
    encode kind contents = .error error ↔ encode kind others = .error error := by
  rw [encode_eq_error, encode_eq_error, parts?_eq_none, parts?_eq_none,
    Contents.misfit_of_same same]

theorem agree_encode (same : contents.same others = true) :
    Agree (fun text text' => text = text' ↔ contents.decimals = others.decimals)
      (encode kind contents) (encode kind others) := by
  cases written : encode kind contents with
  | error error =>
      rw [(encode_eq_error_of_same same).mp written]
      exact .refused error
  | ok text =>
      cases written' : encode kind others with
      | error error =>
          rw [(encode_eq_error_of_same same).mpr written'] at written
          cases written
      | ok text' =>
          refine .made ⟨?_, ?_⟩
          · rintro rfl
            have spelled : chars kind contents ++ [] = chars kind others ++ [] := by
              rw [← toList_encode written, ← toList_encode written']
            rw [(chars_inj_of_same same spelled).1]
          · intro decimals
            rw [Contents.eq_of_decimals same decimals, written'] at written
            exact (Except.ok.inj written).symm

end Collection

namespace CollectionWrite.Alike

variable {w v : CollectionWrite}

theorem agree_literal (alike : w.Alike v) : Agree (fun _ _ => True) w.literal v.literal := by
  rw [literal, literal, alike.kind]
  exact (Collection.agree_encode alike.contents).errors

theorem agree_assignment (alike : w.Alike v) :
    Agree (fun _ _ => True) w.assignment v.assignment :=
  alike.agree_literal.map fun _ _ _ => trivial

end CollectionWrite.Alike

namespace Assigned

inductive Alike : Assigned → Assigned → Prop
  | plain (column : String) : Alike (plain column) (plain column)
  | collection {w v : CollectionWrite} (alike : w.Alike v) : Alike (collection w) (collection v)

variable {a b : Assigned} {x y : List Char}

theorem Alike.column (alike : Alike a b) : a.column = b.column := by
  cases alike with
  | plain column => rfl
  | collection alike => exact alike.column

theorem Alike.valueChars_inj (alike : Alike a b) (same : a.valueChars ++ x = b.valueChars ++ y) :
    a = b ∧ x = y := by
  cases alike with
  | plain column => exact ⟨rfl, List.append_cancel_left same⟩
  | @collection w v alike =>
      simp only [valueChars, alike.kind] at same
      obtain ⟨contents, rest⟩ := Collection.chars_inj_of_same alike.contents same
      exact ⟨congrArg Assigned.collection (alike.eq contents), rest⟩

theorem Alike.chars_inj (alike : Alike a b) (same : a.chars ++ x = b.chars ++ y) :
    a = b ∧ x = y := by
  cases alike with
  | plain column => exact ⟨rfl, List.append_cancel_left same⟩
  | @collection w v alike =>
      have collections : Collection.chars v.kind w.contents ++ x =
          Collection.chars v.kind v.contents ++ y := by
        cases delta : v.delta <;>
          simpa only [Assigned.chars, assignedChars, writeChars, Assigned.column, alike.column,
            alike.delta, delta, alike.kind, List.append_assoc, List.append_cancel_left_eq] using same
      obtain ⟨contents, rest⟩ := Collection.chars_inj_of_same alike.contents collections
      exact ⟨congrArg Assigned.collection (alike.eq contents), rest⟩

theorem aligned_written {row other : Row} {writes others : List CollectionWrite}
    (columns : row.columns = other.columns)
    (aligned : List.Forall₂ CollectionWrite.Alike writes others) :
    List.Forall₂ Alike (Query.written row writes) (Query.written other others) := by
  rw [Query.written, Query.written, columns]
  apply List.rel_append
  · apply List.forall₂_same.mpr
    intro a member
    obtain ⟨column, -, rfl⟩ := List.mem_map.mp member
    exact .plain column
  · rw [List.forall₂_map_left_iff, List.forall₂_map_right_iff]
    exact aligned.imp fun _ _ => .collection

theorem written_inj {row other : Row} {writes others : List CollectionWrite}
    (columns : row.columns = other.columns)
    (same : Query.written row writes = Query.written other others) : writes = others := by
  rw [Query.written, Query.written, columns, List.append_cancel_left_eq] at same
  exact List.map_injective_iff.mpr (fun _ _ => Assigned.collection.inj) same

end Assigned

namespace Row

def same (row other : Row) : Bool :=
  sameItems (fun entry held => entry.1 == held.1 && entry.2.same held.2) row.entries other.entries

variable {row other : Row}

theorem aligned_entries (same : row.same other = true) :
    List.Forall₂ (fun entry held => entry.1 = held.1 ∧ entry.2.same held.2 = true) row.entries
      other.entries := by
  rw [Row.same, sameItems_iff] at same
  exact same.imp fun _ _ here => by simpa using here

theorem columns_of_same (same : row.same other = true) : row.columns = other.columns :=
  map_eq_of_aligned (aligned_entries same) fun _ _ here => here.1

theorem aligned_values (same : row.same other = true) :
    Value.Aligned row.values other.values := by
  rw [Value.Aligned, values, values, List.forall₂_map_left_iff, List.forall₂_map_right_iff]
  exact (aligned_entries same).imp fun _ _ here => here.2

theorem map_placeholder_values (row : Row) :
    row.values.map Statement.placeholder = row.columns.map fun _ => "?" := by
  rw [values, columns, List.map_map, List.map_map]
  rfl

theorem map_plainAssignment_entries (row : Row) :
    row.entries.map (Query.plainAssignment Statement.placeholder) =
      row.columns.map fun column => Identifier.wrap column ++ " = " ++ "?" := by
  rw [columns, List.map_map]
  rfl

end Row

namespace Operand

inductive Alike : Operand → Operand → Prop
  | single {v w : Value} (same : v.same w = true) : Alike (single v) (single w)
  | many {values others : List Value} (aligned : Value.Aligned values others) :
      Alike (many values) (many others)

theorem alike_of_same {x y : Operand} (same : x.same y = true) : Alike x y := by
  cases x with
  | single v =>
      cases y with
      | single w => exact .single same
      | many others => cases same
  | many values =>
      cases y with
      | single w => cases same
      | many others => exact .many (sameItems_iff.mp same)

theorem Alike.values {x y : Operand} (alike : Alike x y) : Value.Aligned x.values y.values := by
  cases alike with
  | single same => exact .cons same .nil
  | many aligned => exact aligned

end Operand

namespace Predicate

structure Alike (p r : Predicate) : Prop where
  column : p.column = r.column
  operator : p.operator = r.operator
  operand : p.operand.Alike r.operand

variable {p r : Predicate}

theorem alike_of_same (same : p.same r = true) : p.Alike r := by
  simp only [Predicate.same, Bool.and_eq_true, beq_iff_eq] at same
  obtain ⟨⟨column, operator⟩, operand⟩ := same
  exact ⟨column, operator, Operand.alike_of_same operand⟩

theorem Alike.write_eq (alike : p.Alike r) :
    p.write Statement.placeholder = r.write Statement.placeholder := by
  obtain ⟨column, operator, operand⟩ := p
  obtain ⟨column', operator', operand'⟩ := r
  obtain ⟨rfl, rfl, operands⟩ := alike
  cases operands with
  | single same => rfl
  | @many values others aligned =>
      have marks : values.map Statement.placeholder = others.map Statement.placeholder :=
        map_eq_of_aligned aligned fun _ _ _ => rfl
      simp only [write, marks]

end Predicate

namespace Query

/-- Queries that are the same, part by part. -/
structure Alike (q r : Query) : Prop where
  table : q.table = r.table
  columns : q.columns = r.columns
  predicates : List.Forall₂ Predicate.Alike q.predicates r.predicates
  limit : q.limit = r.limit
  distinct : q.distinct = r.distinct
  allowFiltering : q.allowFiltering = r.allowFiltering
  selectBindings : Value.Aligned q.selectBindings r.selectBindings
  whereBindings : Value.Aligned q.whereBindings r.whereBindings
  updates : List.Forall₂ CollectionWrite.Alike q.updates r.updates
  inserts : List.Forall₂ CollectionWrite.Alike q.inserts r.inserts
  deleteColumns : q.deleteColumns = r.deleteColumns

theorem alike_of_same {q r : Query} (same : q.same r = true) : q.Alike r := by
  simp only [Query.same, Bool.and_eq_true, beq_iff_eq, sameItems_iff] at same
  obtain ⟨⟨⟨⟨⟨⟨⟨⟨⟨⟨table, columns⟩, predicates⟩, limit⟩, distinct⟩, allowFiltering⟩, selectBindings⟩,
    whereBindings⟩, updates⟩, inserts⟩, deleteColumns⟩ := same
  exact ⟨table, columns, predicates.imp fun _ _ => Predicate.alike_of_same, limit, distinct,
    allowFiltering, selectBindings, whereBindings,
    updates.imp fun _ _ => CollectionWrite.alike_of_same,
    inserts.imp fun _ _ => CollectionWrite.alike_of_same, deleteColumns⟩

theorem conflict?_of_aligned {taken : List String} {writes others : List CollectionWrite}
    (aligned : List.Forall₂ CollectionWrite.Alike writes others) :
    conflict? taken writes = conflict? taken others := by
  induction aligned generalizing taken with
  | nil => rfl
  | cons here _ ih => rw [conflict?, conflict?, here.column, ih]

theorem checkColumns_of_aligned {row other : Row} {writes others : List CollectionWrite}
    (columns : row.columns = other.columns)
    (aligned : List.Forall₂ CollectionWrite.Alike writes others) :
    checkColumns row writes = checkColumns other others := by
  rw [checkColumns, checkColumns, columns, conflict?_of_aligned aligned]

namespace Alike

variable {q r : Query} {row other : Row} (alike : q.Alike r)

include alike

theorem tableName_eq : q.tableName = r.tableName := by
  rw [tableName, tableName, alike.table]

theorem whereClause_eq :
    q.whereClause Statement.placeholder = r.whereClause Statement.placeholder := by
  have asked : Value.Aligned q.asked r.asked :=
    List.rel_flatMap alike.predicates fun _ _ here => here.operand.values
  have placeholders : q.placeholders = r.placeholders := by
    rw [placeholders_eq, placeholders_eq, asked.length_eq]
  have bound : q.boundCount = r.boundCount := by
    rw [boundCount, boundCount, alike.selectBindings.length_eq, alike.whereBindings.length_eq]
  have predicates : q.predicates.map (Predicate.write Statement.placeholder) =
      r.predicates.map (Predicate.write Statement.placeholder) :=
    map_eq_of_aligned alike.predicates fun _ _ => Predicate.Alike.write_eq
  have empty : q.predicates.isEmpty = r.predicates.isEmpty := by
    rw [← List.isEmpty_map, predicates, List.isEmpty_map]
  rw [whereClause, whereClause, placeholders, bound, predicates, empty]

theorem writeSelect_eq :
    q.writeSelect Statement.placeholder = r.writeSelect Statement.placeholder := by
  simp only [writeSelect, projection, limitClause, alike.tableName_eq, alike.whereClause_eq,
    alike.distinct, alike.columns, alike.limit, alike.allowFiltering]

theorem writeDelete_eq :
    q.writeDelete Statement.placeholder = r.writeDelete Statement.placeholder := by
  simp only [writeDelete, deleteProjection, alike.tableName_eq, alike.whereClause_eq,
    alike.deleteColumns]

theorem writeIndex_eq (columns : List String) : q.writeIndex columns = r.writeIndex columns := by
  simp only [writeIndex, alike.tableName_eq]

theorem agree_writeInsert (columns : row.columns = other.columns) :
    Agree (fun _ _ => True) (q.writeInsert Statement.placeholder row)
      (r.writeInsert Statement.placeholder other) := by
  have literals := Agree.mapM alike.inserts fun _ _ => CollectionWrite.Alike.agree_literal
  rw [writeInsert, writeInsert, alike.tableName_eq, checkColumns_of_aligned columns alike.inserts]
  refine Agree.bind_same fun table => Agree.bind_same fun _ => ?_
  exact literals.bind fun _ _ _ => .made trivial

theorem agree_writeUpdate (columns : row.columns = other.columns) :
    Agree (fun _ _ => True) (q.writeUpdate Statement.placeholder row)
      (r.writeUpdate Statement.placeholder other) := by
  have assigned := Agree.mapM alike.updates fun _ _ => CollectionWrite.Alike.agree_assignment
  rw [writeUpdate, writeUpdate, alike.tableName_eq, alike.whereClause_eq,
    checkColumns_of_aligned columns alike.updates]
  refine Agree.bind_same fun table => Agree.bind_same fun _ => Agree.bind_same fun wheres => ?_
  exact assigned.bind fun _ _ _ => .made trivial

theorem writeInsert_eq (columns : row.columns = other.columns) (inserts : q.inserts = r.inserts) :
    q.writeInsert Statement.placeholder row = r.writeInsert Statement.placeholder other := by
  simp only [writeInsert, checkColumns, Row.map_placeholder_values, alike.tableName_eq, columns,
    inserts]

theorem writeUpdate_eq (columns : row.columns = other.columns) (updates : q.updates = r.updates) :
    q.writeUpdate Statement.placeholder row = r.writeUpdate Statement.placeholder other := by
  simp only [writeUpdate, checkColumns, assignments, Row.map_plainAssignment_entries,
    alike.tableName_eq, alike.whereClause_eq, columns, updates]

theorem insertText_inj (columns : row.columns = other.columns) {table : String}
    {literals literals' : List String}
    (encoded : q.inserts.mapM CollectionWrite.literal = .ok literals)
    (encoded' : r.inserts.mapM CollectionWrite.literal = .ok literals')
    (same : q.insertText Statement.placeholder row table literals =
      r.insertText Statement.placeholder other table literals') : q.inserts = r.inserts := by
  have aligned := Assigned.aligned_written columns alike.inserts
  have names : (written row q.inserts).map Assigned.column =
      (written other r.inserts).map Assigned.column :=
    map_eq_of_aligned aligned fun _ _ => Assigned.Alike.column
  -- The names are equal and cancel, so nothing is asked of them, as it is of names in general.
  rw [← String.toList_inj, toList_insertText encoded, toList_insertText encoded', names] at same
  simp only [List.append_cancel_left_eq] at same
  obtain ⟨writes, -⟩ :=
    joined_inj_of_aligned (fun _ _ _ _ => Assigned.Alike.valueChars_inj) aligned same
  exact Assigned.written_inj columns writes

theorem updateText_inj (columns : row.columns = other.columns) {table : String}
    {assignments assignments' : List String} (assigned : q.assignments = .ok assignments)
    (assigned' : r.assignments = .ok assignments')
    (same : q.updateText Statement.placeholder row table assignments =
      r.updateText Statement.placeholder other table assignments') : q.updates = r.updates := by
  have aligned := Assigned.aligned_written columns alike.updates
  rw [← String.toList_inj, toList_updateText assigned, toList_updateText assigned'] at same
  simp only [List.append_cancel_left_eq] at same
  obtain ⟨writes, -⟩ :=
    joined_inj_of_aligned (fun _ _ _ _ => Assigned.Alike.chars_inj) aligned same
  exact Assigned.written_inj columns writes

end Alike

end Query

namespace Statement

def same : Statement → Statement → Bool
  | select q, select r => q.same r
  | insert q row, insert r other => q.same r && row.same other
  | update q row, update r other => q.same r && row.same other
  | delete q, delete r => q.same r
  | index q columns, index r others => q.same r && columns == others
  | _, _ => false

def writes : Statement → List CollectionWrite
  | insert q _ => q.inserts
  | update q _ => q.updates
  | select _ | delete _ | index _ _ => []

/-- The decimals that stand in the text of a statement, with their places. -/
def decimals (s : Statement) : List Decimal :=
  s.writes.flatMap fun w => w.contents.decimals

inductive Alike : Statement → Statement → Prop
  | select {q r : Query} (queries : q.Alike r) : Alike (select q) (select r)
  | insert {q r : Query} {row other : Row} (queries : q.Alike r) (rows : row.same other = true) :
      Alike (insert q row) (insert r other)
  | update {q r : Query} {row other : Row} (queries : q.Alike r) (rows : row.same other = true) :
      Alike (update q row) (update r other)
  | delete {q r : Query} (queries : q.Alike r) : Alike (delete q) (delete r)
  | index {q r : Query} (queries : q.Alike r) (columns : List String) :
      Alike (index q columns) (index r columns)

theorem alike_of_same {s t : Statement} (same : s.same t = true) : s.Alike t := by
  cases s <;> cases t <;> simp only [Statement.same, Bool.and_eq_true, beq_iff_eq,
    Bool.false_eq_true] at same
  case select.select => exact .select (Query.alike_of_same same)
  case insert.insert => exact .insert (Query.alike_of_same same.1) same.2
  case update.update => exact .update (Query.alike_of_same same.1) same.2
  case delete.delete => exact .delete (Query.alike_of_same same)
  case index.index q columns r others =>
    obtain ⟨queries, rfl⟩ := same
    exact .index (Query.alike_of_same queries) columns

namespace Alike

variable {s t : Statement} (alike : s.Alike t)

include alike

theorem aligned_writes : List.Forall₂ CollectionWrite.Alike s.writes t.writes := by
  cases alike with
  | insert queries rows => exact queries.inserts
  | update queries rows => exact queries.updates
  | _ => exact .nil

theorem aligned_params : Value.Aligned s.params t.params := by
  cases alike with
  | select queries => exact queries.whereBindings
  | delete queries => exact queries.whereBindings
  | index queries columns => exact .nil
  | insert queries rows => exact Row.aligned_values rows
  | update queries rows => exact List.rel_append (Row.aligned_values rows) queries.whereBindings

theorem agree_write : Agree (fun _ _ => True) (s.write placeholder) (t.write placeholder) := by
  have equal {x y : Except QueryError String} (equal : x = y) : Agree (fun _ _ => True) x y :=
    equal ▸ (Agree.refl x).errors
  cases alike with
  | select queries => exact equal queries.writeSelect_eq
  | delete queries => exact equal queries.writeDelete_eq
  | index queries columns => exact equal (queries.writeIndex_eq columns)
  | insert queries rows => exact queries.agree_writeInsert (Row.columns_of_same rows)
  | update queries rows => exact queries.agree_writeUpdate (Row.columns_of_same rows)

theorem write_of_writes (writes : s.writes = t.writes) :
    s.write placeholder = t.write placeholder := by
  cases alike with
  | select queries => exact queries.writeSelect_eq
  | delete queries => exact queries.writeDelete_eq
  | index queries columns => exact queries.writeIndex_eq columns
  | insert queries rows => exact queries.writeInsert_eq (Row.columns_of_same rows) writes
  | update queries rows => exact queries.writeUpdate_eq (Row.columns_of_same rows) writes

theorem writes_of_write {text : String} (written : s.write placeholder = .ok text)
    (written' : t.write placeholder = .ok text) : s.writes = t.writes := by
  cases alike with
  | insert queries rows =>
      obtain ⟨table, literals, named, -, encoded, rfl⟩ := Query.writeInsert_eq_ok.mp written
      obtain ⟨table', literals', named', -, encoded', same⟩ := Query.writeInsert_eq_ok.mp written'
      rw [queries.table, named', Option.some_inj] at named
      subst named
      exact queries.insertText_inj (Row.columns_of_same rows) encoded encoded' same
  | update queries rows =>
      obtain ⟨table, assignments, named, -, -, assigned, rfl⟩ :=
        Query.writeUpdate_eq_ok.mp written
      obtain ⟨table', assignments', named', -, -, assigned', same⟩ :=
        Query.writeUpdate_eq_ok.mp written'
      rw [queries.table, named', Option.some_inj] at named
      subst named
      exact queries.updateText_inj (Row.columns_of_same rows) assigned assigned' same
  | _ => rfl

theorem writes_of_decimals (decimals : s.decimals = t.decimals) : s.writes = t.writes :=
  CollectionWrite.eq_of_decimals alike.aligned_writes decimals

end Alike

/-- Statements of one kind for queries and rows that are the same are refused with the same error, or
both are rendered.  Their parameters are the same then; their texts are equal just when the decimals
in the collections written out are equal with their signs and places.  So it is with the text of a
collection by itself. -/
theorem render_of_same :
    (∀ s t : Statement, s.same t = true →
      Agree
        (fun r r' => sameItems Value.same r.params r'.params = true ∧
          (r.text = r'.text ↔ s.decimals = t.decimals))
        s.render t.render) ∧
    ∀ kind (contents others : Collection.Contents), contents.same others = true →
      Agree (fun text text' => text = text' ↔ contents.decimals = others.decimals)
        (Collection.encode kind contents) (Collection.encode kind others) := by
  refine ⟨?_, fun kind contents others => Collection.agree_encode⟩
  intro s t same
  have alike := alike_of_same same
  have rendered : Agree (fun _ _ => True) s.render t.render :=
    alike.agree_write.bind fun _ _ _ => .made trivial
  refine rendered.strengthen fun r r' made made' _ => ?_
  obtain ⟨written, params⟩ := render_eq_ok.mp made
  obtain ⟨written', params'⟩ := render_eq_ok.mp made'
  refine ⟨?_, ?_, ?_⟩
  · rw [params, params', sameItems_iff]
    exact alike.aligned_params
  · -- Equal texts hold equal collections, since each shows its values and where it ends.
    intro texts
    rw [← texts] at written'
    rw [decimals, alike.writes_of_write written written', decimals]
  · intro decimals
    rw [alike.write_of_writes (alike.writes_of_decimals decimals), written'] at written
    exact (Except.ok.inj written).symm

theorem render_of_same_bound :
    let short : Decimal := ⟨false, 10, 1, by decide, by decide⟩
    let long : Decimal := ⟨false, 100, 2, by decide, by decide⟩
    let q (bound : Decimal) : Query :=
      Query.run {} [.onTable "t", .replaceCollection "list" "c" (.items [.decimal short]),
        .restrictEqual "id" (.decimal bound)]
    let s (bound : Decimal) : Statement :=
      update (q bound) (Row.ofList [("a", .decimal bound)])
    let text := "update t set a = ?, c=[1.0] where id = ?"
    (s short).same (s long) = true ∧
      (s short).render = .ok ⟨text, [.decimal short, .decimal short]⟩ ∧
      ∃ params, (s long).render = .ok ⟨text, params⟩ ∧
        sameItems Value.same [.decimal short, .decimal short] params = true := by
  intro short long q s text
  have same : (s short).same (s long) = true := by decide +kernel
  have rendered : (s short).render = .ok ⟨text, [.decimal short, .decimal short]⟩ := by
    decide +kernel
  have agree := render_of_same.1 (s short) (s long) same
  refine ⟨same, rendered, ?_⟩
  rw [rendered] at agree
  cases made : (s long).render with
  | error error =>
      rw [made] at agree
      cases agree
  | ok r =>
      rw [made] at agree
      cases agree with
      | made related =>
          obtain ⟨params, texts⟩ := related
          have unchanged : text = r.text := texts.mpr (by decide +kernel)
          exact ⟨r.params, by rw [unchanged], params⟩

/-- Two insertions that are the same but for the places of a decimal in a list. -/
theorem render_of_same_inlined :
    let contents : Collection.Contents := .items [.decimal ⟨false, 10, 1, by decide, by decide⟩]
    let others : Collection.Contents := .items [.decimal ⟨false, 100, 2, by decide, by decide⟩]
    let q (contents : Collection.Contents) : Query :=
      Query.run {} [.onTable "t", .insertCollection "list" "c" contents]
    (q contents).same (q others) = true ∧
      (insert (q contents) {}).render = .ok ⟨"insert into t (c) values ([1.0])", []⟩ ∧
      (insert (q others) {}).render = .ok ⟨"insert into t (c) values ([1.00])", []⟩ ∧
      (insert (q contents) {}).render ≠ (insert (q others) {}).render ∧
      contents.same others = true ∧
      Collection.encode .list contents ≠ Collection.encode .list others := by
  decide +kernel

end Statement

end WideColumn
