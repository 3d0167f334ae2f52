import WideColumn.Proofs.LegibleClauses

/-! The texts of statements show all that they say of names, predicates and collections. -/

namespace WideColumn

open Identifier (Safe EndsList isWord wrapChars listChars)

namespace Query

theorem toList_wheres (q : Query) :
    (spaced (q.wheres Statement.placeholder)).toList = whereChars q.predicates := by
  have predicates : List.map (String.toList ∘ Predicate.write Statement.placeholder) q.predicates =
      q.predicates.map Predicate.chars := by
    simp [Function.comp_def, Predicate.toList_write]
  by_cases bare : q.predicates = []
  · simp [wheres, whereChars, bare]
  · rw [whereChars, joined_of_ne_nil (by simpa using bare), ← predicates]
    simp [wheres, bare, Predicate.connective, String.toList_intercalate]

def limitChars (q : Query) : List Char :=
  match q.limit with
  | some n => " limit ".toList ++ Text.digitsOf n.val.toNat
  | none => []

def filteringChars (q : Query) : List Char :=
  if q.allowFiltering then " allow filtering".toList else []

theorem filtering_inj {q r : Query} (same : q.filteringChars = r.filteringChars) :
    q.allowFiltering = r.allowFiltering := by
  cases left : q.allowFiltering <;> cases right : r.allowFiltering <;>
    simp [filteringChars, left, right] at same ⊢

theorem breaks_filtering (q : Query) : Breaks Char.isDigit q.filteringChars := by
  cases filtering : q.allowFiltering <;> simp [filteringChars, filtering]

theorem limit_ne_filtering (n : RowLimit) {x : List Char} (r : Query) :
    " limit ".toList ++ (Text.digitsOf n.val.toNat ++ x) ≠ r.filteringChars := by
  cases filtering : r.allowFiltering <;> simp [filteringChars, filtering]

theorem ending_inj {q r : Query}
    (same : q.limitChars ++ q.filteringChars = r.limitChars ++ r.filteringChars) :
    q.limit = r.limit ∧ q.allowFiltering = r.allowFiltering := by
  cases left : q.limit with
  | none =>
      cases right : r.limit with
      | none =>
          simp only [limitChars, left, right, List.nil_append] at same
          exact ⟨rfl, filtering_inj same⟩
      | some m =>
          simp only [limitChars, left, right, List.nil_append, List.append_assoc] at same
          exact absurd same.symm (limit_ne_filtering m q)
  | some n =>
      cases right : r.limit with
      | none =>
          simp only [limitChars, left, right, List.nil_append, List.append_assoc] at same
          exact absurd same (limit_ne_filtering n r)
      | some m =>
          simp only [limitChars, left, right, List.append_assoc] at same
          obtain ⟨digits, rest⟩ := Legible.run Char.isDigit
            (fun _ => Text.isDigit_of_mem_digitsOf) (fun _ => Text.isDigit_of_mem_digitsOf)
            (breaks_filtering q) (breaks_filtering r) (List.append_cancel_left same)
          have numbers := congrArg Text.ofDigits digits
          simp only [id, Text.ofDigits_digitsOf] at numbers
          have limits : n = m := Subtype.ext (UInt32.toNat_inj.mp numbers)
          exact ⟨congrArg some limits, filtering_inj rest⟩

theorem ending_apart (q : Query) :
    Breaks isWord (q.limitChars ++ q.filteringChars) ∧
      ¬" and ".toList <+: q.limitChars ++ q.filteringChars ∧
        ¬" where ".toList <+: q.limitChars ++ q.filteringChars := by
  cases limit : q.limit with
  | none =>
      cases filtering : q.allowFiltering <;>
        simp [limitChars, filteringChars, limit, filtering, isWord]
  | some n => simp [limitChars, limit, isWord]

def projectionChars (columns : List String) : List Char :=
  if columns = [] then "*".toList else listChars [] columns

theorem toList_projection (q : Query) :
    q.projection.toList = projectionChars (q.columns.getD []) := by
  unfold projection
  split
  · rename_i column columns selected
    rw [selected, Option.getD_some, Identifier.toList_wrapAll, projectionChars,
      if_neg (List.cons_ne_nil column columns)]
  · rename_i unnamed
    cases selected : q.columns with
    | none => rfl
    | some columns =>
        cases columns with
        | nil => rfl
        | cons column columns => exact absurd selected (unnamed column columns)

theorem wildcard_ne_listChars {columns : List String} (present : columns ≠ [])
    (safe : ∀ name ∈ columns, Safe name) {x y : List Char} (breaks : Breaks isWord y) :
    "*".toList ++ x ≠ listChars [] columns ++ y := by
  intro same
  obtain ⟨name, member, rest, -, spelled⟩ := Identifier.exists_listChars [] present breaks
  rw [spelled] at same
  exact (safe name member).append_ne_cons (by decide) same.symm

theorem projection_inj {columns others : List String} (left : ∀ name ∈ columns, Safe name)
    (right : ∀ name ∈ others, Safe name) {x y : List Char}
    (same : projectionChars columns ++ (" from ".toList ++ x) =
      projectionChars others ++ (" from ".toList ++ y)) : columns = others ∧ x = y := by
  have breaks (x : List Char) : Breaks isWord (" from ".toList ++ x) := by simp [isWord]
  have ends (x : List Char) : EndsList [] (" from ".toList ++ x) := by
    refine ⟨breaks x, by simp, ?_⟩
    intro name rest safe _ same
    exact safe.append_ne_cons (by decide) same.symm
  unfold projectionChars at same
  split at same
  · rename_i first
    split at same
    · rename_i second
      exact ⟨first.trans second.symm, List.append_cancel_left (List.append_cancel_left same)⟩
    · rename_i second
      exact absurd same (wildcard_ne_listChars second right (breaks y))
  · rename_i first
    split at same
    · exact absurd same.symm (wildcard_ne_listChars first left (breaks x))
    · obtain ⟨columns, rest⟩ := Identifier.legible_list left right (ends x) (ends y) same
      exact ⟨columns, List.append_cancel_left rest⟩

def distinctChars (q : Query) : List Char :=
  if q.distinct then " distinct".toList else []

theorem distinct_ne_projection {columns : List String} (safe : ∀ name ∈ columns, Safe name)
    {x y : List Char} :
    " distinct".toList ++ (" ".toList ++ x) ≠
      " ".toList ++ (projectionChars columns ++ (" from ".toList ++ y)) := by
  intro same
  have lead : " distinct".toList = " ".toList ++ "distinct".toList := by simp
  rw [lead, List.append_assoc] at same
  have word := List.append_cancel_left same
  unfold projectionChars at word
  split at word
  · simp at word
  · rename_i present
    have breaks : Breaks isWord (" from ".toList ++ y) := by simp [isWord]
    obtain ⟨name, member, rest, breaks, spelled⟩ := Identifier.exists_listChars [] present breaks
    rw [spelled] at word
    exact (safe name member).apart (by decide) breaks (by simp [isWord]) word.symm

theorem distinct_inj {q r : Query} {columns others : List String}
    (left : ∀ name ∈ columns, Safe name) (right : ∀ name ∈ others, Safe name) {x y : List Char}
    (same : q.distinctChars ++ (" ".toList ++ (projectionChars columns ++ (" from ".toList ++ x))) =
      r.distinctChars ++ (" ".toList ++ (projectionChars others ++ (" from ".toList ++ y)))) :
    q.distinct = r.distinct ∧ projectionChars columns ++ (" from ".toList ++ x) =
      projectionChars others ++ (" from ".toList ++ y) := by
  cases onLeft : q.distinct with
  | true =>
      cases onRight : r.distinct with
      | true =>
          simp only [distinctChars, onLeft, onRight] at same
          exact ⟨rfl, List.append_cancel_left (List.append_cancel_left same)⟩
      | false =>
          simp only [distinctChars, onLeft, onRight, if_true] at same
          exact absurd same (distinct_ne_projection right)
  | false =>
      cases onRight : r.distinct with
      | true =>
          simp only [distinctChars, onLeft, onRight, if_true] at same
          exact absurd same.symm (distinct_ne_projection left)
      | false =>
          simp only [distinctChars, onLeft, onRight] at same
          exact ⟨rfl, List.append_cancel_left (List.append_cancel_left same)⟩

variable {q r : Query} {table other : String}

theorem toList_selectText :
    (q.selectText Statement.placeholder table).toList =
      "select".toList ++ (q.distinctChars ++ (" ".toList ++
        (projectionChars (q.columns.getD []) ++ (" from ".toList ++ (wrapChars table.toList ++
          (whereChars q.predicates ++ (q.limitChars ++ q.filteringChars))))))) := by
  have limits : (spaced q.limitClause).toList = q.limitChars := by
    cases limit : q.limit with
    | none => simp [limitClause, limitChars, limit]
    | some n => simp [limitClause, limitChars, limit, Text.digitsOf]
  have distinct : (spaced (if q.distinct then ["distinct"] else [])).toList = q.distinctChars := by
    cases distinct : q.distinct <;> simp [distinctChars, distinct]
  have filtering : (spaced (if q.allowFiltering then ["allow filtering"] else [])).toList =
      q.filteringChars := by
    cases filtering : q.allowFiltering <;> simp [filteringChars, filtering]
  simp only [selectText, String.toList_append, toList_wheres, limits, distinct, filtering,
    spaced_cons, spaced_nil, toList_projection, Identifier.toList_wrap]
  simp

theorem selectText_inj (tableSafe : Safe table) (otherSafe : Safe other)
    (left : ∀ name ∈ q.columns.getD [], Safe name) (right : ∀ name ∈ r.columns.getD [], Safe name)
    (leftWhere : ∀ p ∈ q.predicates, Safe p.column) (rightWhere : ∀ p ∈ r.predicates, Safe p.column)
    (same : q.selectText Statement.placeholder table = r.selectText Statement.placeholder other) :
    table = other ∧ q.columns.getD [] = r.columns.getD [] ∧ q.distinct = r.distinct ∧
      q.predicates.map Predicate.shown = r.predicates.map Predicate.shown ∧
        q.limit = r.limit ∧ q.allowFiltering = r.allowFiltering := by
  obtain ⟨leftBreaks, leftEnds⟩ := ending_apart q
  obtain ⟨rightBreaks, rightEnds⟩ := ending_apart r
  rw [← String.toList_inj, toList_selectText, toList_selectText] at same
  obtain ⟨distinct, same⟩ := distinct_inj left right (List.append_cancel_left same)
  obtain ⟨columns, same⟩ := projection_inj left right same
  obtain ⟨tables, same⟩ := Identifier.legible tableSafe otherSafe
    (breaks_whereChars _ leftBreaks) (breaks_whereChars _ rightBreaks) same
  obtain ⟨predicates, same⟩ := legible_wheres leftWhere rightWhere leftEnds rightEnds same
  obtain ⟨limits, filtering⟩ := ending_inj same
  exact ⟨tables, columns, distinct, predicates, limits, filtering⟩

theorem toList_deleteText :
    (q.deleteText Statement.placeholder table).toList =
      "delete".toList ++ (listChars " ".toList (q.deleteColumns.getD []) ++
        (" from ".toList ++ (wrapChars table.toList ++ whereChars q.predicates))) := by
  have projection : (spaced q.deleteProjection).toList =
      listChars " ".toList (q.deleteColumns.getD []) := by
    cases deleted : q.deleteColumns with
    | none => simp [deleteProjection, deleted, listChars]
    | some columns =>
        cases columns with
        | nil => simp [deleteProjection, deleted, listChars]
        | cons column columns =>
            simp [deleteProjection, deleted, listChars, Identifier.toList_wrapAll]
  simp only [deleteText, String.toList_append, toList_wheres, projection, spaced_cons, spaced_nil,
    Identifier.toList_wrap]
  simp

theorem deleteText_inj (tableSafe : Safe table) (otherSafe : Safe other)
    (left : ∀ name ∈ q.deleteColumns.getD [], Safe name)
    (right : ∀ name ∈ r.deleteColumns.getD [], Safe name)
    (leftWhere : ∀ p ∈ q.predicates, Safe p.column) (rightWhere : ∀ p ∈ r.predicates, Safe p.column)
    (same : q.deleteText Statement.placeholder table = r.deleteText Statement.placeholder other) :
    table = other ∧ q.deleteColumns.getD [] = r.deleteColumns.getD [] ∧
      q.predicates.map Predicate.shown = r.predicates.map Predicate.shown := by
  have ends (x : List Char) : EndsList " ".toList (" from ".toList ++ x) := by
    refine ⟨by simp [isWord], by simp, ?_⟩
    intro name rest safe breaks same
    have lead : " from ".toList = " ".toList ++ ("from".toList ++ " ".toList) := by simp
    rw [lead, List.append_assoc, List.append_assoc] at same
    have word := List.append_cancel_left same
    exact safe.apart (by decide) breaks (by simp [isWord]) word.symm
  have last (predicates : List Predicate) : Breaks isWord (whereChars predicates) := by
    simpa using breaks_whereChars predicates breaks_nil
  rw [← String.toList_inj, toList_deleteText, toList_deleteText] at same
  have same := List.append_cancel_left same
  obtain ⟨columns, same⟩ := Identifier.legible_list left right (ends _) (ends _) same
  obtain ⟨tables, same⟩ := Identifier.legible tableSafe otherSafe (last _) (last _)
    (List.append_cancel_left same)
  obtain ⟨predicates, -⟩ := legible_wheres leftWhere rightWhere nothing_follows nothing_follows
    (congrArg (· ++ []) same)
  exact ⟨tables, columns, predicates⟩

theorem toList_indexText {columns : List String} :
    (indexText columns table).toList =
      "create index if not exists on ".toList ++ (wrapChars table.toList ++ ("(".toList ++
        (listChars [] columns ++ ")".toList))) := by
  -- Only unfolded: the equation of a definition around so long a text is slow to derive.
  delta indexText
  simp only [String.toList_append, Identifier.toList_wrap, Identifier.toList_wrapAll,
    List.append_assoc]

theorem closing_names {x : List Char} (closes : x.head? = some ')') : EndsList [] x := by
  obtain ⟨later, rfl⟩ := List.head?_eq_some_iff.mp closes
  refine ⟨by simp [isWord], by simp, ?_⟩
  intro name rest safe _ same
  exact safe.append_ne_cons (by decide) same.symm

theorem indexText_inj {columns others : List String} (tableSafe : Safe table)
    (otherSafe : Safe other) (left : ∀ name ∈ columns, Safe name)
    (right : ∀ name ∈ others, Safe name)
    (same : indexText columns table = indexText others other) :
    table = other ∧ columns = others := by
  have breaks (x : List Char) : Breaks isWord ("(".toList ++ x) := by simp [isWord]
  rw [← String.toList_inj, toList_indexText, toList_indexText] at same
  obtain ⟨tables, same⟩ := Identifier.legible tableSafe otherSafe (breaks _) (breaks _)
    (List.append_cancel_left same)
  obtain ⟨columns, -⟩ := Identifier.legible_list left right (closing_names (by simp))
    (closing_names (by simp)) (List.append_cancel_left same)
  exact ⟨tables, columns⟩

def written (row : Row) (writes : List CollectionWrite) : List Assigned :=
  row.columns.map .plain ++ writes.map .collection

theorem column_written (row : Row) (writes : List CollectionWrite) :
    (written row writes).map Assigned.column =
      row.columns ++ writes.map CollectionWrite.column := by
  simp [written, Function.comp_def, Assigned.column]

theorem map_toList_of_mapM {α : Type} {f : α → Except QueryError String} {g : α → List Char}
    (spelled : ∀ {a text}, f a = .ok text → text.toList = g a) {items : List α}
    {texts : List String} (mapped : items.mapM f = .ok texts) :
    texts.map String.toList = items.map g := by
  induction mapM_eq_ok.mp mapped with
  | nil => rfl
  | cons here there ih =>
      rw [List.map_cons, List.map_cons, spelled here, ih (mapM_eq_ok.mpr there)]

theorem toList_literals {writes : List CollectionWrite} {literals : List String}
    (encoded : writes.mapM CollectionWrite.literal = .ok literals) :
    literals.map String.toList =
      writes.map fun write => Collection.chars write.kind write.contents := by
  apply map_toList_of_mapM _ encoded
  intro write text literal
  exact Collection.toList_encode literal

theorem toList_insertText {row : Row} {literals : List String}
    (encoded : q.inserts.mapM CollectionWrite.literal = .ok literals) :
    (q.insertText Statement.placeholder row table literals).toList =
      "insert into ".toList ++ (wrapChars table.toList ++ (" (".toList ++
        (listChars [] ((written row q.inserts).map Assigned.column) ++ (") values (".toList ++
          (joined [] ", ".toList ((written row q.inserts).map Assigned.valueChars) ++
            ")".toList))))) := by
  have values : (row.values.map Statement.placeholder ++ literals).map String.toList =
      (written row q.inserts).map Assigned.valueChars := by
    rw [written, List.map_append, List.map_append, toList_literals encoded]
    simp only [List.map_map, Function.comp_def, Row.values, Row.columns, Assigned.valueChars,
      Statement.placeholder]
  delta insertText
  simp only [String.toList_append, Identifier.toList_wrap, Identifier.toList_wrapAll,
    String.toList_intercalate, joined_eq_intercalate, values, column_written, List.append_assoc]

theorem insertText_inj {row row' : Row} {literals literals' : List String}
    (tableSafe : Safe table) (otherSafe : Safe other)
    (left : ∀ a ∈ written row q.inserts, Safe a.column)
    (right : ∀ a ∈ written row' r.inserts, Safe a.column)
    (encoded : q.inserts.mapM CollectionWrite.literal = .ok literals)
    (encoded' : r.inserts.mapM CollectionWrite.literal = .ok literals')
    (same : q.insertText Statement.placeholder row table literals =
      r.insertText Statement.placeholder row' other literals') :
    table = other ∧
      (written row q.inserts).map Assigned.column = (written row' r.inserts).map Assigned.column ∧
        (written row q.inserts).map Assigned.valueShown =
          (written row' r.inserts).map Assigned.valueShown := by
  have breaks (x : List Char) : Breaks isWord (" (".toList ++ x) := by simp [isWord]
  have ends : EndsJoined (fun _ => True) Assigned.valueChars (fun _ => True) [] ", ".toList
      ")".toList := by
    refine ⟨trivial, by simp, ?_⟩
    intro a rest _ _ same
    exact a.valueChars_append_ne rest same.symm
  rw [← String.toList_inj, toList_insertText encoded, toList_insertText encoded'] at same
  obtain ⟨tables, same⟩ := Identifier.legible tableSafe otherSafe (breaks _) (breaks _)
    (List.append_cancel_left same)
  obtain ⟨columns, same⟩ := Identifier.legible_list (List.forall_mem_map.mpr left)
    (List.forall_mem_map.mpr right) (closing_names (by simp)) (closing_names (by simp))
    (List.append_cancel_left same)
  obtain ⟨values, -⟩ := Assigned.legible_values.joined (fun _ => trivial) (fun _ _ => trivial)
    (fun _ _ => trivial) ends ends (List.append_cancel_left same)
  exact ⟨tables, columns, values⟩

theorem toList_assignment {write : CollectionWrite} {text : String}
    (assigned : write.assignment = .ok text) :
    text.toList = Assigned.chars (.collection write) := by
  obtain ⟨literal, encoded, rfl⟩ := CollectionWrite.assignment_eq_ok.mp assigned
  have literal : literal.toList = Collection.chars write.kind write.contents :=
    Collection.toList_encode encoded
  cases delta : write.delta with
  | none =>
      simp [CollectionWrite.assign, Assigned.chars, Assigned.column, Assigned.assignedChars,
        Assigned.writeChars, delta, literal]
  | some delta =>
      simp [CollectionWrite.assign, Assigned.chars, Assigned.column, Assigned.assignedChars,
        Assigned.writeChars, delta, literal]

theorem toList_spaced_list (parts : List String) :
    (spaced (if parts.isEmpty then [] else [", ".intercalate parts])).toList =
      joined " ".toList ", ".toList (parts.map String.toList) := by
  cases parts with
  | nil => rfl
  | cons part parts =>
      rw [joined_of_ne_nil (by simp), ← String.toList_intercalate]
      simp

theorem toList_updateText {row : Row} {assignments : List String}
    (assigned : q.assignments = .ok assignments) :
    (q.updateText Statement.placeholder row table assignments).toList =
      "update ".toList ++ (wrapChars table.toList ++ (" set".toList ++
        (joined " ".toList ", ".toList ((written row q.updates).map Assigned.chars) ++
          whereChars q.predicates))) := by
  have collections := map_toList_of_mapM toList_assignment assigned
  have all : (row.entries.map (plainAssignment Statement.placeholder) ++ assignments).map
      String.toList = (written row q.updates).map Assigned.chars := by
    rw [written, List.map_append, List.map_append, collections]
    simp [Function.comp_def, Row.columns, Assigned.chars, Assigned.column, Assigned.assignedChars,
      plainAssignment, Statement.placeholder]
  have keyword : "update ".toList = "update".toList ++ " ".toList := by simp
  have setting : " set".toList = " ".toList ++ "set".toList := by simp
  delta updateText
  simp only [String.toList_append, spaced_cons, spaced_nil, toList_spaced_list, toList_wheres,
    all, Identifier.toList_wrap, keyword, setting, List.append_assoc]
  simp

/-- No column can be taken for the word that begins the where clause. -/
theorem wheres_ne_assigned {predicates : List Predicate} {a : Assigned} (safe : Safe a.column)
    {rest : List Char} : whereChars predicates ≠ " ".toList ++ (a.chars ++ rest) := by
  intro same
  cases predicates with
  | nil => simp [whereChars] at same
  | cons p predicates =>
      have lead : " where ".toList = " ".toList ++ ("where".toList ++ " ".toList) := by simp
      rw [whereChars, List.map_cons, joined_cons, Assigned.chars, lead, List.append_assoc,
        List.append_assoc, List.append_assoc] at same
      have word := List.append_cancel_left same
      exact safe.apart (by decide) (a.breaks_assignedChars rest) (by simp [isWord]) word.symm

theorem updateText_inj {row row' : Row} {assignments assignments' : List String}
    (tableSafe : Safe table) (otherSafe : Safe other)
    (left : ∀ a ∈ written row q.updates, Safe a.column)
    (right : ∀ a ∈ written row' r.updates, Safe a.column)
    (leftWhere : ∀ p ∈ q.predicates, Safe p.column) (rightWhere : ∀ p ∈ r.predicates, Safe p.column)
    (assigned : q.assignments = .ok assignments) (assigned' : r.assignments = .ok assignments')
    (same : q.updateText Statement.placeholder row table assignments =
      r.updateText Statement.placeholder row' other assignments') :
    table = other ∧
      (written row q.updates).map Assigned.shown = (written row' r.updates).map Assigned.shown ∧
        q.predicates.map Predicate.shown = r.predicates.map Predicate.shown := by
  have breaks (x : List Char) : Breaks isWord (" set".toList ++ x) := by simp [isWord]
  have ends (predicates : List Predicate) : EndsJoined (fun a => Safe a.column) Assigned.chars
      (fun _ => True) " ".toList ", ".toList (whereChars predicates) := by
    refine ⟨trivial, ?_, fun a rest safe _ => wheres_ne_assigned safe⟩
    cases predicates <;> simp [whereChars]
  rw [← String.toList_inj, toList_updateText assigned, toList_updateText assigned'] at same
  obtain ⟨tables, same⟩ := Identifier.legible tableSafe otherSafe (breaks _) (breaks _)
    (List.append_cancel_left same)
  obtain ⟨writes, same⟩ := Assigned.legible.joined (fun _ => trivial) left right (ends _) (ends _)
    (List.append_cancel_left same)
  obtain ⟨predicates, -⟩ := legible_wheres leftWhere rightWhere nothing_follows nothing_follows
    (congrArg (· ++ []) same)
  exact ⟨tables, writes, predicates⟩

end Query

end WideColumn
