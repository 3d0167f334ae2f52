import WideColumn.Inline
import WideColumn.Proofs.Bindings
import WideColumn.Proofs.Identifiers
import WideColumn.Proofs.Literals

namespace WideColumn

namespace Placeholder

theorem fill_append {quoted : Bool} {literals later : List (List Char)} {left right : List Char}
    (counted : count quoted left = literals.length) :
    fill quoted (literals ++ later) (left ++ right) =
      fill quoted literals left ++ fill (endsQuoted quoted left) later right := by
  induction left generalizing quoted literals with
  | nil =>
      have empty : literals = [] := List.eq_nil_of_length_eq_zero counted.symm
      subst empty
      rfl
  | cons c rest ih =>
      rw [List.cons_append]
      by_cases quote : c = '\''
      · subst quote
        rw [count_quote] at counted
        simp [ih counted]
      · rw [endsQuoted_other quote]
        by_cases mark : c = '?' → quoted = true
        · rw [count_other quote mark] at counted
          simp [fill_other quote mark, ih counted]
        · obtain ⟨rfl, outside⟩ := Classical.not_imp.mp mark
          rw [Bool.not_eq_true] at outside
          subst outside
          rw [count_mark] at counted
          cases literals with
          | nil => cases counted
          | cons literal literals =>
              have counted : count false rest = literals.length := Nat.succ.inj counted
              simp [ih counted]

end Placeholder

open Placeholder

def Plain (text : String) : Prop :=
  ∀ c ∈ text.toList, c ≠ '\'' ∧ c ≠ '?'

/-- `marked` has a placeholder for each value, all outside quotes, and closes its quotes; with the
literals in their places it is `inlined`. -/
structure Filled (values : List Value) (marked inlined : String) : Prop where
  marks : count false marked.toList = values.length
  closed : endsQuoted false marked.toList = false
  fills : fill false (values.map Value.literalChars) marked.toList = inlined.toList

namespace Filled

theorem append {values later : List Value} {marked inlined marked' inlined' : String}
    (left : Filled values marked inlined) (right : Filled later marked' inlined') :
    Filled (values ++ later) (marked ++ marked') (inlined ++ inlined') where
  marks := by
    rw [String.toList_append, count_append, left.closed, left.marks, right.marks,
      List.length_append]
  closed := by rw [String.toList_append, endsQuoted_append, left.closed, right.closed]
  fills := by
    have counted : count false marked.toList = (values.map Value.literalChars).length := by
      rw [left.marks, List.length_map]
    rw [String.toList_append, List.map_append, fill_append counted, left.closed, left.fills,
      right.fills, String.toList_append]

theorem after {values : List Value} {marked inlined text : String}
    (left : Filled values marked inlined) (right : Filled [] text text) :
    Filled values (marked ++ text) (inlined ++ text) := by
  simpa using left.append right

theorem of_plain {text : String} (plain : Plain text) : Filled [] text text := by
  suffices scan : ∀ chars : List Char, (∀ c ∈ chars, c ≠ '\'' ∧ c ≠ '?') →
      count false chars = 0 ∧ endsQuoted false chars = false ∧ fill false [] chars = chars by
    obtain ⟨marks, closed, fills⟩ := scan text.toList plain
    exact ⟨marks, closed, fills⟩
  intro chars absent
  induction chars with
  | nil => exact ⟨rfl, rfl, rfl⟩
  | cons c rest ih =>
      obtain ⟨unquoted, unmarked⟩ := absent c List.mem_cons_self
      obtain ⟨marks, closed, fills⟩ := ih fun d member => absent d (List.mem_cons_of_mem c member)
      have unmarked : c = '?' → false = true := fun mark => absurd mark unmarked
      exact ⟨by rw [count_other unquoted unmarked, marks],
        by rw [endsQuoted_other unquoted, closed],
        by rw [fill_other unquoted unmarked, fills]⟩

theorem placeholder (value : Value) : Filled [value] "?" value.literal where
  marks := by simp [count]
  closed := by simp [endsQuoted]
  fills := by simp [fill]

theorem empty : Filled [] "" "" :=
  of_plain (by simp [Plain])

theorem of_bare {text : String} (bare : ∀ c ∈ text.toList, isBare c = true) :
    Filled [] text text := by
  apply of_plain
  intro c member
  have ordinary := bare c member
  constructor
  · intro quote
    subst quote
    cases ordinary
  · intro mark
    subst mark
    cases ordinary

theorem quoted (s : List Char) (rest : List Char) :
    count true (Text.double '\'' s ++ '\'' :: rest) = count false rest ∧
      endsQuoted true (Text.double '\'' s ++ '\'' :: rest) = endsQuoted false rest ∧
      fill true [] (Text.double '\'' s ++ '\'' :: rest) =
        Text.double '\'' s ++ '\'' :: fill false [] rest := by
  induction s with
  | nil => simp
  | cons c s ih =>
      obtain ⟨marks, closed, fills⟩ := ih
      by_cases quote : c = '\''
      · subst quote
        simp [marks, closed, fills]
      · rw [Text.double_cons_of_ne quote, List.cons_append]
        have inside : c = '?' → true = true := fun _ => rfl
        exact ⟨by rw [count_other quote inside, marks], by rw [endsQuoted_other quote, closed],
          by rw [fill_other quote inside, fills, List.cons_append]⟩

theorem literal (value : Value) : Filled [] value.literal value.literal := by
  cases textual : value.isTextual with
  | true =>
      cases value with
      | text s =>
          obtain ⟨marks, closed, fills⟩ := quoted s.toList []
          constructor
          · simpa [Value.literalChars, count] using marks
          · simpa [Value.literalChars, endsQuoted] using closed
          · simpa [Value.literalChars] using fills
      | _ => cases textual
  | false =>
      apply of_bare
      intro c member
      rw [Value.toList_literal] at member
      exact Value.isBare_of_mem_literalChars textual member

end Filled

inductive FilledAll : List Value → List String → List String → Prop
  | nil : FilledAll [] [] []
  | cons {values later : List Value} {marked inlined : String} {markeds inlineds : List String}
      (first : Filled values marked inlined) (rest : FilledAll later markeds inlineds) :
      FilledAll (values ++ later) (marked :: markeds) (inlined :: inlineds)

namespace FilledAll

theorem map {α : Type} {values : α → List Value} {marked inlined : α → String} {items : List α}
    (each : ∀ item ∈ items, Filled (values item) (marked item) (inlined item)) :
    FilledAll (items.flatMap values) (items.map marked) (items.map inlined) := by
  induction items with
  | nil => exact .nil
  | cons item items ih =>
      have first := each item List.mem_cons_self
      exact .cons first (ih fun other member => each other (List.mem_cons_of_mem item member))

theorem map_one {α : Type} {value : α → Value} {marked inlined : α → String} {items : List α}
    (each : ∀ item ∈ items, Filled [value item] (marked item) (inlined item)) :
    FilledAll (items.map value) (items.map marked) (items.map inlined) := by
  rw [List.map_eq_flatMap]
  exact map each

theorem texts {parts : List String} (each : ∀ part ∈ parts, Filled [] part part) :
    FilledAll [] parts parts := by
  induction parts with
  | nil => exact .nil
  | cons part parts ih =>
      have first := each part List.mem_cons_self
      exact .cons first (ih fun other member => each other (List.mem_cons_of_mem part member))

theorem append {values later : List Value} {markeds inlineds markeds' inlineds' : List String}
    (left : FilledAll values markeds inlineds) (right : FilledAll later markeds' inlineds') :
    FilledAll (values ++ later) (markeds ++ markeds') (inlineds ++ inlineds') := by
  induction left with
  | nil => exact right
  | cons first rest ih =>
      rw [List.append_assoc]
      exact .cons first ih

variable {values : List Value} {markeds inlineds : List String}

theorem intercalate {separator : String} (plain : Plain separator)
    (filled : FilledAll values markeds inlineds) :
    Filled values (separator.intercalate markeds) (separator.intercalate inlineds) := by
  induction filled with
  | nil => exact Filled.empty
  | cons first rest ih =>
      cases rest with
      | nil => simpa using first
      | cons second rest =>
          rw [String.intercalate_cons_cons, String.intercalate_cons_cons]
          exact (first.after (Filled.of_plain plain)).append ih

theorem spaced (filled : FilledAll values markeds inlineds) :
    Filled values (spaced markeds) (spaced inlineds) := by
  induction filled with
  | nil => exact Filled.empty
  | cons first rest ih =>
      have space : Filled [] " " " " := Filled.of_plain (by simp [Plain])
      exact (space.append first).append ih

theorem clause {separator : String} (plain : Plain separator)
    (filled : FilledAll values markeds inlineds) :
    Filled values
      (WideColumn.spaced (if markeds.isEmpty then [] else [separator.intercalate markeds]))
      (WideColumn.spaced (if inlineds.isEmpty then [] else [separator.intercalate inlineds])) := by
  have list := filled.intercalate plain
  cases filled with
  | nil => exact Filled.empty
  | cons first rest => simpa using (FilledAll.cons list .nil).spaced

end FilledAll

namespace Filled

theorem wrap {name : String} (plain : Plain name) :
    Filled [] (Identifier.wrap name) (Identifier.wrap name) := by
  apply of_plain
  intro c member
  exact plain c (Identifier.mem_toList_wrap.mp member)

theorem wrapAll {names : List String} (plain : ∀ name ∈ names, Plain name) :
    Filled [] (Identifier.wrapAll names) (Identifier.wrapAll names) := by
  apply FilledAll.intercalate (by simp [Plain])
  apply FilledAll.texts
  intro text member
  obtain ⟨name, present, rfl⟩ := List.mem_map.mp member
  exact wrap (plain name present)

theorem part {kind : Collection.Kind} {contents : Collection.Contents} {parts : List String}
    (shaped : Collection.parts? kind contents = some parts) :
    ∀ part ∈ parts, Filled [] part part := by
  intro part member
  rcases Collection.parts?_eq_some shaped with ⟨items, -, -, rfl⟩ | ⟨entries, -, -, rfl⟩
  · obtain ⟨value, -, rfl⟩ := List.mem_map.mp member
    exact literal value
  · obtain ⟨entry, -, rfl⟩ := List.mem_map.mp member
    have colon : Filled [] ":" ":" := of_plain (by simp [Plain])
    exact ((literal entry.1).append colon).append (literal entry.2)

theorem encoded {kind : Collection.Kind} {contents : Collection.Contents} {text : String}
    (written : Collection.encode kind contents = .ok text) : Filled [] text text := by
  obtain ⟨parts, shaped, rfl⟩ := Collection.encode_eq_ok.mp written
  have opening : Filled [] kind.opening kind.opening :=
    of_plain (by cases kind <;> simp [Plain, Collection.Kind.opening])
  have closing : Filled [] kind.closing kind.closing :=
    of_plain (by cases kind <;> simp [Plain, Collection.Kind.closing])
  have body : Filled [] (",".intercalate parts) (",".intercalate parts) :=
    (FilledAll.texts (part shaped)).intercalate (by simp [Plain])
  exact (opening.append body).append closing

theorem assignment {w : CollectionWrite} {text : String} (plain : Plain w.column)
    (written : w.assignment = .ok text) : Filled [] text text := by
  obtain ⟨literal, encoding, rfl⟩ := CollectionWrite.assignment_eq_ok.mp written
  have column := wrap plain
  have equals : Filled [] "=" "=" := of_plain (by simp [Plain])
  have value := encoded encoding
  unfold CollectionWrite.assign
  cases w.delta with
  | none => exact (column.append equals).append value
  | some delta =>
      have sign : Filled [] delta.spelling delta.spelling :=
        of_plain (by cases delta <;> simp [Plain, Delta.spelling])
      exact (((column.append equals).append column).append sign).append value

theorem predicate {p : Predicate} (plain : Plain p.column) :
    Filled p.operand.values (p.write Statement.placeholder) (p.write Value.literal) := by
  have column := wrap plain
  have space : Filled [] " " " " := of_plain (by simp [Plain])
  have operator : Filled [] p.operator.spelling p.operator.spelling :=
    of_plain (by cases p.operator <;> simp [Plain, Operator.spelling])
  have before := ((column.append space).append operator).append space
  unfold Predicate.write
  cases p.operand with
  | single value => exact before.append (placeholder value)
  | many values =>
      have opening : Filled [] "(" "(" := of_plain (by simp [Plain])
      have closing : Filled [] ")" ")" := of_plain (by simp [Plain])
      have items : FilledAll (values.map id) (values.map Statement.placeholder)
          (values.map Value.literal) := FilledAll.map_one fun value _ => placeholder value
      rw [List.map_id] at items
      have list := items.intercalate (by simp [Plain] : Plain ", ")
      exact before.append ((opening.append list).after closing)

variable {q : Query}

theorem wheres (plain : ∀ name ∈ q.predicates.map Predicate.column, Plain name) :
    Filled q.asked (spaced (q.wheres Statement.placeholder)) (spaced (q.wheres Value.literal)) := by
  unfold Query.wheres
  split
  · rename_i bare
    have unasked : q.asked = [] := by simp [Query.asked, List.isEmpty_iff.mp bare]
    rw [unasked]
    exact empty
  · have keyword : Filled [] "where " "where " := of_plain (by simp [Plain])
    have connected : Plain (" " ++ Predicate.connective ++ " ") := by
      simp [Plain, Predicate.connective]
    have predicates : FilledAll q.asked
        (q.predicates.map (Predicate.write Statement.placeholder))
        (q.predicates.map (Predicate.write Value.literal)) :=
      FilledAll.map fun p member => predicate (plain p.column (List.mem_map_of_mem member))
    have clause := keyword.append (predicates.intercalate connected)
    simpa using (FilledAll.cons clause .nil).spaced

theorem plainAssignment {entry : String × Value} (plain : Plain entry.1) :
    Filled [entry.2] (Query.plainAssignment Statement.placeholder entry)
      (Query.plainAssignment Value.literal entry) := by
  have equals : Filled [] " = " " = " := of_plain (by simp [Plain])
  exact ((wrap plain).append equals).append (placeholder entry.2)

theorem projection (plain : ∀ name ∈ q.columns.getD [], Plain name) :
    Filled [] q.projection q.projection := by
  unfold Query.projection
  split
  · rename_i column columns given
    rw [given] at plain
    exact wrapAll plain
  · exact of_plain (by simp [Plain])

theorem deleteProjection (plain : ∀ name ∈ q.deleteColumns.getD [], Plain name) :
    Filled [] (spaced q.deleteProjection) (spaced q.deleteProjection) := by
  unfold Query.deleteProjection
  split
  · rename_i column columns given
    rw [given] at plain
    exact (FilledAll.cons (wrapAll plain) .nil).spaced
  · exact empty

theorem limitClause : Filled [] (spaced q.limitClause) (spaced q.limitClause) := by
  unfold Query.limitClause
  split
  · rename_i n capped
    have keyword : Filled [] "limit " "limit " := of_plain (by simp [Plain])
    have number : Filled [] n.val.toNat.repr n.val.toNat.repr := by
      apply of_bare
      intro c member
      rw [Nat.toList_repr] at member
      exact isBare_of_isDigit (Text.isDigit_of_mem_digitsOf member)
    exact (FilledAll.cons (keyword.append number) .nil).spaced
  · exact empty

theorem selectText {table : String} (named : Plain table)
    (columns : ∀ name ∈ q.columns.getD [], Plain name)
    (predicates : ∀ name ∈ q.predicates.map Predicate.column, Plain name) :
    Filled q.asked (q.selectText Statement.placeholder table)
      (q.selectText Value.literal table) := by
  have verb : Filled [] "select" "select" := of_plain (by simp [Plain])
  have distinct : Filled [] (spaced (if q.distinct then ["distinct"] else []))
      (spaced (if q.distinct then ["distinct"] else [])) :=
    of_plain (by cases q.distinct <;> simp [Plain])
  have source : Filled [] (spaced [q.projection, "from", Identifier.wrap table])
      (spaced [q.projection, "from", Identifier.wrap table]) := by
    have keyword : Filled [] "from" "from" := of_plain (by simp [Plain])
    apply FilledAll.spaced
    apply FilledAll.texts
    simp [projection columns, keyword, wrap named]
  have filtering : Filled [] (spaced (if q.allowFiltering then ["allow filtering"] else []))
      (spaced (if q.allowFiltering then ["allow filtering"] else [])) :=
    of_plain (by cases q.allowFiltering <;> simp [Plain])
  have opening := (verb.append distinct).append source
  exact ((opening.append (wheres predicates)).after limitClause).after filtering

theorem insertText {row : Row} {table : String} {literals : List String} (named : Plain table)
    (columns : ∀ name ∈ row.columns ++ q.inserts.map CollectionWrite.column, Plain name)
    (encoded : ∀ text ∈ literals, Filled [] text text) :
    Filled row.values (q.insertText Statement.placeholder row table literals)
      (q.insertText Value.literal row table literals) := by
  have verb : Filled [] "insert into " "insert into " := of_plain (by simp [Plain])
  have opening : Filled [] " (" " (" := of_plain (by simp [Plain])
  have middle : Filled [] ") values (" ") values (" := of_plain (by simp [Plain])
  have closing : Filled [] ")" ")" := of_plain (by simp [Plain])
  have bound : FilledAll (row.values.map id) (row.values.map Statement.placeholder)
      (row.values.map Value.literal) := FilledAll.map_one fun value _ => placeholder value
  rw [List.map_id] at bound
  have values := (bound.append (FilledAll.texts encoded)).intercalate (by simp [Plain] : Plain ", ")
  rw [List.append_nil] at values
  have target := (verb.append (wrap named)).append opening
  have listed := (target.append (wrapAll columns)).append middle
  exact (listed.append values).after closing

theorem updateText {row : Row} {table : String} {assignments : List String} (named : Plain table)
    (columns : ∀ name ∈ row.columns, Plain name)
    (assigned : ∀ text ∈ assignments, Filled [] text text)
    (predicates : ∀ name ∈ q.predicates.map Predicate.column, Plain name) :
    Filled (row.values ++ q.asked) (q.updateText Statement.placeholder row table assignments)
      (q.updateText Value.literal row table assignments) := by
  have verb : Filled [] "update" "update" := of_plain (by simp [Plain])
  have target : Filled [] (spaced [Identifier.wrap table, "set"])
      (spaced [Identifier.wrap table, "set"]) := by
    have keyword : Filled [] "set" "set" := of_plain (by simp [Plain])
    apply FilledAll.spaced
    apply FilledAll.texts
    simp [keyword, wrap named]
  have bound : FilledAll row.values (row.entries.map (Query.plainAssignment Statement.placeholder))
      (row.entries.map (Query.plainAssignment Value.literal)) :=
    FilledAll.map_one fun entry member =>
      plainAssignment (columns entry.1 (List.mem_map_of_mem member))
  have list := (bound.append (FilledAll.texts assigned)).clause (by simp [Plain] : Plain ", ")
  rw [List.append_nil] at list
  exact ((verb.append target).append list).append (wheres predicates)

theorem deleteText {table : String} (named : Plain table)
    (columns : ∀ name ∈ q.deleteColumns.getD [], Plain name)
    (predicates : ∀ name ∈ q.predicates.map Predicate.column, Plain name) :
    Filled q.asked (q.deleteText Statement.placeholder table)
      (q.deleteText Value.literal table) := by
  have verb : Filled [] "delete" "delete" := of_plain (by simp [Plain])
  have source : Filled [] (spaced ["from", Identifier.wrap table])
      (spaced ["from", Identifier.wrap table]) := by
    have keyword : Filled [] "from" "from" := of_plain (by simp [Plain])
    apply FilledAll.spaced
    apply FilledAll.texts
    simp [keyword, wrap named]
  exact ((verb.append (deleteProjection columns)).append source).append (wheres predicates)

end Filled

namespace Statement

open Query

variable {text : String}

theorem filled_select {q : Query} (reachable : q.Reachable)
    (plain : ∀ name ∈ (select q).names, Plain name)
    (written : (select q).write placeholder = .ok text) :
    ∃ inlined, (select q).write Value.literal = .ok inlined ∧
      Filled (select q).params text inlined := by
  obtain ⟨table, named, matched, rfl⟩ := writeSelect_eq_ok.mp written
  refine ⟨q.selectText Value.literal table, writeSelect_eq_ok.mpr ⟨table, named, matched, rfl⟩, ?_⟩
  simp only [names, named, List.mem_append, or_imp, forall_and, Option.mem_toList,
    Option.some_inj] at plain
  obtain ⟨⟨tables, columns⟩, predicates⟩ := plain
  rw [params, reachable.whereBindings_eq matched]
  exact Filled.selectText (tables table rfl) columns predicates

theorem filled_insert {q : Query} {row : Row}
    (plain : ∀ name ∈ (insert q row).names, Plain name)
    (written : (insert q row).write placeholder = .ok text) :
    ∃ inlined, (insert q row).write Value.literal = .ok inlined ∧
      Filled (insert q row).params text inlined := by
  obtain ⟨table, literals, named, checked, encoded, rfl⟩ := writeInsert_eq_ok.mp written
  refine ⟨q.insertText Value.literal row table literals,
    writeInsert_eq_ok.mpr ⟨table, literals, named, checked, encoded, rfl⟩, ?_⟩
  simp only [names, named, List.mem_append, or_imp, forall_and, Option.mem_toList,
    Option.some_inj] at plain
  obtain ⟨⟨tables, columns⟩, collections⟩ := plain
  apply Filled.insertText (tables table rfl)
  · intro name member
    rcases List.mem_append.mp member with plainly | collected
    · exact columns name plainly
    · exact collections name collected
  · intro literal member
    obtain ⟨w, present, encoding⟩ := exists_mem_of_mapM_eq_ok encoded member
    exact Filled.encoded encoding

theorem filled_update {q : Query} {row : Row} (reachable : q.Reachable)
    (plain : ∀ name ∈ (update q row).names, Plain name)
    (written : (update q row).write placeholder = .ok text) :
    ∃ inlined, (update q row).write Value.literal = .ok inlined ∧
      Filled (update q row).params text inlined := by
  obtain ⟨table, assignments, named, checked, matched, assigned, rfl⟩ :=
    writeUpdate_eq_ok.mp written
  refine ⟨q.updateText Value.literal row table assignments,
    writeUpdate_eq_ok.mpr ⟨table, assignments, named, checked, matched, assigned, rfl⟩, ?_⟩
  simp only [names, named, List.mem_append, or_imp, forall_and, Option.mem_toList,
    Option.some_inj] at plain
  obtain ⟨⟨⟨tables, columns⟩, collections⟩, predicates⟩ := plain
  rw [params, reachable.whereBindings_eq matched]
  apply Filled.updateText (tables table rfl) columns _ predicates
  intro assignment member
  obtain ⟨w, present, assigning⟩ := exists_mem_of_mapM_eq_ok assigned member
  exact Filled.assignment (collections w.column (List.mem_map_of_mem present)) assigning

theorem filled_delete {q : Query} (reachable : q.Reachable)
    (plain : ∀ name ∈ (delete q).names, Plain name)
    (written : (delete q).write placeholder = .ok text) :
    ∃ inlined, (delete q).write Value.literal = .ok inlined ∧
      Filled (delete q).params text inlined := by
  obtain ⟨table, named, matched, rfl⟩ := writeDelete_eq_ok.mp written
  refine ⟨q.deleteText Value.literal table, writeDelete_eq_ok.mpr ⟨table, named, matched, rfl⟩, ?_⟩
  simp only [names, named, List.mem_append, or_imp, forall_and, Option.mem_toList,
    Option.some_inj] at plain
  obtain ⟨⟨tables, columns⟩, predicates⟩ := plain
  rw [params, reachable.whereBindings_eq matched]
  exact Filled.deleteText (tables table rfl) columns predicates

theorem filled_index {q : Query} {columns : List String}
    (plain : ∀ name ∈ (index q columns).names, Plain name)
    (written : (index q columns).write placeholder = .ok text) :
    ∃ inlined, (index q columns).write Value.literal = .ok inlined ∧
      Filled (index q columns).params text inlined := by
  refine ⟨text, written, ?_⟩
  obtain ⟨table, named, present, rfl⟩ := writeIndex_eq_ok.mp written
  simp only [names, named, List.mem_append, or_imp, forall_and, Option.mem_toList,
    Option.some_inj] at plain
  obtain ⟨tables, columns⟩ := plain
  have verb : Filled [] "create index if not exists on " "create index if not exists on " :=
    Filled.of_plain (by simp [Plain])
  have opening : Filled [] "(" "(" := Filled.of_plain (by simp [Plain])
  have closing : Filled [] ")" ")" := Filled.of_plain (by simp [Plain])
  have target := (verb.append (Filled.wrap (tables table rfl))).append opening
  exact (target.append (Filled.wrapAll columns)).append closing

theorem filled {s : Statement} (reachable : s.query.Reachable)
    (plain : ∀ name ∈ s.names, Plain name) (written : s.write placeholder = .ok text) :
    ∃ inlined, s.write Value.literal = .ok inlined ∧ Filled s.params text inlined := by
  cases s with
  | select q => exact filled_select reachable plain written
  | insert q row => exact filled_insert plain written
  | update q row => exact filled_update reachable plain written
  | delete q => exact filled_delete reachable plain written
  | index q columns => exact filled_index plain written

/-- Whatever quotes and question marks the values and collections hold, a rendered text has one
placeholder outside quotes for each bound value, closes its quotes, and inlines to the text that
shows the literal of every value in its own place. -/
theorem inline_of_render {s : Statement} {r : Rendered} (reachable : s.query.Reachable)
    (plain : ∀ name ∈ s.names, '\'' ∉ name.toList ∧ '?' ∉ name.toList)
    (rendered : s.render = .ok r) :
    count false r.text.toList = r.params.length ∧
      endsQuoted false r.text.toList = false ∧
      s.write Value.literal = .ok r.inline := by
  obtain ⟨written, bound⟩ := render_eq_ok.mp rendered
  have plain : ∀ name ∈ s.names, Plain name := by
    intro name member c present
    obtain ⟨unquoted, unmarked⟩ := plain name member
    exact ⟨ne_of_mem_of_not_mem present unquoted, ne_of_mem_of_not_mem present unmarked⟩
  obtain ⟨inlined, inlining, filled⟩ := filled reachable plain written
  rw [← bound] at filled
  refine ⟨filled.marks, filled.closed, ?_⟩
  rw [inlining, Rendered.inline, filled.fills, String.ofList_toList]

theorem inline_of_render_marks :
    let q := run {} [.onTable "t", .adjustCollection "list" "c" "+" (.items [.text "'?"]),
      .restrictIn "a" [.text "it's ?", .boolean true]]
    let s := update q (Row.ofList [("b", .text "?")])
    let r : Rendered := ⟨"update t set b = ?, c=c+['''?'] where a in (?, ?)",
      [.text "?", .text "it's ?", .boolean true]⟩
    s.render = .ok r ∧ (∀ name ∈ s.names, '\'' ∉ name.toList ∧ '?' ∉ name.toList) ∧
      count false r.text.toList = r.params.length ∧ endsQuoted false r.text.toList = false ∧
      s.write Value.literal = .ok r.inline ∧
      r.inline = "update t set b = '?', c=c+['''?'] where a in ('it''s ?', true)" := by
  intro q s r
  have rendered : s.render = .ok r := by decide +kernel
  have plain : ∀ name ∈ s.names, '\'' ∉ name.toList ∧ '?' ∉ name.toList := by decide +kernel
  obtain ⟨marks, closed, inlined⟩ := inline_of_render ⟨_, rfl⟩ plain rendered
  exact ⟨rendered, plain, marks, closed, inlined, by decide +kernel⟩

end Statement

end WideColumn
