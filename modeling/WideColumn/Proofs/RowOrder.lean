import Mathlib.Data.List.Perm.Basic
import WideColumn.Proofs.ByteOrder
import WideColumn.Proofs.Refusals

namespace WideColumn

namespace Row

/-- The last of the values that the pairs give the column. -/
def Last (pairs : List (String × Value)) (column : String) (value : Value) : Prop :=
  ∃ before after, pairs = before ++ (column, value) :: after ∧ column ∉ after.map Prod.fst

variable {column other : String} {value : Value} {pairs others : List (String × Value)}

theorem last_iff_lookup : Last pairs column value ↔ pairs.reverse.lookup column = some value := by
  rw [List.lookup_eq_some_iff]
  constructor
  · rintro ⟨before, after, rfl, absent⟩
    refine ⟨after.reverse, before.reverse, by simp, ?_⟩
    intro pair member
    rw [List.mem_reverse] at member
    rw [bne_iff_ne]
    rintro rfl
    exact absent (List.mem_map_of_mem member)
  · rintro ⟨after, before, reversed, apart⟩
    refine ⟨before.reverse, after.reverse, ?_, ?_⟩
    · rw [← List.reverse_reverse pairs, reversed]
      simp
    · rw [List.map_reverse, List.mem_reverse, List.mem_map]
      rintro ⟨pair, member, rfl⟩
      simpa using apart pair member

theorem lookup_cons_eq_ite {entries : List (String × Value)} :
    ((column, value) :: entries).lookup other =
      if other = column then some value else entries.lookup other := by
  rw [List.lookup_cons]
  by_cases same : other = column
  · simp [same]
  · simp [same, beq_eq_false_iff_ne.mpr same]

theorem lookup_insertEntry {entries : List (String × Value)} :
    (insertEntry column value entries).lookup other =
      if other = column then some value else entries.lookup other := by
  induction entries with
  | nil => rw [insertEntry, lookup_cons_eq_ite]
  | cons head rest ih =>
      obtain ⟨first, held⟩ := head
      unfold insertEntry
      by_cases before : column < first
      · rw [if_pos before, lookup_cons_eq_ite]
      · by_cases replaced : column = first
        · subst replaced
          rw [if_neg before, if_pos rfl]
          by_cases here : other = column <;> simp [lookup_cons_eq_ite, here]
        · rw [if_neg before, if_neg replaced, lookup_cons_eq_ite, lookup_cons_eq_ite, ih]
          by_cases here : other = column
          · simp [here, replaced]
          · simp [here]

theorem lookup_foldl_insert (row : Row) :
    (pairs.foldl (fun row pair => row.insert pair.1 pair.2) row).entries.lookup column =
      (pairs.reverse.lookup column).or (row.entries.lookup column) := by
  induction pairs generalizing row with
  | nil => simp
  | cons pair pairs ih =>
      obtain ⟨other, held⟩ := pair
      rw [List.foldl_cons, ih, insert, lookup_insertEntry, List.reverse_cons, List.lookup_append,
        lookup_cons_eq_ite, Option.or_assoc]
      by_cases same : column = other <;> simp [same]

theorem lookup_ofList : (ofList pairs).entries.lookup column = pairs.reverse.lookup column := by
  rw [ofList, lookup_foldl_insert, List.lookup_nil, Option.or_none]

theorem mem_entries_iff_lookup (row : Row) :
    (column, value) ∈ row.entries ↔ row.entries.lookup column = some value := by
  rw [List.lookup_eq_some_iff]
  constructor
  · intro member
    obtain ⟨before, after, split⟩ := List.append_of_mem member
    refine ⟨before, after, split, ?_⟩
    intro pair earlier
    have ascending := row.ascending
    rw [split, List.pairwise_append] at ascending
    rw [bne_iff_ne]
    exact (String.ne_of_lt (ascending.2.2 pair earlier _ List.mem_cons_self)).symm
  · rintro ⟨before, after, split, -⟩
    rw [split]
    simp

theorem mem_ofList : (column, value) ∈ (ofList pairs).entries ↔ Last pairs column value := by
  rw [mem_entries_iff_lookup, lookup_ofList, last_iff_lookup]

theorem eq_of_mem_iff {row row' : Row}
    (same : ∀ column value, (column, value) ∈ row.entries ↔ (column, value) ∈ row'.entries) :
    row = row' := by
  have distinct (row : Row) : row.entries.Nodup :=
    row.ascending.imp fun before same => String.ne_of_lt before (congrArg Prod.fst same)
  have reordered : row.entries.Perm row'.entries :=
    (List.perm_ext_iff_of_nodup (distinct row) (distinct row')).mpr fun pair =>
      same pair.1 pair.2
  have entries : row.entries = row'.entries :=
    reordered.eq_of_pairwise
      (fun _ _ _ _ before behind => absurd (String.lt_trans before behind) (String.lt_irrefl _))
      row.ascending row'.ascending
  obtain ⟨_, _⟩ := row
  obtain ⟨_, _⟩ := row'
  cases entries
  rfl

theorem ofList_congr (same : ∀ column value, Last pairs column value ↔ Last others column value) :
    ofList pairs = ofList others := by
  apply eq_of_mem_iff
  intro column value
  rw [mem_ofList, mem_ofList]
  exact same column value

theorem last_iff_mem (distinct : (pairs.map Prod.fst).Nodup) :
    Last pairs column value ↔ (column, value) ∈ pairs := by
  constructor
  · rintro ⟨before, after, rfl, -⟩
    simp
  · intro member
    obtain ⟨before, after, rfl⟩ := List.append_of_mem member
    refine ⟨before, after, rfl, ?_⟩
    rw [List.map_append, List.map_cons, List.nodup_middle, List.nodup_cons] at distinct
    exact fun later => distinct.1 (List.mem_append_right _ later)

theorem last_perm (reordered : pairs.Perm others) (distinct : (pairs.map Prod.fst).Nodup) :
    Last pairs column value ↔ Last others column value := by
  rw [last_iff_mem distinct, last_iff_mem ((reordered.map Prod.fst).nodup_iff.mp distinct)]
  exact reordered.mem_iff

theorem last_overwritten {before after : List (String × Value)} {held : Value}
    (later : other ∈ after.map Prod.fst) :
    Last (before ++ (other, held) :: after) column value ↔ Last (before ++ after) column value := by
  rw [last_iff_lookup, last_iff_lookup, List.reverse_append, List.reverse_append,
    List.reverse_cons, List.append_assoc, List.lookup_append, List.lookup_append,
    List.lookup_append, lookup_cons_eq_ite]
  by_cases same : column = other
  · subst same
    have found : (after.reverse.lookup column).isSome := by
      obtain ⟨pair, member, rfl⟩ := List.mem_map.mp later
      rw [List.lookup_isSome_iff]
      exact ⟨pair, List.mem_reverse.mpr member, by simp⟩
    rw [Option.or_of_isSome found, Option.or_of_isSome found]
  · simp [same]

theorem bytes_ascending (row : Row) :
    row.columns.Pairwise fun a b => Text.bytes a < Text.bytes b := by
  rw [columns, List.pairwise_map]
  exact row.ascending.imp Text.bytes_lt_iff.mpr

theorem mem_columns_ofList : column ∈ (ofList pairs).columns ↔ column ∈ pairs.map Prod.fst := by
  constructor
  · intro member
    obtain ⟨⟨column, value⟩, held, rfl⟩ := List.mem_map.mp member
    obtain ⟨before, after, rfl, -⟩ := mem_ofList.mp held
    simp
  · intro member
    have found : (pairs.reverse.lookup column).isSome := by
      rw [List.lookup_isSome_iff]
      obtain ⟨pair, given, rfl⟩ := List.mem_map.mp member
      exact ⟨pair, List.mem_reverse.mpr given, by simp⟩
    obtain ⟨value, found⟩ := Option.isSome_iff_exists.mp found
    exact List.mem_map.mpr ⟨(column, value), mem_ofList.mpr (last_iff_lookup.mpr found), rfl⟩

theorem count_columns_ofList :
    (ofList pairs).columns.count column = if column ∈ pairs.map Prod.fst then 1 else 0 := by
  split
  · rename_i given
    exact List.count_eq_one_of_mem (Query.nodup_columns _) (mem_columns_ofList.mpr given)
  · rename_i absent
    exact List.count_eq_zero_of_not_mem (mt mem_columns_ofList.mp absent)

theorem insert_of_render {q : Query} {row : Row} {rendered : Rendered}
    (written : (Statement.insert q row).render = .ok rendered) :
    ∃ table literals, q.table = some table ∧
      q.inserts.mapM CollectionWrite.literal = .ok literals ∧
      rendered.text = "insert into " ++ Identifier.wrap table ++ " (" ++
        Identifier.wrapAll (row.entries.map Prod.fst ++ q.inserts.map CollectionWrite.column) ++
        ") values (" ++ ", ".intercalate (row.entries.map (fun _ => "?") ++ literals) ++ ")" ∧
      rendered.params = row.entries.map Prod.snd := by
  obtain ⟨text, params⟩ := Statement.render_eq_ok.mp written
  obtain ⟨table, literals, named, -, encoded, text⟩ := Query.writeInsert_eq_ok.mp text
  refine ⟨table, literals, named, encoded, ?_, params⟩
  rw [text]
  -- Only unfolded: the equation of a definition around so long a text is slow to derive.
  delta Query.insertText
  rw [values, List.map_map]
  rfl

theorem update_of_render {q : Query} {row : Row} {rendered : Rendered}
    (written : (Statement.update q row).render = .ok rendered) :
    ∃ table assignments, q.table = some table ∧ q.assignments = .ok assignments ∧
      (let assigned :=
        row.entries.map (fun entry => Identifier.wrap entry.1 ++ " = ?") ++ assignments
      rendered.text = "update " ++ Identifier.wrap table ++ " set" ++
        spaced (if assigned.isEmpty then [] else [", ".intercalate assigned]) ++
        spaced (q.wheres Statement.placeholder)) ∧
      rendered.params = row.entries.map Prod.snd ++ q.whereBindings := by
  obtain ⟨text, params⟩ := Statement.render_eq_ok.mp written
  obtain ⟨table, assignments, named, -, -, assigned, text⟩ := Query.writeUpdate_eq_ok.mp text
  refine ⟨table, assignments, named, assigned, ?_, params⟩
  have plain : Query.plainAssignment Statement.placeholder =
      fun entry => Identifier.wrap entry.1 ++ " = ?" := by
    funext entry
    rw [Query.plainAssignment, String.append_assoc]
    rfl
  simp [text, Query.updateText, plain, ← String.append_assoc]

/-- A row holds the last value of each column that its pairs name, once, in the order of the bytes
of the names.  Pairs that give all columns the same last values make the same row, so insertions and
updates do not depend on the order of pairs for different columns, or on values that are
overwritten; their texts go through the columns in the order of the row, and so do their
parameters. -/
theorem render_of_pairs (pairs : List (String × Value)) :
    let row := ofList pairs
    (row.columns.Pairwise fun a b => Text.bytes a < Text.bytes b) ∧
    (∀ column, row.columns.count column = if column ∈ pairs.map Prod.fst then 1 else 0) ∧
    (∀ column value, (column, value) ∈ row.entries ↔ Last pairs column value) ∧
    (∀ others, (∀ column value, Last pairs column value ↔ Last others column value) →
      ∀ q, (Statement.insert q (ofList others)).render = (Statement.insert q row).render ∧
        (Statement.update q (ofList others)).render = (Statement.update q row).render) ∧
    (∀ others, pairs.Perm others → (pairs.map Prod.fst).Nodup →
      ∀ column value, Last pairs column value ↔ Last others column value) ∧
    (∀ before after other held, pairs = before ++ (other, held) :: after →
      other ∈ after.map Prod.fst →
        ∀ column value, Last pairs column value ↔ Last (before ++ after) column value) ∧
    (∀ q rendered, (Statement.insert q row).render = .ok rendered →
      ∃ table literals, q.table = some table ∧
        q.inserts.mapM CollectionWrite.literal = .ok literals ∧
        rendered.text = "insert into " ++ Identifier.wrap table ++ " (" ++
          Identifier.wrapAll (row.entries.map Prod.fst ++ q.inserts.map CollectionWrite.column) ++
          ") values (" ++ ", ".intercalate (row.entries.map (fun _ => "?") ++ literals) ++ ")" ∧
        rendered.params = row.entries.map Prod.snd) ∧
    ∀ q rendered, (Statement.update q row).render = .ok rendered →
      ∃ table assignments, q.table = some table ∧ q.assignments = .ok assignments ∧
        (let assigned :=
          row.entries.map (fun entry => Identifier.wrap entry.1 ++ " = ?") ++ assignments
        rendered.text = "update " ++ Identifier.wrap table ++ " set" ++
          spaced (if assigned.isEmpty then [] else [", ".intercalate assigned]) ++
          spaced (q.wheres Statement.placeholder)) ∧
        rendered.params = row.entries.map Prod.snd ++ q.whereBindings := by
  intro row
  refine ⟨row.bytes_ascending, fun _ => count_columns_ofList, fun _ _ => mem_ofList, ?_, ?_, ?_,
    fun _ _ => insert_of_render, fun _ _ => update_of_render⟩
  · intro others same q
    rw [← ofList_congr same]
    exact ⟨rfl, rfl⟩
  · intro others reordered distinct column value
    exact last_perm reordered distinct
  · rintro before after other held rfl later column value
    exact last_overwritten later

theorem render_of_pairs_reordered :
    let pairs : List (String × Value) := [("z", .int 1), ("é", .int 2)]
    let others : List (String × Value) := [("é", .boolean true), ("é", .int 2), ("z", .int 1)]
    let q : Query := { table := some "t" }
    let inserted : Rendered := ⟨"insert into t (z, é) values (?, ?)", [.int 1, .int 2]⟩
    let updated : Rendered := ⟨"update t set z = ?, é = ?", [.int 1, .int 2]⟩
    (Statement.insert q (ofList pairs)).render = .ok inserted ∧
      (Statement.insert q (ofList others)).render = .ok inserted ∧
      (Statement.update q (ofList pairs)).render = .ok updated ∧
      (Statement.update q (ofList others)).render = .ok updated ∧
      inserted.params = (ofList others).entries.map Prod.snd ∧
      updated.params = (ofList others).entries.map Prod.snd ++ q.whereBindings := by
  intro pairs others q inserted updated
  obtain ⟨-, -, -, alike, reordered, -⟩ := render_of_pairs pairs
  obtain ⟨-, -, -, -, -, overwritten, insertion, update⟩ := render_of_pairs others
  have same (column : String) (value : Value) :
      Last pairs column value ↔ Last others column value :=
    (reordered [("é", .int 2), ("z", .int 1)] (List.Perm.swap _ _ []) (by decide) column value).trans
      (overwritten [] [("é", .int 2), ("z", .int 1)] "é" (.boolean true) rfl (by decide) column
        value).symm
  have insertedFirst : (Statement.insert q (ofList pairs)).render = .ok inserted := by
    decide +kernel
  have updatedFirst : (Statement.update q (ofList pairs)).render = .ok updated := by
    decide +kernel
  obtain ⟨sameInsert, sameUpdate⟩ := alike others same q
  rw [insertedFirst] at sameInsert
  rw [updatedFirst] at sameUpdate
  obtain ⟨-, -, -, -, -, inserts⟩ := insertion q inserted sameInsert
  obtain ⟨-, -, -, -, -, updates⟩ := update q updated sameUpdate
  exact ⟨insertedFirst, sameInsert, updatedFirst, sameUpdate, inserts, updates⟩

end Row

end WideColumn
