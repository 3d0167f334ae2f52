import Mathlib.Data.List.Nodup
import WideColumn.Proofs.Earliest
import WideColumn.Proofs.Rendering
import WideColumn.Query.Call

namespace WideColumn

theorem ok_bind {ε α β : Type} (a : α) (f : α → Except ε β) : (Except.ok a >>= f) = f a := rfl

theorem bind_pure_eq_error {ε α β : Type} {x : Except ε α} {f : α → β} {error : ε} :
    (x >>= fun a => pure (f a)) = .error error ↔ x = .error error := by
  simp only [bind_eq_error, pure_ne_error, and_false, exists_false, or_false]

namespace CollectionWrite

def Misshapen (w : CollectionWrite) : Prop :=
  Collection.Misfit w.kind w.contents

theorem literal_eq_error {w : CollectionWrite} {error : QueryError} :
    w.literal = .error error ↔ w.Misshapen ∧ error = .wrongShape w.kind := by
  rw [literal, Collection.encode_eq_error, Collection.parts?_eq_none, Misshapen]

theorem assignment_eq_error_iff {w : CollectionWrite} {error : QueryError} :
    w.assignment = .error error ↔ w.literal = .error error := by
  cases encoded : w.literal with
  | ok literal => simp [assignment, encoded, Except.map]
  | error other => simp [assignment, encoded, Except.map]

def ShapeError (writes : List CollectionWrite) (error : QueryError) : Prop :=
  ∃ before w, Earliest (fun _ v => Misshapen v) writes before w ∧ error = .wrongShape w.kind

theorem mapM_literal_eq_error {writes : List CollectionWrite} {error : QueryError} :
    writes.mapM literal = .error error ↔ ShapeError writes error := by
  have fails : (fun (_ : List CollectionWrite) w => ∃ e, literal w = .error e) =
      fun _ w => w.Misshapen := by
    funext before w
    simp [literal_eq_error]
  rw [mapM_eq_error, fails]
  constructor
  · rintro ⟨before, w, earliest, failed⟩
    exact ⟨before, w, earliest, (literal_eq_error.mp failed).2⟩
  · rintro ⟨before, w, earliest, same⟩
    exact ⟨before, w, earliest, literal_eq_error.mpr ⟨earliest.here, same⟩⟩

theorem mapM_assignment_eq_error {writes : List CollectionWrite} {error : QueryError} :
    writes.mapM assignment = .error error ↔ ShapeError writes error := by
  rw [← mapM_literal_eq_error, mapM_eq_error, mapM_eq_error]
  simp only [assignment_eq_error_iff]

end CollectionWrite

namespace Query

/-- The column is one of `taken`, or the column of one of the writes before. -/
def Clash (taken : List String) (before : List CollectionWrite) (w : CollectionWrite) : Prop :=
  w.column ∈ taken ∨ ∃ v ∈ before, v.column = w.column

theorem clash_nil {taken : List String} {w : CollectionWrite} :
    Clash taken [] w ↔ w.column ∈ taken := by
  simp [Clash]

theorem clash_cons (taken : List String) (v : CollectionWrite) :
    (fun before => Clash taken (v :: before)) = Clash (v.column :: taken) := by
  funext before w
  simp only [Clash, List.mem_cons, exists_eq_or_imp, eq_iff_iff]
  rw [eq_comm]
  tauto

theorem conflict?_eq_some {taken : List String} {writes : List CollectionWrite} {column : String} :
    conflict? taken writes = some column ↔
      ∃ before w, Earliest (Clash taken) writes before w ∧ column = w.column := by
  induction writes generalizing taken with
  | nil =>
      constructor
      · intro found
        cases found
      · rintro ⟨before, w, earliest, -⟩
        exact absurd earliest Earliest.not_nil
  | cons v writes ih =>
      rw [conflict?]
      by_cases here : v.column ∈ taken
      · rw [if_pos here]
        constructor
        · intro found
          cases found
          exact ⟨[], v, .head (clash_nil.mpr here), rfl⟩
        · rintro ⟨before, w, earliest, rfl⟩
          obtain ⟨-, rfl⟩ := Earliest.eq_head (clash_nil.mpr here) earliest
          rfl
      · have passed : ¬Clash taken [] v := mt clash_nil.mp here
        -- The search goes on with the column taken, the statement with its write before the rest.
        rw [if_neg here, ih, ← clash_cons]
        constructor
        · rintro ⟨before, w, earliest, same⟩
          exact ⟨v :: before, w, earliest.cons passed, same⟩
        · rintro ⟨before, w, earliest, same⟩
          obtain ⟨later, -, earliest⟩ := Earliest.of_cons passed earliest
          exact ⟨later, w, earliest, same⟩

theorem nodup_of_conflict?_eq_none {taken : List String} {writes : List CollectionWrite}
    (distinct : taken.Nodup) (free : conflict? taken writes = none) :
    (taken ++ writes.map CollectionWrite.column).Nodup := by
  induction writes generalizing taken with
  | nil => simpa using distinct
  | cons v writes ih =>
      rw [conflict?] at free
      split at free
      · cases free
      · rename_i fresh
        have later := ih (List.nodup_cons.mpr ⟨fresh, distinct⟩) free
        rw [List.map_cons, List.nodup_middle]
        exact later

theorem nodup_columns (row : Row) : row.columns.Nodup := by
  rw [Row.columns, List.Nodup, List.pairwise_map]
  exact row.ascending.imp String.ne_of_lt

theorem checkColumns_eq_error {row : Row} {writes : List CollectionWrite} {error : QueryError} :
    checkColumns row writes = .error error ↔
      ∃ before w, Earliest (Clash row.columns) writes before w ∧
        error = .conflictingColumn w.column := by
  have reported : checkColumns row writes = .error error ↔
      ∃ column, conflict? row.columns writes = some column ∧
        error = .conflictingColumn column := by
    unfold checkColumns
    cases conflict? row.columns writes <;> simp [eq_comm]
  rw [reported]
  constructor
  · rintro ⟨column, found, rfl⟩
    obtain ⟨before, w, earliest, rfl⟩ := conflict?_eq_some.mp found
    exact ⟨before, w, earliest, rfl⟩
  · rintro ⟨before, w, earliest, rfl⟩
    exact ⟨w.column, conflict?_eq_some.mpr ⟨before, w, earliest, rfl⟩, rfl⟩

theorem checkColumns_eq_ok_iff {row : Row} {writes : List CollectionWrite} :
    checkColumns row writes = .ok () ↔ ¬Somewhere (Clash row.columns) writes := by
  rw [somewhere_iff_exists_earliest]
  constructor
  · rintro free ⟨before, w, earliest⟩
    rw [checkColumns_eq_error.mpr ⟨before, w, earliest, rfl⟩] at free
    cases free
  · intro free
    cases checked : checkColumns row writes with
    | ok => rfl
    | error error =>
        obtain ⟨before, w, earliest, -⟩ := checkColumns_eq_error.mp checked
        exact absurd ⟨before, w, earliest⟩ free

theorem nodup_of_checkColumns {row : Row} {writes : List CollectionWrite}
    (free : checkColumns row writes = .ok ()) :
    (row.columns ++ writes.map CollectionWrite.column).Nodup := by
  apply nodup_of_conflict?_eq_none (nodup_columns row)
  unfold checkColumns at free
  split at free
  · cases free
  · assumption

def MatchError (q : Query) (error : QueryError) : Prop :=
  q.placeholders ≠ q.selectBindings.length + q.whereBindings.length ∧
    error = .bindingMismatch q.placeholders (q.selectBindings.length + q.whereBindings.length)

section

variable {q : Query} {table : String} {error : QueryError}

theorem tableName_of_named (named : q.table = some table) :
    q.tableName = .ok (Identifier.wrap table) := by
  rw [tableName, named]

theorem whereClause_eq_matchError {slot : Slot} :
    q.whereClause slot = .error error ↔ q.MatchError error :=
  whereClause_eq_error

theorem writeSelect_eq_error {slot : Slot} (named : q.table = some table) :
    q.writeSelect slot = .error error ↔ q.MatchError error := by
  rw [writeSelect, tableName_of_named named, ok_bind, bind_pure_eq_error,
    whereClause_eq_matchError]

theorem writeDelete_eq_error {slot : Slot} (named : q.table = some table) :
    q.writeDelete slot = .error error ↔ q.MatchError error := by
  rw [writeDelete, tableName_of_named named, ok_bind, bind_pure_eq_error,
    whereClause_eq_matchError]

theorem writeIndex_eq_error {columns : List String} (named : q.table = some table) :
    q.writeIndex columns = .error error ↔ columns = [] ∧ error = .emptyIndex := by
  rw [writeIndex, tableName_of_named named, ok_bind]
  cases columns with
  | nil => simp [eq_comm]
  | cons column columns => simp

theorem writeInsert_eq_error {slot : Slot} {row : Row} (named : q.table = some table) :
    q.writeInsert slot row = .error error ↔
      checkColumns row q.inserts = .error error ∨
        checkColumns row q.inserts = .ok () ∧ CollectionWrite.ShapeError q.inserts error := by
  simp only [writeInsert, tableName_of_named named, ok_bind, bind_eq_error, pure_ne_error,
    and_false, exists_false, or_false, CollectionWrite.mapM_literal_eq_error, Unique.exists_iff,
    PUnit.default_eq_unit]

theorem writeUpdate_eq_error {slot : Slot} {row : Row} (named : q.table = some table) :
    q.writeUpdate slot row = .error error ↔
      checkColumns row q.updates = .error error ∨
        checkColumns row q.updates = .ok () ∧
          (q.MatchError error ∨
            q.placeholders = q.boundCount ∧ CollectionWrite.ShapeError q.updates error) := by
  simp only [writeUpdate, tableName_of_named named, ok_bind, bind_eq_error, pure_ne_error,
    and_false, exists_false, or_false, whereClause_eq_matchError, whereClause_eq_ok, assignments,
    CollectionWrite.mapM_assignment_eq_error, Unique.exists_iff, PUnit.default_eq_unit, and_assoc,
    exists_and_left, exists_eq_left]

end

theorem isDeclaration_of_operator {text : String} {error : QueryError}
    (refused : Operator.ofString? text = .error error) : error.isDeclaration = true := by
  unfold Operator.ofString? at refused
  split at refused
  · cases refused
  · cases refused
    rfl

theorem isDeclaration_of_kind {text : String} {error : QueryError}
    (refused : Collection.Kind.ofString? text = .error error) : error.isDeclaration = true := by
  unfold Collection.Kind.ofString? at refused
  split at refused
  · cases refused
  · cases refused
    rfl

theorem isDeclaration_of_delta {text : String} {error : QueryError}
    (refused : Delta.ofString? text = .error error) : error.isDeclaration = true := by
  unfold Delta.ofString? at refused
  dsimp only at refused
  split at refused
  · cases refused
  · cases refused
    rfl

theorem isDeclaration_of_apply {q : Query} {call : Call} {error : QueryError}
    (refused : q.apply call = .error error) : error.isDeclaration = true := by
  cases call with
  | restrict column operator value =>
      exact isDeclaration_of_operator (bind_pure_eq_error.mp refused)
  | restrictIn column values =>
      cases values with
      | nil =>
          cases refused
          rfl
      | cons value later => cases refused
  | replaceCollection kind column contents =>
      exact isDeclaration_of_kind (bind_pure_eq_error.mp refused)
  | insertCollection kind column contents =>
      exact isDeclaration_of_kind (bind_pure_eq_error.mp refused)
  | adjustCollection kind column delta contents =>
      rcases bind_eq_error.mp refused with unread | ⟨read, -, rest⟩
      · exact isDeclaration_of_kind unread
      · exact isDeclaration_of_delta (bind_pure_eq_error.mp rest)
  | _ => cases refused

end Query

namespace Statement

open Query

theorem render_of_unnamed {s : Statement} (unnamed : s.query.table = none) :
    s.render = .error .missingTable := by
  rw [render_eq_error]
  have unnamed : s.query.tableName = .error .missingTable :=
    tableName_eq_error.mpr ⟨unnamed, rfl⟩
  cases s with
  | select q => simp only [write, writeSelect, bind_eq_error]; exact .inl unnamed
  | insert q row => simp only [write, writeInsert, bind_eq_error]; exact .inl unnamed
  | update q row => simp only [write, writeUpdate, bind_eq_error]; exact .inl unnamed
  | delete q => simp only [write, writeDelete, bind_eq_error]; exact .inl unnamed
  | index q columns => simp only [write, writeIndex, bind_eq_error]; exact .inl unnamed

theorem isDeclaration_of_render {s : Statement} {error : QueryError}
    (refused : s.render = .error error) : error.isDeclaration = false := by
  cases named : s.query.table with
  | none =>
      rw [render_of_unnamed named] at refused
      cases refused
      rfl
  | some table =>
      -- The three ways to fail that the kinds of statement share.
      have matching {q : Query} (failed : q.MatchError error) : error.isDeclaration = false := by
        rw [failed.2]
        rfl
      have shaping {writes : List CollectionWrite}
          (failed : CollectionWrite.ShapeError writes error) : error.isDeclaration = false := by
        obtain ⟨before, w, -, rfl⟩ := failed
        rfl
      have checking {row : Row} {writes : List CollectionWrite}
          (failed : checkColumns row writes = .error error) : error.isDeclaration = false := by
        obtain ⟨before, w, -, rfl⟩ := checkColumns_eq_error.mp failed
        rfl
      rw [render_eq_error] at refused
      cases s with
      | select q => exact matching ((writeSelect_eq_error named).mp refused)
      | delete q => exact matching ((writeDelete_eq_error named).mp refused)
      | index q columns =>
          obtain ⟨-, rfl⟩ := (writeIndex_eq_error named).mp refused
          rfl
      | insert q row =>
          rcases (writeInsert_eq_error named).mp refused with failed | ⟨-, failed⟩
          · exact checking failed
          · exact shaping failed
      | update q row =>
          rcases (writeUpdate_eq_error named).mp refused with failed | ⟨-, failed | ⟨-, failed⟩⟩
          · exact checking failed
          · exact matching failed
          · exact shaping failed

/-- A statement without a table is refused for that.  Of the others, a selection or a deletion is
refused just when it does not bind as many values as it has placeholders, an index just when it has
no columns.  An insertion or an update is refused for the first collection whose column is written
twice; if there is none, an update for its placeholders; and if these are matched, either for the
first collection that is misshapen.  So what is rendered writes no column twice.  These errors are
not those of the calls that build a query. -/
theorem render_refused (q : Query) (row : Row) (columns : List String) :
    (q.table = none → ∀ s : Statement, s.query = q → s.render = .error .missingTable) ∧
    (q.table ≠ none →
      (∀ error, (select q).render = .error error ↔ q.MatchError error) ∧
      (∀ error, (delete q).render = .error error ↔ q.MatchError error) ∧
      (∀ error, (index q columns).render = .error error ↔ columns = [] ∧ error = .emptyIndex) ∧
      (Somewhere (Clash row.columns) q.inserts →
        ∃ before w, Earliest (Clash row.columns) q.inserts before w ∧
          (insert q row).render = .error (.conflictingColumn w.column)) ∧
      (¬Somewhere (Clash row.columns) q.inserts → ∀ error,
        (insert q row).render = .error error ↔ CollectionWrite.ShapeError q.inserts error) ∧
      (Somewhere (Clash row.columns) q.updates →
        ∃ before w, Earliest (Clash row.columns) q.updates before w ∧
          (update q row).render = .error (.conflictingColumn w.column)) ∧
      (¬Somewhere (Clash row.columns) q.updates → ∀ error,
        (update q row).render = .error error ↔
          q.MatchError error ∨
            q.placeholders = q.boundCount ∧ CollectionWrite.ShapeError q.updates error)) ∧
    (∀ r, (insert q row).render = .ok r →
      (row.columns ++ q.inserts.map CollectionWrite.column).Nodup) ∧
    (∀ r, (update q row).render = .ok r →
      (row.columns ++ q.updates.map CollectionWrite.column).Nodup) ∧
    (∀ call error, q.apply call = .error error → error.isDeclaration = true) ∧
    ∀ s : Statement, s.query = q → ∀ error, s.render = .error error →
      error.isDeclaration = false := by
  refine ⟨?_, ?_, ?_, ?_, ?_, ?_⟩
  · rintro unnamed s rfl
    exact render_of_unnamed unnamed
  · intro named
    obtain ⟨table, named⟩ := Option.ne_none_iff_exists'.mp named
    simp only [render_eq_error, write]
    refine ⟨fun error => writeSelect_eq_error named, fun error => writeDelete_eq_error named,
      fun error => writeIndex_eq_error named, ?_, ?_, ?_, ?_⟩
    · intro clash
      obtain ⟨before, w, earliest⟩ := somewhere_iff_exists_earliest.mp clash
      have conflict := checkColumns_eq_error.mpr ⟨before, w, earliest, rfl⟩
      exact ⟨before, w, earliest, (writeInsert_eq_error named).mpr (.inl conflict)⟩
    · intro free error
      have free := checkColumns_eq_ok_iff.mpr free
      simp [writeInsert_eq_error named, free]
    · intro clash
      obtain ⟨before, w, earliest⟩ := somewhere_iff_exists_earliest.mp clash
      have conflict := checkColumns_eq_error.mpr ⟨before, w, earliest, rfl⟩
      exact ⟨before, w, earliest, (writeUpdate_eq_error named).mpr (.inl conflict)⟩
    · intro free error
      have free := checkColumns_eq_ok_iff.mpr free
      simp [writeUpdate_eq_error named, free]
  · intro r rendered
    obtain ⟨table, literals, -, free, -⟩ :=
      writeInsert_eq_ok.mp (render_eq_ok.mp rendered).1
    exact nodup_of_checkColumns free
  · intro r rendered
    obtain ⟨table, assignments, -, free, -⟩ :=
      writeUpdate_eq_ok.mp (render_eq_ok.mp rendered).1
    exact nodup_of_checkColumns free
  · intro call error refused
    exact isDeclaration_of_apply refused
  · intro s _ error refused
    exact isDeclaration_of_render refused

theorem render_refused_writes :
    let row := Row.ofList [("a", .boolean true)]
    let b : CollectionWrite := ⟨.set, "b", .items [.int 1], none⟩
    let c : CollectionWrite := ⟨.map, "c", .items [], none⟩
    let c' : CollectionWrite := ⟨.list, "c", .items [], none⟩
    let q : Query := { table := some "t", updates := [c, b], inserts := [c, b] }
    let unmatched : Query := { q with selectBindings := [.int 1] }
    let twice : Query := { unmatched with updates := [c, b, c', b], inserts := [c, b, c', b] }
    let proper : Query := { q with updates := [b], inserts := [b] }
    (select { q with table := none }).render = .error .missingTable ∧
      (∃ before w, Earliest (Clash row.columns) [c, b, c', b] before w ∧
        (update twice row).render = .error (.conflictingColumn w.column)) ∧
      (∃ before w, Earliest (Clash row.columns) [c, b, c', b] before w ∧
        (insert twice row).render = .error (.conflictingColumn w.column)) ∧
      (update twice row).render = .error (.conflictingColumn "c") ∧
      (update unmatched row).render = .error (.bindingMismatch 0 1) ∧
      (delete unmatched).render = .error (.bindingMismatch 0 1) ∧
      (update q row).render = .error (.wrongShape .map) ∧
      (insert unmatched row).render = .error (.wrongShape .map) ∧
      (update proper row).render = .ok ⟨"update t set a = ?, b=\x7b1\x7d", [.boolean true]⟩ ∧
      (row.columns ++ [b].map CollectionWrite.column).Nodup ∧
      q.apply (.restrictIn "a" []) = .error (.emptyInList "a") ∧
      (QueryError.emptyInList "a").isDeclaration = true ∧
      (QueryError.bindingMismatch 0 1).isDeclaration = false := by
  intro row b c c' q unmatched twice proper
  obtain ⟨unnamed, -⟩ := render_refused { q with table := none } row []
  obtain ⟨-, named, -⟩ := render_refused q row []
  obtain ⟨-, -, -, -, -, -, update⟩ := named (by decide)
  obtain ⟨-, named, -, -, declared, others⟩ := render_refused unmatched row []
  obtain ⟨-, delete, -, -, insert, -, mismatch⟩ := named (by decide)
  obtain ⟨-, named, -⟩ := render_refused twice row []
  obtain ⟨-, -, -, conflict, -, conflict', -⟩ := named (by decide)
  obtain ⟨-, -, -, distinct, -⟩ := render_refused proper row []
  have clash : Somewhere (Clash row.columns) [c, b, c', b] :=
    ⟨[c, b], c', [b], rfl, .inr ⟨c, List.mem_cons_self, rfl⟩⟩
  have free : ¬Somewhere (Clash row.columns) [c, b] :=
    checkColumns_eq_ok_iff.mp (by decide +kernel)
  have shape : CollectionWrite.ShapeError [c, b] (.wrongShape .map) :=
    ⟨[], c, .head (.items []), rfl⟩
  have rendered : (Statement.update proper row).render =
      .ok ⟨"update t set a = ?, b=\x7b1\x7d", [.boolean true]⟩ := by decide +kernel
  have unasked : (Statement.delete unmatched).render = .error (.bindingMismatch 0 1) :=
    (delete _).mpr ⟨by decide, rfl⟩
  have refused : unmatched.apply (.restrictIn "a" []) = .error (.emptyInList "a") := rfl
  exact ⟨unnamed rfl _ rfl, conflict' clash, conflict clash, by decide +kernel,
    (mismatch free _).mpr (.inl ⟨by decide, rfl⟩), unasked,
    (update free _).mpr (.inr ⟨by decide, shape⟩), (insert free _).mpr shape, rendered,
    distinct _ rendered, rfl, declared _ _ refused, others _ rfl _ unasked⟩

end Statement

end WideColumn
