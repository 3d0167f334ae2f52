import Mathlib.Data.List.Forall2
import WideColumn.Proofs.Earliest
import WideColumn.Session

namespace WideColumn

def Store.logging (store : Store) (options : Options) (texts : List Rendered) : Store :=
  { store with log := store.log ++ texts.map (⟨·, options⟩) }

@[simp] theorem Store.logging_nil (store : Store) (options : Options) :
    store.logging options [] = store := by
  simp [logging]

@[simp] theorem Store.logging_logging (store : Store) (options : Options)
    (texts later : List Rendered) :
    (store.logging options texts).logging options later = store.logging options (texts ++ later) := by
  simp [logging]

@[simp] theorem Store.script_logging (store : Store) (options : Options) (texts : List Rendered) :
    (store.logging options texts).script = store.script := rfl

@[simp] theorem Outcome.map_nil_append {ε α : Type} (o : Outcome ε (List α)) :
    o.map ([] ++ ·) = o := by
  obtain ⟨result, store⟩ := o
  cases result <;> rfl

@[simp] theorem Outcome.map_map_append {ε α : Type} (first second : List α)
    (o : Outcome ε (List α)) :
    (o.map (second ++ ·)).map (first ++ ·) = o.map (first ++ second ++ ·) := by
  obtain ⟨result, store⟩ := o
  cases result with
  | error error => rfl
  | ok items => simp [map, Except.map]

theorem Outcome.map_some_ne {ε α : Type} (o : Outcome ε α) : (o.map some).result ≠ .ok none := by
  obtain ⟨result, store⟩ := o
  cases result <;> simp [map, Except.map]

theorem Script.respond_rejected {script : Script} {options : Options} {detail : String}
    (rejects : script.executionFailure = some detail) :
    script.respond options = .error { detail } := by
  simp only [respond, rejects]

theorem Script.exists_respond {script : Script} (options : Options)
    (accepts : script.executionFailure = none) : ∃ cursor, script.respond options = .ok cursor := by
  simp only [respond, accepts]
  exact ⟨_, rfl⟩

namespace Session

/-- With such a row an insert would write nothing. -/
def Vain (q : Query) (row : Row) : Prop :=
  row.entries = [] ∧ q.inserts = []

instance (q : Query) : DecidablePred (Vain q) := fun row =>
  inferInstanceAs (Decidable (row.entries = [] ∧ q.inserts = []))

variable {s : Session} {q : Query} {row : Row} {rows : List Row} {store after : Store}

theorem run_unrendered {statement : Statement} {error : QueryError}
    (failed : statement.render = .error error) :
    s.run statement store = ⟨.error (.query error), store⟩ := by
  rw [run, failed]

theorem run_rendered {statement : Statement} {rendered : Rendered}
    (written : statement.render = .ok rendered) :
    s.run statement store = s.execute rendered store := by
  rw [run, written]

theorem vain_iff_skips : Vain q row ↔ skips q row = true := by
  simp [Vain, skips, Row.isEmpty]

theorem insert_vain (vain : Vain q row) :
    s.insert q row store = ⟨.ok none, store⟩ := by
  rw [insert, if_pos (vain_iff_skips.mp vain)]

theorem insert_worth (worth : ¬Vain q row) :
    s.insert q row store = (s.run (.insert q row) store).map some := by
  rw [insert, if_neg (mt vain_iff_skips.mpr worth)]

/-- How the insertion of a row fails, and what was sent to the store all the same. -/
inductive Failure (script : Script) (q : Query) (row : Row) : SessionError → List Rendered → Prop
  | unrendered {error : QueryError} (worth : ¬Vain q row)
      (refused : (Statement.insert q row).render = .error error) :
      Failure script q row (.query error) []
  | rejected {text : Rendered} {detail : String} (worth : ¬Vain q row)
      (rendered : (Statement.insert q row).render = .ok text)
      (rejects : script.executionFailure = some detail) :
      Failure script q row (.execution { detail }) [text]

def Fails (script : Script) (q : Query) (row : Row) : Prop :=
  ∃ error sent, Failure script q row error sent

/-- The texts of the insertions of rows, without those that would write nothing. -/
def Insertions (q : Query) (rows : List Row) (texts : List Rendered) : Prop :=
  List.Forall₂ (fun row text => (Statement.insert q row).render = .ok text)
    (rows.filter (¬Vain q ·)) texts

theorem insert_failed {error : SessionError} {sent : List Rendered}
    (failure : Failure store.script q row error sent) :
    s.insert q row store = ⟨.error error, store.logging s.options sent⟩ := by
  cases failure with
  | unrendered worth refused =>
      rw [insert_worth worth, run_unrendered refused, Store.logging_nil]
      rfl
  | rejected worth rendered rejects =>
      rw [insert_worth worth, run_rendered rendered, execute, Store.execute,
        Script.respond_rejected rejects]
      rfl

theorem insert_accepted {text : Rendered} {cursor : Cursor} (worth : ¬Vain q row)
    (rendered : (Statement.insert q row).render = .ok text)
    (accepts : store.script.respond s.options = .ok cursor) :
    s.insert q row store = ⟨.ok (some cursor), store.logging s.options [text]⟩ := by
  rw [insert_worth worth, run_rendered rendered, execute, Store.execute, accepts]
  rfl

theorem vain_or_accepted {script : Script} (options : Options) (passes : ¬Fails script q row) :
    Vain q row ∨ ¬Vain q row ∧ ∃ text cursor,
      (Statement.insert q row).render = .ok text ∧ script.respond options = .ok cursor := by
  by_cases vain : Vain q row
  · exact .inl vain
  · refine .inr ⟨vain, ?_⟩
    cases rendered : (Statement.insert q row).render with
    | error error => exact absurd ⟨_, _, .unrendered vain rendered⟩ passes
    | ok text =>
        cases rejects : script.executionFailure with
        | some detail => exact absurd ⟨_, _, .rejected vain rendered rejects⟩ passes
        | none =>
            obtain ⟨cursor, accepts⟩ := Script.exists_respond options rejects
            exact ⟨text, cursor, rfl, accepts⟩

theorem insertMany_of_error {error : SessionError}
    (failed : s.insert q row store = ⟨.error error, after⟩) :
    s.insertMany q (row :: rows) store = ⟨.error error, after⟩ := by
  rw [insertMany, failed]

theorem insertMany_of_ok {cursor : Option Cursor}
    (inserted : s.insert q row store = ⟨.ok cursor, after⟩) :
    s.insertMany q (row :: rows) store =
      (s.insertMany q rows after).map (cursor.toList ++ ·) := by
  rw [insertMany, inserted]

theorem insertions_vain (vain : Vain q row) {texts : List Rendered} :
    Insertions q (row :: rows) texts ↔ Insertions q rows texts := by
  rw [Insertions, Insertions, List.filter_cons_of_neg (by simpa using vain)]

theorem Insertions.cons (worth : ¬Vain q row) {text : Rendered} {texts : List Rendered}
    (rendered : (Statement.insert q row).render = .ok text) (later : Insertions q rows texts) :
    Insertions q (row :: rows) (text :: texts) := by
  rw [Insertions, List.filter_cons_of_pos (by simpa using worth)]
  exact .cons rendered later

theorem insertMany_passed (s : Session) (store : Store)
    (pass : ∀ row ∈ rows, ¬Fails store.script q row) :
    ∃ texts cursors, Insertions q rows texts ∧
      List.Forall₂ (fun _ cursor => store.script.respond s.options = .ok cursor) texts cursors ∧
      s.insertMany q rows store = ⟨.ok cursors, store.logging s.options texts⟩ := by
  induction rows generalizing store with
  | nil => exact ⟨[], [], .nil, .nil, by rw [Store.logging_nil]; rfl⟩
  | cons row rows ih =>
      obtain ⟨first, others⟩ := List.forall_mem_cons.mp pass
      rcases vain_or_accepted s.options first with vain | ⟨worth, text, cursor, rendered, accepts⟩
      · obtain ⟨texts, cursors, inserted, answered, outcome⟩ := ih store others
        refine ⟨texts, cursors, (insertions_vain vain).mpr inserted, answered, ?_⟩
        rw [insertMany_of_ok (insert_vain vain), outcome]
        rfl
      · obtain ⟨texts, cursors, inserted, answered, outcome⟩ :=
          ih (store.logging s.options [text]) others
        refine ⟨text :: texts, cursor :: cursors, inserted.cons worth rendered,
          .cons accepts answered, ?_⟩
        rw [insertMany_of_ok (insert_accepted worth rendered accepts), outcome,
          Store.logging_logging]
        rfl

theorem insertMany_append (s : Session) (q : Query) (rows later : List Row) (store : Store) :
    s.insertMany q (rows ++ later) store =
      match s.insertMany q rows store with
      | ⟨.ok cursors, after⟩ => (s.insertMany q later after).map (cursors ++ ·)
      | ⟨.error error, after⟩ => ⟨.error error, after⟩ := by
  induction rows generalizing store with
  | nil => exact (Outcome.map_nil_append (s.insertMany q later store)).symm
  | cons row rows ih =>
      rw [List.cons_append]
      cases inserted : s.insert q row store with
      | mk result after =>
          -- A row that fails ends both runs; behind any other the rest is as in the hypothesis.
          cases result with
          | error error => rw [insertMany_of_error inserted, insertMany_of_error inserted]
          | ok cursor =>
              rw [insertMany_of_ok inserted, insertMany_of_ok inserted, ih after]
              cases s.insertMany q rows after with
              | mk result last =>
                  cases result with
                  | error error => rfl
                  | ok cursors => exact Outcome.map_map_append cursor.toList cursors _

theorem insertMany_failed (s : Session) {before : List Row}
    (first : Earliest (fun _ row => Fails store.script q row) rows before row) :
    ∃ texts error sent, Insertions q before texts ∧ Failure store.script q row error sent ∧
      s.insertMany q rows store = ⟨.error error, store.logging s.options (texts ++ sent)⟩ := by
  obtain ⟨⟨after, rfl⟩, ⟨error, sent, failure⟩, sooner⟩ := first
  have pass : ∀ other ∈ before, ¬Fails store.script q other := by
    intro other member
    obtain ⟨front, behind, split⟩ := List.append_of_mem member
    exact sooner front other behind split
  obtain ⟨texts, cursors, inserted, -, outcome⟩ := insertMany_passed s store pass
  refine ⟨texts, error, sent, inserted, failure, ?_⟩
  have failed : s.insert q row (store.logging s.options texts) =
      ⟨.error error, (store.logging s.options texts).logging s.options sent⟩ :=
    insert_failed failure
  rw [Store.logging_logging] at failed
  rw [insertMany_append, outcome]
  exact congrArg (Outcome.map (cursors ++ ·)) (insertMany_of_error failed)

theorem insert_eq_none_iff :
    (s.insert q row store).result = .ok none ↔ row.entries = [] ∧ q.inserts = [] := by
  constructor
  · intro skipped
    by_cases vain : Vain q row
    · exact vain
    · rw [insert_worth vain] at skipped
      exact absurd skipped (Outcome.map_some_ne _)
  · intro vain
    rw [insert_vain vain]

/-- Of many rows, those that would write nothing are skipped, with a table or without.  If no other
fails, each of them is inserted and answered; else the first that fails ends it with its error, when
the rows before it have been sent, and itself if it was the store that rejected it.  So rows can be
inserted in two goes, if only the first one succeeds. -/
theorem insertMany_outcome (s : Session) (q : Query) (rows later : List Row) (store : Store) :
    (∀ row, ((s.insert q row store).result = .ok none ↔ row.entries = [] ∧ q.inserts = []) ∧
      (row.entries = [] ∧ q.inserts = [] → s.insert q row store = ⟨.ok none, store⟩)) ∧
    ((∀ row ∈ rows, ¬Fails store.script q row) →
      ∃ texts cursors, Insertions q rows texts ∧
        List.Forall₂ (fun _ cursor => store.script.respond s.options = .ok cursor) texts cursors ∧
        s.insertMany q rows store = ⟨.ok cursors, store.logging s.options texts⟩) ∧
    ((∃ row ∈ rows, Fails store.script q row) →
      ∃ before row, Earliest (fun _ row => Fails store.script q row) rows before row ∧
        ∃ texts error sent, Insertions q before texts ∧ Failure store.script q row error sent ∧
          s.insertMany q rows store = ⟨.error error, store.logging s.options (texts ++ sent)⟩) ∧
    s.insertMany q (rows ++ later) store =
      match s.insertMany q rows store with
      | ⟨.ok cursors, after⟩ => (s.insertMany q later after).map (cursors ++ ·)
      | ⟨.error error, after⟩ => ⟨.error error, after⟩ := by
  refine ⟨?_, insertMany_passed s store, ?_, insertMany_append s q rows later store⟩
  · intro row
    exact ⟨insert_eq_none_iff, insert_vain⟩
  · intro some
    obtain ⟨before, row, first⟩ :=
      somewhere_iff_exists_earliest.mp (somewhere_iff_exists_mem.mpr some)
    exact ⟨before, row, first, insertMany_failed s first⟩

theorem insertMany_outcome_clash :
    let q : Query := { table := some "t", inserts := [⟨.set, "b", .items [], none⟩] }
    let a := Row.ofList [("a", .boolean true)]
    let b := Row.ofList [("b", .boolean true)]
    let s : Session := ⟨{ keyspace := "k" }, {}⟩
    let store : Store := { script := {} }
    (∃ texts cursors, Insertions q [a, a] texts ∧
      List.Forall₂ (fun _ cursor => store.script.respond s.options = .ok cursor) texts cursors ∧
      s.insertMany q [a, a] store = ⟨.ok cursors, store.logging s.options texts⟩) ∧
    (∃ before row, Earliest (fun _ row => Fails store.script q row) [a, b, a] before row ∧
      ∃ texts error sent, Insertions q before texts ∧ Failure store.script q row error sent ∧
        s.insertMany q [a, b, a] store = ⟨.error error, store.logging s.options (texts ++ sent)⟩) ∧
    (s.insertMany q [a, b, a] store).result = .error (.query (.conflictingColumn "b")) ∧
    (s.insertMany q [a, b, a] store).store.log =
      [⟨⟨"insert into t (a, b) values (?, \x7b\x7d)", [.boolean true]⟩, s.options⟩] ∧
    s.insert {} {} store = ⟨.ok none, store⟩ := by
  intro q a b s store
  have rendered : (Statement.insert q a).render =
      .ok ⟨"insert into t (a, b) values (?, \x7b\x7d)", [.boolean true]⟩ := by decide +kernel
  have passes : ¬Fails store.script q a := by
    rintro ⟨error, sent, failure⟩
    cases failure with
    | unrendered worth refused => cases rendered.symm.trans refused
    | rejected worth written rejects => cases rejects
  have fails : Fails store.script q b :=
    ⟨_, _, .unrendered (by decide) (by decide +kernel :
      (Statement.insert q b).render = .error (.conflictingColumn "b"))⟩
  obtain ⟨-, passed, -⟩ := insertMany_outcome s q [a, a] [] store
  obtain ⟨-, -, failed, -⟩ := insertMany_outcome s q [a, b, a] [] store
  obtain ⟨skipped, -⟩ := insertMany_outcome s {} [] [] store
  refine ⟨passed (by simp [passes]), failed ⟨b, by simp, fails⟩, ?_, ?_, ?_⟩
  · rfl
  · rfl
  · exact (skipped {}).2 ⟨rfl, rfl⟩

end Session

end WideColumn
