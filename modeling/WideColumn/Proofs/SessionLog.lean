import WideColumn.Proofs.InsertMany
import WideColumn.Proofs.PagedCount
import WideColumn.Session.Operation

/-! What reaches the store over a session: one connection at most, and the statements that the
operations rendered, each with the options of the settings. -/

namespace WideColumn

namespace Session

/-- A statement still to be rendered, or a text that is run as it is. -/
inductive Demand where
  | render (statement : Statement)
  | verbatim (text : Rendered)

def Demand.text : Demand → Except QueryError Rendered
  | render statement => statement.render
  | verbatim text => .ok text

def Operation.demands : Operation → List Demand
  | .get q => [.render (.select q)]
  | .count cancellation q => if cancellation = .before then [] else [.render (.select q)]
  | .insert q row => if Vain q row then [] else [.render (.insert q row)]
  | .insertMany q rows => (rows.filter (¬Vain q ·)).map fun row => .render (.insert q row)
  | .update q row => [.render (.update q row)]
  | .deleteRow q => [.render (.delete { q with deleteColumns := none })]
  | .deleteColumns q columns => [.render (.delete { q with deleteColumns := some columns })]
  | .index q columns => [.render (.index q columns)]
  | .execute statement => [.verbatim statement]

/-- The texts of demands, up to the first that cannot be rendered. -/
def texts : List Demand → List Rendered
  | [] => []
  | demand :: later =>
      match demand.text with
      | .ok rendered => rendered :: texts later
      | .error _ => []

/-- The texts that an operation sends to a store.  One that rejects statements stops the operation
with the first. -/
def Operation.sent (operation : Operation) (script : Script) : List Rendered :=
  match script.executionFailure with
  | none => texts operation.demands
  | some _ => (texts operation.demands).take 1

theorem texts_rendered {demand : Demand} {rendered : Rendered} (written : demand.text = .ok rendered)
    (later : List Demand) : texts (demand :: later) = rendered :: texts later := by
  rw [texts, written]

theorem texts_unrendered {demand : Demand} {error : QueryError} (failed : demand.text = .error error)
    (later : List Demand) : texts (demand :: later) = [] := by
  rw [texts, failed]

theorem length_texts_le (demands : List Demand) : (texts demands).length ≤ demands.length := by
  induction demands with
  | nil => exact Nat.le_refl 0
  | cons demand later ih =>
      cases written : demand.text with
      | ok rendered =>
          rw [texts_rendered written]
          exact Nat.succ_le_succ ih
      | error error =>
          rw [texts_unrendered written]
          exact Nat.zero_le _

theorem sent_eq_texts (operation : Operation) (script : Script)
    (single : operation.demands.length ≤ 1) :
    operation.sent script = texts operation.demands := by
  unfold Operation.sent
  split
  · rfl
  · exact List.take_of_length_le (Nat.le_trans (length_texts_le operation.demands) single)

/-- One store comes from another by statements that session `s` sent, and by fetches. -/
structure Sends (s : Session) (store : Store) (sent : List Rendered) (after : Store) : Prop where
  log : after.log = store.log ++ sent.map (⟨·, s.options⟩)
  script : after.script = store.script
  connected : after.connected = store.connected

namespace Sends

variable {s : Session} {store between after : Store} {sent later : List Rendered}

theorem nothing : Sends s store [] store :=
  ⟨by simp, rfl, rfl⟩

theorem trans (first : Sends s store sent between) (second : Sends s between later after) :
    Sends s store (sent ++ later) after where
  log := by rw [second.log, first.log, List.map_append, List.append_assoc]
  script := second.script.trans first.script
  connected := second.connected.trans first.connected

end Sends

section

variable {s : Session} {store : Store} {q : Query}

theorem count_unrendered {cancellation : Cancellation} {error : QueryError}
    (failed : (Statement.select q).render = .error error) :
    s.count cancellation q store = ⟨.error (.query error), store⟩ := by
  rw [count, failed]

theorem count_rendered {cancellation : Cancellation} {rendered : Rendered}
    (written : (Statement.select q).render = .ok rendered) :
    s.count cancellation q store = store.count cancellation rendered s.options := by
  rw [count, written]

end

section

variable (s : Session) (store : Store)

theorem logging_sends (texts : List Rendered) :
    Sends s store texts (store.logging s.options texts) :=
  ⟨rfl, rfl, rfl⟩

theorem execute_sends (rendered : Rendered) :
    Sends s store [rendered] (s.execute rendered store).store :=
  ⟨rfl, rfl, rfl⟩

theorem run_sends (statement : Statement) :
    Sends s store (texts [.render statement]) (s.run statement store).store := by
  cases written : (Demand.render statement).text with
  | error error =>
      rw [run_unrendered written, texts_unrendered written]
      exact Sends.nothing
  | ok rendered =>
      rw [run_rendered written, texts_rendered written]
      exact execute_sends s store rendered

theorem insert_sends (q : Query) (row : Row) :
    Sends s store (texts (Operation.insert q row).demands) (s.insert q row store).store := by
  by_cases vain : Vain q row
  · rw [insert_vain vain, Operation.demands, if_pos vain]
    exact Sends.nothing
  · rw [insert_worth vain, Operation.demands, if_neg vain]
    exact run_sends s store (.insert q row)

theorem count_answer_sends {cancellation : Cancellation} (uncalled : cancellation ≠ .before)
    (rendered : Rendered) :
    Sends s store [rendered] (store.count cancellation rendered s.options).store := by
  cases failure : store.script.executionFailure with
  | some detail =>
      rw [Store.count_rejected uncalled failure]
      exact ⟨rfl, rfl, rfl⟩
  | none =>
      rw [Store.count_answered uncalled failure rfl]
      exact ⟨rfl, rfl, rfl⟩

theorem count_sends (cancellation : Cancellation) (q : Query) :
    Sends s store (texts (Operation.count cancellation q).demands)
      (s.count cancellation q store).store := by
  rw [Operation.demands]
  cases written : (Demand.render (.select q)).text with
  | error error =>
      rw [count_unrendered written, apply_ite texts, texts_unrendered written, texts, ite_self]
      exact Sends.nothing
  | ok rendered =>
      rw [count_rendered written]
      by_cases called : cancellation = .before
      · rw [if_pos called, called, Store.count_before]
        exact Sends.nothing
      · rw [if_neg called, texts_rendered written]
        exact count_answer_sends s store called rendered

theorem insertMany_sends (q : Query) (rows : List Row) :
    Sends s store ((Operation.insertMany q rows).sent store.script)
      (s.insertMany q rows store).store := by
  induction rows generalizing store with
  | nil =>
      rw [sent_eq_texts (.insertMany q []) store.script (Nat.zero_le 1)]
      exact Sends.nothing
  | cons row rows ih =>
      by_cases vain : Vain q row
      · have skipped : (Operation.insertMany q (row :: rows)).sent store.script =
            (Operation.insertMany q rows).sent store.script := by
          simp [Operation.sent, Operation.demands, vain]
        rw [insertMany_of_ok (insert_vain vain), skipped]
        exact ih store
      · have demanded : (Operation.insertMany q (row :: rows)).demands =
            .render (.insert q row) :: (Operation.insertMany q rows).demands := by
          simp [Operation.demands, vain]
        cases written : (Demand.render (.insert q row)).text with
        | error error =>
            have stopped : (Operation.insertMany q (row :: rows)).sent store.script = [] := by
              rw [Operation.sent, demanded, texts_unrendered written]
              split <;> rfl
            rw [insertMany_of_error (insert_failed (.unrendered vain written)), stopped]
            exact logging_sends s store []
        | ok rendered =>
            cases rejects : store.script.executionFailure with
            | some detail =>
                have first :
                    (Operation.insertMany q (row :: rows)).sent store.script = [rendered] := by
                  rw [Operation.sent, rejects, demanded, texts_rendered written]
                  rfl
                rw [insertMany_of_error (insert_failed (.rejected vain written rejects)), first]
                exact logging_sends s store [rendered]
            | none =>
                have first : (Operation.insertMany q (row :: rows)).sent store.script =
                    [rendered] ++ (Operation.insertMany q rows).sent store.script := by
                  simp [Operation.sent, rejects, demanded, texts_rendered written]
                obtain ⟨cursor, accepts⟩ := Script.exists_respond s.options rejects
                rw [insertMany_of_ok (insert_accepted vain written accepts), first]
                exact (logging_sends s store [rendered]).trans (ih _)

theorem perform_sends (operation : Operation) :
    Sends s store (operation.sent store.script) (s.perform operation store).store := by
  cases operation with
  | insertMany q rows => exact insertMany_sends s store q rows
  | count cancellation q =>
      rw [sent_eq_texts]
      · exact count_sends s store cancellation q
      · rw [Operation.demands]
        split <;> simp
  | insert q row =>
      rw [sent_eq_texts]
      · exact insert_sends s store q row
      · rw [Operation.demands]
        split <;> simp
  | execute rendered =>
      rw [sent_eq_texts (.execute rendered) store.script (Nat.le_refl 1)]
      exact execute_sends s store rendered
  | get q =>
      rw [sent_eq_texts (.get q) store.script (Nat.le_refl 1)]
      exact run_sends s store (.select q)
  | update q row =>
      rw [sent_eq_texts (.update q row) store.script (Nat.le_refl 1)]
      exact run_sends s store (.update q row)
  | index q columns =>
      rw [sent_eq_texts (.index q columns) store.script (Nat.le_refl 1)]
      exact run_sends s store (.index q columns)
  | deleteColumns q columns =>
      rw [sent_eq_texts (.deleteColumns q columns) store.script (Nat.le_refl 1)]
      exact run_sends s store (.delete (q.deletingColumns columns))
  | deleteRow q =>
      -- An empty list of columns is rendered as no list at all.
      rw [sent_eq_texts (.deleteRow q) store.script (Nat.le_refl 1)]
      exact run_sends s store (.delete (q.deletingColumns []))

theorem performAll_sends (operations : List Operation) :
    Sends s store (operations.flatMap (·.sent store.script))
      (s.performAll operations store).2 := by
  induction operations generalizing store with
  | nil => exact Sends.nothing
  | cons operation later ih =>
      have first := perform_sends s store operation
      have rest := ih (s.perform operation store).store
      -- No operation changes the script, so the store at the start tells what the later ones send.
      rw [first.script] at rest
      exact first.trans rest

variable {store}

theorem validate_eq_error {settings : Settings} {fault : Settings.Fault} :
    settings.validate = .error fault ↔ settings.fault? = some fault := by
  unfold Settings.validate
  split <;> simp_all

theorem validate_eq_ok {settings : Settings} :
    settings.validate = .ok () ↔ settings.fault? = none := by
  unfold Settings.validate
  split <;> simp_all

theorem connect_refused {settings : Settings} {fault : Settings.Fault}
    (refused : settings.validate = .error fault) :
    connect settings store = ⟨.error (.settings fault), store⟩ := by
  rw [connect, validate_eq_error.mp refused]

theorem connect_rejected {settings : Settings} {error : ExecutionError}
    (valid : settings.validate = .ok ())
    (rejected : (store.connect settings).result = .error error) :
    connect settings store = ⟨.error (.execution error), (store.connect settings).store⟩ := by
  simp [connect, validate_eq_ok.mp valid, rejected]

theorem connect_accepted {settings : Settings} (valid : settings.validate = .ok ())
    (accepted : (store.connect settings).result = .ok ()) :
    connect settings store =
      ⟨.ok ⟨settings, .ofSettings settings⟩, (store.connect settings).store⟩ := by
  simp [connect, validate_eq_ok.mp valid, accepted]

theorem connected_of_connect {settings : Settings} {s : Session} {opened : Store}
    (connected : connect settings store = ⟨.ok s, opened⟩) :
    s = ⟨settings, .ofSettings settings⟩ ∧ opened = { store with connected := some settings } := by
  cases valid : settings.validate with
  | error fault => rw [connect_refused valid] at connected; cases connected
  | ok =>
      cases failure : store.script.connectionFailure with
      | some detail =>
          have rejected : (store.connect settings).result = .error { detail } := by
            simp [Store.connect, failure]
          rw [connect_rejected valid rejected] at connected
          cases connected
      | none =>
          have accepted :
              store.connect settings = ⟨.ok (), { store with connected := some settings }⟩ := by
            simp [Store.connect, failure]
          rw [connect_accepted valid (by rw [accepted]), accepted] at connected
          cases connected
          exact ⟨rfl, rfl⟩

end

/-- A store is asked for a connection just when the settings can be used, and then with these
settings.  From there on it is sent the texts of the operations in their order, each once, and each
with the page size, the consistency and the request timeout of the settings; nothing else changes
what it was asked. -/
theorem log_of_operations (settings : Settings) (store : Store) :
    (∀ fault, settings.validate = .error fault →
      connect settings store = ⟨.error (.settings fault), store⟩) ∧
    (settings.validate = .ok () →
      let asked := store.connect settings
      (∀ error, asked.result = .error error →
        connect settings store = ⟨.error (.execution error), asked.store⟩) ∧
      (asked.result = .ok () →
        connect settings store = ⟨.ok ⟨settings, .ofSettings settings⟩, asked.store⟩)) ∧
    ∀ s opened, connect settings store = ⟨.ok s, opened⟩ →
      opened.connected = some settings ∧ opened.log = store.log ∧
      ∀ operations,
        let after := (s.performAll operations opened).2
        after.log = opened.log ++
          (operations.flatMap (·.sent store.script)).map (⟨·, .ofSettings settings⟩) ∧
        (∀ execution ∈ after.log.drop opened.log.length,
          execution.options.pageSize = settings.pageSize ∧
          execution.options.consistency = settings.consistency ∧
          execution.options.requestTimeout = .ofMillis settings.timeouts.requestMillis) ∧
        after.connected = some settings := by
  refine ⟨?_, ?_, ?_⟩
  · intro fault refused
    exact connect_refused refused
  · intro valid asked
    exact ⟨fun error rejected => connect_rejected valid rejected,
      fun accepted => connect_accepted valid accepted⟩
  · intro s opened connected
    obtain ⟨rfl, rfl⟩ := connected_of_connect connected
    refine ⟨rfl, rfl, ?_⟩
    intro operations after
    have sends := performAll_sends ⟨settings, .ofSettings settings⟩
      { store with connected := some settings } operations
    refine ⟨sends.log, ?_, sends.connected⟩
    intro execution logged
    rw [show after.log = _ from sends.log, List.drop_left] at logged
    obtain ⟨text, -, rfl⟩ := List.mem_map.mp logged
    exact ⟨rfl, rfl, rfl⟩

theorem log_of_operations_rejected :
    let settings : Settings := { keyspace := "k", pageSize := 7 }
    let store : Store := { script := { executionFailure := some "down" } }
    let opened : Store := { store with connected := some settings }
    let session : Session := ⟨settings, .ofSettings settings⟩
    let q : Query := { table := some "t", deleteColumns := some ["c"] }
    let row := Row.ofList [("a", .boolean true)]
    let operations : List Operation :=
      [.insertMany q [{}, row, row], .count .before q, .get {}, .deleteRow q, .raw "use k"]
    connect settings store = ⟨.ok session, opened⟩ ∧
      (session.performAll operations opened).2.log =
        [⟨"insert into t (a) values (?)", [.boolean true]⟩, ⟨"delete from t", []⟩, ⟨"use k", []⟩].map
          (⟨·, .ofSettings settings⟩) ∧
      ∀ execution ∈ (session.performAll operations opened).2.log,
        execution.options.pageSize = 7 := by
  intro settings store opened session q row operations
  have valid : settings.validate = .ok () := validate_eq_ok.mpr (by decide)
  have connected : connect settings store = ⟨.ok session, opened⟩ :=
    connect_accepted valid rfl
  have sent : operations.flatMap (·.sent store.script) =
      [⟨"insert into t (a) values (?)", [.boolean true]⟩, ⟨"delete from t", []⟩, ⟨"use k", []⟩] := by
    rfl
  obtain ⟨-, -, run⟩ := log_of_operations settings store
  obtain ⟨-, -, logged⟩ := run session opened connected
  obtain ⟨log, options, -⟩ := logged operations
  exact ⟨connected, sent ▸ log, fun execution member => (options execution member).1⟩

end Session

end WideColumn
