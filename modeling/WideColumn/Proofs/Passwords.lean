import Mathlib.Control.Monad.Basic
import WideColumn.Session.Operation

namespace WideColumn

/-- Settings that are the same but for a password, which is not empty in either. -/
def Settings.DifferInPassword (s t : Settings) : Prop :=
  ∃ username password other, password ≠ "" ∧ other ≠ "" ∧
    s.credentials = some ⟨username, password⟩ ∧
    t = { s with credentials := some ⟨username, other⟩ }

/-- Stores that do the same and have been asked the same.  The settings they were connected with may
differ in what is not shown. -/
structure Store.Alike (a b : Store) : Prop where
  script : a.script = b.script
  connected : a.connected.map Settings.shown = b.connected.map Settings.shown
  log : a.log = b.log
  fetches : a.fetches = b.fetches

structure Outcome.Alike {ε α : Type} (o p : Outcome ε α) : Prop where
  result : o.result = p.result
  store : o.store.Alike p.store

theorem Outcome.Alike.map {ε α β : Type} {o p : Outcome ε α} (f : α → β) (alike : o.Alike p) :
    (o.map f).Alike (p.map f) :=
  ⟨congrArg (Except.map f) alike.result, alike.store⟩

namespace Settings

variable {s t : Settings}

namespace DifferInPassword

theorem shown_eq (differ : s.DifferInPassword t) : s.shown = t.shown := by
  obtain ⟨username, password, other, -, -, given, rfl⟩ := differ
  simp only [shown, given, showCredentials]

theorem fault?_eq (differ : s.DifferInPassword t) : s.fault? = t.fault? := by
  obtain ⟨username, password, other, present, otherPresent, given, rfl⟩ := differ
  have complete : password.isEmpty = other.isEmpty := by
    rw [Bool.eq_false_iff.mpr (mt String.isEmpty_iff.mp present),
      Bool.eq_false_iff.mpr (mt String.isEmpty_iff.mp otherPresent)]
  simp only [fault?, given, complete]

theorem validate_eq (differ : s.DifferInPassword t) : s.validate = t.validate := by
  rw [validate, validate, differ.fault?_eq]

theorem contactPoints_eq (differ : s.DifferInPassword t) : s.contactPoints = t.contactPoints := by
  obtain ⟨username, password, other, -, -, -, rfl⟩ := differ
  rfl

theorem options_eq (differ : s.DifferInPassword t) :
    Options.ofSettings s = Options.ofSettings t := by
  obtain ⟨username, password, other, -, -, -, rfl⟩ := differ
  rfl

end DifferInPassword

end Settings

namespace Store.Alike

variable {a b : Store}

theorem refl (store : Store) : store.Alike store :=
  ⟨rfl, rfl, rfl, rfl⟩

theorem connect {s t : Settings} (alike : a.Alike b) (shown : s.shown = t.shown) :
    (a.connect s).Alike (b.connect t) := by
  unfold Store.connect
  rw [alike.script]
  split
  · exact ⟨rfl, alike⟩
  · exact ⟨rfl, ⟨rfl, congrArg some shown, alike.log, alike.fetches⟩⟩

theorem execute (alike : a.Alike b) (statement : Rendered) (options : Options) :
    (a.execute statement options).Alike (b.execute statement options) where
  result := congrArg (·.respond options) alike.script
  store := by
    refine ⟨alike.script, alike.connected, ?_, alike.fetches⟩
    rw [log_execute, log_execute, alike.log]

theorem count (alike : a.Alike b) (cancellation : Cancellation) (statement : Rendered)
    (options : Options) :
    (a.count cancellation statement options).Alike (b.count cancellation statement options) := by
  have executed := alike.execute statement options
  unfold Store.count
  split
  · exact ⟨rfl, alike⟩
  · simp only [executed.result]
    split
    · exact ⟨rfl, executed.store⟩
    · exact ⟨rfl, executed.store.script, executed.store.connected, executed.store.log,
        congrArg (· + _) executed.store.fetches⟩

end Store.Alike

namespace Session

section

variable {s t : Session} {a b : Store}

theorem execute_alike (options : s.options = t.options) (alike : a.Alike b) (statement : Rendered) :
    (s.execute statement a).Alike (t.execute statement b) := by
  have executed := alike.execute statement t.options
  unfold execute
  rw [options]
  exact ⟨congrArg (Except.mapError SessionError.execution) executed.result, executed.store⟩

theorem run_alike (options : s.options = t.options) (alike : a.Alike b) (statement : Statement) :
    (s.run statement a).Alike (t.run statement b) := by
  unfold run
  split
  · exact ⟨rfl, alike⟩
  · exact execute_alike options alike _

theorem count_alike (options : s.options = t.options) (alike : a.Alike b)
    (cancellation : Cancellation) (q : Query) :
    (s.count cancellation q a).Alike (t.count cancellation q b) := by
  unfold count
  split
  · exact ⟨rfl, alike⟩
  · rw [options]
    exact alike.count cancellation _ t.options

theorem insert_alike (options : s.options = t.options) (alike : a.Alike b) (q : Query) (row : Row) :
    (s.insert q row a).Alike (t.insert q row b) := by
  unfold insert
  split
  · exact ⟨rfl, alike⟩
  · exact (run_alike options alike _).map some

theorem insertMany_alike (options : s.options = t.options) (alike : a.Alike b) (q : Query)
    (rows : List Row) : (s.insertMany q rows a).Alike (t.insertMany q rows b) := by
  induction rows generalizing a b with
  | nil => exact ⟨rfl, alike⟩
  | cons row rows ih =>
      have inserted := insert_alike options alike q row
      rw [insertMany, insertMany]
      simp only [inserted.result]
      split
      · exact ⟨rfl, inserted.store⟩
      · exact (ih inserted.store).map _

theorem perform_alike (options : s.options = t.options) (alike : a.Alike b)
    (operation : Operation) : (s.perform operation a).Alike (t.perform operation b) := by
  cases operation with
  | get q => exact (run_alike options alike _).map _
  | count cancellation q => exact (count_alike options alike cancellation q).map _
  | insert q row => exact (insert_alike options alike q row).map _
  | insertMany q rows => exact (insertMany_alike options alike q rows).map _
  | update q row => exact (run_alike options alike _).map _
  | deleteRow q => exact (run_alike options alike _).map _
  | deleteColumns q columns => exact (run_alike options alike _).map _
  | index q columns => exact (run_alike options alike _).map _
  | execute statement => exact (execute_alike options alike statement).map _

theorem performAll_alike (options : s.options = t.options) (alike : a.Alike b)
    (operations : List Operation) :
    (s.performAll operations a).1 = (t.performAll operations b).1 ∧
      (s.performAll operations a).2.Alike (t.performAll operations b).2 := by
  induction operations generalizing a b with
  | nil => exact ⟨rfl, alike⟩
  | cons operation later ih =>
      have performed := perform_alike options alike operation
      obtain ⟨replies, after⟩ := ih performed.store
      refine ⟨?_, after⟩
      simp only [performAll, performed.result, replies]

end

theorem connect_alike {s t : Settings} (differ : s.DifferInPassword t) (store : Store) :
    (connect s store).store.Alike (connect t store).store ∧
      ((∃ error, (connect s store).result = .error error ∧
          (connect t store).result = .error error) ∨
        ∃ a b, (connect s store).result = .ok a ∧ (connect t store).result = .ok b ∧
          a.options = b.options) := by
  have asked := (Store.Alike.refl store).connect differ.shown_eq
  unfold connect
  rw [differ.fault?_eq]
  split
  · exact ⟨.refl store, .inl ⟨_, rfl, rfl⟩⟩
  · simp only [asked.result]
    split
    · exact ⟨asked.store, .inl ⟨_, rfl, rfl⟩⟩
    · exact ⟨asked.store, .inr ⟨_, _, rfl, rfl, differ.options_eq⟩⟩

/-- What is seen of a session that is opened and asked to do something: how it was opened, and with
which options; what it replied; what settings the store shows it was connected with; and what the
store was asked. -/
structure Sight where
  opened : Except SessionError Options
  replies : List (Except SessionError Reply)
  connected : Option String
  log : List Execution
  fetches : Nat
  deriving DecidableEq

def Sight.of (opened : Except SessionError Options) (replies : List (Except SessionError Reply))
    (store : Store) : Sight :=
  ⟨opened, replies, store.connected.map Settings.shown, store.log, store.fetches⟩

def watch (settings : Settings) (operations : List Operation) (store : Store) : Sight :=
  let ⟨result, store⟩ := connect settings store
  match result with
  | .error error => .of (.error error) [] store
  | .ok s =>
    let (replies, store) := s.performAll operations store
    .of (.ok s.options) replies store

theorem sight_eq {a b : Store} (alike : a.Alike b) (opened : Except SessionError Options)
    (replies : List (Except SessionError Reply)) :
    Sight.of opened replies a = .of opened replies b := by
  rw [Sight.of, Sight.of, alike.connected, alike.log, alike.fetches]

theorem watch_eq {s t : Settings} (differ : s.DifferInPassword t) (operations : List Operation)
    (store : Store) : watch s operations store = watch t operations store := by
  obtain ⟨alike, ⟨error, failed, failed'⟩ | ⟨a, b, opened, opened', options⟩⟩ :=
    connect_alike differ store
  · simp only [watch, failed, failed']
    exact sight_eq alike _ _
  · obtain ⟨replies, after⟩ := performAll_alike options alike operations
    simp only [watch, opened, opened', options, replies]
    exact sight_eq after _ _

/-- Settings that only differ in a password, empty in neither, are shown alike, are refused for the
same fault or not at all, and have the same contact points and options.  With any store, sessions
that are opened with them are opened or refused alike, reply alike to whatever they are asked to do,
and leave the same log. -/
theorem password_unseen {s t : Settings} (differ : s.DifferInPassword t) :
    s.shown = t.shown ∧ s.validate = t.validate ∧ s.contactPoints = t.contactPoints ∧
      Options.ofSettings s = Options.ofSettings t ∧
      ∀ operations store, watch s operations store = watch t operations store :=
  ⟨differ.shown_eq, differ.validate_eq, differ.contactPoints_eq, differ.options_eq,
    fun operations store => watch_eq differ operations store⟩

theorem password_unseen_quoted :
    let settings (password : String) : Settings :=
      { keyspace := "k", pageSize := 2, credentials := some ⟨"u", password⟩ }
    let store : Store := { script := { answer := .rows 3 } }
    let operations : List Operation :=
      [.count .never { table := some "t" }, .get {},
        .insert { table := some "t" } (.ofList [("a", .int 1)])]
    let options : Options := { pageSize := 2 }
    let sight : Sight :=
      { opened := .ok options
        replies := [.ok (.total 3), .error (.query .missingTable),
          .ok (.page { rows := 2, later := [1] })]
        connected := some (settings "").shown
        log := [⟨⟨"select * from t", []⟩, options⟩,
          ⟨⟨"insert into t (a) values (?)", [.int 1]⟩, options⟩]
        fetches := 1 }
    (settings "\"").DifferInPassword (settings "hunter2") ∧
      (settings "\"").shown = (settings "hunter2").shown ∧
      watch (settings "\"") operations store = sight ∧
      watch (settings "hunter2") operations store = sight := by
  intro settings store operations options sight
  have differ : (settings "\"").DifferInPassword (settings "hunter2") :=
    ⟨"u", "\"", "hunter2", by decide, by decide, rfl, rfl⟩
  obtain ⟨shown, -, -, -, same⟩ := password_unseen differ
  have watched : watch (settings "\"") operations store = sight := by decide +kernel
  exact ⟨differ, shown, watched, (same operations store).symm.trans watched⟩

end Session

end WideColumn
