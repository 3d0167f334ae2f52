import WideColumn.Store

namespace WideColumn

structure Session where
  settings : Settings
  options : Options
  deriving DecidableEq

namespace Session

/-- Opens a session.  The store is asked only if the settings can be used. -/
def connect (settings : Settings) (store : Store) : Outcome SessionError Session :=
  match settings.fault? with
  | some fault => ⟨.error (.settings fault), store⟩
  | none =>
    let ⟨result, store⟩ := store.connect settings
    match result with
    | .error error => ⟨.error (.execution error), store⟩
    | .ok () => ⟨.ok ⟨settings, .ofSettings settings⟩, store⟩

def execute (s : Session) (statement : Rendered) (store : Store) : Outcome SessionError Cursor :=
  let ⟨result, store⟩ := store.execute statement s.options
  ⟨result.mapError .execution, store⟩

def run (s : Session) (statement : Statement) (store : Store) : Outcome SessionError Cursor :=
  match statement.render with
  | .error error => ⟨.error (.query error), store⟩
  | .ok rendered => s.execute rendered store

def get (s : Session) (q : Query) (store : Store) : Outcome SessionError Cursor :=
  s.run (.select q) store

def count (s : Session) (cancellation : Cancellation) (q : Query) (store : Store) :
    Outcome SessionError Nat :=
  match (Statement.select q).render with
  | .error error => ⟨.error (.query error), store⟩
  | .ok rendered => store.count cancellation rendered s.options

def skips (q : Query) (row : Row) : Bool :=
  row.isEmpty && q.inserts.isEmpty

def insert (s : Session) (q : Query) (row : Row) (store : Store) :
    Outcome SessionError (Option Cursor) :=
  if skips q row then ⟨.ok none, store⟩
  else (s.run (.insert q row) store).map some

def insertMany (s : Session) (q : Query) : List Row → Store → Outcome SessionError (List Cursor)
  | [], store => ⟨.ok [], store⟩
  | row :: rows, store =>
    let ⟨result, store⟩ := s.insert q row store
    match result with
    | .error error => ⟨.error error, store⟩
    | .ok cursor =>
      (s.insertMany q rows store).map (cursor.toList ++ ·)

def update (s : Session) (q : Query) (row : Row) (store : Store) : Outcome SessionError Cursor :=
  s.run (.update q row) store

/-- Deletes whole rows, whatever columns the query has queued for deletion. -/
def deleteRow (s : Session) (q : Query) (store : Store) : Outcome SessionError Cursor :=
  s.run (.delete (q.deletingColumns [])) store

def deleteColumns (s : Session) (q : Query) (columns : List String) (store : Store) :
    Outcome SessionError Cursor :=
  s.run (.delete (q.deletingColumns columns)) store

def index (s : Session) (q : Query) (columns : List String) (store : Store) :
    Outcome SessionError Cursor :=
  s.run (.index q columns) store

end Session

end WideColumn
