import WideColumn.Paging

/-! A store that answers as a script says, and keeps what it was asked to do. -/

namespace WideColumn

/-- What every statement answers with: pages of these sizes, or a number of rows that is cut into
pages as the caller wants them. -/
inductive Answer where
  | pages (sizes : List Nat)
  | rows (total : Nat)
  deriving DecidableEq

namespace Answer

def cut (size total : Nat) : List Nat :=
  if total = 0 then [0]
  else
    List.replicate (total / size) size ++ if total % size = 0 then [] else [total % size]

def sizes (pageSize : UInt32) : Answer → List Nat
  | pages sizes => sizes
  | rows total => cut (max pageSize.toNat 1) total

end Answer

structure Script where
  answer : Answer := .pages [0]
  failingPage : Option Nat := none
  connectionFailure : Option String := none
  executionFailure : Option String := none
  deriving DecidableEq

structure Store where
  script : Script
  connected : Option Settings := none
  log : List Execution := []
  fetches : Nat := 0
  deriving DecidableEq

namespace Script

def respond (s : Script) (options : Options) : Except ExecutionError Cursor :=
  match s.executionFailure with
  | some detail => .error { detail }
  | none =>
    let failure := s.failingPage.map fun page =>
      (⟨page, "failed to fetch page " ++ page.repr⟩ : PageFailure)
    .ok (Cursor.first (s.answer.sizes options.pageSize) failure)

end Script

structure Outcome (ε α : Type) where
  result : Except ε α
  store : Store

def Outcome.map {ε α β : Type} (f : α → β) (o : Outcome ε α) : Outcome ε β :=
  ⟨o.result.map f, o.store⟩

namespace Store

def connect (store : Store) (settings : Settings) : Outcome ExecutionError Unit :=
  match store.script.connectionFailure with
  | some detail => ⟨.error { detail }, store⟩
  | none => ⟨.ok (), { store with connected := some settings }⟩

/-- Runs a statement.  It is kept in the log even when the store fails it. -/
def execute (store : Store) (statement : Rendered) (options : Options) :
    Outcome ExecutionError Cursor :=
  ⟨store.script.respond options, { store with log := store.log ++ [⟨statement, options⟩] }⟩

@[simp] theorem log_execute (store : Store) (statement : Rendered) (options : Options) :
    (store.execute statement options).store.log = store.log ++ [⟨statement, options⟩] := rfl

def fetch (store : Store) (c : Cursor) : Outcome ExecutionError Cursor :=
  ⟨c.next, { store with fetches := store.fetches + 1 }⟩

/-- Runs a statement, and counts the rows of all its pages.  Nothing is run when the wish to stop
came before. -/
def count (store : Store) (cancellation : Cancellation) (statement : Rendered)
    (options : Options) : Outcome SessionError Nat :=
  if cancellation.after 0 then ⟨.error (.cancelled 0), store⟩
  else
    let ⟨result, store⟩ := store.execute statement options
    match result with
    | .error error => ⟨.error (.execution error), store⟩
    | .ok first =>
      let count := first.count cancellation
      ⟨count.result, { store with fetches := store.fetches + count.fetches }⟩

end Store

end WideColumn
