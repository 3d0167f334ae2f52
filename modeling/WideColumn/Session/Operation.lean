import WideColumn.Session

/-! What a session can be asked to do, as data, and runs of it. -/

namespace WideColumn.Session

inductive Operation where
  | get (query : Query)
  | count (cancellation : Cancellation) (query : Query)
  | insert (query : Query) (row : Row)
  | insertMany (query : Query) (rows : List Row)
  | update (query : Query) (row : Row)
  | deleteRow (query : Query)
  | deleteColumns (query : Query) (columns : List String)
  | index (query : Query) (columns : List String)
  | execute (statement : Rendered)

def Operation.raw (text : String) : Operation :=
  execute ⟨text, []⟩

inductive Reply where
  | page (cursor : Cursor)
  | skipped
  | pages (cursors : List Cursor)
  | total (rows : Nat)
  deriving DecidableEq

def Reply.ofInsert : Option Cursor → Reply
  | some cursor => page cursor
  | none => skipped

def perform (s : Session) : Operation → Store → Outcome SessionError Reply
  | .get q, store => (s.get q store).map .page
  | .count cancellation q, store => (s.count cancellation q store).map .total
  | .insert q row, store => (s.insert q row store).map .ofInsert
  | .insertMany q rows, store => (s.insertMany q rows store).map .pages
  | .update q row, store => (s.update q row store).map .page
  | .deleteRow q, store => (s.deleteRow q store).map .page
  | .deleteColumns q columns, store => (s.deleteColumns q columns store).map .page
  | .index q columns, store => (s.index q columns store).map .page
  | .execute statement, store => (s.execute statement store).map .page

def performAll (s : Session) : List Operation → Store → List (Except SessionError Reply) × Store
  | [], store => ([], store)
  | operation :: later, store =>
    let ⟨result, store⟩ := s.perform operation store
    let (results, store) := s.performAll later store
    (result :: results, store)

end WideColumn.Session
