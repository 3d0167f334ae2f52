import WideColumn.Query

/-! The calls that build a query, as data, and the queries that runs of them reach. -/

namespace WideColumn.Query

inductive Call where
  | onTable (table : String)
  | selecting (columns : List String)
  | restrict (column operator : String) (value : Value)
  | restrictEqual (column : String) (value : Value)
  | restrictIn (column : String) (values : List Value)
  | limiting (n : UInt32)
  | distinctRows
  | allowingFiltering
  | replaceCollection (kind column : String) (contents : Collection.Contents)
  | adjustCollection (kind column delta : String) (contents : Collection.Contents)
  | insertCollection (kind column : String) (contents : Collection.Contents)
  | deletingColumns (columns : List String)
  | bindValue (value : Value) (clause : Clause)
  deriving DecidableEq

def apply (q : Query) : Call → Except QueryError Query
  | .onTable table => .ok (q.onTable table)
  | .selecting columns => .ok (q.selecting columns)
  | .restrict column operator value => q.restrict column operator value
  | .restrictEqual column value => .ok (q.restrictEqual column value)
  | .restrictIn column values => q.restrictIn column values
  | .limiting n => .ok (q.limiting n)
  | .distinctRows => .ok q.distinctRows
  | .allowingFiltering => .ok q.allowingFiltering
  | .replaceCollection kind column contents => q.replaceCollection kind column contents
  | .adjustCollection kind column delta contents => q.adjustCollection kind column delta contents
  | .insertCollection kind column contents => q.insertCollection kind column contents
  | .deletingColumns columns => .ok (q.deletingColumns columns)
  | .bindValue value clause => .ok (q.bindValue value clause)

inductive Applied (q : Query) : Call → Query → Prop
  | onTable (table : String) : Applied q (.onTable table) (q.onTable table)
  | selecting (columns : List String) : Applied q (.selecting columns) (q.selecting columns)
  | restrict {column operator : String} {value : Value} {op : Operator}
      (read : Operator.ofString? operator = .ok op) :
      Applied q (.restrict column operator value) (q.addPredicate ⟨column, op, .single value⟩)
  | restrictEqual (column : String) (value : Value) :
      Applied q (.restrictEqual column value) (q.addPredicate ⟨column, .equal, .single value⟩)
  | restrictIn {column : String} {values : List Value} (present : values ≠ []) :
      Applied q (.restrictIn column values) (q.addPredicate ⟨column, .isIn, .many values⟩)
  | limiting (n : UInt32) : Applied q (.limiting n) (q.limiting n)
  | distinctRows : Applied q .distinctRows q.distinctRows
  | allowingFiltering : Applied q .allowingFiltering q.allowingFiltering
  | replaceCollection {name column : String} {contents : Collection.Contents}
      {kind : Collection.Kind} (read : Collection.Kind.ofString? name = .ok kind) :
      Applied q (.replaceCollection name column contents)
        { q with updates := q.updates ++ [⟨kind, column, contents, none⟩] }
  | adjustCollection {name column sign : String} {contents : Collection.Contents}
      {kind : Collection.Kind} {delta : Delta} (read : Collection.Kind.ofString? name = .ok kind)
      (signed : Delta.ofString? sign = .ok delta) :
      Applied q (.adjustCollection name column sign contents)
        { q with updates := q.updates ++ [⟨kind, column, contents, some delta⟩] }
  | insertCollection {name column : String} {contents : Collection.Contents}
      {kind : Collection.Kind} (read : Collection.Kind.ofString? name = .ok kind) :
      Applied q (.insertCollection name column contents)
        { q with inserts := q.inserts ++ [⟨kind, column, contents, none⟩] }
  | deletingColumns (columns : List String) :
      Applied q (.deletingColumns columns) (q.deletingColumns columns)
  | bindValue (value : Value) (clause : Clause) :
      Applied q (.bindValue value clause) (q.bindValue value clause)

theorem applied_of_apply {q r : Query} {call : Call} (accepted : q.apply call = .ok r) :
    Applied q call r := by
  cases call with
  | restrict column operator value =>
      obtain ⟨op, read, result⟩ := bind_eq_ok.mp accepted
      cases result
      exact .restrict read
  | restrictIn column values =>
      cases values with
      | nil => cases accepted
      | cons value later =>
          cases accepted
          exact .restrictIn (List.cons_ne_nil value later)
  | replaceCollection kind column contents =>
      obtain ⟨kind, read, result⟩ := bind_eq_ok.mp accepted
      cases result
      exact .replaceCollection read
  | adjustCollection kind column delta contents =>
      obtain ⟨kind, read, rest⟩ := bind_eq_ok.mp accepted
      obtain ⟨delta, signed, result⟩ := bind_eq_ok.mp rest
      cases result
      exact .adjustCollection read signed
  | insertCollection kind column contents =>
      obtain ⟨kind, read, result⟩ := bind_eq_ok.mp accepted
      cases result
      exact .insertCollection read
  | _ =>
      cases accepted
      constructor

def step (q : Query) (call : Call) : Query :=
  match q.apply call with
  | .ok next => next
  | .error _ => q

def run (q : Query) (calls : List Call) : Query :=
  calls.foldl step q

def Reachable (q : Query) : Prop :=
  ∃ calls, q = run {} calls

@[simp] theorem run_nil (q : Query) : q.run [] = q := rfl

@[simp] theorem run_cons (q : Query) (call : Call) (calls : List Call) :
    q.run (call :: calls) = (q.step call).run calls := rfl

theorem run_append (q : Query) (calls later : List Call) :
    q.run (calls ++ later) = (q.run calls).run later :=
  List.foldl_append

end WideColumn.Query
