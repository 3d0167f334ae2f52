import WideColumn.SessionError

namespace WideColumn

structure PageFailure where
  page : Nat
  detail : String
  deriving DecidableEq

/-- A page of a result: how many pages came before it, how many rows it has, and how many each of
the later ones has. -/
structure Cursor where
  index : Nat := 0
  rows : Nat
  later : List Nat
  failure : Option PageFailure := none
  deriving DecidableEq

namespace Cursor

/-- The first page of a result.  A result without pages has one all the same, with no rows. -/
def first (sizes : List Nat) (failure : Option PageFailure := none) : Cursor where
  rows := sizes.headD 0
  later := sizes.tail
  failure := failure

def isLast (c : Cursor) : Bool :=
  c.later.isEmpty

theorem isLast_iff {c : Cursor} : c.isLast = true ↔ c.later = [] := by
  simp [isLast]

def following (c : Cursor) : Cursor :=
  { c with index := c.index + 1, rows := c.later.headD 0, later := c.later.tail }

@[simp] theorem index_following (c : Cursor) : c.following.index = c.index + 1 := rfl

@[simp] theorem later_following (c : Cursor) : c.following.later = c.later.tail := rfl

@[simp] theorem failure_following (c : Cursor) : c.following.failure = c.failure := rfl

def fetchFailure? (c : Cursor) : Option ExecutionError :=
  match c.failure with
  | some failure => if failure.page = c.index + 1 then some { detail := failure.detail } else none
  | none => none

def next (c : Cursor) : Except ExecutionError Cursor :=
  match c.fetchFailure? with
  | some error => .error error
  | none => .ok c.following

theorem next_eq_ok {c page : Cursor} :
    c.next = .ok page ↔ c.fetchFailure? = none ∧ c.following = page := by
  cases failed : c.fetchFailure? <;> simp [next, failed]

theorem next_eq_error {c : Cursor} {error : ExecutionError} :
    c.next = .error error ↔ c.fetchFailure? = some error := by
  cases failed : c.fetchFailure? <;> simp [next, failed]

theorem length_later_of_next {c page : Cursor} (further : ¬c.isLast) (fetched : c.next = .ok page) :
    page.later.length < c.later.length := by
  have present : c.later ≠ [] := fun empty => further (isLast_iff.mpr empty)
  have := List.length_pos_iff.mpr present
  rw [← (next_eq_ok.mp fetched).2, later_following, List.length_tail]
  omega

end Cursor

inductive Cancellation where
  | never
  | before
  /-- While that fetch is under way; the first is fetch 1. -/
  | during (fetch : Nat)
  deriving DecidableEq

namespace Cancellation

def after (fetches : Nat) : Cancellation → Bool
  | never => false
  | before => true
  | during fetch => 0 < fetch && fetch ≤ fetches

@[simp] theorem after_before (fetches : Nat) : before.after fetches = true := rfl

theorem after_during {fetch fetches : Nat} :
    (during fetch).after fetches = true ↔ 0 < fetch ∧ fetch ≤ fetches := by
  simp [after]

end Cancellation

/-- How a count ended, and how many pages it fetched.  Totals are not bounded here; they stay in 64
bits where the rows of all pages do (`Cursor.total_lt`). -/
structure Count where
  result : Except SessionError Nat
  fetches : Nat

namespace Cursor

/-- Counts on from page `c`, which so many fetches led to; `total` is the number of rows on it and
before it.  Ahead of each fetch the wish to stop is looked for. -/
def countOn (cancellation : Cancellation) (fetches total : Nat) (c : Cursor) : Count :=
  if c.isLast then ⟨.ok total, fetches⟩
  else if cancellation.after fetches then ⟨.error (.cancelled (fetches + 1)), fetches⟩
  else
    match fetched : c.next with
    | .error error => ⟨.error (.execution error), fetches + 1⟩
    | .ok page => page.countOn cancellation (fetches + 1) (total + page.rows)
termination_by c.later.length
decreasing_by exact length_later_of_next ‹_› fetched

def count (cancellation : Cancellation) (c : Cursor) : Count :=
  c.countOn cancellation 0 c.rows

end Cursor

end WideColumn
