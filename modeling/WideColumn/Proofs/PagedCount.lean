import Mathlib.Algebra.Ring.Nat
import WideColumn.Session

namespace WideColumn

namespace Cursor

variable {c : Cursor} {cancellation : Cancellation} {fetches total : Nat}

theorem countOn_last (last : c.later = []) :
    c.countOn cancellation fetches total = ⟨.ok total, fetches⟩ := by
  rw [countOn, if_pos (isLast_iff.mpr last)]

theorem countOn_cancelled (further : c.later ≠ []) (wished : cancellation.after fetches = true) :
    c.countOn cancellation fetches total = ⟨.error (.cancelled (fetches + 1)), fetches⟩ := by
  rw [countOn, if_neg (mt isLast_iff.mp further), if_pos wished]

theorem countOn_failed (further : c.later ≠ []) (unwished : cancellation.after fetches = false)
    {error : ExecutionError} (failed : c.fetchFailure? = some error) :
    c.countOn cancellation fetches total = ⟨.error (.execution error), fetches + 1⟩ := by
  rw [countOn, if_neg (mt isLast_iff.mp further), if_neg (by simp [unwished])]
  split
  · rename_i other fetched
    rw [next_eq_error, failed] at fetched
    cases fetched
    rfl
  · rename_i page fetched
    rw [next_eq_ok, failed] at fetched
    cases fetched.1

theorem countOn_following (further : c.later ≠ [])
    (unwished : cancellation.after fetches = false) (sound : c.fetchFailure? = none) :
    c.countOn cancellation fetches total =
      c.following.countOn cancellation (fetches + 1) (total + c.following.rows) := by
  rw [countOn, if_neg (mt isLast_iff.mp further), if_neg (by simp [unwished])]
  split
  · rename_i error fetched
    rw [next_eq_error, sound] at fetched
    cases fetched
  · rename_i page fetched
    rw [(next_eq_ok.mp fetched).2]

def ahead (c : Cursor) : Nat → Cursor
  | 0 => c
  | n + 1 => c.following.ahead n

theorem index_ahead (c : Cursor) (n : Nat) : (c.ahead n).index = c.index + n := by
  induction n generalizing c with
  | zero => rfl
  | succ n ih =>
      rw [ahead, ih, index_following]
      omega

theorem later_ahead (c : Cursor) (n : Nat) : (c.ahead n).later = c.later.drop n := by
  induction n generalizing c with
  | zero => rfl
  | succ n ih => rw [ahead, ih, later_following, List.drop_tail]

theorem failure_ahead (c : Cursor) (n : Nat) : (c.ahead n).failure = c.failure := by
  induction n generalizing c with
  | zero => rfl
  | succ n ih => rw [ahead, ih, failure_following]

theorem fetchFailure?_eq_none (apart : ∀ failure, c.failure = some failure →
    failure.page ≠ c.index + 1) : c.fetchFailure? = none := by
  unfold fetchFailure?
  split
  · rename_i failure given
    rw [if_neg (apart failure given)]
  · rfl

/-- Where nothing stops it, a count goes on to the page `n` fetches ahead, with all rows up to
there. -/
theorem countOn_ahead {n : Nat} (within : n ≤ c.later.length)
    (unwished : ∀ i < n, cancellation.after (fetches + i) = false)
    (sound : ∀ i < n, (c.ahead i).fetchFailure? = none) :
    c.countOn cancellation fetches total =
      (c.ahead n).countOn cancellation (fetches + n) (total + (c.later.take n).sum) := by
  induction n generalizing c fetches total with
  | zero => simp [ahead]
  | succ n ih =>
      cases pages : c.later with
      | nil => simp [pages] at within
      | cons rows later =>
          have further : c.later ≠ [] := by simp [pages]
          have next : c.following.later = later := by simp [pages]
          have row : c.following.rows = rows := by simp [following, pages]
          have now : cancellation.after fetches = false := unwished 0 (by omega)
          -- One fetch, and then `n` more from the page it leads to.
          rw [countOn_following further now (sound 0 (by omega)), ih]
          · rw [ahead, next, row, List.take_succ_cons, List.sum_cons, Nat.add_assoc, Nat.add_assoc,
              Nat.add_comm 1 n]
          · rw [pages, List.length_cons] at within
            rw [next]
            omega
          · intro i before
            rw [Nat.add_assoc, Nat.add_comm 1 i]
            exact unwished (i + 1) (by omega)
          · intro i before
            exact sound (i + 1) (by omega)

end Cursor

/-! The three ends of a count of the pages of a result. -/

/-- The index of the last of these pages. -/
def lastPage (sizes : List Nat) : Nat :=
  max sizes.length 1 - 1

/-- Page `page` cannot be fetched, and no wish to stop comes in an earlier fetch. -/
structure FailsAt (failing : Option Nat) (cancellation : Cancellation) (last page : Nat) :
    Prop where
  failing : failing = some page
  positive : 1 ≤ page
  within : page ≤ last
  unwished : ∀ fetch, 1 ≤ fetch → cancellation = .during fetch → page ≤ fetch

/-- The wish to stop comes in that fetch, and it is not the fetch of the last page. -/
structure StopsAt (cancellation : Cancellation) (last fetch : Nat) : Prop where
  during : cancellation = .during fetch
  positive : 1 ≤ fetch
  within : fetch < last

namespace Cursor

variable {sizes : List Nat} {failure : Option PageFailure} {cancellation : Cancellation}

theorem length_later_first : (first sizes failure).later.length = lastPage sizes := by
  cases sizes with
  | nil => rfl
  | cons rows later => simp [first, lastPage]

theorem rows_first_add_sum_later :
    (first sizes failure).rows + (first sizes failure).later.sum = sizes.sum := by
  cases sizes with
  | nil => rfl
  | cons rows later => simp [first]

/-- Where the rows of all pages can be counted in 64 bits, no total on the way is too large. -/
theorem total_lt (fits : sizes.sum < 2 ^ 64) (n : Nat) :
    (first sizes failure).rows + ((first sizes failure).later.take n).sum < 2 ^ 64 := by
  have parts : ((first sizes failure).later.take n).sum +
      ((first sizes failure).later.drop n).sum = (first sizes failure).later.sum := by
    rw [← List.sum_append, List.take_append_drop]
  have whole : (first sizes failure).rows + (first sizes failure).later.sum = sizes.sum :=
    rows_first_add_sum_later
  omega

theorem count_first_ahead {n : Nat} (within : n ≤ lastPage sizes)
    (unwished : ∀ i < n, cancellation.after i = false)
    (sound : ∀ bad, failure = some bad → 1 ≤ bad.page → n < bad.page) :
    (first sizes failure).count cancellation =
      ((first sizes failure).ahead n).countOn cancellation n
        ((first sizes failure).rows + ((first sizes failure).later.take n).sum) := by
  unfold count
  rw [countOn_ahead (n := n), Nat.zero_add]
  · rw [length_later_first]
    exact within
  · intro i before
    rw [Nat.zero_add]
    exact unwished i before
  · intro i before
    apply fetchFailure?_eq_none
    intro bad given here
    rw [failure_ahead] at given
    rw [index_ahead] at here
    have index : (first sizes failure).index = 0 := rfl
    have := sound bad given (by omega)
    omega

end Cursor

theorem Cancellation.after_eq_false {cancellation : Cancellation} {n i : Nat}
    (uncalled : cancellation ≠ .before)
    (unwished : ∀ fetch, 1 ≤ fetch → cancellation = .during fetch → n ≤ fetch) (before : i < n) :
    cancellation.after i = false := by
  cases cancellation with
  | never => rfl
  | before => exact absurd rfl uncalled
  | during fetch =>
      rw [← Bool.not_eq_true, after_during]
      intro wished
      obtain ⟨positive, reached⟩ := wished
      have := unwished fetch positive rfl
      omega

namespace Cursor

variable {sizes : List Nat} {cancellation : Cancellation} {failing : Option Nat}
variable {detail : Nat → String}

theorem count_first_failed {page : Nat} (uncalled : cancellation ≠ .before)
    (fails : FailsAt failing cancellation (lastPage sizes) page) :
    (first sizes (failing.map fun page => ⟨page, detail page⟩)).count cancellation =
      ⟨.error (.execution { detail := detail page }), page⟩ := by
  obtain ⟨rfl, positive, within, unwished⟩ := fails
  obtain ⟨n, rfl⟩ : ∃ n, page = n + 1 := ⟨page - 1, by omega⟩
  have quiet (i : Nat) (before : i < n + 1) : cancellation.after i = false :=
    Cancellation.after_eq_false uncalled unwished before
  rw [count_first_ahead (n := n) (by omega) (fun i before => quiet i (by omega))]
  · apply countOn_failed
    · rw [← List.length_pos_iff, later_ahead, List.length_drop, length_later_first]
      omega
    · exact quiet n (by omega)
    · simp [fetchFailure?, failure_ahead, index_ahead, first]
  · intro bad given _
    cases given
    exact Nat.lt_succ_self n

theorem count_first_cancelled {fetch : Nat}
    (sound : ∀ page, ¬FailsAt failing cancellation (lastPage sizes) page)
    (stops : StopsAt cancellation (lastPage sizes) fetch) :
    (first sizes (failing.map fun page => ⟨page, detail page⟩)).count cancellation =
      ⟨.error (.cancelled (fetch + 1)), fetch⟩ := by
  obtain ⟨rfl, positive, within⟩ := stops
  rw [count_first_ahead (n := fetch) (by omega)]
  · rw [countOn_cancelled]
    · rw [← List.length_pos_iff, later_ahead, List.length_drop, length_later_first]
      omega
    · exact Cancellation.after_during.mpr ⟨positive, Nat.le_refl fetch⟩
  · intro i before
    apply Cancellation.after_eq_false (n := fetch) _ _ before
    · simp
    · intro other _ same
      cases same
      exact Nat.le_refl fetch
  · intro bad given numbered
    obtain ⟨page, failing, rfl⟩ := Option.map_eq_some_iff.mp given
    apply Nat.lt_of_not_le
    intro early
    change page ≤ fetch at early
    apply sound page ⟨failing, numbered, _, _⟩
    · omega
    · intro other _ same
      cases same
      omega

theorem count_first_complete (uncalled : cancellation ≠ .before)
    (sound : ∀ page, ¬FailsAt failing cancellation (lastPage sizes) page)
    (unstopped : ∀ fetch, ¬StopsAt cancellation (lastPage sizes) fetch) :
    (first sizes (failing.map fun page => ⟨page, detail page⟩)).count cancellation =
      ⟨.ok sizes.sum, lastPage sizes⟩ := by
  have late (fetch : Nat) (positive : 1 ≤ fetch) (during : cancellation = .during fetch) :
      lastPage sizes ≤ fetch := by
    apply Nat.le_of_not_lt
    intro early
    exact unstopped fetch ⟨during, positive, early⟩
  rw [count_first_ahead (n := lastPage sizes) (Nat.le_refl _)]
  · rw [countOn_last]
    · rw [← length_later_first, List.take_length, rows_first_add_sum_later]
    · rw [later_ahead, ← length_later_first, List.drop_length]
  · intro i before
    exact Cancellation.after_eq_false uncalled late before
  · intro bad given numbered
    obtain ⟨page, failing, rfl⟩ := Option.map_eq_some_iff.mp given
    apply Nat.lt_of_not_le
    intro early
    change page ≤ lastPage sizes at early
    apply sound page ⟨failing, numbered, _, _⟩
    · exact early
    · intro fetch positive during
      have := late fetch positive during
      omega

end Cursor

def Store.asked (store : Store) (execution : Execution) (fetches : Nat) : Store :=
  { store with log := store.log ++ [execution], fetches := store.fetches + fetches }

namespace Store

variable {store : Store} {cancellation : Cancellation} {statement : Rendered} {options : Options}

theorem count_before :
    store.count .before statement options = ⟨.error (.cancelled 0), store⟩ := by
  rw [count, if_pos (Cancellation.after_before 0)]

theorem count_rejected {detail : String} (uncalled : cancellation ≠ .before)
    (rejected : store.script.executionFailure = some detail) :
    store.count cancellation statement options =
      ⟨.error (.execution { detail }), store.asked ⟨statement, options⟩ 0⟩ := by
  have unwished : cancellation.after 0 = false :=
    Cancellation.after_eq_false (n := 1) uncalled (fun _ positive _ => positive) Nat.one_pos
  simp [count, unwished, execute, Script.respond, rejected, asked]

theorem count_answered (uncalled : cancellation ≠ .before)
    (accepted : store.script.executionFailure = none) {result : Except SessionError Nat}
    {fetches : Nat}
    (counted : (Cursor.first (store.script.answer.sizes options.pageSize)
      (store.script.failingPage.map fun page =>
        ⟨page, "failed to fetch page " ++ page.repr⟩)).count cancellation = ⟨result, fetches⟩) :
    store.count cancellation statement options =
      ⟨result, store.asked ⟨statement, options⟩ fetches⟩ := by
  have unwished : cancellation.after 0 = false :=
    Cancellation.after_eq_false (n := 1) uncalled (fun _ positive _ => positive) Nat.one_pos
  simp [count, unwished, execute, Script.respond, accepted, counted, asked]

end Store

namespace Session

/-- What a count comes to, and what it leaves of the store: a query that cannot be rendered is
never run, and neither is one that is called off before; then the store may reject it; then the
first of a failing page, a wish to stop and the last page decides. -/
theorem count_outcome (s : Session) (q : Query) (store : Store) (cancellation : Cancellation) :
    (∀ error, (Statement.select q).render = .error error →
      s.count cancellation q store = ⟨.error (.query error), store⟩) ∧
    ∀ rendered, (Statement.select q).render = .ok rendered →
      let sizes := store.script.answer.sizes s.options.pageSize
      let asked := store.asked ⟨rendered, s.options⟩
      let Fails := FailsAt store.script.failingPage cancellation (lastPage sizes)
      let Stops := StopsAt cancellation (lastPage sizes)
      (cancellation = .before →
        s.count cancellation q store = ⟨.error (.cancelled 0), store⟩) ∧
      (cancellation ≠ .before →
        (∀ detail, store.script.executionFailure = some detail →
          s.count cancellation q store = ⟨.error (.execution { detail }), asked 0⟩) ∧
        (store.script.executionFailure = none →
          (∀ page, Fails page →
            s.count cancellation q store =
              ⟨.error (.execution { detail := "failed to fetch page " ++ page.repr }),
                asked page⟩) ∧
          ((∀ page, ¬Fails page) →
            (∀ fetch, Stops fetch →
              s.count cancellation q store =
                ⟨.error (.cancelled (fetch + 1)), asked fetch⟩) ∧
            ((∀ fetch, ¬Stops fetch) →
              s.count cancellation q store = ⟨.ok sizes.sum, asked (lastPage sizes)⟩)))) := by
  constructor
  · intro error failed
    rw [count, failed]
  · intro rendered written sizes asked Fails Stops
    have run : s.count cancellation q store = store.count cancellation rendered s.options := by
      rw [count, written]
    rw [run]
    refine ⟨?_, fun uncalled => ⟨?_, fun accepted => ⟨?_, fun sound => ⟨?_, ?_⟩⟩⟩⟩
    · intro called
      rw [called, Store.count_before]
    · intro detail rejected
      exact Store.count_rejected uncalled rejected
    · intro page fails
      exact Store.count_answered uncalled accepted (Cursor.count_first_failed uncalled fails)
    · intro fetch stops
      exact Store.count_answered uncalled accepted (Cursor.count_first_cancelled sound stops)
    · intro unstopped
      exact Store.count_answered uncalled accepted
        (Cursor.count_first_complete uncalled sound unstopped)

theorem count_outcome_three_pages :
    let s : Session := ⟨{ keyspace := "k" }, {}⟩
    let q : Query := { table := some "t" }
    let store (failing : Option Nat) : Store :=
      { script := { answer := .pages [2, 2, 1], failingPage := failing } }
    let asked (failing : Option Nat) := (store failing).asked ⟨⟨"select * from t", []⟩, {}⟩
    s.count (.during 2) q (store (some 2)) =
        ⟨.error (.execution { detail := "failed to fetch page 2" }), asked (some 2) 2⟩ ∧
      s.count (.during 1) q (store (some 2)) = ⟨.error (.cancelled 2), asked (some 2) 1⟩ ∧
      s.count (.during 2) q (store none) = ⟨.ok 5, asked none 2⟩ := by
  intro s q store asked
  have rendered : (Statement.select q).render = .ok ⟨"select * from t", []⟩ := by rfl
  refine ⟨?_, ?_, ?_⟩
  · obtain ⟨-, uncalled⟩ := (count_outcome s q (store (some 2)) (.during 2)).2 _ rendered
    obtain ⟨-, accepted⟩ := uncalled (by decide)
    have unwished (fetch : Nat) (_ : 1 ≤ fetch) (during : Cancellation.during 2 = .during fetch) :
        2 ≤ fetch := by
      cases during
      exact Nat.le_refl 2
    exact (accepted rfl).1 2 ⟨rfl, by decide, by decide, unwished⟩
  · obtain ⟨-, uncalled⟩ := (count_outcome s q (store (some 2)) (.during 1)).2 _ rendered
    obtain ⟨-, accepted⟩ := uncalled (by decide)
    have sound (page : Nat) : ¬FailsAt (some 2) (.during 1) (lastPage [2, 2, 1]) page := by
      intro fails
      have late := fails.unwished 1 (by decide) rfl
      have failing := fails.failing
      cases failing
      omega
    exact ((accepted rfl).2 sound).1 1 ⟨rfl, by decide, by decide⟩
  · obtain ⟨-, uncalled⟩ := (count_outcome s q (store none) (.during 2)).2 _ rendered
    obtain ⟨-, accepted⟩ := uncalled (by decide)
    have sound (page : Nat) : ¬FailsAt none (.during 2) (lastPage [2, 2, 1]) page := by
      intro fails
      cases fails.failing
    have unstopped (fetch : Nat) : ¬StopsAt (.during 2) (lastPage [2, 2, 1]) fetch := by
      intro stops
      obtain ⟨during, -, within⟩ := stops
      cases during
      exact absurd within (by decide)
    exact ((accepted rfl).2 sound).2 unstopped

end Session

end WideColumn
