import Mathlib.Algebra.Order.Floor.Div
import WideColumn.Proofs.SessionLog

namespace WideColumn

/-- The sizes of pages that hold `total` rows: all are full but the last, and that one is empty
only if there are no rows at all. -/
structure Paged (size total : Nat) (pages : List Nat) : Prop where
  sum : pages.sum = total
  full : ∀ rows ∈ pages.dropLast, rows = size
  last : ∃ rows, pages.getLast? = some rows ∧ rows ≤ size ∧ (rows = 0 ↔ total = 0)

namespace Paged

variable {size total n rows : Nat} {pages : List Nat}

theorem of_full (within : rows ≤ size) (single : rows = 0 → n = 0) :
    Paged size (n * size + rows) (List.replicate n size ++ [rows]) where
  sum := by simp
  full := by
    intro other member
    rw [List.dropLast_concat] at member
    exact List.eq_of_mem_replicate member
  last := by
    refine ⟨rows, List.getLast?_concat, within, ?_, ?_⟩
    · intro empty
      rw [single empty, empty, Nat.zero_mul]
    · intro none_at_all
      omega

theorem exists_full (paged : Paged size total pages) :
    ∃ n rows, pages = List.replicate n size ++ [rows] ∧ total = n * size + rows ∧
      rows ≤ size ∧ (rows = 0 ↔ total = 0) := by
  obtain ⟨rows, last, within, empty⟩ := paged.last
  have split : pages = List.replicate pages.dropLast.length size ++ [rows] := by
    rw [← List.eq_replicate_of_mem paged.full]
    exact (List.dropLast_append_getLast? rows last).symm
  refine ⟨pages.dropLast.length, rows, split, ?_, within, empty⟩
  rw [← paged.sum]
  conv_lhs => rw [split]
  simp

theorem ne_nil (paged : Paged size total pages) : pages ≠ [] := by
  obtain ⟨n, rows, rfl, -⟩ := paged.exists_full
  exact List.concat_ne_nil rows _

/-- There are as many pages as the rows need, and one page for no rows. -/
theorem length_eq (positive : 0 < size) (paged : Paged size total pages) :
    pages.length = max 1 (total ⌈/⌉ size) := by
  obtain ⟨n, rows, rfl, rfl, within, empty⟩ := paged.exists_full
  rw [Nat.ceilDiv_eq_add_pred_div, List.length_append, List.length_replicate, List.length_singleton]
  cases rows with
  | zero =>
      have none_at_all : n * size + 0 = 0 := empty.mp rfl
      have unfilled : n = 0 := by
        rcases Nat.mul_eq_zero.mp (by simpa using none_at_all) with gone | gone
        · exact gone
        · omega
      subst unfilled
      have partly : (0 * size + 0 + size - 1) / size = 0 := Nat.div_eq_of_lt (by omega)
      rw [partly]
      rfl
  | succ rows =>
      have further : n * size + (rows + 1) + size - 1 = rows + size * (n + 1) := by
        rw [Nat.mul_succ, Nat.mul_comm size n]
        omega
      rw [further, Nat.add_mul_div_left _ _ positive, Nat.div_eq_of_lt (by omega)]
      omega

theorem lastPage_eq (positive : 0 < size) (paged : Paged size total pages) :
    lastPage pages = max 1 (total ⌈/⌉ size) - 1 := by
  rw [lastPage, paged.length_eq positive]
  omega

end Paged

theorem Answer.paged_cut {size : Nat} (positive : 0 < size) (total : Nat) :
    Paged size total (cut size total) := by
  have parts := Nat.div_add_mod' total size
  unfold cut
  split
  · rename_i empty
    have paged : Paged size (0 * size + 0) (List.replicate 0 size ++ [0]) :=
      Paged.of_full (Nat.zero_le size) fun _ => rfl
    rw [empty]
    simpa using paged
  · rename_i present
    split
    · -- The last full page is the last page of all.
      rename_i even
      have full : total / size ≠ 0 := by
        intro none_full
        rw [none_full, even] at parts
        exact present (by simpa using parts.symm)
      obtain ⟨n, whole⟩ := Nat.exists_eq_succ_of_ne_zero full
      have paged : Paged size (n * size + size) (List.replicate n size ++ [size]) :=
        Paged.of_full (Nat.le_refl size) (by omega)
      rw [even, whole, Nat.add_zero, Nat.succ_mul] at parts
      rw [parts] at paged
      rw [whole, List.append_nil, List.replicate_succ']
      exact paged
    · rename_i uneven
      have within : total % size ≤ size := Nat.le_of_lt (Nat.mod_lt total positive)
      have paged : Paged size (total / size * size + total % size)
          (List.replicate (total / size) size ++ [total % size]) :=
        Paged.of_full within (by omega)
      rw [parts] at paged
      exact paged

def Cursor.pages (c : Cursor) : List Nat :=
  c.rows :: c.later

theorem Cursor.pages_first {sizes : List Nat} (present : sizes ≠ []) (failure : Option PageFailure) :
    (first sizes failure).pages = sizes := by
  cases sizes with
  | nil => exact absurd rfl present
  | cons rows later => rfl

theorem Store.execute_answered {store : Store} (accepting : store.script.executionFailure = none)
    (statement : Rendered) (options : Options) :
    ∃ failure, (store.execute statement options).result =
      .ok (Cursor.first (store.script.answer.sizes options.pageSize) failure) := by
  rw [execute, Script.respond, accepting]
  exact ⟨_, rfl⟩

theorem Settings.pageSize_pos {settings : Settings} (usable : settings.fault? = none) :
    0 < settings.pageSize.toNat := by
  rw [Nat.pos_iff_ne_zero]
  intro zero
  have zero : settings.pageSize = 0 := UInt32.toNat_inj.mp zero
  unfold fault? at usable
  rw [if_pos zero] at usable
  split_ifs at usable

namespace Session

theorem valid_of_connect {settings : Settings} {store opened : Store} {s : Session}
    (connected : connect settings store = ⟨.ok s, opened⟩) : settings.validate = .ok () := by
  cases checked : settings.validate with
  | ok => rfl
  | error fault =>
      rw [connect_refused checked] at connected
      cases connected

theorem count_complete {s : Session} {q : Query} {store : Store} {rendered : Rendered}
    (written : (Statement.select q).render = .ok rendered)
    (accepting : store.script.executionFailure = none) (sound : store.script.failingPage = none) :
    let sizes := store.script.answer.sizes s.options.pageSize
    s.count .never q store =
      ⟨.ok sizes.sum, store.asked ⟨rendered, s.options⟩ (lastPage sizes)⟩ := by
  intro sizes
  rw [count_rendered written]
  apply Store.count_answered Cancellation.noConfusion accepting
  apply Cursor.count_first_complete Cancellation.noConfusion
  · intro page fails
    have failing := fails.failing
    rw [sound] at failing
    cases failing
  · intro fetch stops
    cases stops.during

variable {settings : Settings} {store opened held : Store} {s : Session} {total : Nat}

theorem sizes_of_rows (connected : connect settings store = ⟨.ok s, opened⟩)
    (kept : held.script = store.script) (answered : store.script.answer = .rows total) :
    Paged settings.pageSize.toNat total (held.script.answer.sizes s.options.pageSize) := by
  have positive := Settings.pageSize_pos (validate_eq_ok.mp (valid_of_connect connected))
  have given : s.options.pageSize = settings.pageSize := by
    rw [(connected_of_connect connected).1]
    rfl
  rw [kept, answered, given, Answer.sizes, Nat.max_eq_left positive]
  exact Answer.paged_cut positive total

theorem count_of_rows (connected : connect settings store = ⟨.ok s, opened⟩)
    (kept : held.script = store.script) (answered : store.script.answer = .rows total)
    (accepting : store.script.executionFailure = none) (sound : store.script.failingPage = none)
    {q : Query} {rendered : Rendered} (written : (Statement.select q).render = .ok rendered) :
    s.count .never q held =
      ⟨.ok total, held.asked ⟨rendered, s.options⟩
        (max 1 (total ⌈/⌉ settings.pageSize.toNat) - 1)⟩ := by
  have positive := Settings.pageSize_pos (validate_eq_ok.mp (valid_of_connect connected))
  have paged := sizes_of_rows connected kept answered
  rw [count_complete written (by rw [kept, accepting]) (by rw [kept, sound]), paged.sum,
    paged.lastPage_eq positive]

/-- Rows are cut into full pages and one with the rest, which is empty only if there are no rows.
A count does not depend on where they are cut: sessions that differ in the page size count the same
rows, each with as many fetches as it has pages after the first. -/
theorem count_of_any_pageSize (connected : connect settings store = ⟨.ok s, opened⟩)
    (kept : held.script = store.script) (answered : store.script.answer = .rows total)
    (accepting : store.script.executionFailure = none) :
    let size := settings.pageSize.toNat
    1 ≤ size ∧
    (∀ statement, ∃ first, (held.execute statement s.options).result = .ok first ∧
      first.index = 0 ∧ Paged size total first.pages) ∧
    (store.script.failingPage = none → ∀ q,
      (∀ rendered, (Statement.select q).render = .ok rendered →
        s.count .never q held =
          ⟨.ok total, held.asked ⟨rendered, s.options⟩ (max 1 (total ⌈/⌉ size) - 1)⟩) ∧
      ∀ pageSize other otherOpened otherHeld,
        connect { settings with pageSize } store = ⟨.ok other, otherOpened⟩ →
        otherHeld.script = store.script →
          (other.count .never q otherHeld).result = (s.count .never q held).result) := by
  have paged := sizes_of_rows connected kept answered
  refine ⟨Settings.pageSize_pos (validate_eq_ok.mp (valid_of_connect connected)), ?_, ?_⟩
  · intro statement
    obtain ⟨failure, executed⟩ :=
      held.execute_answered (by rw [kept, accepting]) statement s.options
    refine ⟨_, executed, rfl, ?_⟩
    rw [Cursor.pages_first paged.ne_nil]
    exact paged
  · intro sound q
    refine ⟨fun rendered => count_of_rows connected kept answered accepting sound, ?_⟩
    intro pageSize other otherOpened otherHeld otherConnected otherKept
    cases written : (Statement.select q).render with
    | error error => rw [count_unrendered written, count_unrendered written]
    | ok rendered =>
        rw [count_of_rows connected kept answered accepting sound written,
          count_of_rows otherConnected otherKept answered accepting sound written]

theorem count_of_any_pageSize_seven :
    let settings : Settings := { keyspace := "k", pageSize := 3 }
    let store : Store := { script := { answer := .rows 7 } }
    let session (pageSize : UInt32) : Session :=
      ⟨{ settings with pageSize }, { pageSize }⟩
    let opened (pageSize : UInt32) : Store :=
      { store with connected := some { settings with pageSize } }
    let q : Query := { table := some "t" }
    connect settings store = ⟨.ok (session 3), opened 3⟩ ∧
      connect { settings with pageSize := 7 } store = ⟨.ok (session 7), opened 7⟩ ∧
      (session 3).count .never q (opened 3) =
        ⟨.ok 7, (opened 3).asked ⟨⟨"select * from t", []⟩, (session 3).options⟩ 2⟩ ∧
      ((session 7).count .never q (opened 7)).result = .ok 7 := by
  intro settings store session opened q
  have small : connect settings store = ⟨.ok (session 3), opened 3⟩ :=
    connect_accepted (validate_eq_ok.mpr (by decide)) rfl
  have large : connect { settings with pageSize := 7 } store = ⟨.ok (session 7), opened 7⟩ :=
    connect_accepted (validate_eq_ok.mpr (by decide)) rfl
  have kept : (opened 3).script = store.script := rfl
  obtain ⟨-, -, counts⟩ := count_of_any_pageSize small kept rfl rfl
  obtain ⟨counted, alike⟩ := counts rfl q
  have fetches : max 1 (7 ⌈/⌉ settings.pageSize.toNat) - 1 = 2 := by decide
  have counted := counted ⟨"select * from t", []⟩ rfl
  rw [fetches] at counted
  refine ⟨small, large, counted, ?_⟩
  rw [alike 7 (session 7) (opened 7) (opened 7) large rfl, counted]

end Session

end WideColumn
