import WideColumn.Proofs.Rendering
import WideColumn.Query.Call

/-! Calls on different parts of a query do not disturb one another, and a statement depends only on
what is left of the calls on the parts it reads. -/

namespace WideColumn

namespace Query

inductive Part where
  | table
  | columns
  | predicates
  | limit
  | distinct
  | filtering
  | updates
  | inserts
  | deletion
  deriving DecidableEq

def Call.part : Call → Part
  | .onTable _ => .table
  | .selecting _ => .columns
  | .restrict _ _ _ | .restrictEqual _ _ | .restrictIn _ _ | .bindValue _ _ => .predicates
  | .limiting _ => .limit
  | .distinctRows => .distinct
  | .allowingFiltering => .filtering
  | .replaceCollection _ _ _ | .adjustCollection _ _ _ _ => .updates
  | .insertCollection _ _ _ => .inserts
  | .deletingColumns _ => .deletion

/-- What a later call on a part makes of the earlier ones. -/
inductive Rule where
  /-- It takes their place. -/
  | last
  /-- It says once more what the first has said. -/
  | flag
  /-- It adds to them. -/
  | every
  deriving DecidableEq

inductive Content where
  | name (name : Option String)
  | names (names : Option (List String))
  | predicates (predicates : List Predicate) (selectBindings whereBindings : List Value)
  | limit (limit : Option RowLimit)
  | flag (up : Bool)
  | writes (writes : List CollectionWrite)

namespace Part

def rule : Part → Rule
  | table | columns | limit | deletion => .last
  | distinct | filtering => .flag
  | predicates | updates | inserts => .every

/-- What is left in a part of a run of calls. -/
def remains (part : Part) (calls : List Call) : List Call :=
  let own := calls.filter (·.part = part)
  match part.rule with
  | .last => own.getLast?.toList
  | .flag => own.take 1
  | .every => own

def content (q : Query) : Part → Content
  | table => .name q.table
  | columns => .names q.columns
  | predicates => .predicates q.predicates q.selectBindings q.whereBindings
  | limit => .limit q.limit
  | distinct => .flag q.distinct
  | filtering => .flag q.allowFiltering
  | updates => .writes q.updates
  | inserts => .writes q.inserts
  | deletion => .names q.deleteColumns

end Part

variable {q r : Query} {call next : Call} {part : Part}

theorem ext_content (same : ∀ part, Part.content q part = part.content r) : q = r := by
  have table := same .table
  have columns := same .columns
  have predicates := same .predicates
  have limit := same .limit
  have distinct := same .distinct
  have filtering := same .filtering
  have updates := same .updates
  have inserts := same .inserts
  have deletion := same .deletion
  cases q
  cases r
  simp_all [Part.content]

theorem content_step_of_ne (apart : call.part ≠ part) :
    part.content (q.step call) = part.content q := by
  cases applied : q.apply call with
  | error error => simp [step, applied]
  | ok next =>
      have stepped : q.step call = next := by simp [step, applied]
      rw [stepped]
      cases applied_of_apply applied with
      | bindValue value clause =>
          cases clause <;> cases part <;> first | exact absurd rfl apart | rfl
      | _ => cases part <;> first | exact absurd rfl apart | rfl

theorem step_of_ok (accepted : q.apply call = .ok r) : q.step call = r := by
  rw [step, accepted]

theorem step_of_error {error : QueryError} (refused : q.apply call = .error error) :
    q.step call = q := by
  rw [step, refused]

theorem exists_apply {next : Query} (applied : Applied q call next) (r : Query) :
    ∃ other, r.apply call = .ok other ∧
      (call.part.content q = call.part.content r →
        call.part.content next = call.part.content other) := by
  cases applied with
  | restrict read =>
      refine ⟨_, bind_eq_ok.mpr ⟨_, read, rfl⟩, fun same => ?_⟩
      simp_all [Call.part, Part.content, addPredicate]
  | restrictIn present =>
      refine ⟨_, by rw [apply, restrictIn, if_neg (by simpa using present)], fun same => ?_⟩
      simp_all [Call.part, Part.content, addPredicate]
  | replaceCollection read =>
      refine ⟨_, bind_eq_ok.mpr ⟨_, read, rfl⟩, fun same => ?_⟩
      simp_all [Call.part, Part.content]
  | adjustCollection read signed =>
      refine ⟨_, bind_eq_ok.mpr ⟨_, read, bind_eq_ok.mpr ⟨_, signed, rfl⟩⟩, fun same => ?_⟩
      simp_all [Call.part, Part.content]
  | insertCollection read =>
      refine ⟨_, bind_eq_ok.mpr ⟨_, read, rfl⟩, fun same => ?_⟩
      simp_all [Call.part, Part.content]
  | bindValue value clause =>
      refine ⟨_, rfl, fun same => ?_⟩
      cases clause <;> simp_all [Call.part, Part.content, bindValue]
  | restrictEqual column value =>
      refine ⟨_, rfl, fun same => ?_⟩
      simp_all [Call.part, Part.content, restrictEqual, addPredicate]
  | _ => exact ⟨_, rfl, fun _ => rfl⟩

theorem content_step_congr (same : part.content q = part.content r) :
    part.content (q.step call) = part.content (r.step call) := by
  by_cases own : call.part = part
  · subst own
    cases first : q.apply call with
    | ok next =>
        obtain ⟨other, second, kept⟩ := exists_apply (applied_of_apply first) r
        rw [step_of_ok first, step_of_ok second]
        exact kept same
    | error error =>
        cases second : r.apply call with
        | ok other =>
            obtain ⟨next, accepted, -⟩ := exists_apply (applied_of_apply second) q
            rw [first] at accepted
            cases accepted
        | error other =>
            rw [step_of_error first, step_of_error second]
            exact same
  · rw [content_step_of_ne own, content_step_of_ne own, same]

theorem content_step_of_overwriting (overwrites : call.part.rule ≠ .every) (q r : Query) :
    call.part.content (q.step call) = call.part.content (r.step call) := by
  cases call with
  | onTable | selecting | limiting | distinctRows | allowingFiltering | deletingColumns => rfl
  | _ => exact absurd rfl overwrites

theorem content_run_congr (same : part.content q = part.content r) (calls : List Call) :
    part.content (q.run calls) = part.content (r.run calls) := by
  induction calls generalizing q r with
  | nil => exact same
  | cons call calls ih => exact ih (content_step_congr same)

theorem content_run_filter (q : Query) (part : Part) (calls : List Call) :
    part.content (q.run calls) = part.content (q.run (calls.filter (·.part = part))) := by
  induction calls generalizing q with
  | nil => rfl
  | cons call calls ih =>
      by_cases own : call.part = part
      · rw [List.filter_cons_of_pos (by simpa using own), run_cons, run_cons]
        exact ih (q.step call)
      · rw [List.filter_cons_of_neg (by simpa using own), run_cons, ← ih q]
        exact content_run_congr (content_step_of_ne own) calls

theorem content_run_concat (overwrites : part.rule ≠ .every) (own : call.part = part) (q : Query)
    (calls : List Call) :
    part.content (q.run (calls ++ [call])) = part.content (q.step call) := by
  subst own
  rw [run_append]
  exact content_step_of_overwriting overwrites (q.run calls) q

theorem content_step_flag (flag : part.rule = .flag) (own : call.part = part) (q : Query) :
    part.content (q.step call) = .flag true := by
  subst own
  cases call with
  | distinctRows | allowingFiltering => rfl
  | _ => cases flag

/-- What is left of a run of calls makes the same of a part as the whole run. -/
theorem content_run_remains (q : Query) (part : Part) (calls : List Call) :
    part.content (q.run calls) = part.content (q.run (part.remains calls)) := by
  rw [content_run_filter, Part.remains]
  have own : ∀ call ∈ calls.filter (·.part = part), call.part = part := by simp
  generalize calls.filter (·.part = part) = left at own
  cases rule : part.rule with
  | every => rfl
  | last =>
      rcases List.eq_nil_or_concat' left with rfl | ⟨earlier, call, rfl⟩
      · rfl
      · rw [List.getLast?_concat, content_run_concat (by simp [rule]) (own call (by simp))]
        rfl
  | flag =>
      rcases List.eq_nil_or_concat' left with rfl | ⟨earlier, call, rfl⟩
      · rfl
      · obtain ⟨first, later, opened⟩ : ∃ first later, earlier ++ [call] = first :: later :=
          List.exists_cons_of_ne_nil (by simp)
        rw [content_run_concat (by simp [rule]) (own call (by simp)),
          content_step_flag rule (own call (by simp)), opened]
        exact (content_step_flag rule (own first (by simp [opened])) q).symm

theorem step_comm (apart : call.part ≠ next.part) :
    (q.step call).step next = (q.step next).step call := by
  apply ext_content
  intro part
  by_cases own : call.part = part
  · subst own
    rw [content_step_of_ne (Ne.symm apart)]
    exact content_step_congr (content_step_of_ne (Ne.symm apart)).symm
  · rw [content_step_of_ne own (q := q.step next)]
    exact content_step_congr (content_step_of_ne own)

theorem run_replaced (own : call.part = next.part) (replaced : call.part.rule = .last)
    (between after : List Call) :
    (q.step call).run (between ++ next :: after) = q.run (between ++ next :: after) := by
  rw [run_append, run_append, run_cons, run_cons]
  congr 1
  apply ext_content
  intro part
  by_cases same : call.part = part
  · subst same
    rw [own]
    exact content_step_of_overwriting (by simp [← own, replaced]) _ _
  · exact content_step_congr (content_run_congr (content_step_of_ne same) between)

def accepted (q : Query) : List Call → List Call
  | [] => []
  | call :: later =>
      match q.apply call with
      | .ok next => call :: next.accepted later
      | .error _ => q.accepted later

theorem run_accepted (q : Query) (calls : List Call) : q.run (q.accepted calls) = q.run calls := by
  induction calls generalizing q with
  | nil => rfl
  | cons call calls ih =>
      rw [accepted, run_cons]
      cases applied : q.apply call with
      | ok next => rw [run_cons, step_of_ok applied, ih]
      | error error => rw [step_of_error applied, ih]

inductive Form where
  | select
  | insert (row : Row)
  | update (row : Row)
  | delete
  | index (columns : List String)

namespace Form

def of (q : Query) : Form → Statement
  | select => .select q
  | insert row => .insert q row
  | update row => .update q row
  | delete => .delete q
  | index columns => .index q columns

def reads : Form → List Part
  | select => [.table, .columns, .predicates, .limit, .distinct, .filtering]
  | insert _ => [.table, .inserts]
  | update _ => [.table, .updates, .predicates]
  | delete => [.table, .deletion, .predicates]
  | index _ => [.table]

end Form

theorem render_congr {form : Form} (same : ∀ part ∈ form.reads, part.content q = part.content r) :
    (form.of q).render = (form.of r).render := by
  -- Field by field: equal contents make one variable of two, and no other field is looked at.
  obtain ⟨_, _, _, _, _, _, _, _, _, _, _⟩ := q
  obtain ⟨_, _, _, _, _, _, _, _, _, _, _⟩ := r
  cases form with
  | select =>
      obtain rfl := Content.name.inj (same .table (by simp [Form.reads]))
      obtain rfl := Content.names.inj (same .columns (by simp [Form.reads]))
      obtain ⟨rfl, rfl, rfl⟩ := Content.predicates.inj (same .predicates (by simp [Form.reads]))
      obtain rfl := Content.limit.inj (same .limit (by simp [Form.reads]))
      obtain rfl := Content.flag.inj (same .distinct (by simp [Form.reads]))
      obtain rfl := Content.flag.inj (same .filtering (by simp [Form.reads]))
      simp only [Form.of, Statement.render, Statement.write, Statement.params, writeSelect,
        tableName, whereClause, projection, limitClause, placeholders, boundCount]
  | insert row =>
      obtain rfl := Content.name.inj (same .table (by simp [Form.reads]))
      obtain rfl := Content.writes.inj (same .inserts (by simp [Form.reads]))
      simp only [Form.of, Statement.render, Statement.write, Statement.params, writeInsert,
        tableName]
  | update row =>
      obtain rfl := Content.name.inj (same .table (by simp [Form.reads]))
      obtain rfl := Content.writes.inj (same .updates (by simp [Form.reads]))
      obtain ⟨rfl, rfl, rfl⟩ := Content.predicates.inj (same .predicates (by simp [Form.reads]))
      simp only [Form.of, Statement.render, Statement.write, Statement.params, writeUpdate,
        tableName, whereClause, assignments, placeholders, boundCount]
  | delete =>
      obtain rfl := Content.name.inj (same .table (by simp [Form.reads]))
      obtain rfl := Content.names.inj (same .deletion (by simp [Form.reads]))
      obtain ⟨rfl, rfl, rfl⟩ := Content.predicates.inj (same .predicates (by simp [Form.reads]))
      simp only [Form.of, Statement.render, Statement.write, Statement.params, writeDelete,
        tableName, whereClause, deleteProjection, placeholders, boundCount]
  | index columns =>
      obtain rfl := Content.name.inj (same .table (by simp [Form.reads]))
      simp only [Form.of, Statement.render, Statement.write, Statement.params, writeIndex,
        tableName]

/-- A run of calls goes into a statement only by what is left of it in the parts that the statement
reads.  Calls on different parts commute; a call that a later one replaces leaves no trace, and
neither does one that is refused. -/
theorem render_run (form : Form) :
    (∀ calls others,
      (∀ part ∈ form.reads,
        part.remains (accepted {} calls) = part.remains (accepted {} others)) →
      (form.of (run {} calls)).render = (form.of (run {} others)).render) ∧
    (∀ before call next after, call.part ≠ next.part →
      (form.of (run {} (before ++ call :: next :: after))).render =
        (form.of (run {} (before ++ next :: call :: after))).render) ∧
    (∀ before call between next after, call.part = next.part → call.part.rule = .last →
      (form.of (run {} (before ++ call :: (between ++ next :: after)))).render =
        (form.of (run {} (before ++ (between ++ next :: after)))).render) ∧
    ∀ before call after error, (run {} before).apply call = .error error →
      (form.of (run {} (before ++ call :: after))).render =
        (form.of (run {} (before ++ after))).render := by
  refine ⟨?_, ?_, ?_, ?_⟩
  · intro calls others same
    apply render_congr
    intro part read
    rw [← run_accepted {} calls, ← run_accepted {} others, content_run_remains, same part read,
      ← content_run_remains]
  · intro before call next after apart
    rw [run_append, run_append, run_cons, run_cons, run_cons, run_cons, step_comm apart]
  · intro before call between next after own rule
    rw [run_append, run_append, run_cons, run_replaced own rule]
  · intro before call after error refused
    rw [run_append, run_append, run_cons, step_of_error refused]

theorem render_run_rearranged :
    let where? : Call := .restrictEqual "a" (.text "'")
    let other : Call := .restrictIn "b" [.boolean true, .boolean false]
    let collection : Call := .insertCollection "set" "c" (.items [])
    let calls := [.onTable "u", where?, .distinctRows, collection, other, .onTable "t", .distinctRows]
    let others := [.onTable "t", .distinctRows, where?, .restrict "a" "~" (.text ""), other]
    let row := Row.ofList [("x", .boolean true)]
    (Statement.select (run {} calls)).render = (Statement.select (run {} others)).render ∧
      (Statement.update (run {} [.onTable "t", where?, collection, other]) row).render =
        (Statement.update (run {} [.onTable "t", collection, where?, other]) row).render ∧
      (Statement.delete (run {} [.onTable "u", where?, .onTable "t", other])).render =
        (Statement.delete (run {} [where?, .onTable "t", other])).render ∧
      (Statement.insert (run {} [.onTable "t", .restrict "a" "~" (.text ""), collection]) row).render =
        (Statement.insert (run {} [.onTable "t", collection]) row).render := by
  intro where? other collection calls others row
  refine ⟨?_, ?_, ?_, ?_⟩
  · exact (render_run .select).1 calls others (by decide)
  · exact (render_run (.update row)).2.1 [.onTable "t"] where? collection [other] (by decide)
  · exact (render_run .delete).2.2.1 [] (.onTable "u") [where?] (.onTable "t") [other] rfl rfl
  · exact (render_run (.insert row)).2.2.2 [.onTable "t"] (.restrict "a" "~" (.text "")) [collection]
      (.unknownOperator "~") rfl

end Query

end WideColumn
