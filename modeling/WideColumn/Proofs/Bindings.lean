import WideColumn.Proofs.Refusals

/-! Bound values and predicates keep in step, whatever calls build the query. -/

namespace WideColumn

/-- A list of values stands only behind the operator for lists, and has values. -/
def Predicate.WellFormed (p : Predicate) : Prop :=
  ∀ values, p.operand = .many values → p.operator = .isIn ∧ values ≠ []

namespace Query

def asked (q : Query) : List Value :=
  q.predicates.flatMap fun p => p.operand.values

def Call.isStray : Call → Bool
  | .bindValue _ _ => true
  | _ => false

@[simp] theorem asked_addPredicate (q : Query) (p : Predicate) :
    (q.addPredicate p).asked = q.asked ++ p.operand.values := by
  simp [asked, addPredicate]

@[simp] theorem predicates_bindValue (q : Query) (value : Value) (clause : Clause) :
    (q.bindValue value clause).predicates = q.predicates := by
  cases clause <;> rfl

@[simp] theorem asked_bindValue (q : Query) (value : Value) (clause : Clause) :
    (q.bindValue value clause).asked = q.asked := by
  simp [asked]

theorem placeholders_eq (q : Query) : q.placeholders = q.asked.length := by
  simp only [placeholders, asked]
  induction q.predicates with
  | nil => rfl
  | cons p rest ih =>
      rw [List.foldr_cons, ih, List.flatMap_cons, List.length_append]
      rfl

@[simp] theorem boundCount_addPredicate (q : Query) (p : Predicate) :
    (q.addPredicate p).boundCount = q.boundCount + p.operand.values.length := by
  simp [boundCount, addPredicate, Nat.add_assoc]

@[simp] theorem boundCount_bindValue (q : Query) (value : Value) (clause : Clause) :
    (q.bindValue value clause).boundCount = q.boundCount + 1 := by
  cases clause with
  | select =>
      simp only [boundCount, bindValue, List.length_append, List.length_singleton]
      omega
  | «where» =>
      simp only [boundCount, bindValue, List.length_append, List.length_singleton]
      omega

structure SameWhere (q r : Query) : Prop where
  predicates : r.predicates = q.predicates
  selectBindings : r.selectBindings = q.selectBindings
  whereBindings : r.whereBindings = q.whereBindings

theorem SameWhere.refl (q : Query) : SameWhere q q :=
  ⟨rfl, rfl, rfl⟩

theorem SameWhere.asked {q r : Query} (same : SameWhere q r) : r.asked = q.asked := by
  simp [Query.asked, same.predicates]

theorem SameWhere.boundCount {q r : Query} (same : SameWhere q r) :
    r.boundCount = q.boundCount := by
  simp [Query.boundCount, same.selectBindings, same.whereBindings]

/-- The ways in which a call can lead from one query to another. -/
inductive Effect (q : Query) : Call → Query → Prop
  | predicate {call : Call} (p : Predicate) (wellFormed : p.WellFormed)
      (proper : call.isStray = false) : Effect q call (q.addPredicate p)
  | stray (value : Value) (clause : Clause) :
      Effect q (.bindValue value clause) (q.bindValue value clause)
  | other {call : Call} {r : Query} (same : SameWhere q r) (proper : call.isStray = false) :
      Effect q call r

theorem wellFormed_single (column : String) (operator : Operator) (value : Value) :
    Predicate.WellFormed ⟨column, operator, .single value⟩ := by
  intro values many
  cases many

theorem wellFormed_many (column : String) {values : List Value} (present : values ≠ []) :
    Predicate.WellFormed ⟨column, .isIn, .many values⟩ := by
  intro others many
  cases many
  exact ⟨rfl, present⟩

theorem Applied.effect {q r : Query} {call : Call} (applied : Applied q call r) :
    Effect q call r := by
  cases applied with
  | restrict => exact .predicate _ (wellFormed_single _ _ _) rfl
  | restrictEqual column value => exact .predicate _ (wellFormed_single column .equal value) rfl
  | restrictIn present => exact .predicate _ (wellFormed_many _ present) rfl
  | bindValue value clause => exact .stray value clause
  | _ => exact .other ⟨rfl, rfl, rfl⟩ rfl

theorem step_effect (q : Query) (call : Call) : Effect q call (q.step call) := by
  cases applied : q.apply call with
  | ok r =>
      have next : q.step call = r := by simp [step, applied]
      rw [next]
      exact Applied.effect (applied_of_apply applied)
  | error error =>
      have next : q.step call = q := by simp [step, applied]
      rw [next]
      refine .other (SameWhere.refl q) ?_
      cases call <;> first | rfl | cases applied

theorem Effect.balanced {q r : Query} {call : Call} (effect : Effect q call r) {strays : Nat}
    (balanced : q.boundCount = q.placeholders + strays) :
    r.boundCount = r.placeholders + (strays + call.isStray.toNat) := by
  rw [placeholders_eq] at balanced ⊢
  cases effect with
  | predicate p wellFormed proper =>
      rw [boundCount_addPredicate, asked_addPredicate, List.length_append, proper, balanced]
      simp only [Bool.toNat_false]
      omega
  | stray value clause =>
      rw [boundCount_bindValue, asked_bindValue, balanced, Nat.add_assoc]
      rfl
  | other same proper =>
      rw [same.boundCount, same.asked, proper, balanced]
      rfl

theorem Effect.wellFormed {q r : Query} {call : Call} (effect : Effect q call r)
    (wellFormed : ∀ p ∈ q.predicates, p.WellFormed) : ∀ p ∈ r.predicates, p.WellFormed := by
  cases effect with
  | predicate p proper =>
      intro other member
      rcases List.mem_append.mp member with earlier | added
      · exact wellFormed other earlier
      · rw [List.mem_singleton.mp added]
        exact proper
  | stray value clause =>
      rw [predicates_bindValue]
      exact wellFormed
  | other same =>
      rw [same.predicates]
      exact wellFormed

theorem Effect.whereBindings {q r : Query} {call : Call} (effect : Effect q call r) :
    r.whereBindings = q.whereBindings ++ r.whereBindings.drop q.whereBindings.length := by
  cases effect with
  | predicate p => simp [addPredicate]
  | stray value clause => cases clause <;> simp [bindValue]
  | other same => simp [same.whereBindings]

theorem Effect.asked {q r : Query} {call : Call} (effect : Effect q call r) :
    r.asked =
      q.asked ++ if call.isStray then [] else r.whereBindings.drop q.whereBindings.length := by
  cases effect with
  | predicate p wellFormed proper => simp [addPredicate, Query.asked, proper]
  | stray value clause => simp [Call.isStray]
  | other same proper => simp [same.whereBindings, same.asked, proper]

theorem run_balanced (q : Query) (calls : List Call) {strays : Nat}
    (balanced : q.boundCount = q.placeholders + strays) :
    (q.run calls).boundCount =
      (q.run calls).placeholders + (strays + calls.countP Call.isStray) := by
  induction calls generalizing q strays with
  | nil => exact balanced
  | cons call calls ih =>
      rw [run_cons, ih (q.step call) ((step_effect q call).balanced balanced)]
      cases proper : call.isStray with
      | false =>
          rw [List.countP_cons_of_neg (by simp [proper])]
          rfl
      | true =>
          rw [List.countP_cons_of_pos proper]
          simp only [Bool.toNat_true]
          omega

theorem boundCount_run (calls : List Call) :
    (run {} calls).boundCount =
      (run {} calls).placeholders + calls.countP Call.isStray := by
  have start : ({} : Query).boundCount = ({} : Query).placeholders + 0 := rfl
  simpa using run_balanced {} calls start

theorem run_wellFormed (q : Query) (calls : List Call)
    (wellFormed : ∀ p ∈ q.predicates, p.WellFormed) :
    ∀ p ∈ (q.run calls).predicates, p.WellFormed := by
  induction calls generalizing q with
  | nil => exact wellFormed
  | cons call calls ih =>
      exact ih (q.step call) ((step_effect q call).wellFormed wellFormed)

/-- A value bound in the where clause, and whether a stray binding brought it. -/
structure Bound where
  value : Value
  stray : Bool

/-- What each call of a run adds to the values bound in the where clause. -/
def history (q : Query) : List Call → List Bound
  | [] => []
  | call :: calls =>
      ((q.step call).whereBindings.drop q.whereBindings.length).map (⟨·, call.isStray⟩) ++
        (q.step call).history calls

theorem whereBindings_run (q : Query) (calls : List Call) :
    (q.run calls).whereBindings =
      q.whereBindings ++ (q.history calls).map Bound.value := by
  induction calls generalizing q with
  | nil => simp [history]
  | cons call calls ih =>
      rw [run_cons, ih]
      conv => lhs; rw [(step_effect q call).whereBindings]
      simp [history, Function.comp_def]

theorem asked_run (q : Query) (calls : List Call) :
    (q.run calls).asked =
      q.asked ++ ((q.history calls).filter (!·.stray)).map Bound.value := by
  induction calls generalizing q with
  | nil => simp [history]
  | cons call calls ih =>
      rw [run_cons, ih, (step_effect q call).asked, history]
      generalize (q.step call).whereBindings.drop q.whereBindings.length = pushed
      cases call.isStray with
      | false => simp [Function.comp_def, List.filter_eq_self.mpr]
      | true => simp [List.filter_map, Function.comp_def]

theorem not_stray_of_mem_history {q : Query} {calls : List Call} {bound : Bound}
    (noneStray : calls.countP Call.isStray = 0) (member : bound ∈ q.history calls) :
    bound.stray = false := by
  induction calls generalizing q with
  | nil => cases member
  | cons call calls ih =>
      have proper := List.countP_eq_zero.mp noneStray
      rcases List.mem_append.mp member with now | later
      · obtain ⟨value, -, rfl⟩ := List.mem_map.mp now
        simpa using proper call List.mem_cons_self
      · apply ih _ later
        apply List.countP_eq_zero.mpr
        intro other present
        exact proper other (List.mem_cons_of_mem call present)

theorem Reachable.whereBindings_eq {q : Query} (reachable : q.Reachable)
    (matched : q.placeholders = q.boundCount) : q.whereBindings = q.asked := by
  obtain ⟨calls, rfl⟩ := reachable
  have balanced := boundCount_run calls
  have noneStray : calls.countP Call.isStray = 0 := by omega
  have kept : (history {} calls).filter (!·.stray) = history {} calls := by
    rw [List.filter_eq_self]
    intro bound member
    simp [not_stray_of_mem_history noneStray member]
  rw [whereBindings_run, asked_run, kept]
  rfl

/-- The statements of a query that have its where clause: an update only when its columns do not
conflict. -/
inductive HasWhere (q : Query) : Statement → Prop
  | select : HasWhere q (.select q)
  | delete : HasWhere q (.delete q)
  | update (row : Row) (free : checkColumns row q.updates = .ok ()) : HasWhere q (.update q row)

theorem HasWhere.query_eq {q : Query} {s : Statement} (has : HasWhere q s) : s.query = q := by
  cases has <;> rfl

theorem HasWhere.render_eq_mismatch {q : Query} {s : Statement} (has : HasWhere q s)
    {table : String} (named : q.table = some table) {expected actual : Nat} :
    s.render = .error (.bindingMismatch expected actual) ↔
      q.MatchError (.bindingMismatch expected actual) := by
  rw [Statement.render_eq_error]
  cases has with
  | select => exact writeSelect_eq_error named
  | delete => exact writeDelete_eq_error named
  | update row free =>
      rw [Statement.write, writeUpdate_eq_error named]
      simp [free, CollectionWrite.ShapeError]

theorem HasWhere.render_of_mismatch {q : Query} {s : Statement} (has : HasWhere q s)
    (named : q.table ≠ none) (mismatch : q.placeholders ≠ q.boundCount) :
    s.render = .error (.bindingMismatch q.placeholders q.boundCount) := by
  obtain ⟨table, named⟩ := Option.ne_none_iff_exists'.mp named
  exact (has.render_eq_mismatch named).mpr ⟨mismatch, rfl⟩

theorem HasWhere.matched_of_render_eq_ok {q : Query} {s : Statement} (has : HasWhere q s)
    {r : Rendered} (rendered : s.render = .ok r) : q.placeholders = q.boundCount := by
  have written := (Statement.render_eq_ok.mp rendered).1
  cases has with
  | select =>
      obtain ⟨table, named, matched, text⟩ := writeSelect_eq_ok.mp written
      exact matched
  | delete =>
      obtain ⟨table, named, matched, text⟩ := writeDelete_eq_ok.mp written
      exact matched
  | update row free =>
      obtain ⟨table, assignments, named, checked, matched, rest⟩ := writeUpdate_eq_ok.mp written
      exact matched

theorem HasWhere.eq_of_mismatch {q : Query} {s : Statement} (has : HasWhere q s)
    {expected actual : Nat} (failed : s.render = .error (.bindingMismatch expected actual)) :
    q.placeholders ≠ q.boundCount ∧ expected = q.placeholders ∧ actual = q.boundCount := by
  cases named : q.table with
  | none =>
      rw [Statement.render_of_unnamed (has.query_eq ▸ named)] at failed
      cases failed
  | some table =>
      obtain ⟨mismatch, same⟩ := (has.render_eq_mismatch named).mp failed
      cases same
      exact ⟨mismatch, rfl, rfl⟩

theorem HasWhere.mismatch_iff {q : Query} {s : Statement} (has : HasWhere q s)
    (named : q.table ≠ none) {strays : Nat} (balanced : q.boundCount = q.placeholders + strays) :
    (∃ expected actual, s.render = .error (.bindingMismatch expected actual)) ↔ 0 < strays := by
  constructor
  · rintro ⟨expected, actual, failed⟩
    obtain ⟨mismatch, -⟩ := has.eq_of_mismatch failed
    omega
  · intro some
    exact ⟨_, _, has.render_of_mismatch named (by omega)⟩

theorem render_select_of_matched {q : Query} (named : q.table ≠ none)
    (matched : q.placeholders = q.boundCount) :
    ∃ text, (Statement.select q).render = .ok ⟨text, q.whereBindings⟩ := by
  obtain ⟨table, named⟩ := Option.ne_none_iff_exists'.mp named
  refine ⟨q.selectText Statement.placeholder table, Statement.render_eq_ok.mpr ⟨?_, rfl⟩⟩
  exact writeSelect_eq_ok.mpr ⟨table, named, matched, rfl⟩

theorem render_delete_of_matched {q : Query} (named : q.table ≠ none)
    (matched : q.placeholders = q.boundCount) :
    ∃ text, (Statement.delete q).render = .ok ⟨text, q.whereBindings⟩ := by
  obtain ⟨table, named⟩ := Option.ne_none_iff_exists'.mp named
  refine ⟨q.deleteText Statement.placeholder table, Statement.render_eq_ok.mpr ⟨?_, rfl⟩⟩
  exact writeDelete_eq_ok.mpr ⟨table, named, matched, rfl⟩

theorem params_update_of_render {q : Query} {row : Row} {r : Rendered}
    (rendered : (Statement.update q row).render = .ok r) :
    q.placeholders = q.boundCount ∧ r.params = row.values ++ q.whereBindings := by
  obtain ⟨written, bound⟩ := Statement.render_eq_ok.mp rendered
  obtain ⟨table, assignments, named, checked, matched, rest⟩ := writeUpdate_eq_ok.mp written
  exact ⟨matched, bound⟩

/-- In a query built by calls, the values bound beyond the placeholders are the stray bindings, and
all others stand as the predicates ask for them.  So the statements with a where clause are refused
just when there are stray bindings, and else bind what the predicates ask for. -/
theorem bindings_of_run (calls : List Call) :
    let q := run {} calls
    let strays := calls.countP Call.isStray
    let flattened := q.predicates.flatMap fun p => p.operand.values
    q.selectBindings.length + q.whereBindings.length = q.placeholders + strays ∧
      q.whereBindings = (history {} calls).map Bound.value ∧
      ((history {} calls).filter (!·.stray)).map Bound.value = flattened ∧
      (∀ p ∈ q.predicates, ∀ values, p.operand = .many values →
        p.operator = .isIn ∧ values ≠ []) ∧
      (q.table ≠ none → ∀ s, HasWhere q s →
        ((∃ expected actual, s.render = .error (.bindingMismatch expected actual)) ↔
          0 < strays) ∧
        ∀ expected actual, s.render = .error (.bindingMismatch expected actual) →
          actual = expected + strays) ∧
      (q.table ≠ none → strays = 0 →
        (∃ text, (Statement.select q).render = .ok ⟨text, flattened⟩) ∧
        ∃ text, (Statement.delete q).render = .ok ⟨text, flattened⟩) ∧
      (∀ r, (Statement.select q).render = .ok r → r.params = flattened) ∧
      (∀ r, (Statement.delete q).render = .ok r → r.params = flattened) ∧
      ∀ row r, (Statement.update q row).render = .ok r → r.params = row.values ++ flattened := by
  intro q strays flattened
  have balanced : q.boundCount = q.placeholders + strays := boundCount_run calls
  have reachable : q.Reachable := ⟨calls, rfl⟩
  have bound (matched : q.placeholders = q.boundCount) : q.whereBindings = flattened :=
    reachable.whereBindings_eq matched
  refine ⟨balanced, ?_, ?_, ?_, ?_, ?_, ?_, ?_, ?_⟩
  · exact whereBindings_run {} calls
  · exact (asked_run {} calls).symm
  · apply run_wellFormed {} calls
    intro p member
    cases member
  · intro named s has
    refine ⟨has.mismatch_iff named balanced, ?_⟩
    intro expected actual failed
    obtain ⟨-, rfl, rfl⟩ := has.eq_of_mismatch failed
    exact balanced
  · intro named noneStray
    have matched : q.placeholders = q.boundCount := by omega
    rw [← bound matched]
    exact ⟨render_select_of_matched named matched, render_delete_of_matched named matched⟩
  · intro r rendered
    rw [← bound (HasWhere.select.matched_of_render_eq_ok rendered)]
    exact (Statement.render_eq_ok.mp rendered).2
  · intro r rendered
    rw [← bound (HasWhere.delete.matched_of_render_eq_ok rendered)]
    exact (Statement.render_eq_ok.mp rendered).2
  · intro row r rendered
    obtain ⟨matched, params⟩ := params_update_of_render rendered
    rw [← bound matched]
    exact params

theorem bindings_of_run_with_stray :
    let proper : List Call := [.onTable "t", .restrictEqual "a" (.boolean true),
      .restrictIn "b" [.boolean false, .text "'?"]]
    let straying := proper ++ [.bindValue (.text "x") .where, .restrictEqual "c" (.text "y")]
    (∃ text, (Statement.select (run {} proper)).render =
        .ok ⟨text, [.boolean true, .boolean false, .text "'?"]⟩) ∧
      (∃ expected actual, (Statement.delete (run {} straying)).render =
        .error (.bindingMismatch expected actual)) ∧
      ((history {} straying).filter (!·.stray)).map Bound.value =
        [.boolean true, .boolean false, .text "'?", .text "y"] := by
  intro proper straying
  obtain ⟨-, -, -, -, -, accepted, -⟩ := bindings_of_run proper
  obtain ⟨-, -, values, -, refused, -⟩ := bindings_of_run straying
  have mismatched := (refused (by decide) (.delete (run {} straying)) .delete).1
  exact ⟨(accepted (by decide) (by decide)).1, mismatched.mpr (by decide), values⟩

end Query

end WideColumn
