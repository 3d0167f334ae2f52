import WideColumn.QueryError

/-! The first item of a list that something holds of, where that may depend on the items before
it. -/

namespace WideColumn

variable {α : Type}

def Somewhere (holds : List α → α → Prop) (items : List α) : Prop :=
  ∃ before a after, items = before ++ a :: after ∧ holds before a

/-- It holds of `a`, which stands behind `before`, and of no item there. -/
structure Earliest (holds : List α → α → Prop) (items before : List α) (a : α) : Prop where
  split : ∃ after, items = before ++ a :: after
  here : holds before a
  sooner : ∀ front b behind, before = front ++ b :: behind → ¬holds front b

namespace Earliest

variable {holds : List α → α → Prop} {items before : List α} {a b : α}

theorem not_nil : ¬Earliest holds [] before a := by
  rintro ⟨⟨after, split⟩, -, -⟩
  simp at split

theorem head (here : holds [] a) : Earliest holds (a :: items) [] a := by
  refine ⟨⟨items, rfl⟩, here, ?_⟩
  intro front b behind split
  simp at split

theorem eq_head (here : holds [] b) (earliest : Earliest holds (b :: items) before a) :
    before = [] ∧ a = b := by
  obtain ⟨⟨after, split⟩, -, sooner⟩ := earliest
  cases before with
  | nil =>
      cases split
      exact ⟨rfl, rfl⟩
  | cons c before =>
      cases split
      exact absurd here (sooner [] b before rfl)

theorem cons (passed : ¬holds [] b)
    (earliest : Earliest (fun front => holds (b :: front)) items before a) :
    Earliest holds (b :: items) (b :: before) a := by
  obtain ⟨⟨after, rfl⟩, here, sooner⟩ := earliest
  refine ⟨⟨after, rfl⟩, here, ?_⟩
  intro front c behind split
  cases front with
  | nil =>
      cases split
      exact passed
  | cons d front =>
      cases split
      exact sooner front c behind rfl

theorem of_cons (passed : ¬holds [] b) (earliest : Earliest holds (b :: items) before a) :
    ∃ later, before = b :: later ∧
      Earliest (fun front => holds (b :: front)) items later a := by
  obtain ⟨⟨after, split⟩, here, sooner⟩ := earliest
  cases before with
  | nil =>
      cases split
      exact absurd here passed
  | cons c later =>
      cases split
      refine ⟨later, rfl, ⟨after, rfl⟩, here, ?_⟩
      intro front d behind split
      exact sooner (b :: front) d behind (by rw [split]; rfl)

end Earliest

variable {holds : List α → α → Prop} {items : List α}

theorem somewhere_cons {b : α} :
    Somewhere holds (b :: items) ↔
      holds [] b ∨ Somewhere (fun front => holds (b :: front)) items := by
  constructor
  · rintro ⟨before, a, after, split, here⟩
    cases before with
    | nil =>
        cases split
        exact .inl here
    | cons c before =>
        cases split
        exact .inr ⟨before, a, after, rfl, here⟩
  · rintro (here | ⟨before, a, after, rfl, here⟩)
    · exact ⟨[], b, items, rfl, here⟩
    · exact ⟨b :: before, a, after, rfl, here⟩

theorem somewhere_iff_exists_earliest :
    Somewhere holds items ↔ ∃ before a, Earliest holds items before a := by
  constructor
  · intro somewhere
    induction items generalizing holds with
    | nil =>
        obtain ⟨before, a, after, split, -⟩ := somewhere
        simp at split
    | cons b items ih =>
        by_cases here : holds [] b
        · exact ⟨[], b, .head here⟩
        · obtain ⟨before, a, earliest⟩ := ih ((somewhere_cons.mp somewhere).resolve_left here)
          exact ⟨b :: before, a, earliest.cons here⟩
  · rintro ⟨before, a, ⟨after, split⟩, here, -⟩
    exact ⟨before, a, after, split, here⟩

theorem somewhere_iff_exists_mem {P : α → Prop} :
    Somewhere (fun _ a => P a) items ↔ ∃ a ∈ items, P a := by
  constructor
  · rintro ⟨before, a, after, rfl, here⟩
    exact ⟨a, by simp, here⟩
  · rintro ⟨a, member, here⟩
    obtain ⟨before, after, rfl⟩ := List.append_of_mem member
    exact ⟨before, a, after, rfl, here⟩

theorem mapM_eq_error {β ε : Type} {f : α → Except ε β} {error : ε} :
    items.mapM f = .error error ↔
      ∃ before a, Earliest (fun _ b => ∃ e, f b = .error e) items before a ∧
        f a = .error error := by
  induction items with
  | nil =>
      constructor
      · intro failed
        cases failed
      · rintro ⟨before, a, earliest, -⟩
        exact absurd earliest Earliest.not_nil
  | cons b items ih =>
      rw [List.mapM_cons, bind_eq_error]
      cases result : f b with
      | error other =>
          have here : ∃ e, f b = .error e := ⟨other, result⟩
          constructor
          · rintro (failed | ⟨c, impossible, -⟩)
            · exact ⟨[], b, .head here, result.trans failed⟩
            · cases impossible
          · rintro ⟨before, a, earliest, failed⟩
            obtain ⟨-, rfl⟩ := Earliest.eq_head here earliest
            exact .inl (result.symm.trans failed)
      | ok c =>
          have passed : ¬∃ e, f b = .error e := by simp [result]
          simp only [bind_eq_error, pure_ne_error, and_false, exists_false, or_false, ih]
          constructor
          · rintro (impossible | ⟨-, -, before, a, earliest, failed⟩)
            · cases impossible
            · exact ⟨b :: before, a, earliest.cons passed, failed⟩
          · rintro ⟨before, a, earliest, failed⟩
            obtain ⟨later, -, earliest⟩ := Earliest.of_cons passed earliest
            exact .inr ⟨c, rfl, later, a, earliest, failed⟩

end WideColumn
