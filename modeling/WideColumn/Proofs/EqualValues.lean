import WideColumn.Proofs.CollectionItems
import WideColumn.Proofs.DecimalText

namespace WideColumn

section Aligned

variable {α β : Type} {R : α → α → Prop} {items others : List α}

theorem sameItems_iff {same : α → α → Bool} :
    sameItems same items others = true ↔
      List.Forall₂ (fun a b => same a b = true) items others := by
  induction items generalizing others with
  | nil => cases others <;> simp [sameItems]
  | cons a items ih => cases others <;> simp [sameItems, ih]

theorem map_eq_of_aligned {f : α → β} (aligned : List.Forall₂ R items others)
    (alike : ∀ a b, R a b → f a = f b) : items.map f = others.map f := by
  induction aligned with
  | nil => rfl
  | cons here _ ih => rw [List.map_cons, List.map_cons, alike _ _ here, ih]

theorem eq_of_map_eq {f : α → β} (aligned : List.Forall₂ R items others)
    (apart : ∀ a b, R a b → f a = f b → a = b) (same : items.map f = others.map f) :
    items = others := by
  induction aligned with
  | nil => rfl
  | cons here _ ih =>
      obtain ⟨head, tail⟩ := List.cons.inj same
      rw [apart _ _ here head, ih tail]

theorem joined_inj_of_aligned {print : α → List Char} {lead separator : List Char}
    (apart : ∀ a b x y, R a b → print a ++ x = print b ++ y → a = b ∧ x = y)
    (aligned : List.Forall₂ R items others) {x y : List Char}
    (same : joined lead separator (items.map print) ++ x =
      joined lead separator (others.map print) ++ y) : items = others ∧ x = y := by
  have separated {items others : List α} (aligned : List.Forall₂ R items others)
      (same : (items.map print).flatMap (separator ++ ·) ++ x =
        (others.map print).flatMap (separator ++ ·) ++ y) : items = others ∧ x = y := by
    induction aligned with
    | nil => exact ⟨rfl, same⟩
    | cons here _ ih =>
        simp only [List.map_cons, List.flatMap_cons, List.append_assoc] at same
        obtain ⟨rfl, rest⟩ := apart _ _ _ _ here (List.append_cancel_left same)
        obtain ⟨rfl, ends⟩ := ih rest
        exact ⟨rfl, ends⟩
  cases aligned with
  | nil => exact ⟨rfl, same⟩
  | cons here later =>
      simp only [List.map_cons, joined_cons, List.append_assoc] at same
      obtain ⟨rfl, rest⟩ := apart _ _ _ _ here (List.append_cancel_left same)
      obtain ⟨rfl, ends⟩ := separated later rest
      exact ⟨rfl, ends⟩

end Aligned

namespace Decimal

theorem toChars_injective : Function.Injective toChars := by
  intro x y same
  have settled : x.settled = y.settled := by
    rw [← Option.some_inj, ← ofChars?_toChars, ← ofChars?_toChars, same]
  have sign : x.negative = y.negative := by
    have signs := congrArg (fun text => (signed text).1) same
    simpa only [signed_toChars] using signs
  obtain ⟨negative, magnitude, scale, _, _⟩ := x
  obtain ⟨negative', magnitude', scale', _, _⟩ := y
  simp only [Decimal.settled, Decimal.mk.injEq] at settled
  obtain ⟨-, rfl, rfl⟩ := settled
  cases sign
  rfl

end Decimal

namespace Value

def decimal? : Value → Option Decimal
  | decimal x => some x
  | _ => none

variable {v w : Value}

theorem same_cases (same : v.same w = true) :
    (∃ x y, v = decimal x ∧ w = decimal y) ∨ v = w ∧ v.decimal? = none := by
  cases v with
  | decimal x =>
      cases w with
      | decimal y => exact .inl ⟨x, y, rfl, rfl⟩
      | _ => cases same
  | _ => exact .inr ⟨eq_of_beq same, rfl⟩

theorem eq_of_literal (same : v.same w = true) (written : v.literal = w.literal) : v = w := by
  rcases same_cases same with ⟨x, y, rfl, rfl⟩ | ⟨equal, -⟩
  · exact congrArg decimal (Decimal.toChars_injective (String.ofList_injective written))
  · exact equal

abbrev Aligned (values others : List Value) : Prop :=
  List.Forall₂ (fun v w => v.same w = true) values others

theorem eq_of_decimals {values others : List Value} (aligned : Aligned values others)
    (decimals : values.filterMap decimal? = others.filterMap decimal?) : values = others := by
  induction aligned with
  | nil => rfl
  | @cons v w values others here _ ih =>
      rcases same_cases here with ⟨x, y, rfl, rfl⟩ | ⟨rfl, none⟩
      · obtain ⟨rfl, rest⟩ := List.cons.inj decimals
        rw [ih rest]
      · rw [List.filterMap_cons_none none, List.filterMap_cons_none none] at decimals
        rw [ih decimals]

end Value

namespace Collection

namespace Contents

def values (contents : Contents) : List Value :=
  contents.rows.flatten

def decimals (contents : Contents) : List Decimal :=
  contents.values.filterMap Value.decimal?

variable {contents others : Contents}

theorem aligned_rows (same : contents.same others = true) :
    List.Forall₂ Value.Aligned contents.rows others.rows := by
  cases contents with
  | items values =>
      cases others with
      | items values' =>
          rw [Contents.same, sameItems_iff] at same
          simpa [rows, List.forall₂_map_left_iff, List.forall₂_map_right_iff] using same
      | pairs entries => cases same
  | pairs entries =>
      cases others with
      | items values => cases same
      | pairs entries' =>
          rw [Contents.same, sameItems_iff] at same
          simpa [rows, List.forall₂_map_left_iff, List.forall₂_map_right_iff] using same

theorem aligned_values (same : contents.same others = true) :
    Value.Aligned contents.values others.values :=
  List.rel_flatten (aligned_rows same)

theorem eq_of_rows (same : contents.same others = true) (equal : contents.rows = others.rows) :
    contents = others := by
  cases contents with
  | items values =>
      cases others with
      | items values' =>
          have singles : Function.Injective fun v : Value => [v] :=
            fun _ _ equal => (List.cons.inj equal).1
          rw [List.map_injective_iff.mpr singles equal]
      | pairs entries => cases same
  | pairs entries =>
      cases others with
      | items values => cases same
      | pairs entries' =>
          have doubles : Function.Injective fun entry : Value × Value => [entry.1, entry.2] := by
            intro entry other equal
            obtain ⟨first, rest⟩ := List.cons.inj equal
            exact Prod.ext first (List.cons.inj rest).1
          rw [List.map_injective_iff.mpr doubles equal]

theorem eq_of_literals (same : contents.same others = true)
    (literals : contents.rows.map (List.map Value.literal) =
      others.rows.map (List.map Value.literal)) : contents = others := by
  apply eq_of_rows same
  apply eq_of_map_eq (aligned_rows same) _ literals
  intro row other aligned
  exact eq_of_map_eq aligned fun v w => Value.eq_of_literal

theorem eq_of_values (same : contents.same others = true)
    (equal : contents.values = others.values) : contents = others := by
  apply eq_of_rows same
  rw [List.eq_iff_flatten_eq]
  exact ⟨equal, map_eq_of_aligned (aligned_rows same) fun _ _ => List.Forall₂.length_eq⟩

theorem eq_of_decimals (same : contents.same others = true)
    (decimals : contents.decimals = others.decimals) : contents = others :=
  eq_of_values same (Value.eq_of_decimals (aligned_values same) decimals)

theorem length_decimals (same : contents.same others = true) :
    contents.decimals.length = others.decimals.length := by
  have aligned : List.Forall₂ (fun _ _ => True) contents.decimals others.decimals := by
    refine List.rel_filterMap (fun v w here => ?_) (aligned_values same)
    rcases Value.same_cases here with ⟨x, y, rfl, rfl⟩ | ⟨rfl, none⟩
    · exact .some trivial
    · rw [none]
      exact .none
  exact aligned.length_eq

theorem misfit_of_same {kind : Kind} (same : contents.same others = true) :
    Misfit kind contents ↔ Misfit kind others := by
  rw [← parts?_eq_none, ← parts?_eq_none]
  cases contents <;> cases others <;> cases kind <;> simp_all [parts?, Contents.same]

end Contents

theorem chars_inj_of_same {kind : Kind} {contents others : Contents}
    (same : contents.same others = true) {x y : List Char}
    (written : chars kind contents ++ x = chars kind others ++ y) : contents = others ∧ x = y := by
  obtain ⟨collections, rest⟩ := chars_append_inj written
  exact ⟨contents.eq_of_literals same (congrArg Shown.literals collections), rest⟩

end Collection

namespace CollectionWrite

structure Alike (w v : CollectionWrite) : Prop where
  kind : w.kind = v.kind
  column : w.column = v.column
  contents : w.contents.same v.contents = true
  delta : w.delta = v.delta

theorem alike_of_same {w v : CollectionWrite} (same : w.same v = true) : Alike w v := by
  simp only [CollectionWrite.same, Bool.and_eq_true, beq_iff_eq] at same
  obtain ⟨⟨⟨kind, column⟩, contents⟩, delta⟩ := same
  exact ⟨kind, column, contents, delta⟩

theorem Alike.eq {w v : CollectionWrite} (alike : Alike w v) (contents : w.contents = v.contents) :
    w = v := by
  obtain ⟨kind, column, held, delta⟩ := w
  obtain ⟨kind', column', held', delta'⟩ := v
  obtain ⟨rfl, rfl, -, rfl⟩ := alike
  cases contents
  rfl

theorem eq_of_decimals {writes others : List CollectionWrite}
    (aligned : List.Forall₂ Alike writes others)
    (decimals : (writes.flatMap fun w => w.contents.decimals) =
      others.flatMap fun w => w.contents.decimals) : writes = others := by
  induction aligned with
  | nil => rfl
  | cons here _ ih =>
      rw [List.flatMap_cons, List.flatMap_cons] at decimals
      obtain ⟨first, rest⟩ :=
        List.append_inj decimals (Collection.Contents.length_decimals here.contents)
      rw [here.eq (Collection.Contents.eq_of_decimals here.contents first), ih rest]

end CollectionWrite

end WideColumn
