import WideColumn.Text.Quote

/-! Texts that can be told apart whatever follows them, alone and joined to lists. -/

namespace WideColumn

/-- The start of a text shows which `a` it was printed for, as far as `key` tells, and where the
rest begins, if `ends` holds of the rest. -/
def Legible {α κ : Type} (allowed : α → Prop) (print : α → List Char) (key : α → κ)
    (ends : List Char → Prop) : Prop :=
  ∀ ⦃a b : α⦄ ⦃x y : List Char⦄, allowed a → allowed b → ends x → ends y →
    print a ++ x = print b ++ y → key a = key b ∧ x = y

/-- A text does not begin with a character of that class. -/
def Breaks (inside : Char → Bool) (text : List Char) : Prop :=
  ∀ c ∈ text.head?, inside c = false

@[simp] theorem breaks_nil {inside : Char → Bool} : Breaks inside [] := by
  intro c member
  cases member

@[simp] theorem breaks_cons {inside : Char → Bool} {c : Char} {rest : List Char} :
    Breaks inside (c :: rest) ↔ inside c = false := by
  simp [Breaks]

theorem takeWhile_of_breaks {inside : Char → Bool} {text rest : List Char}
    (within : ∀ c ∈ text, inside c = true) (breaks : Breaks inside rest) :
    (text ++ rest).takeWhile inside = text := by
  rw [List.takeWhile_append_of_pos within]
  cases rest with
  | nil => simp
  | cons c rest => simp [breaks_cons.mp breaks]

/-- The parts of a list with `separator` between them, behind `lead` if there are any. -/
def joined (lead separator : List Char) : List (List Char) → List Char
  | [] => []
  | part :: parts => lead ++ (part ++ parts.flatMap (separator ++ ·))

@[simp] theorem joined_nil (lead separator : List Char) : joined lead separator [] = [] := rfl

@[simp] theorem joined_cons (lead separator part : List Char) (parts : List (List Char)) :
    joined lead separator (part :: parts) =
      lead ++ (part ++ parts.flatMap (separator ++ ·)) := rfl

theorem joined_of_ne_nil {lead separator : List Char} {parts : List (List Char)}
    (present : parts ≠ []) :
    joined lead separator parts = lead ++ separator.intercalate parts := by
  have intercalate (part : List Char) (parts : List (List Char)) :
      separator.intercalate (part :: parts) = part ++ parts.flatMap (separator ++ ·) := by
    induction parts generalizing part with
    | nil => simp
    | cons next parts ih => simp [List.intercalate_cons_cons, ih]
  cases parts with
  | nil => exact absurd rfl present
  | cons part parts => rw [joined_cons, intercalate]

theorem joined_eq_intercalate (separator : List Char) (parts : List (List Char)) :
    joined [] separator parts = separator.intercalate parts := by
  cases parts with
  | nil => rfl
  | cons part parts => rw [joined_of_ne_nil (List.cons_ne_nil part parts), List.nil_append]

/-- What may stand behind a list of such parts: neither a separator nor the first part of another
list. -/
structure EndsJoined {α : Type} (allowed : α → Prop) (print : α → List Char)
    (ends : List Char → Prop) (lead separator x : List Char) : Prop where
  last : ends x
  apart : ¬separator <+: x
  free : ∀ a rest, allowed a → ends rest → x ≠ lead ++ (print a ++ rest)

namespace Text

variable {quote : Char}

theorem quote_cons_ne_double_append {c : Char} {text rest later : List Char}
    (breaks : Breaks (· == quote) later) :
    quote :: later ≠ double quote (c :: text) ++ quote :: rest := by
  intro same
  by_cases doubled : c = quote
  · subst doubled
    rw [double_cons_self, List.cons_append, List.cons_append] at same
    rw [(List.cons.inj same).2, breaks_cons] at breaks
    simp at breaks
  · rw [double_cons_of_ne doubled, List.cons_append] at same
    exact doubled (List.cons.inj same).1.symm

theorem double_cons_append_inj {c d : Char} {text other x y : List Char}
    (same : double quote (c :: text) ++ x = double quote (d :: other) ++ y) :
    c = d ∧ double quote text ++ x = double quote other ++ y := by
  by_cases left : c = quote
  · by_cases right : d = quote
    · subst left
      subst right
      simpa using same
    · subst left
      rw [double_cons_self, double_cons_of_ne right] at same
      exact absurd (List.cons.inj same).1.symm right
  · by_cases right : d = quote
    · subst right
      rw [double_cons_self, double_cons_of_ne left] at same
      exact absurd (List.cons.inj same).1 left
    · rw [double_cons_of_ne left, double_cons_of_ne right] at same
      exact List.cons.inj same

end Text

namespace Legible

variable {α κ : Type} {allowed : α → Prop} {print : α → List Char} {key : α → κ}
variable {ends : List Char → Prop}

theorem run (inside : Char → Bool) :
    Legible (fun text : List Char => ∀ c ∈ text, inside c = true) id id (Breaks inside) := by
  intro a b x y left right leftEnds rightEnds same
  have runs : a = b := by
    rw [← takeWhile_of_breaks left leftEnds, ← takeWhile_of_breaks right rightEnds]
    exact congrArg _ same
  rw [runs] at same
  exact ⟨runs, List.append_cancel_left same⟩

theorem quoted (quote : Char) :
    Legible (fun _ => True) (fun text => Text.double quote text ++ [quote]) id
      (Breaks (· == quote)) := by
  intro a b x y _ _ leftEnds rightEnds same
  simp only [List.append_assoc, List.cons_append, List.nil_append] at same
  induction a generalizing b with
  | nil =>
      cases b with
      | nil => exact ⟨rfl, (List.cons.inj same).2⟩
      | cons d other => exact absurd same (Text.quote_cons_ne_double_append leftEnds)
  | cons c text ih =>
      cases b with
      | nil => exact absurd same.symm (Text.quote_cons_ne_double_append rightEnds)
      | cons d other =>
          obtain ⟨rfl, later⟩ := Text.double_cons_append_inj same
          obtain ⟨texts, rests⟩ := ih later
          exact ⟨congrArg (c :: ·) texts, rests⟩

theorem mono {narrow : List Char → Prop} (legible : Legible allowed print key ends)
    (within : ∀ x, narrow x → ends x) : Legible allowed print key narrow := by
  intro a b x y left right leftEnds rightEnds same
  exact legible left right (within x leftEnds) (within y rightEnds) same

theorem ends_separated {separator : List Char} (parts : ∀ x, ends (separator ++ x))
    (items : List α) {x : List Char} (last : ends x) :
    ends ((items.map print).flatMap (separator ++ ·) ++ x) := by
  cases items with
  | nil => exact last
  | cons a items =>
      simp only [List.map_cons, List.flatMap_cons, List.append_assoc]
      exact parts _

theorem separated {separator : List Char} (legible : Legible allowed print key ends)
    (parts : ∀ x, ends (separator ++ x)) :
    Legible (fun items : List α => ∀ a ∈ items, allowed a)
      (fun items => (items.map print).flatMap (separator ++ ·)) (List.map key)
      (fun x => ends x ∧ ¬separator <+: x) := by
  intro items others x y left right leftEnds rightEnds same
  induction items generalizing others with
  | nil =>
      cases others with
      | nil => exact ⟨rfl, same⟩
      | cons b others =>
          change x = separator ++ print b ++ _ ++ y at same
          rw [List.append_assoc, List.append_assoc] at same
          exact absurd ⟨_, same.symm⟩ leftEnds.2
  | cons a items ih =>
      cases others with
      | nil =>
          change separator ++ print a ++ _ ++ x = y at same
          rw [List.append_assoc, List.append_assoc] at same
          exact absurd ⟨_, same⟩ rightEnds.2
      | cons b others =>
          simp only [List.map_cons, List.flatMap_cons, List.append_assoc] at same
          -- Behind the first items stands the next separator or the end; both stop an item.
          obtain ⟨keys, rest⟩ := legible (left a List.mem_cons_self) (right b List.mem_cons_self)
            (ends_separated parts items leftEnds.1) (ends_separated parts others rightEnds.1)
            (List.append_cancel_left same)
          obtain ⟨later, rest⟩ := ih
            (fun c member => left c (List.mem_cons_of_mem a member))
            (fun c member => right c (List.mem_cons_of_mem b member)) rest
          exact ⟨by rw [List.map_cons, List.map_cons, keys, later], rest⟩

theorem joined {lead separator : List Char} (legible : Legible allowed print key ends)
    (parts : ∀ x, ends (separator ++ x)) :
    Legible (fun items : List α => ∀ a ∈ items, allowed a)
      (fun items => WideColumn.joined lead separator (items.map print)) (List.map key)
      (EndsJoined allowed print ends lead separator) := by
  intro items others x y left right leftEnds rightEnds same
  obtain ⟨leftEnd, leftApart, leftFree⟩ := leftEnds
  obtain ⟨rightEnd, rightApart, rightFree⟩ := rightEnds
  cases items with
  | nil =>
      cases others with
      | nil => exact ⟨rfl, same⟩
      | cons b others =>
          -- What follows a list without items does not begin like one with some.
          simp only [List.map_cons, joined_cons, List.append_assoc] at same
          exact absurd same
            (leftFree b _ (right b List.mem_cons_self) (ends_separated parts others rightEnd))
  | cons a items =>
      cases others with
      | nil =>
          simp only [List.map_cons, joined_cons, List.append_assoc] at same
          exact absurd same.symm
            (rightFree a _ (left a List.mem_cons_self) (ends_separated parts items leftEnd))
      | cons b others =>
          simp only [List.map_cons, joined_cons, List.append_assoc] at same
          obtain ⟨keys, rest⟩ := legible (left a List.mem_cons_self) (right b List.mem_cons_self)
            (ends_separated parts items leftEnd) (ends_separated parts others rightEnd)
            (List.append_cancel_left same)
          obtain ⟨later, rest⟩ := legible.separated parts
            (fun c member => left c (List.mem_cons_of_mem a member))
            (fun c member => right c (List.mem_cons_of_mem b member))
            ⟨leftEnd, leftApart⟩ ⟨rightEnd, rightApart⟩ rest
          exact ⟨by rw [List.map_cons, List.map_cons, keys, later], rest⟩

end Legible

end WideColumn
