import WideColumn.Identifier

namespace WideColumn

namespace Text

theorem mem_double {quote c : Char} {text : List Char} : c ∈ double quote text ↔ c ∈ text := by
  induction text with
  | nil => simp
  | cons d rest ih =>
      by_cases same : d = quote
      · subst same
        simp [ih]
      · simp [double_cons_of_ne same, ih]

theorem double_eq_self {quote : Char} {text : List Char} (absent : quote ∉ text) :
    double quote text = text := by
  induction text with
  | nil => rfl
  | cons c rest ih =>
      rw [List.mem_cons, not_or] at absent
      rw [double_cons_of_ne (Ne.symm absent.1), ih absent.2]

theorem double_intercalate {quote separator : Char} (apart : separator ≠ quote)
    (parts : List (List Char)) :
    double quote ([separator].intercalate parts) =
      [separator].intercalate (parts.map (double quote)) := by
  induction parts with
  | nil => rfl
  | cons part parts ih =>
      cases parts with
      | nil => simp
      | cons next parts =>
          simp only [List.intercalate_cons_cons, List.map_cons, double_append] at ih ⊢
          rw [ih, double_cons_of_ne apart, double_nil]

theorem pieces_cons_of_ne {separator c : Char} (apart : c ≠ separator) (rest : List Char) :
    ∃ piece later, pieces separator rest = piece :: later ∧
      pieces separator (c :: rest) = (c :: piece) :: later := by
  cases cut : pieces separator rest with
  | nil => exact absurd cut (pieces_ne_nil separator rest)
  | cons piece later =>
      refine ⟨piece, later, rfl, ?_⟩
      simp only [pieces, if_neg apart, cut]

theorem pieces_eq_singleton {separator : Char} {text : List Char} (absent : separator ∉ text) :
    pieces separator text = [text] := by
  induction text with
  | nil => rfl
  | cons c rest ih =>
      rw [List.mem_cons, not_or] at absent
      obtain ⟨piece, later, here, there⟩ := pieces_cons_of_ne (Ne.symm absent.1) rest
      rw [ih absent.2] at here
      cases here
      exact there

theorem pieces_append_cons {separator : Char} {text : List Char} (absent : separator ∉ text)
    (rest : List Char) :
    pieces separator (text ++ separator :: rest) = text :: pieces separator rest := by
  induction text with
  | nil => simp [pieces]
  | cons c text ih =>
      rw [List.mem_cons, not_or] at absent
      obtain ⟨piece, later, here, there⟩ :=
        pieces_cons_of_ne (Ne.symm absent.1) (text ++ separator :: rest)
      rw [ih absent.2] at here
      cases here
      exact there

theorem pieces_intercalate {separator : Char} {parts : List (List Char)} (present : parts ≠ [])
    (undivided : ∀ part ∈ parts, separator ∉ part) :
    pieces separator ([separator].intercalate parts) = parts := by
  induction parts with
  | nil => exact absurd rfl present
  | cons part parts ih =>
      obtain ⟨here, there⟩ := List.forall_mem_cons.mp undivided
      cases parts with
      | nil => rw [List.intercalate_singleton, pieces_eq_singleton here]
      | cons next parts =>
          rw [List.intercalate_cons_cons, List.append_assoc, List.singleton_append,
            pieces_append_cons here, ih (List.cons_ne_nil _ _) there]

end Text

namespace Identifier

theorem wrapSegment_eq_double (segment : List Char) :
    wrapSegment segment = Text.double '"' segment := by
  unfold wrapSegment
  split
  · rename_i wildcard
    rw [wildcard]
    rfl
  · rfl

theorem wrapChars_eq_double (name : List Char) : wrapChars name = Text.double '"' name := by
  have segments : wrapSegment = Text.double '"' := funext wrapSegment_eq_double
  rw [wrapChars, segments, ← Text.double_intercalate (by decide), Text.intercalate_pieces]

theorem toList_wrap_eq_double (name : String) :
    (wrap name).toList = Text.double '"' name.toList := by
  rw [toList_wrap, wrapChars_eq_double]

theorem undouble_wrap (name : String) :
    Text.undouble '"' (wrap name).toList = some name.toList := by
  rw [toList_wrap_eq_double, Text.undouble_double]

theorem mem_toList_wrap {c : Char} {name : String} : c ∈ (wrap name).toList ↔ c ∈ name.toList := by
  rw [toList_wrap_eq_double, Text.mem_double]

end Identifier

end WideColumn
