import WideColumn.Proofs.Inlining

namespace WideColumn

namespace Placeholder

/-- From outside quotes, a literal shows no placeholder and ends outside quotes again. -/
structure Sealed (literal : List Char) : Prop where
  unmarked : count false literal = 0
  closed : endsQuoted false literal = false

theorem sealed_literalChars (value : Value) : Sealed value.literalChars := by
  obtain ⟨unmarked, closed, -⟩ := Filled.literal value
  rw [Value.toList_literal] at unmarked closed
  exact ⟨unmarked, closed⟩

theorem fill_without_literals (quoted : Bool) (text : List Char) : fill quoted [] text = text := by
  induction text generalizing quoted with
  | nil => rfl
  | cons c rest ih => simp [fill, ih]

namespace Sealed

variable {literal : List Char}

theorem fill_append (whole : Sealed literal) (literals : List (List Char)) (rest : List Char) :
    fill false literals (literal ++ rest) = literal ++ fill false literals rest := by
  have passed : fill false ([] ++ literals) (literal ++ rest) =
      fill false [] literal ++ fill (endsQuoted false literal) literals rest :=
    Placeholder.fill_append whole.unmarked
  rwa [List.nil_append, fill_without_literals, whole.closed] at passed

theorem count_append (whole : Sealed literal) (rest : List Char) :
    count false (literal ++ rest) = count false rest := by
  rw [Placeholder.count_append, whole.unmarked, whole.closed, Nat.zero_add]

theorem endsQuoted_append (whole : Sealed literal) (rest : List Char) :
    endsQuoted false (literal ++ rest) = endsQuoted false rest := by
  rw [Placeholder.endsQuoted_append, whole.closed]

end Sealed

variable {quoted : Bool} {literals later : List (List Char)} {text : List Char}

-- Each by the cases of the first filling: a quote, a placeholder with a literal for it, one
-- without, any other character.

theorem fill_fill (whole : ∀ literal ∈ literals, Sealed literal) :
    fill quoted later (fill quoted literals text) = fill quoted (literals ++ later) text := by
  induction quoted, literals, text using fill.induct with
  | case1 => simp
  | case2 quoted literals rest ih => simp [ih whole]
  | case3 quoted c rest unquoted mark literal literals ih =>
      obtain ⟨rfl, rfl⟩ := mark
      obtain ⟨first, others⟩ := List.forall_mem_cons.mp whole
      rw [fill_mark, first.fill_append, ih others, List.cons_append, fill_mark]
  | case4 => rw [fill_without_literals, List.nil_append]
  | case5 quoted literals c rest unquoted unmarked ih =>
      have unmarked : c = '?' → quoted = true := by simpa using unmarked
      simp only [fill_other unquoted unmarked, ih whole]

theorem count_fill (whole : ∀ literal ∈ literals, Sealed literal) :
    count quoted (fill quoted literals text) = count quoted text - literals.length := by
  induction quoted, literals, text using fill.induct with
  | case1 => simp [count]
  | case2 quoted literals rest ih => simp [ih whole]
  | case3 quoted c rest unquoted mark literal literals ih =>
      obtain ⟨rfl, rfl⟩ := mark
      obtain ⟨first, others⟩ := List.forall_mem_cons.mp whole
      rw [fill_mark, first.count_append, ih others, count_mark, List.length_cons]
      omega
  | case4 => rw [fill_without_literals, List.length_nil, Nat.sub_zero]
  | case5 quoted literals c rest unquoted unmarked ih =>
      have unmarked : c = '?' → quoted = true := by simpa using unmarked
      rw [fill_other unquoted unmarked, count_other unquoted unmarked, ih whole,
        count_other unquoted unmarked]

theorem endsQuoted_fill (whole : ∀ literal ∈ literals, Sealed literal) :
    endsQuoted quoted (fill quoted literals text) = endsQuoted quoted text := by
  induction quoted, literals, text using fill.induct with
  | case1 => simp
  | case2 quoted literals rest ih => simp [ih whole]
  | case3 quoted c rest unquoted mark literal literals ih =>
      obtain ⟨rfl, rfl⟩ := mark
      obtain ⟨first, others⟩ := List.forall_mem_cons.mp whole
      rw [fill_mark, first.endsQuoted_append, ih others, endsQuoted_other unquoted]
  | case4 => rw [fill_without_literals]
  | case5 quoted literals c rest unquoted unmarked ih =>
      have unmarked : c = '?' → quoted = true := by simpa using unmarked
      rw [fill_other unquoted unmarked, endsQuoted_other unquoted, ih whole,
        endsQuoted_other unquoted]

end Placeholder

open Placeholder

/-- Values written into a text in two goes are written as in one.  After the first go the text has
as many placeholders less as there were values, down to none, and ends inside or outside quotes as
it did before. -/
theorem Rendered.inline_inline (text : String) (first later : List Value) :
    let once := Rendered.inline ⟨text, first⟩
    Rendered.inline ⟨once, later⟩ = Rendered.inline ⟨text, first ++ later⟩ ∧
      count false once.toList = count false text.toList - first.length ∧
      endsQuoted false once.toList = endsQuoted false text.toList := by
  intro once
  have whole : ∀ literal ∈ first.map Value.literalChars, Sealed literal := by
    intro literal member
    obtain ⟨value, -, rfl⟩ := List.mem_map.mp member
    exact sealed_literalChars value
  have written : once.toList = fill false (first.map Value.literalChars) text.toList := by
    simp [once, Rendered.inline]
  refine ⟨?_, ?_, ?_⟩
  · rw [Rendered.inline, Rendered.inline, written, fill_fill whole, List.map_append]
  · rw [written, count_fill whole, List.length_map]
  · rw [written, endsQuoted_fill whole]

example :
    let once := Rendered.inline ⟨"a = ? and b = ? and c = '?", [.text "it's ?"]⟩
    once = "a = 'it''s ?' and b = ? and c = '?" ∧
      Rendered.inline ⟨once, [.boolean true, .boolean false]⟩ =
        "a = 'it''s ?' and b = true and c = '?" := by
  decide +kernel

end WideColumn
