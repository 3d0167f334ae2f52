import WideColumn.Proofs.Inlining

/-! Cutting a text at the separators outside its single quotes gives back the parts it was joined
from, if every part closes its quotes and shows no separator outside them. -/

namespace WideColumn

namespace Text

open Placeholder

/-- The stretches between the separators outside single quotes.  `quoted` tells whether the text
starts inside quotes. -/
def outerPieces (separator : Char) (quoted : Bool) : List Char → List (List Char)
  | [] => [[]]
  | c :: rest =>
    if c = separator ∧ quoted = false then [] :: outerPieces separator quoted rest
    else
      (outerPieces separator (if c = '\'' then !quoted else quoted) rest).modifyHead (c :: ·)

def outerCut? (separator : Char) (quoted : Bool) : List Char → Option (List Char × List Char)
  | [] => none
  | c :: rest =>
    if c = separator ∧ quoted = false then some ([], rest)
    else
      (outerCut? separator (if c = '\'' then !quoted else quoted) rest).map
        fun (before, behind) => (c :: before, behind)

def unquoted? : List Char → Option (List Char)
  | [] => none
  | c :: rest =>
    if c = '\'' ∧ rest.getLast? = some '\'' then undouble '\'' rest.dropLast else none

theorem unquoted?_quoted (text : List Char) :
    unquoted? ('\'' :: double '\'' text ++ ['\'']) = some text := by
  simp [unquoted?, undouble_double]

def Uncut (separator : Char) (quoted : Bool) : List Char → Prop
  | [] => True
  | c :: rest =>
    ¬(c = separator ∧ quoted = false) ∧
      Uncut separator (if c = '\'' then !quoted else quoted) rest

variable {separator : Char} {quoted : Bool} {part : List Char}

theorem uncut_append {rest : List Char} :
    Uncut separator quoted (part ++ rest) ↔
      Uncut separator quoted part ∧ Uncut separator (endsQuoted quoted part) rest := by
  induction part generalizing quoted with
  | nil => simp [Uncut, endsQuoted]
  | cons c part ih => simp [Uncut, endsQuoted, ih, and_assoc]

theorem uncut_of_not_mem (absent : separator ∉ part) : Uncut separator quoted part := by
  induction part generalizing quoted with
  | nil => trivial
  | cons c part ih =>
      rw [List.mem_cons, not_or] at absent
      exact ⟨fun here => absent.1 here.1.symm, ih absent.2⟩

theorem uncut_quoted (apart : separator ≠ '\'') (text : List Char) :
    Uncut separator true (double '\'' text ++ ['\'']) := by
  induction text with
  | nil => simp [Uncut]
  | cons c text ih =>
      by_cases quote : c = '\''
      · subst quote
        simp [Uncut, apart.symm, ih]
      · rw [double_cons_of_ne quote]
        simp [Uncut, quote, ih]

theorem outerPieces_append (uncut : Uncut separator quoted part) (rest : List Char) :
    outerPieces separator quoted (part ++ rest) =
      (outerPieces separator (endsQuoted quoted part) rest).modifyHead (part ++ ·) := by
  induction part generalizing quoted with
  | nil => exact (congrFun List.modifyHead_id _).symm
  | cons c part ih =>
      obtain ⟨here, later⟩ := uncut
      rw [List.cons_append, outerPieces, if_neg here, ih later, List.modifyHead_modifyHead]
      rfl

theorem outerCut?_append (uncut : Uncut separator quoted part) (rest : List Char) :
    outerCut? separator quoted (part ++ rest) =
      (outerCut? separator (endsQuoted quoted part) rest).map
        fun (before, behind) => (part ++ before, behind) := by
  induction part generalizing quoted with
  | nil => simp [endsQuoted]
  | cons c part ih =>
      obtain ⟨here, later⟩ := uncut
      rw [List.cons_append, outerCut?, if_neg here, ih later, Option.map_map]
      rfl

/-- A part that can be told from a separator behind it. -/
structure Solid (separator : Char) (part : List Char) : Prop where
  uncut : Uncut separator false part
  closed : endsQuoted false part = false

namespace Solid

theorem append {rest : List Char} (left : Solid separator part) (right : Solid separator rest) :
    Solid separator (part ++ rest) where
  uncut := uncut_append.mpr ⟨left.uncut, by rw [left.closed]; exact right.uncut⟩
  closed := by rw [endsQuoted_append, left.closed, right.closed]

theorem outerCut?_eq (solid : Solid separator part) (rest : List Char) :
    outerCut? separator false (part ++ separator :: rest) = some (part, rest) := by
  rw [outerCut?_append solid.uncut, solid.closed]
  simp [outerCut?]

theorem outerPieces_eq (solid : Solid separator part) :
    outerPieces separator false part = [part] := by
  have whole := outerPieces_append solid.uncut []
  rw [solid.closed] at whole
  simpa [outerPieces] using whole

theorem outerPieces_cons (solid : Solid separator part) (rest : List Char) :
    outerPieces separator false (part ++ separator :: rest) =
      part :: outerPieces separator false rest := by
  rw [outerPieces_append solid.uncut, solid.closed]
  simp [outerPieces]

end Solid

theorem outerPieces_intercalate {parts : List (List Char)} (present : parts ≠ [])
    (solid : ∀ part ∈ parts, Solid separator part) :
    outerPieces separator false ([separator].intercalate parts) = parts := by
  induction parts with
  | nil => exact absurd rfl present
  | cons part parts ih =>
      obtain ⟨first, others⟩ := List.forall_mem_cons.mp solid
      cases parts with
      | nil => simpa using first.outerPieces_eq
      | cons next parts =>
          rw [List.intercalate_cons_cons, List.append_assoc, List.singleton_append,
            first.outerPieces_cons, ih (List.cons_ne_nil next parts) others]

end Text

namespace Value

theorem solid_literalChars {separator : Char} (foreign : isBare separator = false)
    (apart : separator ≠ '\'') (v : Value) : Text.Solid separator v.literalChars where
  uncut := by
    cases textual : v.isTextual with
    | true =>
        cases v with
        | text s => exact ⟨fun here => apart here.1.symm, Text.uncut_quoted apart s.toList⟩
        | _ => cases textual
    | false =>
        apply Text.uncut_of_not_mem
        intro member
        rw [isBare_of_mem_literalChars textual member] at foreign
        cases foreign
  closed := by
    have closed := (Filled.literal v).closed
    rwa [toList_literal] at closed

end Value

end WideColumn
