import Mathlib.Data.List.TakeWhile
import WideColumn.Proofs.Reading

namespace WideColumn.Text

def Blank (text : List Char) : Prop :=
  ∀ c ∈ text, isBlank c = true

/-- A text with blanks around it, or none. -/
def Padded (Inside : List Char → Prop) (text : List Char) : Prop :=
  ∃ before inside after, text = before ++ inside ++ after ∧ Blank before ∧ Blank after ∧
    Inside inside

/-- A word: there are no blanks in it, but there is something. -/
structure Unbroken (word : List Char) : Prop where
  present : word ≠ []
  whole : ∀ c ∈ word, isBlank c = false

variable {before text after word rest : List Char} {later : List (List Char)}

theorem blank_append : Blank (before ++ after) ↔ Blank before ∧ Blank after := by
  simp only [Blank, List.mem_append, or_imp, forall_and]

theorem blank_reverse : Blank text.reverse ↔ Blank text := by
  simp only [Blank, List.mem_reverse]

theorem skipBlanks_eq_nil : skipBlanks text = [] ↔ Blank text := by
  rw [skipBlanks, List.dropWhile_eq_nil_iff, Blank]

theorem skipBlanks_append (blank : Blank before) :
    skipBlanks (before ++ rest) = skipBlanks rest :=
  List.dropWhile_append_of_pos blank

theorem exists_blank_append_skipBlanks (text : List Char) :
    ∃ before, Blank before ∧ text = before ++ skipBlanks text :=
  ⟨text.takeWhile isBlank, fun _ => List.mem_takeWhile_imp, List.takeWhile_append_dropWhile.symm⟩

theorem trim_between (blankBefore : Blank before) (blankAfter : Blank after) :
    trim (before ++ text ++ after) = trim text := by
  rw [trim, List.append_assoc, skipBlanks_append blankBefore, trim]
  -- A text that is all blank goes from the front, together with the blanks behind it.
  by_cases blank : Blank text
  · have vacant : skipBlanks (text ++ after) = [] :=
      skipBlanks_eq_nil.mpr (blank_append.mpr ⟨blank, blankAfter⟩)
    rw [vacant, skipBlanks_eq_nil.mpr blank]
  · have kept : skipBlanks (text ++ after) = skipBlanks text ++ after := by
      rw [skipBlanks, List.dropWhile_append, if_neg]
      · rfl
      · rwa [List.isEmpty_iff, ← skipBlanks, skipBlanks_eq_nil]
    rw [kept, List.reverse_append, skipBlanks_append (blank_reverse.mpr blankAfter)]

theorem exists_trim_between (text : List Char) :
    ∃ before after, text = before ++ trim text ++ after ∧ Blank before ∧ Blank after := by
  obtain ⟨before, blankBefore, front⟩ := exists_blank_append_skipBlanks text
  obtain ⟨after, blankAfter, back⟩ := exists_blank_append_skipBlanks (skipBlanks text).reverse
  refine ⟨before, after.reverse, ?_, blankBefore, blank_reverse.mpr blankAfter⟩
  have trimmed : skipBlanks text = trim text ++ after.reverse := by
    rw [trim, ← List.reverse_append, ← back, List.reverse_reverse]
  rw [List.append_assoc, ← trimmed]
  exact front

theorem padded_iff {Inside : List Char → Prop}
    (trimmed : ∀ {inside}, Inside inside → trim inside = inside) :
    Padded Inside text ↔ Inside (trim text) := by
  constructor
  · rintro ⟨before, inside, after, rfl, blankBefore, blankAfter, holds⟩
    rwa [trim_between blankBefore blankAfter, trimmed holds]
  · intro holds
    obtain ⟨before, after, spelled, blankBefore, blankAfter⟩ := exists_trim_between text
    exact ⟨before, trim text, after, spelled, blankBefore, blankAfter, holds⟩

theorem trim_eq_self (front : Breaks isBlank text) (back : Breaks isBlank text.reverse) :
    trim text = text := by
  rw [trim, skipBlanks_of_breaks front, skipBlanks_of_breaks back, List.reverse_reverse]

namespace Unbroken

theorem breaks (unbroken : Unbroken word) : Breaks isBlank (word ++ rest) := by
  obtain ⟨present, whole⟩ := unbroken
  cases word with
  | nil => exact absurd rfl present
  | cons c word => exact breaks_cons.mpr (whole c List.mem_cons_self)

theorem reverse (unbroken : Unbroken word) : Unbroken word.reverse :=
  ⟨mt List.reverse_eq_nil_iff.mp unbroken.present,
    fun c member => unbroken.whole c (List.mem_reverse.mp member)⟩

theorem trim_append {last : List Char} (unbroken : Unbroken word) (lastUnbroken : Unbroken last) :
    trim (word ++ rest ++ last) = word ++ rest ++ last := by
  apply trim_eq_self
  · rw [List.append_assoc]
    exact unbroken.breaks
  · rw [List.reverse_append]
    exact lastUnbroken.reverse.breaks

theorem trim_eq (unbroken : Unbroken word) : trim word = word := by
  apply trim_eq_self
  · rw [← List.append_nil word]
    exact unbroken.breaks
  · rw [← List.append_nil word.reverse]
    exact unbroken.reverse.breaks

end Unbroken

def isSolid (c : Char) : Bool :=
  !isBlank c

theorem splitBlanks_eq (text : List Char) :
    splitBlanks text = (text.takeWhile isSolid, words (text.dropWhile isSolid)) := by
  induction text with
  | nil => rfl
  | cons c rest ih =>
      cases blank : isBlank c with
      | false => simp [splitBlanks, ih, isSolid, blank]
      | true =>
          have solid : isSolid c = false := by rw [isSolid, blank]; rfl
          rw [List.takeWhile_cons_of_neg (by simp [solid]),
            List.dropWhile_cons_of_neg (by simp [solid]), words_cons_blank blank]
          simp [splitBlanks, blank, words]

theorem words_cons_solid {c : Char} (solid : isBlank c = false) :
    words (c :: rest) = (c :: rest.takeWhile isSolid) :: words (rest.dropWhile isSolid) := by
  rw [words, splitBlanks_eq]
  simp [isSolid, solid]

theorem words_append (blank : Blank before) : words (before ++ rest) = words rest := by
  induction before with
  | nil => rfl
  | cons c before ih =>
      rw [List.cons_append, words_cons_blank (blank c List.mem_cons_self)]
      exact ih fun d member => blank d (List.mem_cons_of_mem c member)

theorem words_eq_nil_iff : words text = [] ↔ Blank text := by
  constructor
  · intro wordless
    induction text with
    | nil => exact fun c member => nomatch member
    | cons c rest ih =>
        cases blank : isBlank c with
        | false =>
            rw [words_cons_solid blank] at wordless
            cases wordless
        | true =>
            rw [words_cons_blank blank] at wordless
            exact List.forall_mem_cons.mpr ⟨blank, ih wordless⟩
  · intro blank
    rw [← List.append_nil text, words_append blank, words_nil]

/-- The first word of a text: only blanks stand before it, and what follows it, if anything, is a
blank. -/
theorem words_eq_cons_iff : words text = word :: later ↔
    ∃ before rest, text = before ++ word ++ rest ∧ Blank before ∧ Unbroken word ∧
      Breaks isSolid rest ∧ words rest = later := by
  constructor
  · intro cut
    induction text with
    | nil => cases cut
    | cons c rest ih =>
        cases blank : isBlank c with
        | true =>
            rw [words_cons_blank blank] at cut
            obtain ⟨before, rest, rfl, blankBefore, unbroken, breaks, others⟩ := ih cut
            exact ⟨c :: before, rest, rfl, List.forall_mem_cons.mpr ⟨blank, blankBefore⟩, unbroken,
              breaks, others⟩
        | false =>
            rw [words_cons_solid blank] at cut
            obtain ⟨rfl, others⟩ := List.cons.inj cut
            refine ⟨[], rest.dropWhile isSolid, ?_, nofun, ⟨List.cons_ne_nil _ _, ?_⟩, ?_, others⟩
            · simp
            · refine List.forall_mem_cons.mpr ⟨blank, fun d member => ?_⟩
              simpa [isSolid] using List.mem_takeWhile_imp member
            · intro d first
              have stopped := List.head?_dropWhile_not isSolid rest
              rwa [Option.mem_def.mp first] at stopped
  · rintro ⟨before, rest, rfl, blankBefore, ⟨present, whole⟩, breaks, rfl⟩
    rw [List.append_assoc, words_append blankBefore]
    cases word with
    | nil => exact absurd rfl present
    | cons c word =>
        obtain ⟨solid, whole⟩ := List.forall_mem_cons.mp whole
        have inside : ∀ d ∈ word, isSolid d = true := fun d member => by
          rw [isSolid, whole d member]
          rfl
        rw [List.cons_append, words_cons_solid solid, takeWhile_of_breaks inside breaks,
          List.dropWhile_append_of_pos inside]
        cases rest with
        | nil => rfl
        | cons d rest => rw [List.dropWhile_cons_of_neg (by simp [breaks_cons.mp breaks])]

theorem unbroken_of_mem_words (member : word ∈ words text) : Unbroken word := by
  generalize cut : words text = found at member
  induction found generalizing text with
  | nil => cases member
  | cons first later ih =>
      obtain ⟨-, rest, -, -, unbroken, -, others⟩ := words_eq_cons_iff.mp cut
      rcases List.mem_cons.mp member with rfl | member
      · exact unbroken
      · exact ih others member

theorem words_eq_self_iff : words word = [word] ↔ Unbroken word := by
  constructor
  · intro alone
    apply unbroken_of_mem_words
    rw [alone]
    exact List.mem_singleton_self word
  · intro unbroken
    exact words_eq_cons_iff.mpr ⟨[], [], by simp, nofun, unbroken, breaks_nil, words_nil⟩

theorem splitBlanks_append_blank {c : Char} (blank : isBlank c = true) :
    splitBlanks (before ++ c :: rest) =
      ((splitBlanks before).1, (splitBlanks before).2 ++ words rest) := by
  induction before with
  | nil => simp [splitBlanks, blank, words]
  | cons d before ih =>
      rw [List.cons_append, splitBlanks, ih, splitBlanks]
      by_cases other : isBlank d = true
      · by_cases wordless : (splitBlanks before).1.isEmpty <;> simp [other, wordless]
      · simp [other]

theorem words_append_blank {c : Char} (blank : isBlank c = true) :
    words (before ++ c :: rest) = words before ++ words rest := by
  simp only [words, splitBlanks_append_blank blank]
  by_cases wordless : (splitBlanks before).1.isEmpty = true
  · rw [if_pos wordless, if_pos wordless]
  · rw [if_neg wordless, if_neg wordless, List.cons_append]

theorem words_intercalate {parts : List (List Char)} (unbroken : ∀ part ∈ parts, Unbroken part) :
    words ([' '].intercalate parts) = parts := by
  induction parts with
  | nil => rfl
  | cons part parts ih =>
      obtain ⟨here, there⟩ := List.forall_mem_cons.mp unbroken
      cases parts with
      | nil => rw [List.intercalate_singleton, words_eq_self_iff.mpr here]
      | cons next parts =>
          rw [List.intercalate_cons_cons, List.append_assoc, List.singleton_append,
            words_append_blank (by decide), words_eq_self_iff.mpr here, ih there,
            List.singleton_append]

theorem breaks_of_blank (blank : Blank text) : Breaks isSolid text :=
  fun c first => by rw [isSolid, blank c (List.mem_of_mem_head? first)]; rfl

theorem Unbroken.not_breaks (unbroken : Unbroken word) : ¬Breaks isSolid (word ++ rest) := by
  obtain ⟨present, whole⟩ := unbroken
  cases word with
  | nil => exact absurd rfl present
  | cons c word => simp [breaks_cons, isSolid, whole c List.mem_cons_self]

theorem breaks_append_of_blank (blank : Blank text) (present : text ≠ []) :
    Breaks isSolid (text ++ rest) := by
  cases text with
  | nil => exact absurd rfl present
  | cons c text => exact breaks_cons.mpr (breaks_cons.mp (breaks_of_blank blank))

end WideColumn.Text
