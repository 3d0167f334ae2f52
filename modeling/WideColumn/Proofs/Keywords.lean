import WideColumn.Collection
import WideColumn.Operator
import WideColumn.Proofs.LetterCase
import WideColumn.Settings

/-! Keywords are read by their grammars, which say nothing of how a reader goes about it: a reader
returns a value for the texts in the grammar of that value and refuses every other text. -/

namespace WideColumn

namespace Text

variable {ε α : Type} {read : String → Except ε α} {spelling : α → String} {all : List α}
  {Inside : α → List Char → Prop} {refusal : String → ε}
  {text other first second : List Char}

theorem spelled?_eq_some_iff {a : α} (complete : ∀ a, a ∈ all)
    (distinct : ∀ a ∈ all, ∀ b ∈ all, spelling a = spelling b → a = b) :
    spelled? spelling all text = some a ↔ (spelling a).toList = text := by
  constructor
  · exact spelling_of_spelled?
  · rintro rfl
    cases found : spelled? spelling all (spelling a).toList with
    | none =>
        have unspelled := List.find?_eq_none.mp found a (complete a)
        simp at unspelled
    | some b =>
        have same := String.toList_injective (spelling_of_spelled? found)
        rw [distinct b (complete b) a (complete a) same]

theorem padded_varied {Inside : List Char → Prop}
    (trimmed : ∀ {inside}, Inside inside → trim inside = inside)
    (folded : ∀ {inside outside}, SameUpToCase inside outside → Inside outside → Inside inside)
    (varied : Padded (SameUpToCase · text) other) : Padded Inside other ↔ Padded Inside text := by
  obtain ⟨before, inside, after, rfl, blankBefore, blankAfter, same⟩ := varied
  rw [padded_iff trimmed, padded_iff trimmed, trim_between blankBefore blankAfter]
  exact ⟨folded same.trim.symm, folded same.trim⟩

/-- How a reader treats each text.  It accepts what is in the grammar of a value, with blanks around
it, and refuses the rest; no text is in two grammars; each value is read from its own spelling; and
more blanks around a text, or other letter case in it, change no result. -/
structure Reads (read : String → Except ε α) (spelling : α → String)
    (Inside : α → List Char → Prop) (refusal : String → ε) : Prop where
  accepts : ∀ text a, read text = .ok a ↔ Padded (Inside a) text.toList
  refuses : ∀ text error, read text = .error error ↔
    (∀ a, ¬Padded (Inside a) text.toList) ∧ error = refusal text
  unique : ∀ text a b, Padded (Inside a) text → Padded (Inside b) text → a = b
  spelled : ∀ a, read (spelling a) = .ok a
  varied : ∀ text other : String, Padded (SameUpToCase · text.toList) other.toList →
    ∀ a, read other = .ok a ↔ read text = .ok a

theorem Reads.of_spelled {normal : String → List Char} (complete : ∀ a, a ∈ all)
    (distinct : ∀ a ∈ all, ∀ b ∈ all, spelling a = spelling b → a = b)
    (result : ∀ text,
      read text = (spelled? spelling all (normal text)).elim (.error (refusal text)) .ok)
    (normalizes : ∀ text a, (spelling a).toList = normal text ↔ Padded (Inside a) text.toList)
    (trimmed : ∀ {a inside}, Inside a inside → trim inside = inside)
    (folded : ∀ {a inside outside}, SameUpToCase inside outside → Inside a outside →
      Inside a inside)
    (spelled : ∀ a, Inside a (spelling a).toList) : Reads read spelling Inside refusal := by
  have accepts (text : String) (a : α) : read text = .ok a ↔ Padded (Inside a) text.toList := by
    rw [← normalizes, ← spelled?_eq_some_iff complete distinct, result]
    cases spelled? spelling all (normal text) <;> simp
  -- The rest follows from `accepts`: a text has one normal form, which spells one value at most.
  exact {
    accepts
    refuses := by
      intro text error
      constructor
      · intro failed
        constructor
        · intro a padded
          rw [(accepts text a).mpr padded] at failed
          cases failed
        · rw [result] at failed
          cases found : spelled? spelling all (normal text) with
          | none => rw [found] at failed; exact (Except.error.inj failed).symm
          | some a => rw [found] at failed; cases failed
      · rintro ⟨outside, rfl⟩
        cases found : spelled? spelling all (normal text) with
        | none => rw [result, found]; rfl
        | some a =>
            have accepted : read text = .ok a := by rw [result, found]; rfl
            exact absurd ((accepts text a).mp accepted) (outside a)
    unique := by
      intro text a b left right
      rw [← String.toList_ofList (l := text)] at left right
      exact Except.ok.inj (((accepts _ a).mpr left).symm.trans ((accepts _ b).mpr right))
    spelled := fun a => (accepts _ a).mpr ⟨[], _, [], by simp, nofun, nofun, spelled a⟩
    varied := by
      intro text other same a
      rw [accepts, accepts]
      exact padded_varied trimmed folded same }

/-- The spelling of a value, in any letter case. -/
def InAnyCase (spelling : α → String) (a : α) (inside : List Char) : Prop :=
  SameUpToCase inside (spelling a).toList

/-- Two words in any letter case, with at least one blank between them. -/
def Spaced (first second inside : List Char) : Prop :=
  ∃ front gap back, inside = front ++ gap ++ back ∧ SameUpToCase front first ∧
    (Blank gap ∧ gap ≠ []) ∧ SameUpToCase back second

theorem Spaced.trim_eq {inside : List Char} (spaced : Spaced first second inside)
    (unbrokenFirst : Unbroken first) (unbrokenSecond : Unbroken second) : trim inside = inside := by
  obtain ⟨front, gap, back, rfl, sameFront, -, sameBack⟩ := spaced
  exact (sameFront.unbroken unbrokenFirst).trim_append (sameBack.unbroken unbrokenSecond)

theorem Spaced.fold {inside outside : List Char} (spaced : Spaced first second outside)
    (same : SameUpToCase inside outside) : Spaced first second inside := by
  obtain ⟨front, gap, back, rfl, sameFront, ⟨blank, present⟩, sameBack⟩ := spaced
  obtain ⟨opening, back', rfl, sameOpening, sameBack'⟩ := same.exists_append
  obtain ⟨front', gap', rfl, sameFront', sameGap⟩ := sameOpening.exists_append
  refine ⟨front', gap', back', rfl, sameFront'.trans sameFront, ⟨sameGap.blank blank, ?_⟩,
    sameBack'.trans sameBack⟩
  rintro rfl
  exact present (List.forall₂_nil_left_iff.mp sameGap)

theorem Reads.in_any_case {fold : List Char → List Char} (complete : ∀ a, a ∈ all)
    (distinct : ∀ a ∈ all, ∀ b ∈ all, spelling a = spelling b → a = b)
    (unbroken : ∀ a, Unbroken (spelling a).toList)
    (folds : ∀ {text word}, SameUpToCase text word ↔ fold text = fold word)
    (folded : ∀ a, fold (spelling a).toList = (spelling a).toList)
    (result : ∀ text, read text =
      (spelled? spelling all (fold (trim text.toList))).elim (.error (refusal text)) .ok) :
    Reads read spelling (InAnyCase spelling) refusal := by
  have trimmed {a : α} {inside : List Char} (same : InAnyCase spelling a inside) :
      trim inside = inside := (same.unbroken (unbroken a)).trim_eq
  refine .of_spelled complete distinct result (fun text a => ?_) trimmed
    (fun same outside => same.trans outside) fun a => SameUpToCase.refl _
  rw [padded_iff trimmed, InAnyCase, folds, folded, eq_comm]

theorem words_eq_singleton_iff :
    words text = [first] ↔ Unbroken first ∧ Padded (· = first) text := by
  rw [words_eq_cons_iff]
  constructor
  · rintro ⟨before, rest, spelled, blankBefore, unbroken, -, wordless⟩
    exact ⟨unbroken, before, first, rest, spelled, blankBefore, words_eq_nil_iff.mp wordless, rfl⟩
  · rintro ⟨unbroken, before, inside, after, spelled, blankBefore, blankAfter, same⟩
    rw [same] at spelled
    exact ⟨before, after, spelled, blankBefore, unbroken, breaks_of_blank blankAfter,
      words_eq_nil_iff.mpr blankAfter⟩

theorem words_eq_pair_iff : words text = [first, second] ↔ Unbroken first ∧ Unbroken second ∧
    Padded (fun inside => ∃ gap, inside = first ++ gap ++ second ∧ Blank gap ∧ gap ≠ []) text := by
  rw [words_eq_cons_iff]
  constructor
  · rintro ⟨before, rest, rfl, blankBefore, unbroken, breaks, alone⟩
    obtain ⟨unbrokenSecond, gap, inside, after, rfl, blankGap, blankAfter, same⟩ :=
      words_eq_singleton_iff.mp alone
    rw [same] at breaks ⊢
    refine ⟨unbroken, unbrokenSecond, before, first ++ gap ++ second, after, by simp, blankBefore,
      blankAfter, gap, rfl, blankGap, ?_⟩
    rintro rfl
    exact unbrokenSecond.not_breaks breaks
  · rintro ⟨unbroken, unbrokenSecond, before, -, after, rfl, blankBefore, blankAfter, gap, rfl,
      blankGap, present⟩
    refine ⟨before, gap ++ (second ++ after), by simp, blankBefore, unbroken,
      breaks_append_of_blank blankGap present, ?_⟩
    rw [words_append blankGap]
    exact words_eq_singleton_iff.mpr
      ⟨unbrokenSecond, [], second, after, rfl, nofun, blankAfter, rfl⟩

theorem lowerCase_intercalate (parts : List (List Char)) :
    lowerCase ([' '].intercalate parts) = [' '].intercalate (parts.map lowerCase) := by
  induction parts with
  | nil => rfl
  | cons part parts ih =>
      cases parts with
      | nil => simp
      | cons next parts =>
          rw [List.map_cons, List.map_cons, List.intercalate_cons_cons, List.intercalate_cons_cons,
            ← List.map_cons, ← ih]
          simp [lowerCase]

theorem map_lowerCase_words_eq_singleton_iff (lower : lowerCase first = first)
    (unbroken : Unbroken first) :
    (words text).map lowerCase = [first] ↔ Padded (SameUpToCase · first) text := by
  have sameFirst {front : List Char} : SameUpToCase front first ↔ lowerCase front = first := by
    rw [sameUpToCase_iff_lowerCase, lower]
  rw [List.map_eq_singleton_iff]
  constructor
  · rintro ⟨front, cut, low⟩
    obtain ⟨-, before, inside, after, spelled, blankBefore, blankAfter, same⟩ :=
      words_eq_singleton_iff.mp cut
    exact ⟨before, inside, after, spelled, blankBefore, blankAfter, same ▸ sameFirst.mpr low⟩
  · rintro ⟨before, front, after, spelled, blankBefore, blankAfter, same⟩
    have cut : words text = [front] := words_eq_singleton_iff.mpr
      ⟨same.unbroken unbroken, before, front, after, spelled, blankBefore, blankAfter, rfl⟩
    exact ⟨front, cut, sameFirst.mp same⟩

theorem map_lowerCase_words_eq_pair_iff (lowerFirst : lowerCase first = first)
    (lowerSecond : lowerCase second = second) (unbrokenFirst : Unbroken first)
    (unbrokenSecond : Unbroken second) :
    (words text).map lowerCase = [first, second] ↔ Padded (Spaced first second) text := by
  have sameFirst {front : List Char} : SameUpToCase front first ↔ lowerCase front = first := by
    rw [sameUpToCase_iff_lowerCase, lowerFirst]
  have sameSecond {back : List Char} : SameUpToCase back second ↔ lowerCase back = second := by
    rw [sameUpToCase_iff_lowerCase, lowerSecond]
  constructor
  · intro low
    obtain ⟨front, later, cut, lowFront, lowLater⟩ := List.map_eq_cons_iff.mp low
    obtain ⟨back, rfl, lowBack⟩ := List.map_eq_singleton_iff.mp lowLater
    obtain ⟨-, -, before, inside, after, spelled, blankBefore, blankAfter, gap, whole, apart⟩ :=
      words_eq_pair_iff.mp cut
    exact ⟨before, inside, after, spelled, blankBefore, blankAfter, front, gap, back, whole,
      sameFirst.mpr lowFront, apart, sameSecond.mpr lowBack⟩
  · rintro ⟨before, inside, after, spelled, blankBefore, blankAfter, front, gap, back, whole,
      sameFront, apart, sameBack⟩
    have cut : words text = [front, back] := words_eq_pair_iff.mpr
      ⟨sameFront.unbroken unbrokenFirst, sameBack.unbroken unbrokenSecond, before, inside, after,
        spelled, blankBefore, blankAfter, gap, whole, apart⟩
    rw [cut, List.map_cons, List.map_singleton, sameFirst.mp sameFront, sameSecond.mp sameBack]

end Text

namespace Operator

open Text

variable {op : Operator} {text : String}

/-- The spelling in any letter case, and if it is two words, with one blank or more between them. -/
def Written : Operator → List Char → Prop
  | containsKey => Spaced "contains".toList "key".toList
  | op => InAnyCase spelling op

theorem written_of_ne (single : op ≠ containsKey) : op.Written = InAnyCase spelling op := by
  cases op with
  | containsKey => exact absurd rfl single
  | _ => rfl

theorem words_spelling (single : op ≠ containsKey) :
    words op.spelling.toList = [op.spelling.toList] := by
  cases op with
  | containsKey => exact absurd rfl single
  | _ => decide

theorem unbroken_spelling (single : op ≠ containsKey) : Unbroken op.spelling.toList :=
  words_eq_self_iff.mp (words_spelling single)

theorem lowerCase_spelling (op : Operator) : lowerCase op.spelling.toList = op.spelling.toList := by
  cases op <;> decide

theorem unbroken_contains : Unbroken "contains".toList :=
  words_eq_self_iff.mp (by decide)

theorem unbroken_key : Unbroken "key".toList :=
  words_eq_self_iff.mp (by decide)

theorem intercalate_words_spelling (op : Operator) :
    [' '].intercalate (words op.spelling.toList) = op.spelling.toList := by
  cases op <;> decide

theorem spelling_eq_normalized_iff : op.spelling.toList = normalized text ↔
    (words text.toList).map lowerCase = words op.spelling.toList := by
  rw [normalized, lowerCase_intercalate]
  constructor
  · intro spelled
    rw [spelled, words_intercalate]
    intro part member
    obtain ⟨word, found, rfl⟩ := List.mem_map.mp member
    exact (sameUpToCase_lowerCase word).unbroken (unbroken_of_mem_words found)
  · intro same
    rw [same, intercalate_words_spelling]

theorem spelling_eq_normalized_iff_padded :
    op.spelling.toList = normalized text ↔ Padded op.Written text.toList := by
  rw [spelling_eq_normalized_iff]
  -- The grammar of one operator alone has two words in it.
  by_cases single : op = containsKey
  · rw [single]
    exact map_lowerCase_words_eq_pair_iff (by decide) (by decide) unbroken_contains unbroken_key
  · rw [written_of_ne single, words_spelling single]
    exact map_lowerCase_words_eq_singleton_iff (lowerCase_spelling op) (unbroken_spelling single)

theorem reads : Reads ofString? spelling Written .unknownOperator := by
  refine .of_spelled mem_all (by decide) (fun text => ?_)
    (fun text op => spelling_eq_normalized_iff_padded) ?_ ?_ ?_
  · rw [ofString?]
    cases spelled? spelling all (normalized text) <;> rfl
  · intro op inside written
    by_cases single : op = containsKey
    · rw [single] at written
      exact written.trim_eq unbroken_contains unbroken_key
    · rw [written_of_ne single] at written
      exact (written.unbroken (unbroken_spelling single)).trim_eq
  · intro op inside outside same written
    by_cases single : op = containsKey
    · rw [single] at written ⊢
      exact written.fold same
    · rw [written_of_ne single] at written ⊢
      exact same.trans written
  · intro op
    cases op with
    | containsKey =>
        have blank : Blank [' '] := List.forall_mem_singleton.mpr rfl
        exact ⟨_, [' '], _, rfl, .refl "contains".toList, ⟨blank, List.cons_ne_nil _ _⟩,
          .refl "key".toList⟩
    | _ => exact SameUpToCase.refl _

end Operator

namespace Collection.Kind

open Text

theorem mem_all (kind : Kind) : kind ∈ all := by
  cases kind <;> decide

theorem unbroken_name (kind : Kind) : Unbroken kind.name.toList :=
  words_eq_self_iff.mp (by cases kind <;> decide)

theorem lowerCase_name (kind : Kind) : lowerCase kind.name.toList = kind.name.toList := by
  cases kind <;> decide

theorem reads : Reads ofString? name (InAnyCase name) .unknownKind := by
  refine .in_any_case mem_all (by decide) unbroken_name sameUpToCase_iff_lowerCase lowerCase_name
    fun text => ?_
  rw [ofString?]
  cases spelled? name all (lowerCase (trim text.toList)) <;> rfl

end Collection.Kind

namespace Consistency

open Text

theorem unbroken_name (level : Consistency) : Unbroken level.name.toList :=
  words_eq_self_iff.mp (by cases level <;> decide)

theorem upperCase_name (level : Consistency) : upperCase level.name.toList = level.name.toList := by
  cases level <;> decide

theorem reads : Reads parse name (InAnyCase name) (.invalid "consistency") := by
  refine .in_any_case mem_levels (by decide) unbroken_name sameUpToCase_iff_upperCase upperCase_name
    fun text => ?_
  rw [parse, ofString?]
  cases spelled? name levels (upperCase (trim text.toList)) <;> rfl

end Consistency

namespace Delta

open Text

def Written (delta : Delta) (inside : List Char) : Prop :=
  inside = delta.spelling.toList

theorem mem_all (delta : Delta) : delta ∈ all := by
  cases delta <;> decide

theorem unbroken_spelling (delta : Delta) : Unbroken delta.spelling.toList :=
  words_eq_self_iff.mp (by cases delta <;> decide)

theorem written_of_sameUpToCase {delta : Delta} {inside : List Char}
    (same : SameUpToCase inside delta.spelling.toList) : delta.Written inside := by
  have sign {c d : Char} (sign : d.toNat < 65) (same : SameLetter c d) : c = d := by
    rcases same with same | ⟨low, high, small⟩ | ⟨low, high, small⟩
    · exact same
    · omega
    · omega
  cases delta with
  | add =>
      obtain ⟨c, _, here, there, rfl⟩ := List.forall₂_cons_right_iff.mp same
      rw [List.forall₂_nil_right_iff.mp there, sign (by decide) here]
      rfl
  | remove =>
      obtain ⟨c, _, here, there, rfl⟩ := List.forall₂_cons_right_iff.mp same
      rw [List.forall₂_nil_right_iff.mp there, sign (by decide) here]
      rfl

theorem reads : Reads ofString? spelling Written
    fun text => .unknownOperator (String.ofList (trim text.toList)) := by
  have result (text : String) : ofString? text = (spelled? spelling all (trim text.toList)).elim
      (.error (.unknownOperator (String.ofList (trim text.toList)))) .ok := by
    rw [ofString?]
    cases spelled? spelling all (trim text.toList) <;> rfl
  have trimmed {delta : Delta} {inside : List Char} (written : delta.Written inside) :
      trim inside = inside := by
    rw [written, (unbroken_spelling delta).trim_eq]
  refine .of_spelled mem_all (by decide) result (fun text delta => ?_) trimmed ?_ fun _ => rfl
  · rw [padded_iff trimmed, Written, eq_comm]
  · rintro delta inside - same rfl
    exact written_of_sameUpToCase same

end Delta

/-- The keywords of queries and settings are read in any letter case and with blanks around them,
the signs of a delta with blanks around them; every other text is refused. -/
theorem keywords_read_by_grammar :
    Text.Reads Operator.ofString? Operator.spelling Operator.Written .unknownOperator ∧
    Text.Reads Collection.Kind.ofString? Collection.Kind.name (Text.InAnyCase Collection.Kind.name)
      .unknownKind ∧
    Text.Reads Consistency.parse Consistency.name (Text.InAnyCase Consistency.name)
      (.invalid "consistency") ∧
    Text.Reads Delta.ofString? Delta.spelling Delta.Written
      fun text => .unknownOperator (String.ofList (Text.trim text.toList)) :=
  ⟨Operator.reads, Collection.Kind.reads, Consistency.reads, Delta.reads⟩

example : Operator.ofString? "\u2003CONTAINS\t key" = .ok .containsKey := by decide

end WideColumn
