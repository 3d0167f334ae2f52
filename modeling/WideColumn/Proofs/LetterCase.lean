import Mathlib
import WideColumn.Proofs.Blanks

namespace WideColumn.Text

def CasePair (capital small : Char) : Prop :=
  65 ≤ capital.toNat ∧ capital.toNat ≤ 90 ∧ small.toNat = capital.toNat + 32

/-- The same character, or the same ASCII letter in the other case. -/
def SameLetter (c d : Char) : Prop :=
  c = d ∨ CasePair c d ∨ CasePair d c

/-- The same text, but for the case of ASCII letters. -/
def SameUpToCase : List Char → List Char → Prop :=
  List.Forall₂ SameLetter

variable {c d : Char} {text word : List Char}

theorem isUpper_iff : c.isUpper = true ↔ 65 ≤ c.toNat ∧ c.toNat ≤ 90 := by
  rw [Char.isUpper, decide_eq_true_eq]
  exact Iff.rfl

theorem toNat_toLower (c : Char) : c.toLower.toNat =
    if 65 ≤ c.toNat ∧ c.toNat ≤ 90 then c.toNat + 32 else c.toNat := by
  by_cases capital : c.isUpper
  · have within := isUpper_iff.mp capital
    have valid : (c.toNat + 32).isValidChar := .inl (by omega)
    rw [Char.toLower_eq_of_isUpper capital, Char.toNat_ofNat, if_pos valid, if_pos within]
  · rw [Char.toLower_eq_of_not_isUpper capital, if_neg (mt isUpper_iff.mpr capital)]

theorem sameLetter_iff_toLower : SameLetter c d ↔ c.toLower = d.toLower := by
  rw [← Char.toNat_inj, toNat_toLower, toNat_toLower, SameLetter, CasePair, CasePair,
    ← Char.toNat_inj]
  split_ifs <;> omega

theorem sameLetter_iff_toUpper : SameLetter c d ↔ c.toUpper = d.toUpper := by
  rw [sameLetter_iff_toLower]
  constructor
  · intro same
    rw [← Char.toUpper_toLower_eq_toUpper c, same, Char.toUpper_toLower_eq_toUpper]
  · intro same
    rw [← Char.toLower_toUpper_eq_toLower c, same, Char.toLower_toUpper_eq_toLower]

theorem sameUpToCase_iff_map {fold : Char → Char}
    (folds : ∀ {c d}, SameLetter c d ↔ fold c = fold d) :
    SameUpToCase text word ↔ text.map fold = word.map fold := by
  rw [← List.forall₂_eq_eq_eq, List.forall₂_map_left_iff, List.forall₂_map_right_iff]
  exact ⟨List.Forall₂.imp fun _ _ => folds.mp, List.Forall₂.imp fun _ _ => folds.mpr⟩

theorem sameUpToCase_iff_lowerCase : SameUpToCase text word ↔ lowerCase text = lowerCase word :=
  sameUpToCase_iff_map sameLetter_iff_toLower

theorem sameUpToCase_iff_upperCase : SameUpToCase text word ↔ upperCase text = upperCase word :=
  sameUpToCase_iff_map sameLetter_iff_toUpper

theorem sameUpToCase_lowerCase (text : List Char) : SameUpToCase (lowerCase text) text := by
  rw [lowerCase, SameUpToCase, List.forall₂_map_left_iff, List.forall₂_same]
  intro c member
  exact sameLetter_iff_toLower.mpr (Char.toLower_toLower_eq_toLower c)

theorem isBlank_eq_of_sameLetter (same : SameLetter c d) : isBlank c = isBlank d := by
  have letter {e : Char} (low : 65 ≤ e.toNat) (high : e.toNat ≤ 122) : isBlank e = false := by
    simp [isBlank]
    omega
  rcases same with rfl | ⟨low, high, small⟩ | ⟨low, high, small⟩
  · rfl
  · rw [letter low (by omega), letter (by omega) (by omega)]
  · rw [letter (by omega) (by omega), letter low (by omega)]

namespace SameUpToCase

theorem refl (text : List Char) : SameUpToCase text text :=
  sameUpToCase_iff_lowerCase.mpr rfl

theorem symm (same : SameUpToCase text word) : SameUpToCase word text :=
  sameUpToCase_iff_lowerCase.mpr (sameUpToCase_iff_lowerCase.mp same).symm

theorem trans {other : List Char} (first : SameUpToCase text word)
    (second : SameUpToCase word other) : SameUpToCase text other :=
  sameUpToCase_iff_lowerCase.mpr
    ((sameUpToCase_iff_lowerCase.mp first).trans (sameUpToCase_iff_lowerCase.mp second))

theorem skipBlanks (same : SameUpToCase text word) :
    SameUpToCase (skipBlanks text) (Text.skipBlanks word) := by
  induction same with
  | nil => exact .nil
  | @cons c d text word here there ih =>
      have alike := isBlank_eq_of_sameLetter here
      cases blank : isBlank d with
      | true => simpa [Text.skipBlanks, alike, blank] using ih
      | false =>
          simp only [Text.skipBlanks, List.dropWhile_cons, alike, blank]
          exact .cons here there

theorem trim (same : SameUpToCase text word) : SameUpToCase (trim text) (Text.trim word) := by
  have reversed := List.rel_reverse same.skipBlanks
  exact List.rel_reverse (SameUpToCase.skipBlanks reversed)

theorem unbroken (same : SameUpToCase text word) (unbroken : Unbroken word) : Unbroken text := by
  obtain ⟨present, whole⟩ := unbroken
  constructor
  · rintro rfl
    exact present (List.forall₂_nil_left_iff.mp same)
  · clear present
    induction same with
    | nil => exact nofun
    | @cons c d text word here there ih =>
        obtain ⟨solid, whole⟩ := List.forall_mem_cons.mp whole
        exact List.forall_mem_cons.mpr ⟨(isBlank_eq_of_sameLetter here).trans solid, ih whole⟩

theorem blank (same : SameUpToCase text word) (blank : Blank word) : Blank text := by
  have skipped := same.skipBlanks
  rw [skipBlanks_eq_nil.mpr blank] at skipped
  exact skipBlanks_eq_nil.mp (List.forall₂_nil_right_iff.mp skipped)

theorem exists_append {first second : List Char} (same : SameUpToCase text (first ++ second)) :
    ∃ front back, text = front ++ back ∧ SameUpToCase front first ∧ SameUpToCase back second :=
  ⟨text.take first.length, text.drop first.length, (List.take_append_drop _ _).symm,
    List.forall₂_take_append _ _ _ same, List.forall₂_drop_append _ _ _ same⟩

end SameUpToCase

end WideColumn.Text
