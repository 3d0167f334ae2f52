import Mathlib.Algebra.Ring.Nat
import WideColumn.Proofs.Legible
import WideColumn.Text.Blank
import WideColumn.Text.Digits

namespace WideColumn

theorem bind_of_eq_some {α β : Type} {x : Option α} {a : α} {f : α → Option β} {result : Option β}
    (read : x = some a) (later : f a = result) : (x >>= f) = result := by
  rw [read]
  exact later

/-- What is written item by item is read item by item. -/
theorem mapM_map_eq_some {α β γ : Type} {write : α → β} {read : β → Option γ} {kept : α → γ}
    (reads : ∀ a, read (write a) = some (kept a)) (items : List α) :
    (items.map write).mapM read = some (items.map kept) := by
  induction items with
  | nil => rfl
  | cons a items ih =>
      rw [List.map_cons, List.mapM_cons, reads, ih]
      rfl

theorem Breaks.take {inside : Char → Bool} {text : List Char} (breaks : Breaks inside text)
    (n : Nat) : Breaks inside (text.take n) := by
  cases text with
  | nil => simp
  | cons c rest =>
      cases n with
      | zero => simp
      | succ n => simpa using breaks

namespace Text

theorem isBlank_of_isDigit {c : Char} (digit : c.isDigit = true) : isBlank c = false := by
  simp only [Char.isDigit, Bool.and_eq_true, decide_eq_true_eq, ge_iff_le,
    UInt32.le_iff_toNat_le] at digit
  have low : 48 ≤ c.toNat := digit.1
  have high : c.toNat ≤ 57 := digit.2
  simp [isBlank]
  omega

theorem skipBlanks_of_breaks {text : List Char} (breaks : Breaks isBlank text) :
    skipBlanks text = text := by
  cases text with
  | nil => rfl
  | cons c rest => simp [skipBlanks, breaks_cons.mp breaks]

theorem ofDigits_append (left right : List Char) :
    ofDigits (left ++ right) = 10 ^ right.length * ofDigits left + ofDigits right := by
  rw [ofDigits, Nat.ofDigitChars_append, Nat.ofDigitChars_eq_ofDigitChars_zero]
  rfl

@[simp] theorem ofDigits_padded (width : Nat) (digits : List Char) :
    ofDigits (padded width digits) = ofDigits digits := by
  rw [padded, ofDigits_append, ofDigits, Nat.ofDigitChars_replicate_zero, Nat.mul_zero,
    Nat.mul_zero, Nat.zero_add]

theorem length_padded {width : Nat} {digits : List Char} (short : digits.length ≤ width) :
    (padded width digits).length = width := by
  rw [padded, List.length_append, List.length_replicate]
  omega

theorem le_length_padded (width : Nat) (digits : List Char) :
    width ≤ (padded width digits).length := by
  rw [padded, List.length_append, List.length_replicate]
  omega

theorem padded_ne_nil {width : Nat} {digits : List Char} (present : digits ≠ []) :
    padded width digits ≠ [] := by
  simp [padded, present]

theorem isDigit_of_mem_padded {width n : Nat} {c : Char} (member : c ∈ padded width (digitsOf n)) :
    c.isDigit = true := by
  rcases List.mem_append.mp member with zero | digit
  · rw [List.eq_of_mem_replicate zero]
    rfl
  · exact isDigit_of_mem_digitsOf digit

theorem length_digitsOf_le {n width : Nat} (positive : 0 < width) (below : n < 10 ^ width) :
    (digitsOf n).length ≤ width :=
  (Nat.length_toDigits_le_iff (by decide) positive).mpr below

theorem isDigit_of_padded_append_eq {width n : Nat} {c : Char} {rest later : List Char}
    (same : padded width (digitsOf n) ++ rest = c :: later) : c.isDigit = true := by
  cases spelled : padded width (digitsOf n) with
  | nil => exact absurd spelled (padded_ne_nil (digitsOf_ne_nil n))
  | cons d digits =>
      rw [spelled, List.cons_append] at same
      rw [← (List.cons.inj same).1]
      exact isDigit_of_mem_padded (by rw [spelled]; exact List.mem_cons_self)

theorem breaks_blank_padded {width : Nat} (n : Nat) {rest : List Char} :
    Breaks isBlank (padded width (digitsOf n) ++ rest) := by
  intro c first
  cases spelled : padded width (digitsOf n) ++ rest with
  | nil => simp [spelled] at first
  | cons d later =>
      rw [spelled, List.head?_cons, Option.mem_some_iff] at first
      rw [← first]
      exact isBlank_of_isDigit (isDigit_of_padded_append_eq spelled)

theorem readDigits_append {width : Nat} {digits rest : List Char} (present : digits ≠ [])
    (decimal : ∀ c ∈ digits, c.isDigit = true) (short : digits.length ≤ width)
    (breaks : Breaks Char.isDigit rest) :
    readDigits width (digits ++ rest) = some (ofDigits digits, rest) := by
  have run : ((digits ++ rest).take width).takeWhile Char.isDigit = digits := by
    rw [List.take_append, List.take_of_length_le short]
    exact takeWhile_of_breaks decimal (breaks.take _)
  unfold readDigits
  rw [run]
  split
  · exact absurd rfl present
  · simp

theorem readDigits_padded {width limit n : Nat} {rest : List Char}
    (short : (padded width (digitsOf n)).length ≤ limit) (breaks : Breaks Char.isDigit rest) :
    readDigits limit (padded width (digitsOf n) ++ rest) = some (n, rest) := by
  rw [readDigits_append (padded_ne_nil (digitsOf_ne_nil n)) (fun _ => isDigit_of_mem_padded) short
    breaks, ofDigits_padded, ofDigits_digitsOf]

end Text

end WideColumn
