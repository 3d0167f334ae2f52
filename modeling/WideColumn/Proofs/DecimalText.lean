import WideColumn.Decimal
import WideColumn.Proofs.Reading

namespace WideColumn

namespace Decimal

/-- The number as it is read back: a zero has no sign then. -/
def settled (x : Decimal) : Decimal :=
  { x with negative := x.negative && x.magnitude != 0 }

theorem settled_eq {x : Decimal} (unsettled : ¬(x.negative = true ∧ x.magnitude = 0)) :
    x.settled = x := by
  obtain ⟨negative, magnitude, scale, _, _⟩ := x
  cases negative with
  | false => rfl
  | true =>
      have nonzero : magnitude ≠ 0 := fun zero => unsettled ⟨rfl, zero⟩
      simp [settled, nonzero]

theorem settled_settled (x : Decimal) : x.settled.settled = x.settled := by
  simp [settled]

theorem sameNumber_settled (x : Decimal) : x.sameNumber x.settled = true := by
  by_cases unsettled : x.negative = true ∧ x.magnitude = 0
  · simp [sameNumber, mantissa, settled, unsettled.2]
  · rw [settled_eq unsettled]
    exact x.sameNumber_self

/-! Digits that fit are all taken: none is rounded off, and none is the one before a gap. -/

theorem scan_digit {point seen : Bool} {magnitude scale : Nat} {c : Char} {rest : List Char}
    (digit : c.isDigit = true)
    (fits : 10 * magnitude + digitValue c < limit)
    (short : (if point then scale + 1 else scale) ≤ greatestScale)
    (ungapped : rest.head? ≠ some '_') :
    scan point seen magnitude scale (c :: rest) =
      scan point true (10 * magnitude + digitValue c) (if point then scale + 1 else scale) rest := by
  rw [scan, if_pos digit]
  simp only
  rw [if_pos ⟨fits, short⟩, if_neg (fun gap => ungapped gap.2.2.2)]

theorem le_ofDigitChars (magnitude : Nat) (digits : List Char) :
    magnitude ≤ Nat.ofDigitChars 10 digits magnitude := by
  rw [Nat.ofDigitChars_eq_ofDigitChars_zero]
  have grown : magnitude ≤ 10 ^ digits.length * magnitude :=
    Nat.le_mul_of_pos_left _ (Nat.pow_pos (by decide))
  omega

theorem scan_digits (digits : List Char) (point seen : Bool) (magnitude scale : Nat)
    (rest : List Char) (decimal : ∀ c ∈ digits, c.isDigit = true)
    (fits : Nat.ofDigitChars 10 digits magnitude < limit)
    (short : (if point then scale + digits.length else scale) ≤ greatestScale)
    (ungapped : rest.head? ≠ some '_') :
    scan point seen magnitude scale (digits ++ rest) =
      scan point (seen || !digits.isEmpty) (Nat.ofDigitChars 10 digits magnitude)
        (if point then scale + digits.length else scale) rest := by
  induction digits generalizing seen magnitude scale with
  | nil => simp
  | cons c digits ih =>
      rw [Nat.ofDigitChars_cons] at fits ⊢
      have value : digitValue c = c.toNat - '0'.toNat := rfl
      -- The number grows with each digit, so the bound on all of it holds at every step.
      have next : 10 * magnitude + digitValue c < limit :=
        Nat.lt_of_le_of_lt (le_ofDigitChars _ digits) fits
      have follows : (digits ++ rest).head? ≠ some '_' := by
        cases digits with
        | nil => exact ungapped
        | cons d later =>
            intro gap
            cases gap
            exact absurd (decimal '_' (by simp)) (by decide)
      have places : (if point then (if point then scale + 1 else scale) + digits.length
            else if point then scale + 1 else scale) =
          if point then scale + (c :: digits).length else scale := by
        cases point with
        | false => rfl
        | true =>
            simp only [if_true, List.length_cons]
            omega
      have room : (if point then scale + 1 else scale) ≤ greatestScale := by
        refine Nat.le_trans ?_ short
        cases point with
        | false => exact Nat.le_refl _
        | true =>
            simp only [if_true, List.length_cons]
            omega
      rw [List.cons_append, scan_digit (decimal c List.mem_cons_self) next room follows,
        value, ih _ _ _ (fun d member => decimal d (List.mem_cons_of_mem _ member)) fits
          (by rwa [places]), places]
      simp

theorem scan_point {seen : Bool} {magnitude scale : Nat} {rest : List Char} :
    scan false seen magnitude scale ('.' :: rest) = scan true seen magnitude scale rest := by
  rw [scan, if_neg (by decide), if_pos ⟨rfl, rfl⟩]

theorem pointed_split {scale : Nat} (fractional : scale ≠ 0) (digits : List Char) :
    ∃ whole places, Text.pointed scale digits = whole ++ '.' :: places ∧
      whole ++ places = Text.padded (scale + 1) digits ∧ whole ≠ [] ∧ places.length = scale := by
  have long : scale < (Text.padded (scale + 1) digits).length := Text.le_length_padded _ _
  refine ⟨_, _, if_neg fractional, List.take_append_drop _ _, ?_, ?_⟩
  · apply List.ne_nil_of_length_pos
    rw [List.length_take]
    omega
  · rw [List.length_drop]
    omega

theorem scan_pointed {magnitude scale : Nat} (fits : magnitude < limit) (short : scale ≤ 28) :
    scan false false 0 0 (Text.pointed scale (Text.digitsOf magnitude)) =
      some (magnitude, scale) := by
  have value : Nat.ofDigitChars 10 (Text.padded (scale + 1) (Text.digitsOf magnitude)) 0 =
      magnitude := by
    rw [← Text.ofDigits, Text.ofDigits_padded, Text.ofDigits_digitsOf]
  by_cases integral : scale = 0
  · subst integral
    have read := scan_digits (Text.padded 1 (Text.digitsOf magnitude)) false false 0 0 []
      (fun _ => Text.isDigit_of_mem_padded) (by rwa [value]) (Nat.zero_le _) (by simp)
    rw [List.append_nil, value, List.isEmpty_eq_false_iff.mpr
      (Text.padded_ne_nil (Text.digitsOf_ne_nil magnitude))] at read
    exact read
  -- The point cuts the digits of the number in two, and the second part is read on from the first.
  · obtain ⟨whole, places, spelled, both, present, length⟩ :=
      pointed_split integral (Text.digitsOf magnitude)
    have decimal : ∀ c ∈ whole ++ places, c.isDigit = true := by
      rw [both]
      exact fun _ => Text.isDigit_of_mem_padded
    have joined : Nat.ofDigitChars 10 places (Nat.ofDigitChars 10 whole 0) = magnitude := by
      rw [← Nat.ofDigitChars_append, both, value]
    have below : Nat.ofDigitChars 10 whole 0 < limit := by
      refine Nat.lt_of_le_of_lt (le_ofDigitChars _ places) ?_
      rwa [joined]
    have readWhole := scan_digits whole false false 0 0 ('.' :: places)
      (fun c member => decimal c (List.mem_append_left _ member)) below (Nat.zero_le _) (by simp)
    have readPlaces := scan_digits places true true (Nat.ofDigitChars 10 whole 0) 0 []
      (fun c member => decimal c (List.mem_append_right _ member)) (by rwa [joined])
      (by rw [if_pos rfl, length, Nat.zero_add]; exact short) (by simp)
    rw [List.append_nil, joined, if_pos rfl, length, Nat.zero_add] at readPlaces
    rw [spelled, readWhole, List.isEmpty_eq_false_iff.mpr present, scan_point]
    exact readPlaces

theorem isDigit_of_pointed_eq {scale n : Nat} {c : Char} {rest : List Char}
    (spelled : Text.pointed scale (Text.digitsOf n) = c :: rest) : c.isDigit = true := by
  have digit {c : Char} {rest : List Char}
      (first : Text.padded (scale + 1) (Text.digitsOf n) = c :: rest) : c.isDigit = true := by
    apply Text.isDigit_of_mem_padded (n := n)
    rw [first]
    exact List.mem_cons_self
  by_cases integral : scale = 0
  · subst integral
    exact digit spelled
  · obtain ⟨whole, places, split, both, present, -⟩ := pointed_split integral (Text.digitsOf n)
    cases whole with
    | nil => exact absurd rfl present
    | cons d whole =>
        rw [split] at spelled
        cases spelled
        exact digit both.symm

theorem signed_of_digit {text : List Char} (digit : ∀ c rest, text = c :: rest → c.isDigit = true) :
    signed text = (false, text) := by
  unfold signed
  split
  · exact absurd (digit _ _ rfl) (by decide)
  · exact absurd (digit _ _ rfl) (by decide)
  · rfl

theorem signed_toChars (x : Decimal) :
    signed x.toChars = (x.negative, Text.pointed x.scale (Text.digitsOf x.magnitude)) := by
  unfold toChars
  cases x.negative with
  | true => rfl
  | false => exact signed_of_digit fun _ _ => isDigit_of_pointed_eq

theorem ofChars?_toChars (x : Decimal) : ofChars? x.toChars = some x.settled := by
  have plain : readPlain x.toChars = some ⟨x.settled.negative, x.magnitude, x.scale⟩ := by
    rw [readPlain, signed_toChars]
    simp only [scan_pointed x.magnitude_lt x.scale_le, Option.map_some]
    rfl
  rw [ofChars?, plain, Option.bind_some, ofParts?, dif_pos ⟨x.magnitude_lt, x.scale_le⟩]
  rfl

/-! A zero with a sign comes out of the reading in one way only: all digits of a negative number
are rounded off behind the last place, and then it has all places. -/

/-- The zero with a sign that can be read. -/
def negativeZero : Decimal :=
  ⟨true, 0, greatestScale, by decide, by decide⟩

def Parts.Filled (parts : Parts) : Prop :=
  parts.negative = true → parts.magnitude = 0 → parts.scale = greatestScale

theorem nonzero_of_readPlain {text : List Char} {parts : Parts} (read : readPlain text = some parts)
    (negative : parts.negative = true) : parts.magnitude ≠ 0 := by
  obtain ⟨⟨magnitude, scale⟩, -, rfl⟩ := Option.map_eq_some_iff.mp read
  intro zero
  change magnitude = 0 at zero
  simp [zero] at negative

theorem Filled.raise {parts raised : Parts} {places : Nat}
    (nonzero : parts.negative = true → parts.magnitude ≠ 0)
    (moved : raise parts places = some raised) : raised.Filled := by
  intro negative zero
  unfold Decimal.raise at moved
  split at moved
  · cases moved
    exact absurd zero (nonzero negative)
  · split at moved
    · cases moved
    · cases moved
      have factor : Nat.pow 10 (places - parts.scale) ≠ 0 := Nat.ne_of_gt (Nat.pow_pos (by decide))
      rcases Nat.mul_eq_zero.mp zero with gone | gone
      · exact absurd gone (nonzero negative)
      · exact absurd gone factor

theorem Filled.lower {parts lowered : Parts} {places : Nat}
    (nonzero : parts.negative = true → parts.magnitude ≠ 0)
    (moved : lower parts places = some lowered) : lowered.Filled := by
  intro negative zero
  unfold Decimal.lower at moved
  split at moved
  · cases moved
  · cases moved
    by_cases exact : parts.scale + places ≤ greatestScale
    · have none_lost : parts.scale + places - greatestScale = 0 := by omega
      simp only [none_lost] at zero
      exact absurd (by simpa using zero) (nonzero negative)
    · simp only
      omega

theorem filled_of_readScientific {text : List Char} {parts : Parts}
    (read : readScientific text = some parts) : parts.Filled := by
  unfold readScientific at read
  obtain ⟨exponent, -, read⟩ := Option.bind_eq_some_iff.mp read
  obtain ⟨base, plain, read⟩ := Option.bind_eq_some_iff.mp read
  have nonzero := nonzero_of_readPlain plain
  split at read
  · obtain ⟨places, -, moved⟩ := Option.bind_eq_some_iff.mp read
    exact Filled.lower nonzero moved
  · obtain ⟨places, -, moved⟩ := Option.bind_eq_some_iff.mp read
    exact Filled.raise nonzero moved

theorem settled_of_ofParts? {parts : Parts} {x : Decimal} (filled : parts.Filled)
    (read : ofParts? parts = some x) : x.settled = x ∨ x = negativeZero := by
  unfold ofParts? at read
  split at read
  · cases read
    by_cases unsettled : parts.negative = true ∧ parts.magnitude = 0
    · right
      simp only [unsettled, filled unsettled.1 unsettled.2]
      rfl
    · exact .inl (settled_eq unsettled)
  · cases read

theorem settled_of_ofChars? {text : List Char} {x : Decimal} (read : ofChars? text = some x) :
    x.settled = x ∨ x = negativeZero := by
  rcases Option.or_eq_some_iff.mp read with read | ⟨-, read⟩
  · obtain ⟨parts, plain, read⟩ := Option.bind_eq_some_iff.mp read
    exact settled_of_ofParts?
      (fun negative zero => absurd zero (nonzero_of_readPlain plain negative)) read
  · obtain ⟨parts, scientific, read⟩ := Option.bind_eq_some_iff.mp read
    exact settled_of_ofParts? (filled_of_readScientific scientific) read

theorem settled_of_ofInt? {n : Int} {x : Decimal} (read : ofInt? n = some x) :
    x.settled = x ∨ x = negativeZero := by
  refine settled_of_ofParts? (fun negative zero => ?_) read
  simp only [decide_eq_true_eq] at negative
  simp only at zero
  omega

end Decimal

end WideColumn
