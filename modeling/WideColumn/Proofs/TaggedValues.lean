import WideColumn.Proofs.DecimalText
import WideColumn.Proofs.TimestampText
import WideColumn.Value.Tagged

namespace WideColumn

namespace Uuid

theorem spread_cons_cons {α : Type} (separator : α) (size next : Nat) (sizes : List Nat)
    (items : List α) :
    spread separator (size :: next :: sizes) items =
      items.take size ++ separator :: spread separator (next :: sizes) (items.drop size) := by
  rw [spread]
  exact List.cons_ne_nil _ _

theorem gather_cons_cons (separator : Char) (size next : Nat) (sizes : List Nat)
    (text : List Char) :
    gather separator (size :: next :: sizes) text =
      (Text.expect separator (text.drop size)).bind fun rest =>
        (gather separator (next :: sizes) rest).bind fun later => some (text.take size ++ later) := by
  rw [gather]
  · rfl
  · exact List.cons_ne_nil _ _

theorem length_spread {α : Type} (separator : α) {sizes : List Nat} {items : List α}
    (full : items.length = sizes.sum) :
    (spread separator sizes items).length = items.length + (sizes.length - 1) := by
  induction sizes generalizing items with
  | nil => simp_all [spread]
  | cons size sizes ih =>
      cases sizes with
      | nil =>
          rw [List.sum_singleton] at full
          simp [spread, full]
      | cons next sizes =>
          rw [List.sum_cons] at full
          have rest : (items.drop size).length = (next :: sizes).sum := by
            rw [List.length_drop]
            omega
          have taken : (items.take size).length = size := by
            rw [List.length_take]
            omega
          rw [spread_cons_cons, List.length_append, List.length_cons, ih rest, taken, rest, full]
          simp only [List.length_cons]
          omega

theorem gather_spread {separator : Char} {sizes : List Nat} {text : List Char}
    (full : text.length = sizes.sum) :
    gather separator sizes (spread separator sizes text) = some text := by
  induction sizes generalizing text with
  | nil =>
      have vacant : text = [] := List.eq_nil_of_length_eq_zero full
      rw [vacant]
      rfl
  | cons size sizes ih =>
      cases sizes with
      | nil =>
          rw [List.sum_singleton] at full
          simp [spread, gather, full, List.take_of_length_le (Nat.le_of_eq full)]
      | cons next sizes =>
          rw [List.sum_cons] at full
          have rest : (text.drop size).length = (next :: sizes).sum := by
            rw [List.length_drop]
            omega
          have taken : (text.take size).length = size := by
            rw [List.length_take]
            omega
          rw [spread_cons_cons, gather_cons_cons, List.drop_left' taken, List.take_left' taken,
            Text.expect_cons_self]
          refine bind_of_eq_some rfl (bind_of_eq_some (ih rest) ?_)
          rw [List.take_append_drop]

theorem ofSimple?_hexDigits (id : Uuid) :
    ofSimple? (id.digits.map Text.hexDigit) = some id := by
  have read := mapM_map_eq_some Text.hexValue?_hexDigit id.digits
  rw [List.map_id'] at read
  exact bind_of_eq_some read (dif_pos id.length_digits)

theorem ofChars?_toChars (id : Uuid) : ofChars? id.toChars = some id := by
  have full : (id.digits.map Text.hexDigit).length = groups.sum := by
    rw [List.length_map, id.length_digits]
    rfl
  have length : id.toChars.length = 36 := by
    rw [toChars, length_spread '-' full, List.length_map, id.length_digits]
    rfl
  rw [ofChars?, if_neg (by omega), if_pos length, ofHyphenated?, toChars, gather_spread full]
  exact ofSimple?_hexDigits id

end Uuid

namespace Value

def settled : Value → Value
  | decimal x => decimal x.settled
  | v => v

theorem int?_toInt (n : Int64) : int? n.toInt = some (int n) := by
  have low := n.le_toInt
  have high := n.toInt_lt
  rw [int?, if_pos (by omega), Int64.ofInt_toInt]

theorem ofTagged?_tagged (v : Value) : ofTagged? v.tagged = some v.settled := by
  cases v with
  | text s => rfl
  | int n => exact int?_toInt n
  | boolean b => rfl
  | timestamp t =>
      simp [tagged, ofTagged?, Timestamp.ofString?, Timestamp.toString, Timestamp.ofChars?_toChars,
        settled]
  | uuid id =>
      simp [tagged, ofTagged?, Uuid.ofString?, Uuid.toString, Uuid.ofChars?_toChars, settled]
  | decimal x =>
      simp [tagged, ofTagged?, Decimal.ofString?, Decimal.toString, Decimal.ofChars?_toChars,
        settled]

theorem settled_of_map_decimal {read : Option Decimal} {v : Value}
    (settles : ∀ x, read = some x → x.settled = x ∨ x = Decimal.negativeZero)
    (taken : read.map decimal = some v) : v.settled = v ∨ v = decimal Decimal.negativeZero := by
  obtain ⟨x, read, rfl⟩ := Option.map_eq_some_iff.mp taken
  rcases settles x read with settled | lost
  · exact .inl (congrArg decimal settled)
  · exact .inr (congrArg decimal lost)

theorem settled_of_ofTagged? {t : Tagged} {v : Value} (read : ofTagged? t = some v) :
    v.settled = v ∨ v = decimal Decimal.negativeZero := by
  -- Only the three ways to write a decimal can give a zero with a sign.
  unfold ofTagged? at read
  split at read
  case h_1 =>
    cases read
    exact .inl rfl
  case h_2 =>
    unfold int? at read
    split at read
    · cases read
      exact .inl rfl
    · cases read
  case h_3 =>
    cases read
    exact .inl rfl
  case h_4 =>
    obtain ⟨t, -, rfl⟩ := Option.map_eq_some_iff.mp read
    exact .inl rfl
  case h_5 =>
    obtain ⟨id, -, rfl⟩ := Option.map_eq_some_iff.mp read
    exact .inl rfl
  case h_6 => exact settled_of_map_decimal (fun _ => Decimal.settled_of_ofChars?) read
  case h_7 n => exact settled_of_map_decimal (fun _ => Decimal.settled_of_ofInt?) read
  case h_8 x =>
    refine settled_of_map_decimal (fun y shortest => ?_) read
    obtain ⟨binary, -, shortest⟩ := Option.bind_eq_some_iff.mp shortest
    exact Decimal.settled_of_ofChars? shortest
  case h_9 => cases read

/-- A zero with a sign, at any scale. -/
def SignedZero (v : Value) : Prop :=
  ∃ x, v = decimal x ∧ x.negative = true ∧ x.magnitude = 0

theorem settled_eq_iff {v : Value} : v.settled = v ↔ ¬v.SignedZero := by
  constructor
  · rintro same ⟨x, rfl, negative, zero⟩
    have unsigned : x.settled.negative = x.negative := by rw [decimal.inj same]
    simp [Decimal.settled, negative, zero] at unsigned
  · intro other
    cases v with
    | decimal x =>
        exact congrArg decimal (Decimal.settled_eq fun zero => other ⟨x, rfl, zero.1, zero.2⟩)
    | _ => rfl

theorem ofTagged?_negativeZero :
    ofTagged? ⟨"Decimal", .text "-0.1e-28"⟩ = some (decimal Decimal.negativeZero) := by
  decide +kernel

theorem exists_ofTagged?_iff {v : Value} :
    (∃ t, ofTagged? t = some v) ↔ ¬v.SignedZero ∨ v = decimal Decimal.negativeZero := by
  rw [← settled_eq_iff]
  constructor
  · rintro ⟨t, read⟩
    exact settled_of_ofTagged? read
  · rintro (settled | rfl)
    · refine ⟨v.tagged, ?_⟩
      rw [ofTagged?_tagged, settled]
    · exact ⟨_, ofTagged?_negativeZero⟩

/-- All values are read from some tagged form but the zeros with a sign, and of these only the one
that rounding leaves is.  What is written for a value is read back as it, whatever it was read from,
so the tagged form is the normal form of all spellings.  The zero that rounding leaves loses its
sign. -/
theorem tagged_normal (v : Value) :
    ((∃ t, ofTagged? t = some v) ↔ ¬v.SignedZero ∨ v = decimal Decimal.negativeZero) ∧
    (¬v.SignedZero → ofTagged? v.tagged = some v) ∧
    ∀ t, ofTagged? t = some v →
      ∃ w, ofTagged? v.tagged = some w ∧ ofTagged? w.tagged = some w ∧ v.same w = true ∧
        (v ≠ decimal Decimal.negativeZero → w = v) ∧
        (v = decimal Decimal.negativeZero →
          w = decimal ⟨false, 0, Decimal.greatestScale, by decide, by decide⟩) := by
  have again : v.settled.settled = v.settled := by
    cases v with
    | decimal x => exact congrArg decimal x.settled_settled
    | _ => rfl
  have same : v.same v.settled = true := by
    cases v with
    | decimal x => exact x.sameNumber_settled
    | _ => exact same_self _
  refine ⟨exists_ofTagged?_iff, ?_, fun t read => ?_⟩
  · intro other
    rw [ofTagged?_tagged, settled_eq_iff.mpr other]
  · refine ⟨v.settled, v.ofTagged?_tagged, ?_, same, ?_, ?_⟩
    · rw [ofTagged?_tagged, again]
    · exact fun kept => (settled_of_ofTagged? read).resolve_right kept
    · rintro rfl
      rfl

theorem tagged_normal_spellings :
    (∃ v, ofTagged? ⟨"Decimal", .text "-1_2.50e-3"⟩ = some v ∧
      v.tagged = ⟨"Decimal", .text "-0.01250"⟩ ∧ ofTagged? v.tagged = some v) ∧
    ∃ v, ofTagged? ⟨"Timestamp", .text "2017-01-01t01:59:60.5+02:00"⟩ = some v ∧
      v.tagged = ⟨"Timestamp", .text "2016-12-31T23:59:60.500Z"⟩ ∧ ofTagged? v.tagged = some v ∧
      ¬v.SignedZero := by
  constructor
  · have read : ofTagged? ⟨"Decimal", .text "-1_2.50e-3"⟩ =
        some (decimal ⟨true, 1250, 5, by decide, by decide⟩) := by decide +kernel
    obtain ⟨w, again, -, -, kept, -⟩ := (tagged_normal _).2.2 _ read
    refine ⟨_, read, by decide +kernel, ?_⟩
    rwa [kept (by decide)] at again
  · have read : ofTagged? ⟨"Timestamp", .text "2017-01-01t01:59:60.5+02:00"⟩ =
        some (timestamp ⟨⟨2016, 12, 31, by decide, by decide, by decide, by decide, by decide,
          by decide⟩, 23, 59, 60, 500000000, by decide, by decide, by decide, by decide⟩) := by
      decide +kernel
    have other := ((tagged_normal _).1.mp ⟨_, read⟩).resolve_right (by decide)
    exact ⟨_, read, by decide +kernel, (tagged_normal _).2.1 other, other⟩

/-- The sign that a rounded number leaves on a zero is written, and is not read back. -/
theorem tagged_negativeZero_unsigned :
    ∃ v w, ofTagged? ⟨"Decimal", .text "-0.1e-28"⟩ = some v ∧ ofTagged? v.tagged = some w ∧
      w ≠ v ∧ w.literal ≠ v.literal ∧ w.tagged ≠ v.tagged :=
  ⟨decimal Decimal.negativeZero, decimal Decimal.negativeZero.settled, by decide +kernel,
    by decide +kernel, by decide +kernel, by decide +kernel, by decide +kernel⟩

end Value

end WideColumn
