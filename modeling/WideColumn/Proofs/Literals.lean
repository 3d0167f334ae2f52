import WideColumn.Value

namespace WideColumn

/-- The characters that literals without quotes are made of. -/
def isBare (c : Char) : Bool :=
  c.isAlphanum || c == '-' || c == '.'

theorem isBare_of_isDigit {c : Char} (digit : c.isDigit = true) : isBare c = true := by
  simp [isBare, Char.isAlphanum, digit]

theorem isBare_hexDigit (d : Fin 16) : isBare (Text.hexDigit d) = true := by
  revert d
  decide

namespace Text

theorem signedDigits_ne_nil (n : Int) : signedDigits n ≠ [] := by
  cases n with
  | ofNat n => exact digitsOf_ne_nil n
  | negSucc n => exact List.cons_ne_nil _ _

theorem isBare_of_mem_signedDigits {n : Int} {c : Char} (member : c ∈ signedDigits n) :
    isBare c = true := by
  cases n with
  | ofNat n => exact isBare_of_isDigit (isDigit_of_mem_digitsOf member)
  | negSucc n =>
      rcases List.mem_cons.mp member with rfl | digit
      · rfl
      · exact isBare_of_isDigit (isDigit_of_mem_digitsOf digit)

theorem isBare_of_mem_padded {width : Nat} {digits : List Char}
    (bare : ∀ c ∈ digits, isBare c = true) : ∀ c ∈ padded width digits, isBare c = true := by
  intro c member
  rcases List.mem_append.mp member with zero | digit
  · rw [List.eq_of_mem_replicate zero]
    rfl
  · exact bare c digit

theorem isBare_of_mem_pointed {scale : Nat} {digits : List Char}
    (bare : ∀ c ∈ digits, isBare c = true) : ∀ c ∈ pointed scale digits, isBare c = true := by
  have bare : ∀ c ∈ padded (scale + 1) digits, isBare c = true := isBare_of_mem_padded bare
  intro c member
  unfold pointed at member
  split at member
  · exact bare c member
  · rcases List.mem_append.mp member with whole | part
    · exact bare c (List.mem_of_mem_take whole)
    · rcases List.mem_cons.mp part with rfl | fraction
      · rfl
      · exact bare c (List.mem_of_mem_drop fraction)

theorem pointed_ne_nil {scale : Nat} {digits : List Char} (present : digits ≠ []) :
    pointed scale digits ≠ [] := by
  unfold pointed
  split
  · simp [padded, present]
  · simp

end Text

namespace Uuid

theorem mem_spread {α : Type} {separator item : α} {sizes : List Nat} {items : List α}
    (member : item ∈ spread separator sizes items) : item = separator ∨ item ∈ items := by
  induction sizes generalizing items with
  | nil => cases member
  | cons size sizes ih =>
      cases sizes with
      | nil => exact .inr (List.mem_of_mem_take member)
      | cons next sizes =>
          rcases List.mem_append.mp member with now | later
          · exact .inr (List.mem_of_mem_take now)
          · rcases List.mem_cons.mp later with same | rest
            · exact .inl same
            · rcases ih rest with same | kept
              · exact .inl same
              · exact .inr (List.mem_of_mem_drop kept)

theorem isBare_of_mem_toChars {id : Uuid} {c : Char} (member : c ∈ id.toChars) :
    isBare c = true := by
  rcases mem_spread member with rfl | digit
  · rfl
  · obtain ⟨d, -, rfl⟩ := List.mem_map.mp digit
    exact isBare_hexDigit d

theorem toChars_ne_nil (id : Uuid) : id.toChars ≠ [] := by
  simp [toChars, groups, spread]

end Uuid

namespace Decimal

theorem isBare_of_mem_toChars {x : Decimal} {c : Char} (member : c ∈ x.toChars) :
    isBare c = true := by
  rcases List.mem_append.mp member with sign | digits
  · split at sign
    · rw [List.mem_singleton.mp sign]
      rfl
    · cases sign
  · apply Text.isBare_of_mem_pointed _ c digits
    intro d digit
    exact isBare_of_isDigit (Text.isDigit_of_mem_digitsOf digit)

theorem toChars_ne_nil (x : Decimal) : x.toChars ≠ [] := by
  apply List.append_ne_nil_of_right_ne_nil
  exact Text.pointed_ne_nil (Text.digitsOf_ne_nil x.magnitude)

end Decimal

namespace Value

theorem isBare_of_mem_literalChars {v : Value} (untextual : v.isTextual = false) {c : Char}
    (member : c ∈ v.literalChars) : isBare c = true := by
  cases v with
  | text s => cases untextual
  | int n => exact Text.isBare_of_mem_signedDigits member
  | boolean b =>
      revert c
      cases b <;> simp [literalChars, isBare]
  | timestamp t => exact Text.isBare_of_mem_signedDigits member
  | uuid id => exact Uuid.isBare_of_mem_toChars member
  | decimal x => exact Decimal.isBare_of_mem_toChars member

theorem literalChars_ne_nil (v : Value) : v.literalChars ≠ [] := by
  cases v with
  | text s => exact List.cons_ne_nil _ _
  | int n => exact Text.signedDigits_ne_nil n.toInt
  | boolean b => cases b <;> simp [literalChars]
  | timestamp t => exact Text.signedDigits_ne_nil t.millis
  | uuid id => exact Uuid.toChars_ne_nil id
  | decimal x => exact Decimal.toChars_ne_nil x

end Value

end WideColumn
