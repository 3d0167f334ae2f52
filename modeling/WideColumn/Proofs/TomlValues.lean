import WideColumn.Proofs.TomlStrings
import WideColumn.Settings.Document
import WideColumn.Toml.Document

namespace WideColumn.Toml

section

variable {rest : List Char}

theorem head?_digitsOf {n : Nat} (positive : 0 < n) : (Text.digitsOf n).head? ≠ some '0' := by
  induction n using Nat.strongRecOn with
  | _ n ih =>
      by_cases small : n < 10
      · rw [Text.digitsOf, Nat.toDigits_of_lt_base small]
        have digits : ∀ n < 10, 0 < n → [Nat.digitChar n].head? ≠ some '0' := by decide
        exact digits n small positive
      · have front : (Nat.toDigits 10 (n / 10)).head? ≠ some '0' :=
          ih (n / 10) (by omega) (by omega)
        rw [Text.digitsOf, Nat.toDigits_of_base_le (by decide) (Nat.le_of_not_lt small)]
        cases spelled : Nat.toDigits 10 (n / 10) with
        | nil => exact absurd spelled Nat.toDigits_ne_nil
        | cons c digits =>
            rw [spelled] at front
            exact front

theorem digit_ne {c d : Char} (digit : c.isDigit = true) (other : d.isDigit = false) : c ≠ d := by
  intro same
  rw [same, other] at digit
  cases digit

theorem endsScalar_of_isDigit {c : Char} (digit : c.isDigit = true) : endsScalar c = false := by
  simp [endsScalar, isSpace, digit_ne digit]

theorem isGrouped_digits (inside : Char → Bool) (after : Bool) {digits : List Char}
    (decimal : ∀ c ∈ digits, c.isDigit = true) : isGrouped inside after digits = true := by
  induction digits generalizing after with
  | nil => rfl
  | cons c digits ih =>
      rw [isGrouped, if_neg (digit_ne (decimal c List.mem_cons_self) rfl)]
      exact ih _ fun d member => decimal d (List.mem_cons_of_mem c member)

theorem ungroup?_digits (inside : Char → Bool) {digits : List Char}
    (decimal : ∀ c ∈ digits, c.isDigit = true) : ungroup? inside digits = some digits := by
  have kept : digits.filter (· != '_') = digits :=
    List.filter_eq_self.mpr fun c member => bne_iff_ne.mpr (digit_ne (decimal c member) rfl)
  rw [ungroup?, if_pos (isGrouped_digits inside false decimal), kept]

theorem signed_digits {digits : List Char} (decimal : ∀ c ∈ digits, c.isDigit = true) :
    signed digits = (false, digits) := by
  unfold signed
  split
  · exact absurd (decimal _ List.mem_cons_self) (by decide)
  · exact absurd (decimal _ List.mem_cons_self) (by decide)
  · rfl

theorem ne_cons_of_digits {digits later : List Char} {c : Char}
    (decimal : ∀ c ∈ digits, c.isDigit = true) (other : c.isDigit = false) :
    digits ≠ c :: later := by
  rintro rfl
  exact digit_ne (decimal c List.mem_cons_self) other rfl

theorem readInteger_digitsOf (n : Nat) : readInteger (Text.digitsOf n) = some (.integer n) := by
  have decimal : ∀ c ∈ Text.digitsOf n, c.isDigit = true :=
    fun _ => Text.isDigit_of_mem_digitsOf
  have wellFormed : ((Text.digitsOf n).isEmpty || (decide (1 < (Text.digitsOf n).length) &&
      (Text.digitsOf n).head? == some '0')) = false := by
    rw [List.isEmpty_eq_false_iff.mpr (Text.digitsOf_ne_nil n), Bool.false_or]
    by_cases positive : 0 < n
    · rw [beq_eq_false_iff_ne.mpr (head?_digitsOf positive), Bool.and_false]
    · rw [Nat.eq_zero_of_not_pos positive]
      rfl
  rw [readInteger]
  simp only [signed_digits decimal, wellFormed, ungroup?_digits _ decimal, Bool.false_eq_true,
    if_false, Option.map_some, List.all_eq_true.mpr decimal, if_true, Text.ofDigits_digitsOf]

theorem number?_digits {digits : List Char} (decimal : ∀ c ∈ digits, c.isDigit = true) :
    number? digits = readInteger digits := by
  have all : (digits ++ []).dropWhile Char.isDigit = [] := List.dropWhile_append_of_pos decimal
  rw [List.append_nil] at all
  rw [number?, signed_digits decimal]
  simp only [all]

theorem scalar?_digits {digits : List Char} (decimal : ∀ c ∈ digits, c.isDigit = true) :
    scalar? digits = readInteger digits := by
  have based {mark : Char} {later : List Char} (same : digits = '0' :: mark :: later)
      (other : mark.isDigit = false) : False := by
    rw [same] at decimal
    exact digit_ne (decimal mark (List.mem_cons_of_mem _ List.mem_cons_self)) other rfl
  rw [scalar?, if_neg (ne_cons_of_digits decimal rfl), if_neg (ne_cons_of_digits decimal rfl),
    signed_digits decimal]
  · simp only
    rw [if_neg (ne_cons_of_digits decimal rfl), if_neg (ne_cons_of_digits decimal rfl)]
    exact number?_digits decimal
  · exact fun _ same => based same rfl
  · exact fun _ same => based same rfl
  · exact fun _ same => based same rfl

theorem readScalar_digitsOf (n : Nat) :
    readScalar (Text.digitsOf n ++ '\n' :: rest) = some (.integer n, '\n' :: rest) := by
  have decimal : ∀ c ∈ Text.digitsOf n, c.isDigit = true :=
    fun _ => Text.isDigit_of_mem_digitsOf
  have run : (Text.digitsOf n ++ '\n' :: rest).takeWhile (!endsScalar ·) = Text.digitsOf n :=
    takeWhile_of_breaks (fun c member => by rw [endsScalar_of_isDigit (decimal c member)]; rfl)
      (breaks_cons.mpr rfl)
  have token : scalarToken (Text.digitsOf n ++ '\n' :: rest) = Text.digitsOf n := by
    rw [scalarToken]
    simp only [run, List.drop_left]
    split
    · rename_i space
      exact absurd (List.cons.inj space).1 (by decide)
    · rfl
  rw [readScalar]
  simp only [token, List.drop_left]
  exact bind_of_eq_some (by rw [scalar?_digits decimal, readInteger_digitsOf]) rfl

theorem writeString_eq_cons (text : List Char) :
    ∃ c later, writeString text = c :: later ∧ (c = '"' ∨ c = '\'') := by
  generalize writeString text = spelled, written text = form
  cases form with
  | basic => exact ⟨_, _, rfl, .inl rfl⟩
  | literal => exact ⟨_, _, rfl, .inr rfl⟩
  | basicLines => exact ⟨_, _, rfl, .inl rfl⟩
  | literalLines => exact ⟨_, _, rfl, .inr rfl⟩

def isQuote (c : Char) : Bool :=
  c == '"' || c == '\''

theorem readValue_writeText {fuel depth : Nat} (text : String) (ends : Breaks isQuote rest) :
    readValue (fuel + 1) depth (Settings.writeText text ++ rest) = some (.text text, rest) := by
  have basicEnds : Breaks (· == '"') rest :=
    fun c first => (Bool.or_eq_false_iff.mp (ends c first)).1
  have literalEnds : Breaks (· == '\'') rest :=
    fun c first => (Bool.or_eq_false_iff.mp (ends c first)).2
  have read := readString_writeString text.toList basicEnds literalEnds
  obtain ⟨c, later, spelled, quote⟩ := writeString_eq_cons text.toList
  rw [spelled, List.cons_append] at read
  rw [Settings.writeText, spelled, List.cons_append, readValue, if_neg, if_neg, if_pos quote, read]
  · simp
  · rcases quote with rfl | rfl <;> decide
  · rcases quote with rfl | rfl <;> decide

theorem readItems_of_skipGap {fuel depth : Nat} {item : String} {text later : List Char}
    (gap : skipGap false text = some (Settings.writeText item ++ later))
    (ends : Breaks isQuote later) :
    readItems (fuel + 2) depth text =
      (do
        match ← skipGap false later with
        | ',' :: rest => do
          let (items, rest) ← readItems (fuel + 1) depth rest
          some (.text item :: items, rest)
        | ']' :: rest => some ([.text item], rest)
        | _ => none) := by
  have read : readValue (fuel + 1) depth (Settings.writeText item ++ later) =
      some (.text item, later) :=
    readValue_writeText item ends
  obtain ⟨c, more, spelled, quote⟩ := writeString_eq_cons item.toList
  rw [Settings.writeText, spelled] at gap read
  rw [readItems]
  refine bind_of_eq_some gap ?_
  rcases quote with rfl | rfl
  · exact bind_of_eq_some read rfl
  · exact bind_of_eq_some read rfl

theorem skipGap_indent (text : String) :
    skipGap false ('\n' :: "    ".toList ++ (Settings.writeText text ++ rest)) =
      some (Settings.writeText text ++ rest) := by
  obtain ⟨c, later, spelled, quote⟩ := writeString_eq_cons text.toList
  rw [Settings.writeText, spelled]
  rcases quote with rfl | rfl
  · rfl
  · rfl

def writeItems (items : List String) : List Char :=
  items.flatMap fun item => "    ".toList ++ Settings.writeText item ++ [',', '\n']

theorem readItems_writeItems {fuel depth : Nat} {items : List String}
    (enough : items.length < fuel) :
    readItems (fuel + 1) depth ('\n' :: writeItems items ++ ']' :: rest) =
      some (items.map .text, rest) := by
  induction items generalizing fuel with
  | nil => rfl
  | cons item items ih =>
      obtain ⟨fuel, rfl⟩ : ∃ k, fuel = k + 1 :=
        Nat.exists_eq_add_one.mpr (Nat.lt_of_le_of_lt (Nat.zero_le _) enough)
      have spelled : '\n' :: writeItems (item :: items) ++ ']' :: rest = '\n' :: "    ".toList ++
          (Settings.writeText item ++ ',' :: ('\n' :: writeItems items ++ ']' :: rest)) := by
        simp [writeItems]
      rw [spelled, readItems_of_skipGap (skipGap_indent item) (breaks_cons.mpr rfl)]
      exact bind_of_eq_some rfl (bind_of_eq_some (ih (Nat.lt_of_succ_lt_succ enough)) rfl)

theorem readItems_writeText {fuel depth : Nat} (item : String) :
    readItems (fuel + 2) depth (Settings.writeText item ++ ']' :: rest) =
      some ([.text item], rest) := by
  have gap : skipGap false (Settings.writeText item ++ ']' :: rest) =
      some (Settings.writeText item ++ ']' :: rest) := by
    obtain ⟨c, later, spelled, quote⟩ := writeString_eq_cons item.toList
    rw [Settings.writeText, spelled]
    rcases quote with rfl | rfl
    · rfl
    · rfl
  rw [readItems_of_skipGap gap (breaks_cons.mpr rfl)]
  rfl

theorem length_le_writeItems (items : List String) : items.length ≤ (writeItems items).length := by
  induction items with
  | nil => exact Nat.le_refl 0
  | cons item items ih =>
      simp only [writeItems, List.flatMap_cons, List.length_append, List.length_cons] at ih ⊢
      omega

theorem length_lt_writeTexts (items : List String) :
    items.length + 1 < (Settings.writeTexts items).length := by
  cases items with
  | nil => decide
  | cons first later =>
      cases later with
      | nil =>
          obtain ⟨c, text, spelled, -⟩ := writeString_eq_cons first.toList
          simp [Settings.writeTexts, Settings.writeText, spelled]
      | cons second later =>
          have spelled : Settings.writeTexts (first :: second :: later) =
              '[' :: '\n' :: writeItems (first :: second :: later) ++ [']'] := rfl
          have counted := length_le_writeItems (first :: second :: later)
          rw [spelled]
          simp only [List.length_append, List.length_cons] at counted ⊢
          omega

theorem readItems_writeTexts {fuel depth : Nat} {items : List String}
    (enough : items.length < fuel) :
    ∃ inside, Settings.writeTexts items = '[' :: inside ∧
      readItems (fuel + 1) depth (inside ++ rest) = some (items.map .text, rest) := by
  cases items with
  | nil => exact ⟨_, rfl, rfl⟩
  | cons first later =>
      cases later with
      | nil =>
          obtain ⟨fuel, rfl⟩ : ∃ k, fuel = k + 1 := Nat.exists_eq_add_one.mpr (by omega)
          refine ⟨Settings.writeText first ++ [']'], rfl, ?_⟩
          rw [List.append_assoc]
          exact readItems_writeText first
      | cons second later =>
          refine ⟨'\n' :: writeItems (first :: second :: later) ++ [']'], rfl, ?_⟩
          rw [List.append_assoc]
          exact readItems_writeItems enough

theorem readValue_writeTexts {fuel depth : Nat} (items : List String)
    (enough : (Settings.writeTexts items).length < fuel) :
    readValue fuel (depth + 1) (Settings.writeTexts items ++ rest) =
      some (.list (items.map .text), rest) := by
  have counted := length_lt_writeTexts items
  obtain ⟨fuel, rfl⟩ : ∃ k, fuel = k + 2 := ⟨fuel - 2, by omega⟩
  obtain ⟨inside, spelled, read⟩ : ∃ inside, Settings.writeTexts items = '[' :: inside ∧
      readItems (fuel + 1) depth (inside ++ rest) = some (items.map .text, rest) :=
    readItems_writeTexts (by omega)
  rw [spelled, List.cons_append, readValue, if_pos rfl, if_neg (Nat.succ_ne_zero depth),
    Nat.add_sub_cancel, read]
  rfl

end

end WideColumn.Toml

namespace WideColumn.Settings

def Field.datum : Field → Datum
  | text s => .text s
  | number n => .integer n
  | texts items => .list (items.map .text)

end WideColumn.Settings

namespace WideColumn.Toml

theorem readValue_write {fuel depth : Nat} {rest : List Char} (field : Settings.Field)
    (enough : field.write.length < fuel) :
    readValue fuel (depth + 1) (field.write ++ '\n' :: rest) = some (field.datum, '\n' :: rest) := by
  obtain ⟨fuel, rfl⟩ : ∃ k, fuel = k + 1 :=
    Nat.exists_eq_add_one.mpr (Nat.lt_of_le_of_lt (Nat.zero_le _) enough)
  cases field with
  | text s => exact readValue_writeText s (breaks_cons.mpr rfl)
  | texts items => exact readValue_writeTexts items enough
  | number n =>
      have read : readScalar (Text.digitsOf n ++ '\n' :: rest) = _ := readScalar_digitsOf n
      have decimal : ∀ c ∈ Text.digitsOf n, c.isDigit = true :=
        fun _ => Text.isDigit_of_mem_digitsOf
      change readValue _ _ (Text.digitsOf n ++ '\n' :: rest) = _
      cases spelled : Text.digitsOf n with
      | nil => exact absurd spelled (Text.digitsOf_ne_nil n)
      | cons c digits =>
          rw [spelled] at read decimal
          have other {d : Char} (mark : d.isDigit = false) : c ≠ d :=
            digit_ne (decimal c List.mem_cons_self) mark
          rw [List.cons_append] at read ⊢
          rw [readValue, if_neg (other rfl), if_neg (other rfl), if_neg, read]
          · rfl
          · rintro (quote | quote)
            · exact other rfl quote
            · exact other rfl quote

end WideColumn.Toml
