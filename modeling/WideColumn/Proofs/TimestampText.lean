import WideColumn.Proofs.Reading
import WideColumn.Timestamp

namespace WideColumn

namespace Timestamp

/-! The parts of the text, each in front of something that cannot be taken for more of it. -/

section

variable {rest : List Char}

theorem readNumber_twoDigits {n : Nat} (below : n < 100) (breaks : Breaks Char.isDigit rest) :
    readNumber (twoDigits n ++ rest) = some (n, rest) := by
  have length : (twoDigits n).length = 2 :=
    Text.length_padded (Text.length_digitsOf_le (by decide) below)
  rw [readNumber, twoDigits, Text.skipBlanks_of_breaks (Text.breaks_blank_padded n),
    Text.readDigits_padded (Nat.le_of_eq length) breaks]

theorem readMark_cons {c : Char} (mark : Text.isBlank c = false) :
    readMark c (c :: rest) = some rest := by
  rw [readMark, Text.skipBlanks_of_breaks (breaks_cons.mpr mark), Text.expect_cons_self]

theorem readYear_digits {n : Nat} (below : n < 10000) (breaks : Breaks Char.isDigit rest) :
    readYear (Text.padded 4 (Text.digitsOf n) ++ rest) = some ((n : Int), rest) := by
  have length : (Text.padded 4 (Text.digitsOf n)).length = 4 :=
    Text.length_padded (Text.length_digitsOf_le (by decide) below)
  have unsigned {c : Char} {later : List Char}
      (same : Text.padded 4 (Text.digitsOf n) ++ rest = c :: later) : c.isDigit = true :=
    Text.isDigit_of_padded_append_eq same
  rw [readYear, Text.skipBlanks_of_breaks (Text.breaks_blank_padded n)]
  split
  · rename_i same
    cases unsigned same
  · rename_i same
    cases unsigned same
  · rw [Text.readDigits_padded (Nat.le_of_eq length) breaks]
    rfl

theorem readDigits_all (n : Nat) (breaks : Breaks Char.isDigit rest) :
    let text := Text.padded 4 (Text.digitsOf n) ++ rest
    Text.readDigits text.length text = some (n, rest) := by
  intro text
  exact Text.readDigits_padded (by simp [text]) breaks

theorem readYear_yearChars (year : Int) (breaks : Breaks Char.isDigit rest) :
    readYear (yearChars year ++ rest) = some (year, rest) := by
  unfold yearChars
  by_cases plain : 0 ≤ year ∧ year ≤ 9999
  · rw [if_pos plain, readYear_digits (by omega) breaks]
    congr 2
    omega
  · rw [if_neg plain, List.cons_append, readYear]
    by_cases negative : year < 0
    · rw [if_pos negative, Text.skipBlanks_of_breaks (breaks_cons.mpr (by decide))]
      simp only [readDigits_all _ breaks, Option.map_some]
      congr 2
      omega
    · rw [if_neg negative, Text.skipBlanks_of_breaks (breaks_cons.mpr (by decide))]
      simp only [readDigits_all _ breaks, Option.map_some]
      congr 2
      omega

theorem readFraction_point {n width : Nat} (positive : 0 < width) (short : width ≤ 9)
    (below : n < 10 ^ width) (breaks : Breaks Char.isDigit rest) :
    readFraction ('.' :: Text.padded width (Text.digitsOf n) ++ rest) =
      some (n * 10 ^ (9 - width), rest) := by
  have length : (Text.padded width (Text.digitsOf n)).length = width :=
    Text.length_padded (Text.length_digitsOf_le positive below)
  rw [List.cons_append, readFraction,
    takeWhile_of_breaks (fun _ => Text.isDigit_of_mem_padded) breaks]
  split
  · rename_i vacant
    exact absurd vacant (Text.padded_ne_nil (Text.digitsOf_ne_nil n))
  · simp only
    rw [List.take_of_length_le (by omega), length, Text.ofDigits_padded, Text.ofDigits_digitsOf,
      List.drop_left' length]
    rfl

theorem readFraction_fractionChars {nano : Nat} (below : nano < 1000000000) :
    readFraction (fractionChars nano ++ 'Z' :: rest) = some (nano, 'Z' :: rest) := by
  have breaks : Breaks Char.isDigit ('Z' :: rest) := breaks_cons.mpr (by decide)
  unfold fractionChars
  split
  · rename_i zero
    rw [zero]
    rfl
  · split
    · rw [readFraction_point (by decide) (by decide) (by omega) breaks]
      congr 2
      omega
    · split
      · rw [readFraction_point (by decide) (by decide) (by omega) breaks]
        congr 2
        omega
      · rw [readFraction_point (by decide) (by decide) (by omega) breaks]
        congr 2
        omega

end

theorem readOffset_utc (rest : List Char) :
    readOffset (Text.skipBlanks ('Z' :: rest)) = some (0, rest) := rfl

theorem toUniversal?_zero (t : Timestamp) : t.toUniversal? 0 = some t := by
  have hour := t.hour_lt
  have minute := t.minute_lt
  have minutes : ((t.hour * 60 + t.minute : Nat) : Int) - 0 = (t.hour * 60 + t.minute : Nat) := by
    omega
  have inDay : (((t.hour * 60 + t.minute : Nat) : Int) % 1440).toNat = t.hour * 60 + t.minute := by
    omega
  rw [toUniversal?, minutes, if_neg (by omega), if_neg (by omega), inDay]
  have hours : (t.hour * 60 + t.minute) / 60 = t.hour := by omega
  have left : (t.hour * 60 + t.minute) % 60 = t.minute := by omega
  simp only [hours, left, Option.bind_eq_bind, Option.bind_some, of?_fields]

theorem daysInMonth_le (year : Int) (month : Nat) : daysInMonth year month ≤ 31 := by
  unfold daysInMonth
  split
  · split <;> decide
  all_goals decide

theorem ofChars?_toChars (t : Timestamp) : ofChars? t.toChars = some t := by
  have month : t.date.month < 100 := Nat.lt_of_le_of_lt t.date.month_le (by decide)
  have day : t.date.day < 100 := by
    have := t.date.day_le
    have := daysInMonth_le t.date.year t.date.month
    omega
  have hour : t.hour < 100 := Nat.lt_trans t.hour_lt (by decide)
  have minute : t.minute < 100 := Nat.lt_trans t.minute_lt (by decide)
  have second : t.second < 100 := Nat.lt_of_le_of_lt t.second_le (by decide)
  have mark {c : Char} {rest : List Char} (other : c.isDigit = false) :
      Breaks Char.isDigit (c :: rest) := breaks_cons.mpr other
  have afterSecond : Breaks Char.isDigit (fractionChars t.nano ++ ['Z']) := by
    unfold fractionChars
    split
    · exact mark rfl
    · split
      · exact mark rfl
      · split <;> exact mark rfl
  simp only [toChars, List.append_assoc, List.cons_append]
  refine bind_of_eq_some (readYear_yearChars t.date.year (mark rfl)) ?_
  refine bind_of_eq_some (readMark_cons (by decide)) ?_
  refine bind_of_eq_some (readNumber_twoDigits month (mark rfl)) ?_
  refine bind_of_eq_some (readMark_cons (by decide)) ?_
  refine bind_of_eq_some (readNumber_twoDigits day (mark rfl)) ?_
  refine bind_of_eq_some rfl ?_
  refine bind_of_eq_some (readNumber_twoDigits hour (mark rfl)) ?_
  refine bind_of_eq_some (readMark_cons (by decide)) ?_
  refine bind_of_eq_some (readNumber_twoDigits minute (mark rfl)) ?_
  refine bind_of_eq_some (readMark_cons (by decide)) ?_
  refine bind_of_eq_some (readNumber_twoDigits second afterSecond) ?_
  refine bind_of_eq_some (readFraction_fractionChars t.nano_lt) ?_
  refine bind_of_eq_some (readOffset_utc []) ?_
  refine bind_of_eq_some (Date.of?_fields t.date) ?_
  refine bind_of_eq_some (of?_fields t) ?_
  exact toUniversal?_zero t

end Timestamp

end WideColumn
