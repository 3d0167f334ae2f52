import Mathlib.Tactic.SplitIfs

/-! Texts in the order of their bytes in UTF-8, which is that of their code points. -/

namespace WideColumn.Text

def bytes (s : String) : List UInt8 :=
  s.toUTF8.data.toList

theorem bytes_eq (s : String) : bytes s = s.toList.flatMap String.utf8EncodeChar := by
  rw [bytes, String.toUTF8_eq_toByteArray, ← String.utf8Encode_toList, List.utf8Encode,
    List.toList_data_toByteArray]

theorem byte_cons_lt {a b : Nat} (below : a < b) (small : b < 256) (x y : List UInt8) :
    UInt8.ofNat a :: x < UInt8.ofNat b :: y := by
  rw [List.cons_lt_cons_iff, UInt8.lt_iff_toNat_lt]
  left
  rw [UInt8.toNat_ofNat_of_lt' (Nat.lt_trans below small), UInt8.toNat_ofNat_of_lt' small]
  exact below

theorem byte_cons_lt_of_le {a b : Nat} {x y : List UInt8} (most : a ≤ b) (small : b < 256)
    (later : a = b → x < y) : UInt8.ofNat a :: x < UInt8.ofNat b :: y := by
  rcases Nat.lt_or_eq_of_le most with below | same
  · exact byte_cons_lt below small x y
  · rw [same, List.cons_lt_cons_iff]
    exact .inr ⟨rfl, later same⟩

theorem utf8EncodeChar_append_lt {c d : Char} (before : c < d) (x y : List UInt8) :
    String.utf8EncodeChar c ++ x < String.utf8EncodeChar d ++ y := by
  have order : c.val.toNat < d.val.toNat := UInt32.lt_iff_toNat_lt.mp before
  have valid : d.val.toNat < 0x110000 := by
    rcases d.valid with low | ⟨-, high⟩
    · exact Nat.lt_trans low (by decide)
    · exact high
  simp only [String.utf8EncodeChar]
  -- Code points of more bytes begin with a greater byte; among as many bytes the digits decide.
  split_ifs
  all_goals try omega
  all_goals simp only [List.cons_append, List.nil_append]
  · exact byte_cons_lt order (by omega) x y
  · exact byte_cons_lt (by omega) (by omega) _ _
  · exact byte_cons_lt (by omega) (by omega) _ _
  · exact byte_cons_lt (by omega) (by omega) _ _
  · refine byte_cons_lt_of_le (by omega) (by omega) fun _ => ?_
    exact byte_cons_lt (by omega) (by omega) x y
  · exact byte_cons_lt (by omega) (by omega) _ _
  · exact byte_cons_lt (by omega) (by omega) _ _
  · refine byte_cons_lt_of_le (by omega) (by omega) fun _ => ?_
    refine byte_cons_lt_of_le (by omega) (by omega) fun _ => ?_
    exact byte_cons_lt (by omega) (by omega) x y
  · exact byte_cons_lt (by omega) (by omega) _ _
  · refine byte_cons_lt_of_le (by omega) (by omega) fun _ => ?_
    refine byte_cons_lt_of_le (by omega) (by omega) fun _ => ?_
    refine byte_cons_lt_of_le (by omega) (by omega) fun _ => ?_
    exact byte_cons_lt (by omega) (by omega) x y

theorem flatMap_utf8EncodeChar_lt {left right : List Char} (before : left < right) :
    left.flatMap String.utf8EncodeChar < right.flatMap String.utf8EncodeChar := by
  induction left generalizing right with
  | nil =>
      cases right with
      | nil => exact absurd before (List.lt_irrefl [])
      | cons d right =>
          rw [List.flatMap_nil, List.flatMap_cons]
          cases spelled : String.utf8EncodeChar d with
          | nil => exact absurd spelled String.utf8EncodeChar_ne_nil
          | cons byte bytes => exact List.nil_lt_cons byte _
  | cons c left ih =>
      cases right with
      | nil => exact absurd before (List.not_lt_nil (c :: left))
      | cons d right =>
          rw [List.flatMap_cons, List.flatMap_cons]
          rcases List.cons_lt_cons_iff.mp before with first | ⟨rfl, later⟩
          · exact utf8EncodeChar_append_lt first _ _
          · exact List.append_left_lt (ih later)

theorem bytes_lt_iff {s t : String} : bytes s < bytes t ↔ s < t := by
  have grows {s t : String} (before : s < t) : bytes s < bytes t := by
    rw [bytes_eq, bytes_eq]
    exact flatMap_utf8EncodeChar_lt before
  constructor
  · intro before
    apply Decidable.byContradiction
    intro unordered
    rcases Decidable.em (s = t) with rfl | distinct
    · exact List.lt_irrefl _ before
    · have behind : t < s := Decidable.byContradiction fun other =>
        distinct (String.le_antisymm (String.not_lt.mp other) (String.not_lt.mp unordered))
      exact List.lt_irrefl _ (List.lt_trans before (grows behind))
  · exact grows

end WideColumn.Text
