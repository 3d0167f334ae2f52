import WideColumn.Proofs.Cutting
import WideColumn.Proofs.LegibleLiterals

namespace WideColumn

namespace Value

theorem head?_literalChars {v : Value} :
    v.literalChars.head? = some '\'' ↔ v.isTextual = true := by
  cases textual : v.isTextual with
  | true =>
      obtain ⟨s, rfl⟩ := eq_text_of_isTextual textual
      simp [literalChars]
  | false =>
      simp only [Bool.false_eq_true, iff_false]
      intro quote
      obtain ⟨rest, spelled⟩ := List.head?_eq_some_iff.mp quote
      exact bare_ne_quoted textual (by rw [List.append_nil, spelled])

end Value

namespace Collection

/-- The literals of one item: in a map, what stands before its first colon and what stands behind. -/
def cutItem : Kind → List Char → List (List Char)
  | .map, item =>
    match Text.outerCut? ':' false item with
    | some (key, value) => [key, value]
    | none => [item]
  | .set, item | .list, item => [item]

/-- The literals that the body of a collection shows, item by item. -/
def cutBody (kind : Kind) (body : List Char) : List (List (List Char)) :=
  if body.isEmpty then [] else (Text.outerPieces ',' false body).map (cutItem kind)

theorem solid_rowChars {contents : Contents} {row : List Value} (member : row ∈ contents.rows) :
    Text.Solid ',' (rowChars row) := by
  have literal (v : Value) : Text.Solid ',' v.literalChars :=
    v.solid_literalChars rfl (by decide)
  cases contents with
  | items values =>
      obtain ⟨v, -, rfl⟩ := List.mem_map.mp member
      simpa [rowChars] using literal v
  | pairs entries =>
      obtain ⟨entry, -, rfl⟩ := List.mem_map.mp member
      have colon : Text.Solid ',' [':'] := ⟨by simp [Text.Uncut], rfl⟩
      simpa [rowChars] using (literal entry.1).append (colon.append (literal entry.2))

theorem cutItem_rowChars {kind : Kind} {contents : Contents} (fits : ¬Misfit kind contents)
    {row : List Value} (member : row ∈ contents.rows) :
    cutItem kind (rowChars row) = row.map Value.literalChars := by
  cases contents with
  | items values =>
      obtain ⟨v, -, rfl⟩ := List.mem_map.mp member
      cases kind with
      | map => exact absurd (.items values) fits
      | set | list => simp [cutItem, rowChars]
  | pairs entries =>
      obtain ⟨entry, -, rfl⟩ := List.mem_map.mp member
      cases kind with
      | map =>
          have key : Text.Solid ':' entry.1.literalChars :=
            entry.1.solid_literalChars rfl (by decide)
          simp [cutItem, rowChars, key.outerCut?_eq]
      | set | list => exact absurd (.pairs Kind.noConfusion entries) fits

def bodyChars (contents : Contents) : List Char :=
  [','].intercalate (contents.rows.map rowChars)

theorem rowChars_ne_nil {row : List Value} (present : row ≠ []) : rowChars row ≠ [] := by
  cases row with
  | nil => exact absurd rfl present
  | cons v row => simp [rowChars, v.literalChars_ne_nil]

theorem bodyChars_eq_nil {contents : Contents} : bodyChars contents = [] ↔ contents.rows = [] := by
  constructor
  · intro empty
    cases listed : contents.rows with
    | nil => rfl
    | cons row rows =>
        have member : row ∈ contents.rows := by simp [listed]
        have present := rowChars_ne_nil (Contents.ne_nil_of_mem_rows member)
        rw [bodyChars, listed, List.map_cons] at empty
        cases rows with
        | nil => simp [present] at empty
        | cons next rows => simp [List.intercalate_cons_cons, present] at empty
  · intro empty
    rw [bodyChars, empty]
    rfl

theorem rows_eq_nil {contents : Contents} : contents.rows = [] ↔ contents.size = 0 := by
  cases contents <;> simp [Contents.rows, Contents.size]

theorem cutBody_bodyChars {kind : Kind} {contents : Contents} (fits : ¬Misfit kind contents) :
    cutBody kind (bodyChars contents) = contents.rows.map (List.map Value.literalChars) := by
  by_cases empty : contents.rows = []
  · simp [cutBody, bodyChars_eq_nil.mpr empty, empty]
  · have present : (bodyChars contents).isEmpty = false := by
      simpa using mt bodyChars_eq_nil.mp empty
    have solid : ∀ item ∈ contents.rows.map rowChars, Text.Solid ',' item := by
      intro item member
      obtain ⟨row, listed, rfl⟩ := List.mem_map.mp member
      exact solid_rowChars listed
    rw [cutBody, present, if_neg Bool.false_ne_true, bodyChars,
      Text.outerPieces_intercalate (by simpa using empty) solid, List.map_map]
    exact List.map_congr_left fun row member => cutItem_rowChars fits member

theorem encode_of_fits {kind : Kind} {contents : Contents} (fits : ¬Misfit kind contents) :
    ∃ body : String, body.toList = bodyChars contents ∧
      encode kind contents = .ok (kind.opening ++ body ++ kind.closing) := by
  cases shaped : parts? kind contents with
  | none => exact absurd (parts?_eq_none.mp shaped) fits
  | some parts =>
      refine ⟨",".intercalate parts, ?_, encode_eq_ok.mpr ⟨parts, shaped, rfl⟩⟩
      rw [String.toList_intercalate, toList_parts shaped]
      rfl

theorem bodyChars_congr {contents others : Contents}
    (same : contents.rows.map (List.map Value.literal) = others.rows.map (List.map Value.literal)) :
    bodyChars contents = bodyChars others := by
  have shown (contents : Contents) : contents.rows.map rowChars =
      (contents.rows.map (List.map Value.literal)).map
        fun texts => joined [] ":".toList (texts.map String.toList) := by
    simp [rowChars, Function.comp_def]
  rw [bodyChars, bodyChars, shown, shown, same]

theorem literal_rows_congr {contents others : Contents}
    (same : contents.rows.map (List.map Value.literalChars) =
      others.rows.map (List.map Value.literalChars)) :
    contents.rows.map (List.map Value.literal) = others.rows.map (List.map Value.literal) := by
  have shown (contents : Contents) : contents.rows.map (List.map Value.literal) =
      (contents.rows.map (List.map Value.literalChars)).map (List.map String.ofList) := by
    simp [Value.literal, Function.comp_def]
  rw [shown, shown, same]

theorem encode_eq_encode_iff {kind : Kind} {contents others : Contents}
    (fits : ¬Misfit kind contents) (fit : ¬Misfit kind others) :
    encode kind contents = encode kind others ↔
      contents.rows.map (List.map Value.literal) = others.rows.map (List.map Value.literal) := by
  obtain ⟨body, chars, written⟩ := encode_of_fits fits
  obtain ⟨other, otherChars, otherWritten⟩ := encode_of_fits fit
  have bodies : encode kind contents = encode kind others ↔
      bodyChars contents = bodyChars others := by
    rw [written, otherWritten, Except.ok.injEq, ← chars, ← otherChars, String.toList_inj,
      String.append_left_inj, String.append_right_inj]
  rw [bodies]
  constructor
  · intro same
    apply literal_rows_congr
    rw [← cutBody_bodyChars fits, ← cutBody_bodyChars fit, same]
  · exact bodyChars_congr

/-- A collection is refused just when its kind cannot hold its contents.  All others are written as
a body between delimiters that shows the literals of the values, all of them and as they were given;
texts can be told from the other values there, and read back. -/
theorem encode_decodable (kind : Kind) (contents : Contents) :
    (∀ error, encode kind contents = .error error ↔
      Misfit kind contents ∧ error = .wrongShape kind) ∧
    (¬Misfit kind contents → ∃ body : String,
      encode kind contents = .ok (kind.opening ++ body ++ kind.closing) ∧
      (body = "" ↔ contents.size = 0) ∧
      cutBody kind body.toList = contents.rows.map (List.map Value.literalChars)) ∧
    (∀ row ∈ contents.rows, ∀ v ∈ row,
      (v.literalChars.head? = some '\'' ↔ v.isTextual = true) ∧
      ∀ s, v = .text s → Text.unquoted? v.literalChars = some s.toList) ∧
    ∀ others, ¬Misfit kind contents → ¬Misfit kind others →
      (encode kind contents = encode kind others ↔
        contents.rows.map (List.map Value.literal) =
          others.rows.map (List.map Value.literal)) := by
  refine ⟨?_, ?_, ?_, ?_⟩
  · intro error
    rw [encode_eq_error, parts?_eq_none]
  · intro fits
    obtain ⟨body, chars, written⟩ := encode_of_fits fits
    refine ⟨body, written, ?_, ?_⟩
    · rw [← String.toList_eq_nil_iff, chars, bodyChars_eq_nil, rows_eq_nil]
    · rw [chars, cutBody_bodyChars fits]
  · intro row _ v _
    refine ⟨Value.head?_literalChars, ?_⟩
    intro s spelled
    rw [spelled]
    exact Text.unquoted?_quoted s.toList
  · intro others fits fit
    exact encode_eq_encode_iff fits fit

theorem encode_decodable_map :
    let contents := Contents.pairs [(.text "a',b:", .text "'"), (.text "", .int 7)]
    let others := Contents.pairs [(.text "a'", .text "b:''"), (.text "", .int 7)]
    ¬Misfit .map contents ∧ ¬Misfit .map others ∧
      encode .map contents = .ok "\x7b'a'',b:':'''','':7\x7d" ∧
      (∃ body : String, encode .map contents = .ok ("\x7b" ++ body ++ "\x7d") ∧
        cutBody .map body.toList =
          [["'a'',b:'".toList, "''''".toList], ["''".toList, "7".toList]]) ∧
      Text.unquoted? "'a'',b:'".toList = some "a',b:".toList ∧
      encode .map contents ≠ encode .map others := by
  intro contents others
  have fits : ¬Misfit .map contents := by decide
  have fit : ¬Misfit .map others := by decide
  obtain ⟨-, written, values, apart⟩ := encode_decodable .map contents
  obtain ⟨body, encoded, -, cut⟩ := written fits
  have key := (values [.text "a',b:", .text "'"] (by decide) (.text "a',b:") (by decide)).2
  refine ⟨fits, fit, by decide +kernel, ⟨body, encoded, ?_⟩, ?_, ?_⟩
  · rw [cut]
    decide +kernel
  · exact key "a',b:" rfl
  · exact mt (apart others fits fit).mp (by decide +kernel)

end Collection

end WideColumn
