import WideColumn.Proofs.Identifiers
import WideColumn.Proofs.Legible
import WideColumn.Proofs.Literals
import WideColumn.Proofs.Rendering

namespace WideColumn

namespace Identifier

def isWord (c : Char) : Bool :=
  c.isAlphanum || c == '_' || c == '.'

/-- The words that statements consist of beside names. -/
def reserved : List String :=
  ["select", "distinct", "from", "where", "and", "limit", "allow", "filtering", "insert", "into",
    "values", "update", "set", "delete", "create", "index", "if", "not", "exists", "on", "in",
    "contains", "key", "like"]

structure Safe (name : String) : Prop where
  present : name ≠ ""
  words : name.toList.all isWord = true
  unreserved : name ∉ reserved

instance : DecidablePred Safe := fun name =>
  decidable_of_iff (name ≠ "" ∧ name.toList.all isWord = true ∧ name ∉ reserved)
    ⟨fun parts => ⟨parts.1, parts.2.1, parts.2.2⟩,
      fun safe => ⟨safe.present, safe.words, safe.unreserved⟩⟩

namespace Safe

variable {name : String}

theorem isWord_of_mem (safe : Safe name) : ∀ c ∈ name.toList, isWord c = true :=
  List.all_eq_true.mp safe.words

theorem wrapChars_eq (safe : Safe name) : wrapChars name.toList = name.toList := by
  have unquoted : '"' ∉ name.toList := by
    intro member
    exact absurd (safe.isWord_of_mem '"' member) (by decide)
  rw [wrapChars_eq_double, Text.double_eq_self unquoted]

theorem append_ne_cons (safe : Safe name) {c : Char} (other : isWord c = false) {x y : List Char} :
    wrapChars name.toList ++ x ≠ c :: y := by
  rw [safe.wrapChars_eq]
  cases spelled : name.toList with
  | nil => exact absurd (String.toList_eq_nil_iff.mp spelled) safe.present
  | cons d rest =>
      intro same
      have word : isWord d = true := safe.isWord_of_mem d (by simp [spelled])
      rw [(List.cons.inj same).1, other] at word
      cases word

/-- A safe name cannot be taken for a reserved word. -/
theorem apart (safe : Safe name) {word : String} (member : word ∈ reserved) {x y : List Char}
    (left : Breaks isWord x) (right : Breaks isWord y) :
    wrapChars name.toList ++ x ≠ word.toList ++ y := by
  intro same
  have words : ∀ word ∈ reserved, word.toList.all isWord = true := by decide
  rw [safe.wrapChars_eq] at same
  obtain ⟨spelled, -⟩ := Legible.run isWord safe.isWord_of_mem
    (List.all_eq_true.mp (words word member)) left right same
  rw [String.toList_inj.mp spelled] at safe
  exact safe.unreserved member

end Safe

theorem legible : Legible Safe (fun name => wrapChars name.toList) id (Breaks isWord) := by
  intro a b x y left right leftEnds rightEnds same
  change wrapChars a.toList ++ x = wrapChars b.toList ++ y at same
  rw [left.wrapChars_eq, right.wrapChars_eq] at same
  obtain ⟨spelled, rest⟩ := Legible.run isWord left.isWord_of_mem right.isWord_of_mem
    leftEnds rightEnds same
  exact ⟨String.toList_inj.mp spelled, rest⟩

def listChars (lead : List Char) (names : List String) : List Char :=
  joined lead ", ".toList (names.map fun name => wrapChars name.toList)

theorem toList_wrapAll (names : List String) : (wrapAll names).toList = listChars [] names := by
  rw [wrapAll, String.toList_intercalate, listChars, joined_eq_intercalate, List.map_map]
  simp only [Function.comp_def, toList_wrap]

theorem breaks_comma (x : List Char) : Breaks isWord (", ".toList ++ x) := by
  simp [isWord]

theorem exists_listChars (lead : List Char) {names : List String} (present : names ≠ [])
    {x : List Char} (breaks : Breaks isWord x) :
    ∃ name ∈ names, ∃ rest, Breaks isWord rest ∧
      listChars lead names ++ x = lead ++ (wrapChars name.toList ++ rest) := by
  cases names with
  | nil => exact absurd rfl present
  | cons name names =>
      refine ⟨name, List.mem_cons_self,
        (names.map fun name => wrapChars name.toList).flatMap (", ".toList ++ ·) ++ x, ?_, ?_⟩
      · exact Legible.ends_separated breaks_comma names breaks
      · rw [listChars, List.map_cons, joined_cons, List.append_assoc, List.append_assoc]

abbrev EndsList (lead x : List Char) : Prop :=
  EndsJoined Safe (fun name => wrapChars name.toList) (Breaks isWord) lead ", ".toList x

theorem legible_list {lead : List Char} :
    Legible (fun names : List String => ∀ name ∈ names, Safe name) (listChars lead) id
      (EndsList lead) := by
  intro names others x y left right leftEnds rightEnds same
  obtain ⟨keys, rest⟩ := legible.joined breaks_comma left right leftEnds rightEnds same
  rw [List.map_id, List.map_id] at keys
  exact ⟨keys, rest⟩

end Identifier

namespace Value

def goesOn (c : Char) : Bool :=
  isBare c || c == '\''

theorem eq_text_of_isTextual {v : Value} (textual : v.isTextual = true) : ∃ s, v = text s := by
  cases v with
  | text s => exact ⟨s, rfl⟩
  | _ => cases textual

theorem exists_cons_literalChars (v : Value) :
    ∃ c rest, v.literalChars = c :: rest ∧ goesOn c = true := by
  cases textual : v.isTextual with
  | true =>
      obtain ⟨s, rfl⟩ := eq_text_of_isTextual textual
      exact ⟨'\'', _, rfl, rfl⟩
  | false =>
      cases spelled : v.literalChars with
      | nil => exact absurd spelled (literalChars_ne_nil v)
      | cons c rest =>
          have member : c ∈ v.literalChars := by simp [spelled]
          refine ⟨c, rest, rfl, ?_⟩
          simp [goesOn, isBare_of_mem_literalChars textual member]

theorem bare_ne_quoted {v : Value} (untextual : v.isTextual = false) {x y : List Char} :
    v.literalChars ++ x ≠ '\'' :: y := by
  intro same
  cases spelled : v.literalChars with
  | nil => exact literalChars_ne_nil v spelled
  | cons c rest =>
      have member : c ∈ v.literalChars := by simp [spelled]
      have bare := isBare_of_mem_literalChars untextual member
      rw [spelled, List.cons_append] at same
      rw [(List.cons.inj same).1] at bare
      exact absurd bare (by decide)

theorem legible :
    Legible (fun _ => True) literalChars literal (Breaks goesOn) := by
  have narrow {x : List Char} (ends : Breaks goesOn x) :
      Breaks isBare x ∧ Breaks (· == '\'') x := by
    constructor
    · intro c member
      have := ends c member
      simp only [goesOn, Bool.or_eq_false_iff] at this
      exact this.1
    · intro c member
      have := ends c member
      simp only [goesOn, Bool.or_eq_false_iff] at this
      exact this.2
  intro v w x y _ _ leftEnds rightEnds same
  suffices chars : v.literalChars = w.literalChars by
    rw [chars] at same
    exact ⟨congrArg String.ofList chars, List.append_cancel_left same⟩
  -- Literals of two sorts differ at once, those of one sort end at the first foreign character.
  cases left : v.isTextual with
  | true =>
      obtain ⟨s, rfl⟩ := eq_text_of_isTextual left
      cases right : w.isTextual with
      | true =>
          obtain ⟨t, rfl⟩ := eq_text_of_isTextual right
          obtain ⟨texts, -⟩ := Legible.quoted '\'' trivial trivial (narrow leftEnds).2
            (narrow rightEnds).2 (List.cons.inj same).2
          have texts : s.toList = t.toList := texts
          rw [literalChars, literalChars, texts]
      | false => exact absurd same.symm (bare_ne_quoted right)
  | false =>
      cases right : w.isTextual with
      | true =>
          obtain ⟨t, rfl⟩ := eq_text_of_isTextual right
          exact absurd same (bare_ne_quoted left)
      | false =>
          obtain ⟨runs, -⟩ := Legible.run isBare
            (fun c member => isBare_of_mem_literalChars left member)
            (fun c member => isBare_of_mem_literalChars right member)
            (narrow leftEnds).1 (narrow rightEnds).1 same
          exact runs

end Value

namespace Collection

def Contents.rows : Contents → List (List Value)
  | .items values => values.map fun value => [value]
  | .pairs entries => entries.map fun entry => [entry.1, entry.2]

theorem Contents.ne_nil_of_mem_rows {contents : Contents} {row : List Value}
    (member : row ∈ contents.rows) : row ≠ [] := by
  cases contents with
  | items values =>
      obtain ⟨value, -, rfl⟩ := List.mem_map.mp member
      exact List.cons_ne_nil value []
  | pairs entries =>
      obtain ⟨entry, -, rfl⟩ := List.mem_map.mp member
      exact List.cons_ne_nil entry.1 [entry.2]

def rowChars (row : List Value) : List Char :=
  joined [] ":".toList (row.map Value.literalChars)

def chars (kind : Kind) (contents : Contents) : List Char :=
  kind.opening.toList ++ joined [] ",".toList (contents.rows.map rowChars) ++ kind.closing.toList

theorem toList_parts {kind : Kind} {contents : Contents} {parts : List String}
    (shaped : parts? kind contents = some parts) :
    parts.map String.toList = contents.rows.map rowChars := by
  rcases parts?_eq_some shaped with ⟨values, rfl, -, rfl⟩ | ⟨entries, rfl, -, rfl⟩
  · simp [Contents.rows, rowChars, Function.comp_def]
  · simp [Contents.rows, rowChars, pairLiteral, Function.comp_def]

theorem toList_encode {kind : Kind} {contents : Contents} {text : String}
    (encoded : encode kind contents = .ok text) : text.toList = chars kind contents := by
  obtain ⟨parts, shaped, rfl⟩ := encode_eq_ok.mp encoded
  rw [String.toList_append, String.toList_append, String.toList_intercalate, toList_parts shaped,
    chars, joined_eq_intercalate]

/-- What the text of a collection shows: how it opens, and the literals of each item. -/
structure Shown where
  opening : String
  literals : List (List String)

def shown (kind : Kind) (contents : Contents) : Shown :=
  ⟨kind.opening, contents.rows.map (List.map Value.literal)⟩

def EndsItem (x : List Char) : Prop :=
  ∃ c rest, x = c :: rest ∧ (c = ',' ∨ c = '\x7d' ∨ c = ']')

theorem EndsItem.breaks {x : List Char} (ends : EndsItem x) : Breaks Value.goesOn x := by
  obtain ⟨c, rest, rfl, rfl | rfl | rfl⟩ := ends <;> simp [Value.goesOn, isBare]

theorem EndsItem.ne_literal {x : List Char} (ends : EndsItem x) (v : Value) (rest : List Char) :
    x ≠ v.literalChars ++ rest := by
  intro same
  obtain ⟨c, later, spelled, within⟩ := v.exists_cons_literalChars
  have breaks := ends.breaks
  rw [same, spelled, List.cons_append, breaks_cons, within] at breaks
  cases breaks

theorem legible_rows :
    Legible (fun row : List Value => row ≠ []) rowChars (List.map Value.literal) EndsItem := by
  have parts (x : List Char) : Breaks Value.goesOn (":".toList ++ x) := by
    simp [Value.goesOn, isBare]
  have within (x : List Char) (ends : EndsItem x) :
      EndsJoined (fun _ => True) Value.literalChars (Breaks Value.goesOn) [] ":".toList x := by
    refine ⟨ends.breaks, ?_, fun v rest _ _ => ends.ne_literal v rest⟩
    obtain ⟨c, later, rfl, rfl | rfl | rfl⟩ := ends <;> simp
  intro row other x y _ _ leftEnds rightEnds same
  exact (Value.legible.joined parts).mono within (fun _ _ => trivial) (fun _ _ => trivial)
    leftEnds rightEnds same

theorem opening_append_inj {kind other : Kind} {x y : List Char}
    (same : kind.opening.toList ++ x = other.opening.toList ++ y) :
    kind.opening = other.opening ∧ kind.closing = other.closing ∧ x = y := by
  cases kind <;> cases other <;> simp_all [Kind.opening, Kind.closing]

theorem endsItem_closing (kind : Kind) (x : List Char) : EndsItem (kind.closing.toList ++ x) := by
  cases kind with
  | set | map => exact ⟨'\x7d', x, rfl, .inr (.inl rfl)⟩
  | list => exact ⟨']', x, rfl, .inr (.inr rfl)⟩

theorem chars_append_inj {kind other : Kind} {contents others : Contents} {x y : List Char}
    (same : chars kind contents ++ x = chars other others ++ y) :
    shown kind contents = shown other others ∧ x = y := by
  have parts (x : List Char) : EndsItem (",".toList ++ x) := ⟨',', x, rfl, .inl rfl⟩
  have ends (kind : Kind) (x : List Char) :
      EndsJoined (· ≠ []) rowChars EndsItem [] ",".toList (kind.closing.toList ++ x) := by
    refine ⟨endsItem_closing kind x, ?_, ?_⟩
    · cases kind <;> simp [Kind.closing]
    · intro row rest present _ same
      cases row with
      | nil => exact present rfl
      | cons v row =>
          rw [rowChars, List.map_cons, joined_cons, List.append_assoc, List.append_assoc] at same
          exact (endsItem_closing kind x).ne_literal v _ same
  simp only [chars, List.append_assoc] at same
  -- What opens alike closes alike, so only the items between are left to tell apart.
  obtain ⟨openings, closings, same⟩ := opening_append_inj same
  obtain ⟨rows, same⟩ := legible_rows.joined parts
    (fun row member => Contents.ne_nil_of_mem_rows member)
    (fun row member => Contents.ne_nil_of_mem_rows member)
    (ends kind x) (ends other y) same
  rw [closings] at same
  exact ⟨by simp only [shown, openings, rows], List.append_cancel_left same⟩

theorem exists_cons_chars (kind : Kind) (contents : Contents) :
    ∃ c rest, chars kind contents = c :: rest ∧ (c = '\x7b' ∨ c = '[') := by
  cases kind with
  | set | map => exact ⟨'\x7b', _, rfl, .inl rfl⟩
  | list => exact ⟨'[', _, rfl, .inr rfl⟩

end Collection

end WideColumn
