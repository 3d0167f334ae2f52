import WideColumn.Proofs.TomlValues

namespace WideColumn.Toml

open Settings (Field Part)
open Datum (Entries)

variable {rest : List Char}

structure BareKey (key : String) : Prop where
  present : key.toList ≠ []
  bare : ∀ c ∈ key.toList, isBareKeyChar c = true

theorem BareKey.eq_cons {key : String} (bareKey : BareKey key) :
    ∃ c later, key.toList = c :: later ∧ isBareKeyChar c = true := by
  obtain ⟨present, bare⟩ := bareKey
  cases spelled : key.toList with
  | nil => exact absurd spelled present
  | cons c later => exact ⟨c, later, rfl, bare c (by rw [spelled]; exact List.mem_cons_self)⟩

theorem ne_of_isBareKeyChar {c d : Char} (bare : isBareKeyChar c = true)
    (other : isBareKeyChar d = false) : c ≠ d := by
  intro same
  rw [same, other] at bare
  cases bare

theorem skipSpaces_of_breaks (breaks : Breaks isSpace rest) : skipSpaces rest = rest := by
  cases rest with
  | nil => rfl
  | cons c rest =>
      rw [breaks_cons] at breaks
      simp [skipSpaces, breaks]

theorem skipSpaces_key {key : String} (bareKey : BareKey key) :
    skipSpaces (key.toList ++ rest) = key.toList ++ rest := by
  obtain ⟨c, later, spelled, bare⟩ := bareKey.eq_cons
  rw [spelled]
  have space : c ≠ ' ' := ne_of_isBareKeyChar bare (by decide)
  have tab : c ≠ '\t' := ne_of_isBareKeyChar bare (by decide)
  exact skipSpaces_of_breaks (breaks_cons.mpr (by simp [isSpace, space, tab]))

theorem endLine_key {key : String} (bareKey : BareKey key) :
    endLine (key.toList ++ rest) = none := by
  rw [endLine, skipSpaces_key bareKey]
  obtain ⟨c, later, spelled, bare⟩ := bareKey.eq_cons
  have comment : c ≠ '#' := ne_of_isBareKeyChar bare (by decide)
  have newline : c ≠ '\n' := ne_of_isBareKeyChar bare (by decide)
  have carriage : c ≠ '\r' := ne_of_isBareKeyChar bare (by decide)
  have kept : dropComment (c :: later ++ rest) = c :: (later ++ rest) := by
    unfold dropComment
    split
    · rename_i same
      exact absurd (List.cons.inj same).1 comment
    · rfl
  rw [spelled, kept]
  exact newline_of_breaks (breaks_cons.mpr (by simp [isLineMark, newline, carriage]))

theorem readKey_append {key : String} (bareKey : BareKey key) (breaks : Breaks isBareKeyChar rest) :
    readKey (key.toList ++ rest) = some (key, rest) := by
  unfold readKey
  rw [takeWhile_of_breaks bareKey.bare breaks]
  split
  case h_1 vacant => exact absurd vacant bareKey.present
  case h_2 => simp

theorem readPath_append {key : String} {later : List Char} (bareKey : BareKey key)
    (breaks : Breaks isBareKeyChar rest) (skipped : skipSpaces rest = later)
    (last : Breaks (· == '.') later) :
    readPath (key.toList ++ rest) = some ([key], later) := by
  rw [readPath, depthLimit, readKeys, skipSpaces_key bareKey]
  refine bind_of_eq_some (readKey_append bareKey breaks) ?_
  simp only [skipped]
  split
  case h_1 => exact absurd (breaks_cons.mp last) (by decide)
  case h_2 => rfl

theorem readLine_header {name : String} (bareKey : BareKey name) :
    readLine ('[' :: name.toList ++ ']' :: '\n' :: rest) = some (.header false [name], rest) := by
  have path : readPath (name.toList ++ ']' :: '\n' :: rest) = some ([name], ']' :: '\n' :: rest) :=
    readPath_append bareKey (breaks_cons.mpr (by decide)) rfl (breaks_cons.mpr (by decide))
  obtain ⟨c, later, spelled, bare⟩ := bareKey.eq_cons
  rw [List.cons_append]
  unfold readLine
  split
  case h_1 inner same =>
    rw [spelled, List.cons_append] at same
    exact absurd (List.cons.inj (List.cons.inj same).2).1 (ne_of_isBareKeyChar bare (by decide))
  case h_2 inner _ same =>
    rw [← (List.cons.inj same).2]
    exact bind_of_eq_some path rfl
  case h_3 _ other => exact absurd rfl (other _)

theorem breaks_write (field : Field) : Breaks isSpace (field.write ++ rest) := by
  cases field with
  | text s =>
      change Breaks isSpace (writeString s.toList ++ rest)
      obtain ⟨c, later, spelled, quote⟩ := writeString_eq_cons s.toList
      rw [spelled]
      rcases quote with rfl | rfl
      · exact breaks_cons.mpr rfl
      · exact breaks_cons.mpr rfl
  | number n =>
      change Breaks isSpace (Text.digitsOf n ++ rest)
      cases spelled : Text.digitsOf n with
      | nil => exact absurd spelled (Text.digitsOf_ne_nil n)
      | cons c digits =>
          have digit : c.isDigit = true :=
            Text.isDigit_of_mem_digitsOf (by rw [spelled]; exact List.mem_cons_self)
          exact breaks_cons.mpr (by simp [isSpace, digit_ne digit])
  | texts items =>
      change Breaks isSpace (Settings.writeTexts items ++ rest)
      obtain ⟨inside, spelled, -⟩ : ∃ inside, Settings.writeTexts items = '[' :: inside ∧
          readItems (items.length + 2) 0 (inside ++ rest) = some (items.map .text, rest) :=
        readItems_writeTexts (Nat.lt_succ_self _)
      rw [spelled]
      exact breaks_cons.mpr rfl

theorem readLine_value {key : String} (bareKey : BareKey key) (field : Field) :
    readLine (key.toList ++ " = ".toList ++ field.write ++ '\n' :: rest) =
      some (.value [key] field.datum, rest) := by
  have spelled : key.toList ++ " = ".toList ++ field.write ++ '\n' :: rest =
      key.toList ++ ' ' :: '=' :: ' ' :: (field.write ++ '\n' :: rest) := by
    simp
  have path : readPath (key.toList ++ ' ' :: '=' :: ' ' :: (field.write ++ '\n' :: rest)) =
      some ([key], '=' :: ' ' :: (field.write ++ '\n' :: rest)) :=
    readPath_append bareKey (breaks_cons.mpr (by decide)) rfl (breaks_cons.mpr (by decide))
  have value : readValue (2 * (' ' :: (field.write ++ '\n' :: rest)).length + 2) depthLimit
      (skipSpaces (' ' :: (field.write ++ '\n' :: rest))) = some (field.datum, '\n' :: rest) := by
    change readValue _ _ (skipSpaces (field.write ++ '\n' :: rest)) = _
    rw [skipSpaces_of_breaks (breaks_write field)]
    exact readValue_write field (by simp only [List.length_cons, List.length_append]; omega)
  rw [spelled]
  unfold readLine
  obtain ⟨c, later, opened, bare⟩ := bareKey.eq_cons
  have other (later : List Char) :
      key.toList ++ ' ' :: '=' :: ' ' :: (field.write ++ '\n' :: rest) ≠ '[' :: later := by
    rw [opened]
    exact fun same => ne_of_isBareKeyChar bare (by decide) (List.cons.inj same).1
  split
  case h_1 same => exact absurd same (other _)
  case h_2 same => exact absurd same (other _)
  case h_3 =>
    exact bind_of_eq_some path (bind_of_eq_some rfl (bind_of_eq_some value rfl))

/-- The lines of a text, whatever the fuel, if it is enough for the text. -/
def HasLines (text : List Char) (lines : List Line) : Prop :=
  ∀ fuel, text.length < fuel → readLines fuel text = some lines

def linesOf (fields : List (String × Field)) : List Line :=
  fields.map fun (key, field) => .value [key] field.datum

namespace HasLines

variable {lines : List Line}

theorem nil : HasLines [] [] := by
  intro fuel enough
  obtain ⟨fuel, rfl⟩ : ∃ k, fuel = k + 1 := Nat.exists_eq_add_one.mpr enough
  rfl

theorem blank (later : HasLines rest lines) : HasLines ('\n' :: rest) lines := by
  intro fuel enough
  rw [List.length_cons] at enough
  obtain ⟨fuel, rfl⟩ : ∃ k, fuel = k + 1 := ⟨fuel - 1, by omega⟩
  exact later fuel (Nat.lt_of_succ_lt_succ enough)

theorem line {text : List Char} {line : Line} (unspaced : skipSpaces text = text)
    (unended : endLine text = none) (read : readLine text = some (line, rest))
    (shorter : rest.length < text.length) (later : HasLines rest lines) :
    HasLines text (line :: lines) := by
  intro fuel enough
  obtain ⟨fuel, rfl⟩ : ∃ k, fuel = k + 1 := ⟨fuel - 1, by omega⟩
  rw [readLines, unspaced]
  split
  · cases unended
  · rw [unended]
    refine bind_of_eq_some read ?_
    simp only
    rw [later fuel (by omega)]
    rfl

theorem value {key : String} (bareKey : BareKey key) (field : Field) (later : HasLines rest lines) :
    HasLines (key.toList ++ " = ".toList ++ field.write ++ '\n' :: rest)
      (.value [key] field.datum :: lines) := by
  refine line ?_ ?_ (readLine_value bareKey field) ?_ later
  · simp only [List.append_assoc]
    exact skipSpaces_key bareKey
  · simp only [List.append_assoc]
    exact endLine_key bareKey
  · simp only [List.length_append, List.length_cons]
    omega

theorem header {name : String} (bareKey : BareKey name) (later : HasLines rest lines) :
    HasLines ('[' :: name.toList ++ ']' :: '\n' :: rest) (.header false [name] :: lines) := by
  refine line rfl rfl (readLine_header bareKey) ?_ later
  simp only [List.length_append, List.length_cons]
  omega

theorem fields {fields : List (String × Field)} (bare : ∀ f ∈ fields, BareKey f.1)
    (later : HasLines rest lines) :
    HasLines ((Settings.Part.mk none fields).write ++ rest) (linesOf fields ++ lines) := by
  induction fields with
  | nil => exact later
  | cons f fields ih =>
      have first := value (bare f List.mem_cons_self) f.2
        (ih fun g member => bare g (List.mem_cons_of_mem f member))
      simpa only [Part.write, linesOf, List.flatMap_cons, List.map_cons, List.append_assoc,
        List.cons_append, List.nil_append] using first

theorem table {name : String} {fields : List (String × Field)} (bareKey : BareKey name)
    (bare : ∀ f ∈ fields, BareKey f.1) (later : HasLines rest lines) :
    HasLines ((Settings.Part.mk (some name) fields).write ++ rest)
      (.header false [name] :: linesOf fields ++ lines) := by
  have below := blank (header bareKey (HasLines.fields bare later))
  simpa [Part.write] using below

end HasLines

/-- The fields of a table: their keys stand without quotes, and no two are the same. -/
structure IsTable (fields : List (String × Field)) : Prop where
  bare : ∀ f ∈ fields, BareKey f.1
  distinct : (fields.map Prod.fst).Nodup

def entriesOf (fields : List (String × Field)) : Entries :=
  fields.map fun (key, field) => (key, field.datum)

def partsOf (fields : List (String × Field)) (tables : List (String × List (String × Field))) :
    List Part :=
  ⟨none, fields⟩ :: tables.map fun (name, fields) => ⟨some name, fields⟩

def valuesOf (fields : List (String × Field)) : List (List String × Datum) :=
  fields.map fun (key, field) => ([key], field.datum)

theorem HasLines.tables {tables : List (String × List (String × Field))}
    (each : ∀ t ∈ tables, BareKey t.1 ∧ IsTable t.2) :
    HasLines ((tables.map fun (name, fields) => Settings.Part.mk (some name) fields).flatMap
        Part.write)
      (tables.flatMap fun (name, fields) => .header false [name] :: linesOf fields) := by
  induction tables with
  | nil => exact .nil
  | cons t tables ih =>
      obtain ⟨name, own⟩ := each t List.mem_cons_self
      exact .table name own.bare (ih fun u member => each u (List.mem_cons_of_mem t member))

theorem sections_linesOf (fields : List (String × Field)) (lines : List Line) :
    sections (linesOf fields ++ lines) =
      (valuesOf fields ++ (sections lines).1, (sections lines).2) := by
  induction fields with
  | nil => rfl
  | cons f fields ih =>
      change sections (.value [f.1] f.2.datum :: (linesOf fields ++ lines)) = _
      rw [sections, ih]
      rfl

theorem sections_tables (tables : List (String × List (String × Field))) :
    sections (tables.flatMap fun (name, fields) => .header false [name] :: linesOf fields) =
      ([], tables.map fun (name, fields) => ⟨[name], false, valuesOf fields⟩) := by
  induction tables with
  | nil => rfl
  | cons t tables ih =>
      rw [List.flatMap_cons]
      simp only [List.cons_append]
      rw [sections, sections_linesOf, ih]
      simp

theorem find?_eq_none {key : String} {entries : Entries} (fresh : key ∉ entries.map Prod.fst) :
    Datum.find? key entries = none := by
  rw [Datum.find?, List.lookup_eq_none_iff]
  intro entry member
  exact bne_iff_ne.mpr fun same => fresh (by rw [same]; exact List.mem_map_of_mem member)

theorem assign_fresh {key : String} {value : Datum} {entries : Entries}
    (fresh : key ∉ entries.map Prod.fst) :
    assign value [key] true entries = some (entries ++ [(key, value)]) := by
  rw [assign, find?_eq_none fresh]
  rfl

theorem assignAll_valuesOf {fields : List (String × Field)} {entries : Entries}
    (distinct : (entries.map Prod.fst ++ fields.map Prod.fst).Nodup) :
    assignAll entries (valuesOf fields) = some (entries ++ entriesOf fields) := by
  induction fields generalizing entries with
  | nil => exact congrArg some (List.append_nil entries).symm
  | cons f fields ih =>
      have fresh : f.1 ∉ entries.map Prod.fst := fun member =>
        (List.nodup_append.mp distinct).2.2 f.1 member f.1 List.mem_cons_self rfl
      have later : ((entries ++ [(f.1, f.2.datum)]).map Prod.fst ++ fields.map Prod.fst).Nodup := by
        simpa using distinct
      have whole : entries ++ entriesOf (f :: fields) =
          entries ++ [(f.1, f.2.datum)] ++ entriesOf fields := by
        simp [entriesOf]
      rw [whole]
      exact bind_of_eq_some (assign_fresh fresh) (ih later)

theorem addSection_fresh {name : String} {fields : List (String × Field)} {entries : Entries}
    (table : IsTable fields) (fresh : name ∉ entries.map Prod.fst) :
    addSection false (valuesOf fields) [name] entries =
      some (entries ++ [(name, .table .header (entriesOf fields))]) := by
  have inner : assignAll [] (valuesOf fields) = some ([] ++ entriesOf fields) :=
    assignAll_valuesOf (by simpa using table.distinct)
  rw [addSection, inner]
  · rfl
  · exact find?_eq_none fresh

def tableEntries (tables : List (String × List (String × Field))) : Entries :=
  tables.map fun (name, fields) => (name, .table .header (entriesOf fields))

theorem addSections {tables : List (String × List (String × Field))} {entries : Entries}
    (each : ∀ t ∈ tables, BareKey t.1 ∧ IsTable t.2)
    (distinct : (entries.map Prod.fst ++ tables.map Prod.fst).Nodup) :
    (tables.map fun (name, fields) => Section.mk [name] false (valuesOf fields)).foldlM
        (fun entries s => addSection s.repeated s.values s.path entries) entries =
      some (entries ++ tableEntries tables) := by
  induction tables generalizing entries with
  | nil => exact congrArg some (List.append_nil entries).symm
  | cons t tables ih =>
      have fresh : t.1 ∉ entries.map Prod.fst := fun member =>
        (List.nodup_append.mp distinct).2.2 t.1 member t.1 List.mem_cons_self rfl
      have later : ((entries ++ [(t.1, Datum.table .header (entriesOf t.2))]).map Prod.fst ++
          tables.map Prod.fst).Nodup := by
        simpa using distinct
      have whole : entries ++ tableEntries (t :: tables) =
          entries ++ [(t.1, .table .header (entriesOf t.2))] ++ tableEntries tables := by
        simp [tableEntries]
      rw [whole, List.map_cons, List.foldlM_cons]
      exact bind_of_eq_some (addSection_fresh (each t List.mem_cons_self).2 fresh)
        (ih (fun u member => each u (List.mem_cons_of_mem t member)) later)

theorem dropMark_of_breaks (breaks : Breaks (· == '\uFEFF') rest) : dropMark rest = rest := by
  unfold dropMark
  split
  · exact absurd (breaks_cons.mp breaks) (by decide)
  · rfl

theorem dropMark_parts {fields : List (String × Field)}
    {tables : List (String × List (String × Field))} (own : IsTable fields) :
    dropMark ((partsOf fields tables).flatMap Part.write) =
      (partsOf fields tables).flatMap Part.write := by
  cases fields with
  | nil =>
      cases tables with
      | nil => rfl
      | cons t tables => rfl
  | cons f fields =>
      obtain ⟨c, later, spelled, bare⟩ := (own.bare f List.mem_cons_self).eq_cons
      simp only [partsOf, List.flatMap_cons, Part.write, List.nil_append, spelled, List.cons_append]
      have other : c ≠ '\uFEFF' := ne_of_isBareKeyChar bare (by decide)
      exact dropMark_of_breaks (breaks_cons.mpr (beq_eq_false_iff_ne.mpr other))

theorem read_writeParts {fields : List (String × Field)}
    {tables : List (String × List (String × Field))} (own : IsTable fields)
    (each : ∀ t ∈ tables, BareKey t.1 ∧ IsTable t.2)
    (distinct : (fields.map Prod.fst ++ tables.map Prod.fst).Nodup) :
    read (Settings.writeParts (partsOf fields tables)) =
      some (entriesOf fields ++ tableEntries tables) := by
  have lines : HasLines ((partsOf fields tables).flatMap Part.write)
      (linesOf fields ++ tables.flatMap fun (name, fields) =>
        .header false [name] :: linesOf fields) := by
    exact .fields own.bare (.tables each)
  rw [read, Settings.writeParts, String.toList_ofList, dropMark_parts own]
  refine bind_of_eq_some (lines _ (Nat.lt_succ_self _)) ?_
  rw [sections_linesOf, sections_tables]
  have assigned : assignAll [] (valuesOf fields) = some ([] ++ entriesOf fields) :=
    assignAll_valuesOf (by simpa using own.distinct)
  simp only [List.append_nil, assemble]
  refine bind_of_eq_some assigned (addSections each ?_)
  simpa [entriesOf, Function.comp_def] using distinct

end WideColumn.Toml
