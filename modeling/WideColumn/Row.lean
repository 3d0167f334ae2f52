import WideColumn.Value

namespace WideColumn

/-- One value a column, columns ascending by code point. -/
structure Row where
  entries : List (String × Value) := []
  ascending : entries.Pairwise fun a b => a.1 < b.1 := by exact List.Pairwise.nil

namespace Row

def insertEntry (column : String) (value : Value) : List (String × Value) → List (String × Value)
  | [] => [(column, value)]
  | (other, held) :: rest =>
    if column < other then (column, value) :: (other, held) :: rest
    else if column = other then (column, value) :: rest
    else (other, held) :: insertEntry column value rest

theorem mem_insertEntry {column : String} {value : Value} {entry : String × Value}
    {entries : List (String × Value)} (h : entry ∈ insertEntry column value entries) :
    entry = (column, value) ∨ entry ∈ entries := by
  induction entries with
  | nil => simpa [insertEntry] using h
  | cons head rest ih =>
    obtain ⟨other, held⟩ := head
    simp only [insertEntry] at h
    split at h
    · simpa using h
    · split at h
      · simp only [List.mem_cons] at h ⊢
        rcases h with h | h
        · exact .inl h
        · exact .inr (.inr h)
      · simp only [List.mem_cons] at h ⊢
        rcases h with h | h
        · exact .inr (.inl h)
        · rcases ih h with h | h
          · exact .inl h
          · exact .inr (.inr h)

theorem insertEntry_ascending (column : String) (value : Value) {entries : List (String × Value)}
    (h : entries.Pairwise fun a b => a.1 < b.1) :
    (insertEntry column value entries).Pairwise fun a b => a.1 < b.1 := by
  induction entries with
  | nil => simp [insertEntry]
  | cons head rest ih =>
    obtain ⟨other, held⟩ := head
    rw [List.pairwise_cons] at h
    simp only [insertEntry]
    split
    · rename_i hlt
      refine List.pairwise_cons.mpr ⟨fun entry hentry => ?_, List.pairwise_cons.mpr h⟩
      rcases List.mem_cons.mp hentry with rfl | hentry
      · exact hlt
      · exact String.lt_trans hlt (h.1 entry hentry)
    · split
      · rename_i heq
        subst heq
        exact List.pairwise_cons.mpr ⟨h.1, h.2⟩
      · rename_i hnlt hne
        refine List.pairwise_cons.mpr ⟨fun entry hentry => ?_, ih h.2⟩
        rcases mem_insertEntry hentry with rfl | hentry
        · exact Decidable.byContradiction fun hn =>
            hne (String.le_antisymm (String.not_lt.mp hn) (String.not_lt.mp hnlt))
        · exact h.1 entry hentry

def insert (row : Row) (column : String) (value : Value) : Row :=
  ⟨insertEntry column value row.entries, insertEntry_ascending column value row.ascending⟩

/-- The row of a list of column values; of several for one column the last holds. -/
def ofList (pairs : List (String × Value)) : Row :=
  pairs.foldl (fun row pair => row.insert pair.1 pair.2) {}

def columns (row : Row) : List String :=
  row.entries.map (·.1)

def values (row : Row) : List Value :=
  row.entries.map (·.2)

def isEmpty (row : Row) : Bool :=
  row.entries.isEmpty

end Row

end WideColumn
