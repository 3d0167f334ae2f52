import WideColumn.Proofs.TomlDocuments
import WideColumn.QueryError
import WideColumn.Settings.Source

namespace WideColumn.Settings

open Toml

def ownFields (s : Settings) : List (String × Field) :=
  [("keyspace", .text s.keyspace), ("hosts", .texts s.hosts), ("port", .number s.port.toNat),
    ("page_size", .number s.pageSize.toNat), ("consistency", .text s.consistency.name)]

def timeoutFields (t : Timeouts) : List (String × Field) :=
  [("request_ms", .number t.requestMillis.toNat), ("connect_ms", .number t.connectMillis.toNat)]

def credentialFields (c : Credentials) : List (String × Field) :=
  [("username", .text c.username), ("password", .text c.password)]

def ownTables (s : Settings) : List (String × List (String × Field)) :=
  ("timeouts", timeoutFields s.timeouts) ::
    (s.credentials.map fun c => ("credentials", credentialFields c)).toList

theorem parts_eq (s : Settings) : s.parts = partsOf s.ownFields s.ownTables := by
  unfold parts ownTables
  cases s.credentials with
  | none => rfl
  | some credentials => rfl

def isBareKey (key : String) : Bool :=
  !key.toList.isEmpty && key.toList.all isBareKeyChar

theorem bareKey_of_isBareKey {key : String} (checked : isBareKey key = true) : BareKey key := by
  rw [isBareKey, Bool.and_eq_true, Bool.not_eq_true', List.isEmpty_eq_false_iff,
    List.all_eq_true] at checked
  exact ⟨checked.1, checked.2⟩

theorem isTable_of_keys (keys : List String) {fields : List (String × Field)}
    (named : fields.map Prod.fst = keys) (checked : keys.all isBareKey = true)
    (distinct : keys.Nodup) : IsTable fields := by
  subst named
  exact ⟨fun f member =>
    bareKey_of_isBareKey (List.all_eq_true.mp checked f.1 (List.mem_map_of_mem member)), distinct⟩

theorem isTable_ownFields (s : Settings) : IsTable s.ownFields :=
  isTable_of_keys ["keyspace", "hosts", "port", "page_size", "consistency"] rfl
    (by decide +kernel) (by decide)

theorem isTable_of_mem_ownTables {s : Settings} {t : String × List (String × Field)}
    (member : t ∈ s.ownTables) : BareKey t.1 ∧ IsTable t.2 := by
  have timeouts : BareKey "timeouts" := bareKey_of_isBareKey (by decide +kernel)
  have credentials : BareKey "credentials" := bareKey_of_isBareKey (by decide +kernel)
  rcases List.mem_cons.mp member with rfl | member
  · exact ⟨timeouts, isTable_of_keys ["request_ms", "connect_ms"] rfl (by decide +kernel)
      (by decide)⟩
  · obtain ⟨c, -, rfl⟩ := Option.map_eq_some_iff.mp (Option.mem_toList.mp member)
    exact ⟨credentials, isTable_of_keys ["username", "password"] rfl (by decide +kernel)
      (by decide)⟩

theorem nodup_ownKeys (s : Settings) :
    (s.ownFields.map Prod.fst ++ s.ownTables.map Prod.fst).Nodup := by
  cases given : s.credentials <;> simp [ownTables, ownFields, given]

theorem read_toDocument (s : Settings) :
    read s.toDocument = some (entriesOf s.ownFields ++ tableEntries s.ownTables) := by
  rw [toDocument, parts_eq]
  exact read_writeParts s.isTable_ownFields (fun _ => isTable_of_mem_ownTables) s.nodup_ownKeys

theorem sortByKey_timeoutFields (t : Timeouts) :
    Datum.sortByKey (entriesOf (timeoutFields t)) =
      [("connect_ms", .integer t.connectMillis.toNat),
        ("request_ms", .integer t.requestMillis.toNat)] := by
  simp only [entriesOf, timeoutFields, List.map_cons, List.map_nil, Datum.sortByKey,
    List.foldr_cons, List.foldr_nil, Datum.insertByKey, String.reduceLT, if_true,
    Field.datum]

theorem sortByKey_credentialFields (c : Credentials) :
    Datum.sortByKey (entriesOf (credentialFields c)) =
      [("password", .text c.password), ("username", .text c.username)] := by
  simp only [entriesOf, credentialFields, List.map_cons, List.map_nil, Datum.sortByKey,
    List.foldr_cons, List.foldr_nil, Datum.insertByKey, String.reduceLT, if_true,
    Field.datum]

theorem asUnsigned_natCast {bits n : Nat} (below : n < 2 ^ bits) :
    Datum.asUnsigned bits (.integer n) = .ok n := by
  have fits : 0 ≤ (n : Int) ∧ (n : Int) < Nat.pow 2 bits :=
    ⟨Int.natCast_nonneg n, Int.ofNat_lt.mpr below⟩
  rw [Datum.asUnsigned, if_pos fits, Int.toNat_natCast]

theorem asMillis_toNat (millis : UInt64) : asMillis (.integer millis.toNat) = .ok millis := by
  rw [asMillis, asUnsigned_natCast millis.toNat_lt]
  exact congrArg Except.ok (UInt64.ofNat_toNat)

theorem asTimeouts_timeoutFields (t : Timeouts) :
    asTimeouts false (.table .header (entriesOf (timeoutFields t))) = .ok t := by
  change Datum.foldEntries takeTimeout {} (entriesOf (timeoutFields t)) = _
  rw [Datum.foldEntries, sortByKey_timeoutFields]
  simp only [List.foldlM_cons, List.foldlM_nil, takeTimeout, asMillis_toNat]
  rfl

theorem asCredentials_credentialFields (c : Credentials) :
    asCredentials false (.table .header (entriesOf (credentialFields c))) = .ok c := by
  have taken : Datum.foldEntries takeCredential ⟨"", ""⟩ (entriesOf (credentialFields c)) =
      .ok c := by
    rw [Datum.foldEntries, sortByKey_credentialFields]
    rfl
  rw [asCredentials]
  simp only [Datum.items?, Datum.entries?]
  exact bind_eq_ok.mpr ⟨c, taken, rfl⟩

theorem asTexts_texts (items : List String) :
    Datum.asTexts (.list (items.map .text)) = .ok items := by
  change (items.map Datum.text).mapM Datum.asText = _
  induction items with
  | nil => rfl
  | cons item items ih =>
      rw [List.map_cons, List.mapM_cons]
      exact bind_eq_ok.mpr ⟨item, rfl, bind_eq_ok.mpr ⟨items, ih, rfl⟩⟩

theorem asConsistency_name (level : Consistency) :
    asConsistency (.text level.name) = .ok level := by
  cases level <;> rfl

theorem sortByKey_entries (s : Settings) (timeouts : Datum) (credentials : Option Datum) :
    Datum.sortByKey (entriesOf s.ownFields ++ ("timeouts", timeouts) ::
        (credentials.map fun d => ("credentials", d)).toList) =
      [("consistency", .text s.consistency.name)] ++
      (credentials.map fun d => ("credentials", d)).toList ++
      [("hosts", .list (s.hosts.map .text)), ("keyspace", .text s.keyspace),
        ("page_size", .integer s.pageSize.toNat), ("port", .integer s.port.toNat),
        ("timeouts", timeouts)] := by
  cases credentials <;>
    simp only [entriesOf, ownFields, Option.map_none, Option.map_some, Option.toList_none,
      Option.toList_some, List.map_cons, List.map_nil, List.cons_append, List.nil_append,
      Datum.sortByKey, List.foldr_cons, List.foldr_nil, Datum.insertByKey, String.reduceLT,
      if_true, if_false, Field.datum]

theorem sortByKey_settings (s : Settings) :
    Datum.sortByKey (entriesOf s.ownFields ++ tableEntries s.ownTables) =
      [("consistency", .text s.consistency.name)] ++
      (s.credentials.map fun c =>
        ("credentials", Datum.table .header (entriesOf (credentialFields c)))).toList ++
      [("hosts", .list (s.hosts.map .text)), ("keyspace", .text s.keyspace),
        ("page_size", .integer s.pageSize.toNat), ("port", .integer s.port.toNat),
        ("timeouts", .table .header (entriesOf (timeoutFields s.timeouts)))] := by
  have sorted := sortByKey_entries s (.table .header (entriesOf (timeoutFields s.timeouts)))
    (s.credentials.map fun c => .table .header (entriesOf (credentialFields c)))
  rw [Option.map_map] at sorted
  rw [tableEntries, ownTables, List.map_cons, ← Option.toList_map, Option.map_map]
  exact sorted

section

variable (s : Settings)

theorem takeField_consistency (level : Consistency) :
    takeField false s "consistency" (.text level.name) = .ok { s with consistency := level } := by
  rw [takeField, if_pos rfl, asConsistency_name]
  rfl

theorem takeField_credentials (c : Credentials) :
    takeField false s "credentials" (.table .header (entriesOf (credentialFields c))) =
      .ok { s with credentials := some c } := by
  simp only [takeField, asOptionalCredentials, asCredentials_credentialFields, String.reduceEq,
    if_false, if_true]
  rfl

theorem takeField_hosts (hosts : List String) :
    takeField false s "hosts" (.list (hosts.map .text)) = .ok { s with hosts } := by
  simp only [takeField, asTexts_texts, String.reduceEq, if_false, if_true]
  rfl

theorem takeField_keyspace (keyspace : String) :
    takeField false s "keyspace" (.text keyspace) = .ok { s with keyspace } := by
  simp only [takeField, String.reduceEq, if_false, if_true]
  rfl

theorem takeField_pageSize (pageSize : UInt32) :
    takeField false s "page_size" (.integer pageSize.toNat) = .ok { s with pageSize } := by
  simp only [takeField, asUnsigned_natCast pageSize.toNat_lt, String.reduceEq, if_false, if_true]
  rw [Except.map, UInt32.ofNat_toNat]

theorem takeField_port (port : UInt16) :
    takeField false s "port" (.integer port.toNat) = .ok { s with port } := by
  simp only [takeField, asUnsigned_natCast port.toNat_lt, String.reduceEq, if_false, if_true]
  rw [Except.map, UInt16.ofNat_toNat]

theorem takeField_timeouts (timeouts : Timeouts) :
    takeField false s "timeouts" (.table .header (entriesOf (timeoutFields timeouts))) =
      .ok { s with timeouts } := by
  simp only [takeField, asTimeouts_timeoutFields, String.reduceEq, if_false, if_true]
  rfl

end

theorem ofEntries_settings (s : Settings) :
    ofEntries false (entriesOf s.ownFields ++ tableEntries s.ownTables) = .ok s := by
  have folded : Datum.foldEntries (takeField false) { keyspace := "" }
      (entriesOf s.ownFields ++ tableEntries s.ownTables) = .ok s := by
    rw [Datum.foldEntries, sortByKey_settings]
    cases given : s.credentials <;>
      simp only [Option.map_none, Option.map_some, Option.toList_none, Option.toList_some,
        List.append_nil, List.cons_append, List.nil_append, List.foldlM_cons, List.foldlM_nil,
        takeField_consistency, takeField_credentials, takeField_hosts, takeField_keyspace,
        takeField_pageSize, takeField_port, takeField_timeouts]
    all_goals
      rw [← given]
      rfl
  have required : Datum.require "keyspace" (entriesOf s.ownFields ++ tableEntries s.ownTables) =
      .ok () := rfl
  rw [ofEntries]
  exact bind_eq_ok.mpr ⟨s, folded, bind_eq_ok.mpr ⟨(), required, rfl⟩⟩

/-- Settings that are written as a document are read back from it, and then are what they were; the
document is refused only for what is wrong with the settings themselves. -/
theorem ofDocument_toDocument (s : Settings) :
    ofDocument s.toDocument =
      match s.validate with
      | .ok _ => .ok s
      | .error fault => .error (.refused fault) := by
  rw [ofDocument, read_toDocument]
  simp only [ofEntries_settings, validate]
  cases s.fault? with
  | none => rfl
  | some fault => rfl

end WideColumn.Settings
