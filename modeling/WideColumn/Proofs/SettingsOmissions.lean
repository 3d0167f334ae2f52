import WideColumn.Proofs.SettingsRoundTrip

/-! Documents of settings with entries left out: what is left out is as usual, unless it has to be
there. -/

namespace WideColumn

namespace Datum

variable {α : Type} {entry : String × α} {entries : List (String × α)} {kept : String → Bool}

def withKeys (kept : String → Bool) (entries : List (String × α)) : List (String × α) :=
  entries.filter fun e => kept e.1

theorem withKeys_all (entries : List (String × α)) : withKeys (fun _ => true) entries = entries :=
  List.filter_eq_self.mpr fun _ _ => rfl

def Sorted (entries : List (String × α)) : Prop :=
  entries.Pairwise fun e f => e.1 ≤ f.1

theorem mem_insertByKey {other : String × α} :
    other ∈ insertByKey entry entries ↔ other = entry ∨ other ∈ entries := by
  induction entries with
  | nil => simp [insertByKey]
  | cons first rest ih =>
      rw [insertByKey]
      split
      · rw [List.mem_cons, ih, List.mem_cons, or_left_comm]
      · rw [List.mem_cons]

theorem Sorted.insertByKey (sorted : Sorted entries) : Sorted (insertByKey entry entries) := by
  induction entries with
  | nil => exact List.pairwise_singleton _ _
  | cons first rest ih =>
      obtain ⟨least, later⟩ := List.pairwise_cons.mp sorted
      rw [Datum.insertByKey]
      by_cases before : first.1 < entry.1
      · rw [if_pos before]
        refine List.pairwise_cons.mpr ⟨fun e member => ?_, ih later⟩
        rcases mem_insertByKey.mp member with rfl | member
        · exact String.not_lt.mp (String.lt_asymm before)
        · exact least e member
      · rw [if_neg before]
        have le : entry.1 ≤ first.1 := String.not_lt.mp before
        exact List.pairwise_cons.mpr ⟨List.forall_mem_cons.mpr
          ⟨le, fun e member => String.le_trans le (least e member)⟩, sorted⟩

theorem sorted_sortByKey (entries : List (String × α)) : Sorted (sortByKey entries) := by
  induction entries with
  | nil => exact .nil
  | cons entry rest ih => exact ih.insertByKey

theorem insertByKey_of_le (least : ∀ e ∈ entries, entry.1 ≤ e.1) :
    insertByKey entry entries = entry :: entries := by
  cases entries with
  | nil => rfl
  | cons first rest =>
      rw [insertByKey, if_neg (String.not_lt.mpr (least first List.mem_cons_self))]

theorem withKeys_insertByKey (sorted : Sorted entries) : withKeys kept (insertByKey entry entries) =
    if kept entry.1 then insertByKey entry (withKeys kept entries) else withKeys kept entries := by
  unfold withKeys
  induction entries with
  | nil => cases stays : kept entry.1 <;> simp [insertByKey, stays]
  | cons first rest ih =>
      obtain ⟨least, later⟩ := List.pairwise_cons.mp sorted
      rw [insertByKey]
      by_cases before : first.1 < entry.1
      · rw [if_pos before, List.filter_cons, ih later]
        cases here : kept first.1 <;> cases kept entry.1 <;> simp [here, insertByKey, before]
      · rw [if_neg before, List.filter_cons]
        -- No key behind the first is less either, so the entry stays in front of all that are kept.
        have le : entry.1 ≤ first.1 := String.not_lt.mp before
        have front : insertByKey entry ((first :: rest).filter fun e => kept e.1) =
            entry :: (first :: rest).filter fun e => kept e.1 := by
          refine insertByKey_of_le fun e member => ?_
          rcases List.mem_cons.mp (List.mem_filter.mp member).1 with rfl | member
          · exact le
          · exact String.le_trans le (least e member)
        rw [front]

theorem sortByKey_withKeys (kept : String → Bool) (entries : List (String × α)) :
    sortByKey (withKeys kept entries) = withKeys kept (sortByKey entries) := by
  induction entries with
  | nil => rfl
  | cons entry rest ih =>
      change _ = withKeys kept (insertByKey entry (sortByKey rest))
      rw [withKeys_insertByKey (sorted_sortByKey rest), ← ih, withKeys, List.filter_cons]
      cases stays : kept entry.1 <;> rfl

theorem foldEntries_withKeys {σ : Type} (take : σ → String → Datum → Except DecodeError σ)
    (start : σ) (entries : Entries) : foldEntries take start (withKeys kept entries) =
      (sortByKey entries).foldlM
        (fun state e => if kept e.1 then take state e.1 e.2 else pure state) start := by
  rw [foldEntries, sortByKey_withKeys, withKeys, List.foldlM_filter]

theorem find?_withKeys (key : String) (entries : Entries) :
    find? key (withKeys kept entries) = if kept key then find? key entries else none := by
  unfold withKeys find?
  induction entries with
  | nil => simp
  | cons entry rest ih =>
      obtain ⟨name, d⟩ := entry
      by_cases here : key = name
      · subst here
        cases stays : kept key <;> simp [stays, ih]
      · have apart : (key == name) = false := beq_eq_false_iff_ne.mpr here
        cases stays : kept name <;> simp [stays, ih, List.lookup_cons, apart]

theorem require_withKeys (key : String) (entries : Entries) : require key (withKeys kept entries) =
    if kept key then require key entries else .error (.missingField key) := by
  rw [require, find?_withKeys]
  cases kept key <;> rfl

end Datum

def Timeouts.keeping (t : Timeouts) (kept : String → Bool) : Timeouts :=
  let usual : Timeouts := {}
  { requestMillis := if kept "request_ms" then t.requestMillis else usual.requestMillis
    connectMillis := if kept "connect_ms" then t.connectMillis else usual.connectMillis }

namespace Settings

open Toml Datum

variable {kept : String → Bool} {header : Bool}

def Part.keeping (kept : String → Bool) (p : Part) : Part :=
  { p with fields := withKeys kept p.fields }

/-- A table goes with the last of its entries, but the header of the timeouts may stay. -/
def Part.isLeft (kept : String → Bool) (header : Bool) (p : Part) : Bool :=
  p.table.isNone || !(withKeys kept p.fields).isEmpty || header && p.table == some "timeouts"

/-- The document of settings with only the entries whose keys are kept. -/
def abridged (s : Settings) (kept : String → Bool) (header : Bool) : String :=
  writeParts ((s.parts.filter (Part.isLeft kept header)).map (Part.keeping kept))

/-- Settings of which the fields that are not kept are as usual. -/
def keeping (s : Settings) (kept : String → Bool) : Settings :=
  let usual : Settings := { keyspace := s.keyspace }
  { usual with
    hosts := if kept "hosts" then s.hosts else usual.hosts
    port := if kept "port" then s.port else usual.port
    pageSize := if kept "page_size" then s.pageSize else usual.pageSize
    consistency := if kept "consistency" then s.consistency else usual.consistency
    timeouts := s.timeouts.keeping kept
    credentials := if kept "username" && kept "password" then s.credentials else none }

/-- The half of the credentials that is left out when the other half is kept. -/
def lostHalf? (s : Settings) (kept : String → Bool) : Option String :=
  match s.credentials, kept "username", kept "password" with
  | some _, false, true => some "username"
  | some _, true, false => some "password"
  | _, _, _ => none

/-- The first entry that has to be there and is left out. -/
def missing? (s : Settings) (kept : String → Bool) : Option String :=
  (s.lostHalf? kept).or (if kept "keyspace" then none else some "keyspace")

theorem abridged_all (s : Settings) : s.abridged (fun _ => true) header = s.toDocument := by
  have whole (p : Part) : p.keeping (fun _ => true) = p := by rw [Part.keeping, withKeys_all]
  have left : s.parts.filter (Part.isLeft (fun _ => true) header) = s.parts := by
    rw [List.filter_eq_self, parts_eq, partsOf, ownTables]
    cases s.credentials <;> simp [Part.isLeft, withKeys_all, timeoutFields, credentialFields]
  rw [abridged, left, List.map_congr_left fun p _ => whole p, List.map_id', toDocument]

/-! What a document with entries left out is read as. -/

/-- The tables that are left, with the fields that are left in them. -/
def tablesLeft (s : Settings) (kept : String → Bool) (header : Bool) :
    List (String × List (String × Field)) :=
  (s.ownTables.filter fun t => !(withKeys kept t.2).isEmpty || header && t.1 == "timeouts").map
    fun t => (t.1, withKeys kept t.2)

theorem abridged_eq (s : Settings) : s.abridged kept header =
    writeParts (partsOf (withKeys kept s.ownFields) (s.tablesLeft kept header)) := by
  rw [abridged, parts_eq, partsOf, partsOf, tablesLeft, List.filter_cons_of_pos rfl,
    List.filter_map, List.map_cons, List.map_map, List.map_map]
  rfl

theorem isTable_withKeys {fields : List (String × Field)} (table : IsTable fields) :
    IsTable (withKeys kept fields) :=
  ⟨fun f member => table.bare f (List.mem_filter.mp member).1,
    (List.filter_sublist.map Prod.fst).nodup table.distinct⟩

def isPresent (kept : String → Bool) (header : Bool) (key : String) : Bool :=
  if key = "timeouts" then kept "request_ms" || kept "connect_ms" || header
  else if key = "credentials" then kept "username" || kept "password"
  else kept key

theorem isEmpty_withKeys_pair {α : Type} (first second : String × α) :
    (!(withKeys kept [first, second]).isEmpty) = (kept first.1 || kept second.1) := by
  cases here : kept first.1 <;> cases there : kept second.1 <;> simp [withKeys, here, there]

theorem isPresent_of_mem_ownTables {s : Settings} {t : String × List (String × Field)}
    (member : t ∈ s.ownTables) :
    (!(withKeys kept t.2).isEmpty || header && t.1 == "timeouts") = isPresent kept header t.1 := by
  rcases List.mem_cons.mp member with rfl | member
  · rw [timeoutFields, isEmpty_withKeys_pair]
    simp [isPresent]
  · obtain ⟨c, -, rfl⟩ := Option.map_eq_some_iff.mp (Option.mem_toList.mp member)
    rw [credentialFields, isEmpty_withKeys_pair]
    simp [isPresent]

theorem entriesOf_withKeys (fields : List (String × Field)) :
    entriesOf (withKeys kept fields) = withKeys kept (entriesOf fields) := by
  rw [withKeys, withKeys, entriesOf, entriesOf, List.filter_map]
  rfl

def leftTable (kept : String → Bool) (fields : List (String × Field)) : Datum :=
  .table .header (withKeys kept (entriesOf fields))

theorem tableEntries_tablesLeft (s : Settings) : tableEntries (s.tablesLeft kept header) =
    withKeys (isPresent kept header)
      (("timeouts", leftTable kept (timeoutFields s.timeouts)) ::
        ((s.credentials.map fun c => leftTable kept (credentialFields c)).map
          fun d => ("credentials", d)).toList) := by
  have whole : ("timeouts", leftTable kept (timeoutFields s.timeouts)) ::
      ((s.credentials.map fun c => leftTable kept (credentialFields c)).map
        fun d => ("credentials", d)).toList =
      s.ownTables.map fun t => (t.1, leftTable kept t.2) := by
    rw [ownTables]
    cases s.credentials <;> rfl
  rw [whole, withKeys, List.filter_map, tableEntries, tablesLeft, List.map_map,
    List.filter_congr fun t member => isPresent_of_mem_ownTables member]
  simp only [Function.comp_def, entriesOf_withKeys, leftTable]

def allEntries (s : Settings) (kept : String → Bool) : Entries :=
  entriesOf s.ownFields ++ ("timeouts", leftTable kept (timeoutFields s.timeouts)) ::
    ((s.credentials.map fun c => leftTable kept (credentialFields c)).map
      fun d => ("credentials", d)).toList

theorem read_abridged (s : Settings) : read (s.abridged kept header) =
    some (withKeys (isPresent kept header) (s.allEntries kept)) := by
  -- No field beside the tables has the key of a table.
  have own : withKeys kept s.ownFields = withKeys (isPresent kept header) s.ownFields := rfl
  have left : entriesOf (withKeys kept s.ownFields) ++ tableEntries (s.tablesLeft kept header) =
      withKeys (isPresent kept header) (s.allEntries kept) := by
    rw [own, entriesOf_withKeys, tableEntries_tablesLeft]
    exact (List.filter_append _ _).symm
  rw [abridged_eq, ← left]
  apply read_writeParts (isTable_withKeys s.isTable_ownFields)
  · intro t member
    obtain ⟨whole, left, rfl⟩ := List.mem_map.mp member
    obtain ⟨bare, table⟩ := isTable_of_mem_ownTables (List.mem_filter.mp left).1
    exact ⟨bare, isTable_withKeys table⟩
  · refine List.Sublist.nodup (.append (List.filter_sublist.map Prod.fst) ?_) s.nodup_ownKeys
    rw [tablesLeft, List.map_map]
    exact List.filter_sublist.map Prod.fst

theorem ite_pure_eq_ok {ε σ α : Type} (set : α → σ) {held given : α} {left : Bool}
    {taken : Except ε σ} (step : taken = .ok (set given)) :
    (if left then taken else pure (set held)) = .ok (set (if left then given else held)) := by
  cases left with
  | false => rfl
  | true => exact step

theorem asTimeouts_leftTable (t : Timeouts) :
    asTimeouts false (leftTable kept (timeoutFields t)) = .ok (t.keeping kept) := by
  change foldEntries takeTimeout {} (withKeys kept (entriesOf (timeoutFields t))) = _
  rw [foldEntries_withKeys, sortByKey_timeoutFields]
  have connect (usual : Timeouts) :
      takeTimeout usual "connect_ms" (.integer t.connectMillis.toNat) =
        .ok { usual with connectMillis := t.connectMillis } := by
    rw [takeTimeout, if_pos rfl, asMillis_toNat]
    rfl
  have request (usual : Timeouts) :
      takeTimeout usual "request_ms" (.integer t.requestMillis.toNat) =
        .ok { usual with requestMillis := t.requestMillis } := by
    rw [takeTimeout, if_neg (by decide), if_pos rfl, asMillis_toNat]
    rfl
  refine bind_eq_ok.mpr ⟨_, ite_pure_eq_ok (Timeouts.mk 12000) (connect _), ?_⟩
  exact bind_eq_ok.mpr ⟨_, ite_pure_eq_ok (Timeouts.mk · _) (request _), rfl⟩

theorem asCredentials_leftTable (c : Credentials) :
    asCredentials false (leftTable kept (credentialFields c)) =
      if !kept "username" then .error (.missingField "username")
      else if !kept "password" then .error (.missingField "password")
      else .ok c := by
  have folded :
      foldEntries takeCredential ⟨"", ""⟩ (withKeys kept (entriesOf (credentialFields c))) =
      .ok ⟨if kept "username" then c.username else "",
        if kept "password" then c.password else ""⟩ := by
    rw [foldEntries_withKeys, sortByKey_credentialFields]
    refine bind_eq_ok.mpr ⟨_, ite_pure_eq_ok (Credentials.mk "") rfl, ?_⟩
    exact bind_eq_ok.mpr ⟨_, ite_pure_eq_ok
      (Credentials.mk · (if kept "password" then c.password else "")) rfl, rfl⟩
  simp only [leftTable, asCredentials, items?, entries?, folded, require_withKeys]
  cases kept "username" <;> cases kept "password" <;> rfl

def takeLeft (kept : String → Bool) (header : Bool) (s : Settings) (e : String × Datum) :
    Except DecodeError Settings :=
  if isPresent kept header e.1 then takeField false s e.1 e.2 else pure s

section

variable (s : Settings)

theorem takeLeft_consistency (level : Consistency) :
    takeLeft kept header s ("consistency", .text level.name) =
      .ok { s with consistency := if kept "consistency" then level else s.consistency } :=
  ite_pure_eq_ok ({ s with consistency := · } : Consistency → Settings)
    (takeField_consistency s level)

theorem takeLeft_hosts (hosts : List String) :
    takeLeft kept header s ("hosts", .list (hosts.map .text)) =
      .ok { s with hosts := if kept "hosts" then hosts else s.hosts } :=
  ite_pure_eq_ok ({ s with hosts := · } : List String → Settings) (takeField_hosts s hosts)

theorem takeLeft_keyspace (keyspace : String) :
    takeLeft kept header s ("keyspace", .text keyspace) =
      .ok { s with keyspace := if kept "keyspace" then keyspace else s.keyspace } :=
  ite_pure_eq_ok ({ s with keyspace := · } : String → Settings) (takeField_keyspace s keyspace)

theorem takeLeft_pageSize (pageSize : UInt32) :
    takeLeft kept header s ("page_size", .integer pageSize.toNat) =
      .ok { s with pageSize := if kept "page_size" then pageSize else s.pageSize } :=
  ite_pure_eq_ok ({ s with pageSize := · } : UInt32 → Settings) (takeField_pageSize s pageSize)

theorem takeLeft_port (port : UInt16) :
    takeLeft kept header s ("port", .integer port.toNat) =
      .ok { s with port := if kept "port" then port else s.port } :=
  ite_pure_eq_ok ({ s with port := · } : UInt16 → Settings) (takeField_port s port)

theorem takeLeft_timeouts (t : Timeouts) (usual : s.timeouts = {}) :
    takeLeft kept header s ("timeouts", leftTable kept (timeoutFields t)) =
      .ok { s with timeouts := t.keeping kept } := by
  rw [takeLeft]
  cases left : isPresent kept header "timeouts" with
  | true =>
      simp only [takeField, asTimeouts_leftTable, String.reduceEq, if_false, if_true]
      rfl
  | false =>
      simp only [isPresent, if_true, Bool.or_eq_false_iff] at left
      obtain ⟨⟨request, connect⟩, -⟩ := left
      simp only [Timeouts.keeping, request, connect, if_false, Bool.false_eq_true]
      have same : ({ s with timeouts := {} } : Settings) = s := by rw [← usual]
      exact congrArg Except.ok same.symm

end

theorem takeLeft_credentials {s start : Settings} {c : Credentials} (given : s.credentials = some c)
    (usual : start.credentials = none) :
    takeLeft kept header start ("credentials", leftTable kept (credentialFields c)) =
      match s.lostHalf? kept with
      | some name => .error (.missingField name)
      | none => .ok { start with
          credentials := if kept "username" && kept "password" then some c else none } := by
  have optional : asOptionalCredentials false (leftTable kept (credentialFields c)) =
      some <$> asCredentials false (leftTable kept (credentialFields c)) := rfl
  simp only [takeLeft, takeField, optional, asCredentials_leftTable, String.reduceEq, if_false,
    if_true, lostHalf?, given]
  cases name : kept "username" <;> cases secret : kept "password" <;>
    simp only [isPresent, name, secret, Bool.or_false, Bool.or_true, Bool.and_self, Bool.not_false,
      Bool.not_true, Bool.false_eq_true, String.reduceEq, if_false, if_true]
  case false.false =>
    have same : ({ start with credentials := none } : Settings) = start := by rw [← usual]
    exact congrArg Except.ok same.symm
  all_goals rfl

theorem foldlM_credentials (s start : Settings) (usual : start.credentials = none) :
    ((s.credentials.map fun c => leftTable kept (credentialFields c)).map
        fun d => ("credentials", d)).toList.foldlM (takeLeft kept header) start =
      match s.lostHalf? kept with
      | some name => .error (.missingField name)
      | none => .ok { start with
          credentials := if kept "username" && kept "password" then s.credentials else none } := by
  cases given : s.credentials with
  | none =>
      have same : ({ start with credentials := none } : Settings) = start := by rw [← usual]
      simp only [lostHalf?, given, ite_self, same]
      rfl
  | some c =>
      simp only [Option.map_some, Option.toList_some, List.foldlM_cons, List.foldlM_nil, bind_pure,
        takeLeft_credentials given usual]

theorem foldlM_later (s start : Settings) (usual : start.timeouts = {}) :
    [("hosts", Datum.list (s.hosts.map .text)), ("keyspace", .text s.keyspace),
      ("page_size", .integer s.pageSize.toNat), ("port", .integer s.port.toNat),
      ("timeouts", leftTable kept (timeoutFields s.timeouts))].foldlM (takeLeft kept header) start =
      .ok { start with
        keyspace := if kept "keyspace" then s.keyspace else start.keyspace
        hosts := if kept "hosts" then s.hosts else start.hosts
        port := if kept "port" then s.port else start.port
        pageSize := if kept "page_size" then s.pageSize else start.pageSize
        timeouts := s.timeouts.keeping kept } :=
  bind_eq_ok.mpr ⟨_, takeLeft_hosts _ _, bind_eq_ok.mpr ⟨_, takeLeft_keyspace _ _,
    bind_eq_ok.mpr ⟨_, takeLeft_pageSize _ _, bind_eq_ok.mpr ⟨_, takeLeft_port _ _,
      bind_eq_ok.mpr ⟨_, takeLeft_timeouts _ _ usual, rfl⟩⟩⟩⟩⟩

theorem foldEntries_allEntries (s : Settings) :
    foldEntries (takeField false) { keyspace := "" }
        (withKeys (isPresent kept header) (s.allEntries kept)) =
      match s.lostHalf? kept with
      | some name => .error (.missingField name)
      | none =>
        .ok { s.keeping kept with keyspace := if kept "keyspace" then s.keyspace else "" } := by
  rw [foldEntries_withKeys, allEntries, sortByKey_entries, List.append_assoc,
    List.singleton_append, List.foldlM_cons]
  change takeLeft kept header _ _ >>= _ = _
  rw [takeLeft_consistency]
  change List.foldlM (takeLeft kept header) _ (_ ++ _) = _
  rw [List.foldlM_append, foldlM_credentials _ _ rfl]
  cases s.lostHalf? kept with
  | some name => rfl
  | none => exact foldlM_later s _ rfl

theorem ofEntries_allEntries (s : Settings) :
    ofEntries false (withKeys (isPresent kept header) (s.allEntries kept)) =
      match s.missing? kept with
      | some name => .error (.missingField name)
      | none => .ok (s.keeping kept) := by
  have required : require "keyspace" (withKeys (isPresent kept header) (s.allEntries kept)) =
      if kept "keyspace" then .ok () else .error (.missingField "keyspace") :=
    require_withKeys "keyspace" (s.allEntries kept)
  rw [ofEntries, required, foldEntries_allEntries, missing?]
  cases s.lostHalf? kept with
  | some name => rfl
  | none => cases kept "keyspace" <;> rfl

/-- A document with entries left out is read as the settings that have those as they usually are,
and is refused only for what is wrong with these; a document without one of the entries that have to
be there is not read at all. -/
theorem ofDocument_abridged (s : Settings) (kept : String → Bool) (header : Bool) :
    s.abridged (fun _ => true) header = s.toDocument ∧
    ofDocument (s.abridged kept header) =
      match s.missing? kept with
      | some name => .error (.unfit (.missingField name))
      | none =>
        match (s.keeping kept).validate with
        | .ok _ => .ok (s.keeping kept)
        | .error fault => .error (.refused fault) := by
  refine ⟨s.abridged_all, ?_⟩
  rw [ofDocument, read_abridged]
  simp only [ofEntries_allEntries, validate]
  cases s.missing? kept with
  | some name => rfl
  | none =>
      dsimp only
      cases (s.keeping kept).fault? with
      | none => rfl
      | some fault => rfl

end Settings

end WideColumn
