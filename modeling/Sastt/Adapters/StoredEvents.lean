import Mathlib.Data.List.Sort
import Sastt.Adapters.EventAgreement
import Sastt.Domain.ReadValues
import Sastt.Lib.Dictionaries

/-!
# What is stored of an event

An event is stored as one JSON object and read back from it. The object is the envelope
`to_dict` makes for the client, in which the type has another name and the deduplication key is
missing, with the key added by hand; the reader takes twelve fields from it, some under a
default, some through a conversion. `EventStores` leaves the object typed and so has nothing
to convert. Here it is a value.

The column is of type JSONB, which refuses some values and changes others: an object forgets
the order of its keys, a float may come back as an integer. `JsonbColumn` is a column, with
what is known of any: what it takes of texts, integers, truth values and `null` it gives back,
and it stores an object field by field. So an event comes back as it was (`eventFromJson_store`),
and a replay is what has been appended (`replay_appended`), as long as the column keeps what
the event carries.
-/

namespace Sastt

variable {F : Type}

/-- **A JSONB column**: the value that is read from it after a value was written, unless it is
refused. -/
structure JsonbColumn (F : Type) where
  store : PyValue F → Option (PyValue F)
  store_null : ∀ {w}, store .null = some w → w = .null
  store_bool : ∀ {b w}, store (.bool b) = some w → w = .bool b
  store_int : ∀ {n w}, store (PyValue.int n) = some w → w = PyValue.int n
  store_str : ∀ {s w}, store (.str s) = some w → w = .str s
  store_obj : ∀ {fields w}, (fields.map Prod.fst).Nodup → store (.obj fields) = some w →
    ∃ fields', w = .obj fields'
      ∧ (∀ key, fields.lookup key = none → fields'.lookup key = none)
      ∧ ∀ key v, fields.lookup key = some v → ∃ v', store v = some v' ∧ fields'.lookup key = some v'

/-- The column keeps a value: what is read is the same. -/
def JsonbColumn.Keeps (column : JsonbColumn F) (v : PyValue F) : Prop :=
  ∀ w, column.store v = some w → v.Same w

/-- **`ServerEvent`**, with what its fields hold. Those that are passed on as they are read hold
any value. -/
structure StoredEvent (F : Type) where
  eventId : String
  sessionId : String
  sequenceNumber : ℤ
  eventType : EventType
  serverTimeMs : ℤ
  revision : ℤ := 1
  supersedesEventId : PyValue F := .null
  isFinal : Bool := false
  payload : List (String × PyValue F) := []
  modelVersions : List (String × PyValue F) := []
  configVersion : PyValue F := .null
  dedupKey : PyValue F := .null

/-- A text, or `None`. -/
def IsOptionalText (v : PyValue F) : Prop := ∃ text : Option String, v = .ofOption .str text

namespace StoredEvent

variable (event : StoredEvent F)

/-- `to_dict`. -/
def toDict : List (String × PyValue F) :=
  [("event_id", .str event.eventId), ("session_id", .str event.sessionId),
    ("sequence_number", PyValue.int event.sequenceNumber),
    ("type", .str event.eventType.value),
    ("server_time_ms", PyValue.int event.serverTimeMs),
    ("revision", PyValue.int event.revision),
    ("supersedes_event_id", event.supersedesEventId), ("is_final", .bool event.isFinal),
    ("payload", .obj event.payload), ("model_versions", .obj event.modelVersions),
    ("config_version", event.configVersion)]

/-- `{**event.to_dict(), "dedup_key": event.dedup_key}`. -/
def toObject : List (String × PyValue F) := event.toDict ++ [("dedup_key", event.dedupKey)]

/-- **The fields are of the types they are declared with**, and the dictionaries are
dictionaries. -/
structure WellTyped : Prop where
  supersedesEventId : IsOptionalText event.supersedesEventId
  configVersion : IsOptionalText event.configVersion
  dedupKey : IsOptionalText event.dedupKey
  payload : (event.payload.map Prod.fst).Nodup
  modelVersions : (event.modelVersions.map Prod.fst).Nodup

/-- **Two events are equal**, up to the order of keys. -/
structure Same (a b : StoredEvent F) : Prop where
  eventId : a.eventId = b.eventId
  sessionId : a.sessionId = b.sessionId
  sequenceNumber : a.sequenceNumber = b.sequenceNumber
  eventType : a.eventType = b.eventType
  serverTimeMs : a.serverTimeMs = b.serverTimeMs
  revision : a.revision = b.revision
  supersedesEventId : a.supersedesEventId = b.supersedesEventId
  isFinal : a.isFinal = b.isFinal
  payload : (Json.obj a.payload).Same (.obj b.payload)
  modelVersions : (Json.obj a.modelVersions).Same (.obj b.modelVersions)
  configVersion : a.configVersion = b.configVersion
  dedupKey : a.dedupKey = b.dedupKey

end StoredEvent

/-! ## Reading -/

/-- What Python makes of the values that are read. -/
structure PyReader (F : Type) extends PyConversions F where
  nonzero : F → Bool

/-- `EventType(value)`. -/
def EventType.ofPyValue (py : PyReader F) : PyValue F → Except PyError EventType
  | .str value => EventType.ofValue value
  | v => .error (.valueError (py.str v ++ " is not a valid EventType"))

/-- `_event_from_payload`. -/
def eventFromJson (py : PyReader F) (payload : PyValue F) : Except PyError (StoredEvent F) := do
  return {
    eventId := py.toStr (← payload.item "event_id")
    sessionId := py.toStr (← payload.item "session_id")
    sequenceNumber := ← py.toInt (← payload.item "sequence_number")
    eventType := ← EventType.ofPyValue py (← payload.item "type")
    serverTimeMs := ← py.toInt (← payload.get "server_time_ms" (PyValue.int 0))
    revision := ← py.toInt (← payload.get "revision" (PyValue.int 1))
    supersedesEventId := ← payload.get "supersedes_event_id" .null
    isFinal := (← payload.get "is_final" (.bool false)).truthy py.nonzero
    payload := ← py.toPyConversions.toDict (← payload.get "payload" (.obj []))
    modelVersions := ← py.toPyConversions.toDict (← payload.get "model_versions" (.obj []))
    configVersion := ← payload.get "config_version" .null
    dedupKey := ← payload.get "dedup_key" .null }

namespace JsonbColumn

variable (column : JsonbColumn F)

/-- A text or `None` comes back. -/
theorem store_optionalText {v w : PyValue F} (hv : IsOptionalText v)
    (h : column.store v = some w) : w = v := by
  obtain ⟨text, rfl⟩ := hv
  cases text with
  | none => exact column.store_null h
  | some s => exact column.store_str h

end JsonbColumn

/-- **An event is read back as it was.** -/
theorem eventFromJson_store (py : PyReader F) (column : JsonbColumn F) {event : StoredEvent F}
    (htyped : event.WellTyped) (hpayload : column.Keeps (.obj event.payload))
    (hversions : column.Keeps (.obj event.modelVersions)) {w : PyValue F}
    (h : column.store (.obj event.toObject) = some w) :
    ∃ event', eventFromJson py w = .ok event' ∧ event.Same event' := by
  obtain ⟨fields, rfl, -, hfields⟩ := column.store_obj
    (by simp [StoredEvent.toObject, StoredEvent.toDict]) h
  have hkept : ∀ key v, event.toObject.lookup key = some v →
      (∀ w, column.store v = some w → w = v) → fields.lookup key = some v := by
    intro key v hv hstore
    obtain ⟨v', hv', hlookup⟩ := hfields key v hv
    rw [hlookup, hstore v' hv']
  have hdict : ∀ key inner, event.toObject.lookup key = some (.obj inner) →
      (inner.map Prod.fst).Nodup → column.Keeps (.obj inner) →
        ∃ inner', fields.lookup key = some (.obj inner') ∧ (Json.obj inner).Same (.obj inner') := by
    intro key inner hv hnodup hkeeps
    obtain ⟨v', hv', hlookup⟩ := hfields key _ hv
    obtain ⟨inner', rfl, -⟩ := column.store_obj hnodup hv'
    exact ⟨inner', hlookup, hkeeps _ hv'⟩
  have hid := hkept "event_id" _ rfl (fun _ => column.store_str)
  have hsession := hkept "session_id" _ rfl (fun _ => column.store_str)
  have hsequence := hkept "sequence_number" _ rfl (fun _ => column.store_int)
  have htype := hkept "type" _ rfl (fun _ => column.store_str)
  have htime := hkept "server_time_ms" _ rfl (fun _ => column.store_int)
  have hrevision := hkept "revision" _ rfl (fun _ => column.store_int)
  have hsupersedes := hkept "supersedes_event_id" _ rfl
    (fun _ => column.store_optionalText htyped.supersedesEventId)
  have hfinal := hkept "is_final" _ rfl (fun _ => column.store_bool)
  have hconfig := hkept "config_version" _ rfl
    (fun _ => column.store_optionalText htyped.configVersion)
  have hdedup := hkept "dedup_key" _ rfl (fun _ => column.store_optionalText htyped.dedupKey)
  obtain ⟨payload, hpayload', hsame⟩ := hdict "payload" _ rfl htyped.payload hpayload
  obtain ⟨versions, hversions', hsameVersions⟩ := hdict "model_versions" _ rfl
    htyped.modelVersions hversions
  refine ⟨{ event with payload, modelVersions := versions }, ?_,
    ⟨rfl, rfl, rfl, rfl, rfl, rfl, rfl, rfl, hsame, hsameVersions, rfl, rfl⟩⟩
  unfold eventFromJson
  rw [PyValue.item_of_lookup hid, PyValue.item_of_lookup hsession,
    PyValue.item_of_lookup hsequence, PyValue.item_of_lookup htype,
    PyValue.get_of_lookup htime, PyValue.get_of_lookup hrevision,
    PyValue.get_of_lookup hsupersedes, PyValue.get_of_lookup hfinal,
    PyValue.get_of_lookup hpayload', PyValue.get_of_lookup hversions',
    PyValue.get_of_lookup hconfig, PyValue.get_of_lookup hdedup]
  have htype' : EventType.ofPyValue py (.str event.eventType.value) = .ok event.eventType :=
    EventType.ofValue_value event.eventType
  simp only [bind, Except.bind, htype']
  rfl

/-! ## The table -/

/-- **A row of `transcript_events`**, with what is read of its column. -/
structure StoredRow (F : Type) where
  id : String
  sessionId : String
  tenantId : String
  sequenceNumber : ℤ
  revision : ℤ
  eventType : String
  supersedesEventId : PyValue F
  isFinal : Bool
  payload : PyValue F

/-- **Two rows cannot both be there.** -/
def StoredRow.Conflicts (a b : StoredRow F) : Prop :=
  a.id = b.id ∨ (a.sessionId = b.sessionId ∧ a.sequenceNumber = b.sequenceNumber)
    ∨ (a.sessionId = b.sessionId ∧ a.id = b.id ∧ a.revision = b.revision)

instance (a b : StoredRow F) : Decidable (a.Conflicts b) := inferInstanceAs (Decidable (_ ∨ _ ∨ _))

/-- `str(event.payload.get("tenant_id") or "unknown")`. -/
def StoredEvent.tenantId (py : PyReader F) (event : StoredEvent F) : String :=
  let tenantId := (event.payload.lookup "tenant_id").getD .null
  if tenantId.truthy py.nonzero then py.toStr tenantId else "unknown"

/-- The row of an event, of whose object `payload` is read. -/
def StoredEvent.toRow (py : PyReader F) (event : StoredEvent F) (payload : PyValue F) :
    StoredRow F where
  id := event.eventId
  sessionId := event.sessionId
  tenantId := event.tenantId py
  sequenceNumber := event.sequenceNumber
  revision := event.revision
  eventType := event.eventType.value
  supersedesEventId := event.supersedesEventId
  isFinal := event.isFinal
  payload

/-- **`PostgresEventStore`**: the column of the objects, and what the other columns can hold. -/
structure JsonEventStore (F : Type) where
  py : PyReader F
  column : JsonbColumn F
  fits : StoredRow F → Bool

/-- The rows of a session. -/
def rowsOf (rows : List (StoredRow F)) (sessionId : String) : List (StoredRow F) :=
  rows.filter (fun row => row.sessionId = sessionId)

/-- What holds of either of two elements holds throughout either list. -/
theorem forall_mem_iff_of_forall₂ {α β : Type} {p : α → Prop} {q : β → Prop} {xs : List α}
    {ys : List β} (h : List.Forall₂ (fun x y => q y ↔ p x) xs ys) :
    (∀ y ∈ ys, q y) ↔ ∀ x ∈ xs, p x := by
  induction h with
  | nil => simp
  | cons hhead _ ih => rw [List.forall_mem_cons, List.forall_mem_cons, hhead, ih]

namespace JsonEventStore

variable (store : JsonEventStore F)

/-- **`append`**, in the transaction of its connection. -/
def append (event : StoredEvent F) (rows : List (StoredRow F)) :
    Except PyError (StoredEvent F) × List (StoredRow F) :=
  let highest := ((rowsOf rows event.sessionId).map StoredRow.sequenceNumber).max?.getD 0
  if event.sequenceNumber ≤ highest then (.error (notMonotonic event.sessionId), rows)
  else
    match store.column.store (.obj event.toObject) with
    | some payload =>
      let row := event.toRow store.py payload
      if store.fits row ∧ ∀ other ∈ rows, ¬ row.Conflicts other then (.ok event, rows ++ [row])
      else (.error (.sastt .sasttError "duplicate (session_id, event_id, revision)"
        [("event_id", .str event.eventId)]), rows)
    | none => (.error (.sastt .sasttError "duplicate (session_id, event_id, revision)"
        [("event_id", .str event.eventId)]), rows)

/-- **`replay`.** -/
def replay (sessionId : String) (lastSequenceNumber : ℤ) (rows : List (StoredRow F)) :
    Except PyError (List (StoredEvent F)) :=
  let lowest := ((rowsOf rows sessionId).map StoredRow.sequenceNumber).min?.getD 0
  if lowest ≠ 0 ∧ lastSequenceNumber < lowest - 1 then .error (outsideRetention sessionId)
  else
    let selected := ((rowsOf rows sessionId).filter (fun row =>
      lastSequenceNumber < row.sequenceNumber)).insertionSort
        (fun a b => a.sequenceNumber ≤ b.sequenceNumber)
    selected.mapM (fun row => eventFromJson store.py row.payload)

/-- The table, and the events that have been appended to it, in their order. -/
structure History (F : Type) where
  rows : List (StoredRow F) := []
  appended : List (StoredEvent F) := []

/-- One more event is appended, or refused. -/
def step (h : History F) (event : StoredEvent F) : History F :=
  match store.append event h.rows with
  | (.ok event, rows) => { rows, appended := h.appended ++ [event] }
  | (.error _, rows) => { h with rows }

/-- Numbers that count from one are below a number if their greatest is. -/
theorem max?_getD_lt_iff {numbers : List ℤ} (hpos : ∀ m ∈ numbers, 0 < m) {n : ℤ} :
    numbers.max?.getD 0 < n ↔ 0 < n ∧ ∀ m ∈ numbers, m < n := by
  cases hmax : numbers.max? with
  | none => simp [List.max?_eq_none_iff.mp hmax]
  | some m =>
    obtain ⟨hmem, hbound⟩ := List.max?_eq_some_iff.mp hmax
    refine ⟨fun hlt => ⟨(hpos m hmem).trans hlt, fun k hk => (hbound k hk).trans_lt hlt⟩, ?_⟩
    exact fun h => h.2 m hmem

/-- And a number is more than one below all of them if it is below the least. -/
theorem lt_min?_getD_iff {numbers : List ℤ} (hpos : ∀ m ∈ numbers, 0 < m) {n : ℤ} :
    (numbers.min?.getD 0 ≠ 0 ∧ n < numbers.min?.getD 0 - 1)
      ↔ numbers ≠ [] ∧ ∀ m ∈ numbers, n + 1 < m := by
  cases hmin : numbers.min? with
  | none => simp [List.min?_eq_none_iff.mp hmin]
  | some m =>
    obtain ⟨hmem, hbound⟩ := List.min?_eq_some_iff.mp hmin
    rw [Option.getD_some, and_iff_right (hpos m hmem).ne',
      and_iff_right (List.ne_nil_of_mem hmem), lt_sub_iff_add_lt]
    exact ⟨fun hlt k hk => hlt.trans_le (hbound k hk), fun h => h m hmem⟩

/-- **What `append` does to the table.** -/
theorem append_cases (event : StoredEvent F) (rows : List (StoredRow F)) :
    (∃ payload, store.column.store (.obj event.toObject) = some payload
        ∧ ((rowsOf rows event.sessionId).map StoredRow.sequenceNumber).max?.getD 0
          < event.sequenceNumber
        ∧ store.append event rows = (.ok event, rows ++ [event.toRow store.py payload]))
      ∨ ∃ e, store.append event rows = (.error e, rows) := by
  unfold append
  dsimp only
  split
  · exact Or.inr ⟨_, rfl⟩
  · next hnext =>
    split
    · next payload hpayload =>
      split
      · exact Or.inl ⟨payload, hpayload, not_le.mp hnext, rfl⟩
      · exact Or.inr ⟨_, rfl⟩
    · exact Or.inr ⟨_, rfl⟩

/-- **The table holds what has been appended**: a row for each event, with what the column
made of its object, and in each session the numbers count from one and increase. -/
structure Holds (h : History F) : Prop where
  rows : List.Forall₂ (fun event row => ∃ payload,
    store.column.store (.obj event.toObject) = some payload
      ∧ row = StoredEvent.toRow store.py event payload) h.appended h.rows
  positive : ∀ row ∈ h.rows, 0 < row.sequenceNumber
  increasing : h.rows.Pairwise (fun a b => a.sessionId = b.sessionId →
    a.sequenceNumber < b.sequenceNumber)

section Held

variable {store : JsonEventStore F} {h : History F}

/-- The numbers of a session count from one. -/
theorem Holds.positive_of (hh : store.Holds h) (sessionId : String) :
    ∀ m ∈ (rowsOf h.rows sessionId).map StoredRow.sequenceNumber, 0 < m := by
  rintro m hm
  obtain ⟨row, hrow, rfl⟩ := List.mem_map.mp hm
  exact hh.positive row (List.mem_filter.mp hrow).1

/-- A number is above all of a session if it is above the greatest. -/
theorem Holds.highest_lt_iff (hh : store.Holds h) (sessionId : String) (n : ℤ) :
    ((rowsOf h.rows sessionId).map StoredRow.sequenceNumber).max?.getD 0 < n
      ↔ 0 < n ∧ ∀ row ∈ h.rows, row.sessionId = sessionId → row.sequenceNumber < n := by
  rw [max?_getD_lt_iff (hh.positive_of sessionId), List.forall_mem_map]
  simp [rowsOf]

theorem Holds.step (hh : store.Holds h) (event : StoredEvent F) :
    store.Holds (store.step h event) := by
  unfold JsonEventStore.step
  rcases store.append_cases event h.rows with ⟨payload, hpayload, hhighest, happend⟩ | ⟨e, happend⟩
  · obtain ⟨hpos, hlast⟩ := (hh.highest_lt_iff _ _).mp hhighest
    rw [happend]
    refine ⟨List.rel_append hh.rows (.cons ⟨payload, hpayload, rfl⟩ .nil), ?_, ?_⟩
    · intro row hrow
      rcases List.mem_append.mp hrow with hold | hnew
      · exact hh.positive row hold
      · rw [List.mem_singleton.mp hnew]
        exact hpos
    · refine List.pairwise_append.mpr ⟨hh.increasing, List.pairwise_singleton _ _, ?_⟩
      intro row hrow new hnew
      rw [List.mem_singleton.mp hnew]
      exact hlast row hrow
  · rw [happend]
    exact ⟨hh.rows, hh.positive, hh.increasing⟩

/-- What the rows say of the ids, the sessions and the numbers, the events say. -/
theorem Holds.forall_rows_iff (hh : store.Holds h) (p : String → String → ℤ → Prop) :
    (∀ row ∈ h.rows, p row.id row.sessionId row.sequenceNumber)
      ↔ ∀ event ∈ h.appended, p event.eventId event.sessionId event.sequenceNumber := by
  refine forall_mem_iff_of_forall₂ (hh.rows.imp ?_)
  rintro event _ ⟨payload, -, rfl⟩
  exact Iff.rfl

end Held

/-- **What is appended is what has been stored**, whatever is refused on the way. -/
theorem holds_history (events : List (StoredEvent F)) :
    store.Holds (events.foldl store.step {}) :=
  invariant_foldl (I := store.Holds) ⟨.nil, by simp, .nil⟩ (fun _ event hh => hh.step event)

/-- What has been appended was given. -/
theorem appended_subset {events : List (StoredEvent F)} {h : History F} :
    ∀ event ∈ (events.foldl store.step h).appended, event ∈ h.appended ∨ event ∈ events := by
  induction events generalizing h with
  | nil => exact fun event hevent => Or.inl hevent
  | cons first events ih =>
    intro event hevent
    rcases ih event hevent with happended | hlater
    · unfold step at happended
      rcases store.append_cases first h.rows with ⟨payload, -, -, happend⟩ | ⟨e, happend⟩
      · rw [happend] at happended
        rcases List.mem_append.mp happended with hbefore | hfirst
        · exact Or.inl hbefore
        · exact Or.inr (List.mem_singleton.mp hfirst ▸ List.mem_cons_self)
      · rw [happend] at happended
        exact Or.inl happended
    · exact Or.inr (List.mem_cons_of_mem _ hlater)

end JsonEventStore

/-! ## Replaying -/

/-- The rows a replay selects are in the order they were inserted in. -/
theorem JsonEventStore.selected_eq {store : JsonEventStore F} {h : JsonEventStore.History F}
    (hh : store.Holds h) (sessionId : String) (lastSequenceNumber : ℤ) :
    ((rowsOf h.rows sessionId).filter (fun row =>
        lastSequenceNumber < row.sequenceNumber)).insertionSort
          (fun a b => a.sequenceNumber ≤ b.sequenceNumber)
      = h.rows.filter (fun row =>
        row.sessionId = sessionId ∧ lastSequenceNumber < row.sequenceNumber) := by
  have hfilter : (rowsOf h.rows sessionId).filter (fun row =>
      lastSequenceNumber < row.sequenceNumber) = h.rows.filter (fun row =>
        row.sessionId = sessionId ∧ lastSequenceNumber < row.sequenceNumber) := by
    unfold rowsOf
    rw [List.filter_filter]
    simp only [Bool.decide_and, Bool.and_comm]
  rw [hfilter]
  refine List.Pairwise.insertionSort_eq ?_
  refine (hh.increasing.filter _).imp_of_mem (fun {a b} ha hb hab => ?_)
  have hsession : ∀ row ∈ h.rows.filter (fun row =>
      row.sessionId = sessionId ∧ lastSequenceNumber < row.sequenceNumber),
      row.sessionId = sessionId := fun row hrow =>
    (of_decide_eq_true (List.mem_filter.mp hrow).2).1
  exact (hab ((hsession a ha).trans (hsession b hb).symm)).le

/-- **What the store accepts** after a history: an event that the columns can hold, whose id
is new and whose number is the greatest of its session. -/
structure JsonEventStore.Accepts (store : JsonEventStore F) (h : JsonEventStore.History F)
    (event : StoredEvent F) : Prop where
  positive : 0 < event.sequenceNumber
  last : ∀ other ∈ h.appended, other.sessionId = event.sessionId →
    other.sequenceNumber < event.sequenceNumber
  new : ∀ other ∈ h.appended, other.eventId ≠ event.eventId
  stored : ∃ payload, store.column.store (.obj event.toObject) = some payload
    ∧ store.fits (event.toRow store.py payload) = true

/-- **A cursor is too old** if the session has events and lacks the one after the cursor, and
all before that. -/
def JsonEventStore.History.TooOld (h : JsonEventStore.History F) (sessionId : String)
    (lastSequenceNumber : ℤ) : Prop :=
  (∃ event ∈ h.appended, event.sessionId = sessionId)
    ∧ ∀ event ∈ h.appended, event.sessionId = sessionId →
      lastSequenceNumber + 1 < event.sequenceNumber

namespace JsonEventStore

variable {store : JsonEventStore F} {h : History F}

/-- An event whose number is the greatest of its session conflicts with no row but by its
id. -/
theorem Holds.conflicts_iff (hh : store.Holds h) {event : StoredEvent F} (payload : PyValue F)
    (hlast : ∀ row ∈ h.rows, row.sessionId = event.sessionId →
      row.sequenceNumber < event.sequenceNumber) :
    (∀ other ∈ h.rows, ¬ (event.toRow store.py payload).Conflicts other)
      ↔ ∀ other ∈ h.appended, other.eventId ≠ event.eventId := by
  rw [← hh.forall_rows_iff (fun id _ _ => id ≠ event.eventId)]
  refine forall₂_congr (fun other hother => not_congr ?_)
  constructor
  · rintro (hid | ⟨hsession, hnumber⟩ | ⟨-, hid, -⟩)
    · exact hid.symm
    · exact absurd hnumber (hlast other hother hsession.symm).ne'
    · exact hid.symm
  · exact fun hid => Or.inl hid.symm

/-- **What is accepted.** -/
theorem Holds.append_ok_iff (hh : store.Holds h) (event : StoredEvent F) :
    (store.append event h.rows).1 = .ok event ↔ store.Accepts h event := by
  have hhighest := hh.highest_lt_iff event.sessionId event.sequenceNumber
  have hlast := hh.forall_rows_iff
    (fun _ sessionId n => sessionId = event.sessionId → n < event.sequenceNumber)
  unfold append
  dsimp only
  split
  · next hlate =>
    refine iff_of_false nofun (fun ha => absurd hlate (not_le.mpr ?_))
    exact hhighest.mpr ⟨ha.positive, hlast.mpr ha.last⟩
  · next hnext =>
    obtain ⟨hpos, hrows⟩ := hhighest.mp (not_le.mp hnext)
    cases hpayload : store.column.store (.obj event.toObject) with
    | none =>
      refine iff_of_false nofun (fun ha => ?_)
      obtain ⟨payload, hpayload', -⟩ := ha.stored
      cases hpayload.symm.trans hpayload'
    | some payload =>
      dsimp only
      have hnew := hh.conflicts_iff payload hrows
      split
      · next hinsert =>
        exact iff_of_true rfl
          ⟨hpos, hlast.mp hrows, hnew.mp hinsert.2, payload, hpayload, hinsert.1⟩
      · next hrefused =>
        refine iff_of_false nofun (fun ha => hrefused ⟨?_, hnew.mpr ha.new⟩)
        obtain ⟨_, hpayload', hfits⟩ := ha.stored
        cases hpayload.symm.trans hpayload'
        exact hfits

/-- **When a replay is refused.** -/
theorem Holds.tooOld_iff (hh : store.Holds h) (sessionId : String) (n : ℤ) :
    (((rowsOf h.rows sessionId).map StoredRow.sequenceNumber).min?.getD 0 ≠ 0
      ∧ n < ((rowsOf h.rows sessionId).map StoredRow.sequenceNumber).min?.getD 0 - 1)
        ↔ h.TooOld sessionId n := by
  have hsome := not_congr (hh.forall_rows_iff (fun _ id _ => id ≠ sessionId))
  have hall := hh.forall_rows_iff (fun _ id m => id = sessionId → n + 1 < m)
  rw [lt_min?_getD_iff (hh.positive_of sessionId), List.forall_mem_map]
  unfold History.TooOld
  refine and_congr ?_ ?_
  · simpa [rowsOf] using hsome
  · simpa [rowsOf] using hall

end JsonEventStore

/-- **A replay is what has been appended.** After any history of appends, an event that is new
is accepted. A replay is refused just when the cursor is too old, and otherwise gives the
events of the session that come after the cursor, in the order they were appended and each as
it was. -/
theorem replay_appended (store : JsonEventStore F) (events : List (StoredEvent F))
    (hevents : ∀ event ∈ events, event.WellTyped ∧ store.column.Keeps (.obj event.payload)
      ∧ store.column.Keeps (.obj event.modelVersions)) :
    let h := events.foldl store.step {}
    (∀ event, (store.append event h.rows).1 = .ok event ↔ store.Accepts h event)
      ∧ ∀ sessionId lastSequenceNumber,
        (h.TooOld sessionId lastSequenceNumber →
          store.replay sessionId lastSequenceNumber h.rows = .error (outsideRetention sessionId))
        ∧ (¬ h.TooOld sessionId lastSequenceNumber → ∃ replayed,
          store.replay sessionId lastSequenceNumber h.rows = .ok replayed
            ∧ List.Forall₂ StoredEvent.Same (h.appended.filter (fun event =>
              event.sessionId = sessionId ∧ lastSequenceNumber < event.sequenceNumber))
                replayed) := by
  intro h
  have hh : store.Holds h := store.holds_history events
  refine ⟨hh.append_ok_iff, fun sessionId lastSequenceNumber => ?_⟩
  rw [← hh.tooOld_iff]
  unfold JsonEventStore.replay
  dsimp only
  refine ⟨fun hold => if_pos hold, fun hnew => ?_⟩
  rw [if_neg hnew, JsonEventStore.selected_eq hh]
  refine Method.exists_mapM_of_forall₂ ?_
  have hread : List.Forall₂ (fun event row => event.sessionId = row.sessionId
      ∧ event.sequenceNumber = row.sequenceNumber
      ∧ ∃ event', eventFromJson store.py row.payload = .ok event'
        ∧ StoredEvent.Same event event') h.appended h.rows := by
    have hgiven : ∀ event ∈ h.appended, event ∈ events := fun event hevent =>
      (store.appended_subset event hevent).resolve_left List.not_mem_nil
    refine ((List.forall₂_and_left _ _).mpr ⟨hgiven, hh.rows⟩).imp ?_
    rintro event row ⟨hevent, payload, hpayload, rfl⟩
    obtain ⟨htyped, hkeeps, hversions⟩ := hevents event hevent
    exact ⟨rfl, rfl, eventFromJson_store store.py store.column htyped hkeeps hversions hpayload⟩
  refine (List.rel_filter (R := fun event row => event.sessionId = row.sessionId
    ∧ event.sequenceNumber = row.sequenceNumber
    ∧ ∃ event', eventFromJson store.py row.payload = .ok event'
      ∧ StoredEvent.Same event event') ?_ hread).imp (fun event row hrow => hrow.2.2)
  rintro event row ⟨hsession, hnumber, -⟩
  dsimp only
  rw [hsession, hnumber]

/-! ## A column that sorts its keys -/

/-- JSONB puts the keys of an object in the order of their lengths, and then of their bytes. -/
def jsonbBefore (k k' : String) : Prop :=
  k.utf8ByteSize < k'.utf8ByteSize ∨ (k.utf8ByteSize = k'.utf8ByteSize ∧ k ≤ k')

instance : DecidableRel jsonbBefore := fun _ _ => inferInstanceAs (Decidable (_ ∨ _))

/-- **A column that puts keys in order** and changes nothing else. -/
def sortedColumn : JsonbColumn F where
  store v := some (v.sortKeys jsonbBefore)
  store_null h := (Option.some.inj h).symm
  store_bool h := (Option.some.inj h).symm
  store_int h := (Option.some.inj h).symm
  store_str h := (Option.some.inj h).symm
  store_obj hkeys h := by
    have hlookup := Json.lookup_insertionSort_sortFields jsonbBefore hkeys
    refine ⟨_, (Option.some.inj h).symm, fun key hnone => ?_, fun key v hv => ⟨_, rfl, ?_⟩⟩
    · rw [hlookup, hnone]
      rfl
    · rw [hlookup, hv]
      rfl

/-- It keeps every dictionary. -/
theorem keeps_sortedColumn {v : PyValue F} (h : v.KeysDistinct) : sortedColumn.Keeps v := by
  rintro _ ⟨⟩
  exact Json.same_sortKeys jsonbBefore h

/-- A table with such a column. -/
def sortedStore : JsonEventStore ℚ where
  py := { str := fun _ => "", int := fun _ => .error (.other "TypeError"),
          dict := fun _ => .error (.other "TypeError"), nonzero := fun x => x ≠ 0 }
  column := sortedColumn
  fits _ := true

/-- A final event of two words. -/
def finalEvent : StoredEvent ℚ where
  eventId := "evt_1"
  sessionId := "sess"
  sequenceNumber := 1
  eventType := .transcriptFinal
  serverTimeMs := 1000
  revision := 2
  supersedesEventId := .str "evt_0"
  isFinal := true
  payload := [("text", .str "xin chào"), ("words", PyValue.int 2), ("id", .null)]
  dedupKey := .str "seg_1:2"

/-- It is replayed with its deduplication key. -/
theorem replay_appended_finalEvent :
    ∃ event, sortedStore.replay "sess" 0 ([finalEvent].foldl sortedStore.step {}).rows = .ok [event]
      ∧ finalEvent.Same event := by
  have hkeys : (Json.obj finalEvent.payload).KeysDistinct := by
    simp [finalEvent]
  have htyped : finalEvent.WellTyped :=
    ⟨⟨some "evt_0", rfl⟩, ⟨none, rfl⟩, ⟨some "seg_1:2", rfl⟩, (Json.keysDistinct_obj.mp hkeys).1,
      List.nodup_nil⟩
  have happended : ([finalEvent].foldl sortedStore.step {}).appended = [finalEvent] := rfl
  obtain ⟨replayed, hreplayed, hsame⟩ := ((replay_appended sortedStore [finalEvent]
    (fun event hevent => by
      rw [List.mem_singleton.mp hevent]
      exact ⟨htyped, keeps_sortedColumn hkeys, keeps_sortedColumn (by simp [finalEvent])⟩)).2
    "sess" 0).2 (fun hold => by
      -- the event has the number one, so it comes right after the cursor
      rw [JsonEventStore.History.TooOld, happended] at hold
      exact absurd (hold.2 finalEvent List.mem_cons_self rfl) (by decide))
  rw [happended] at hsame
  obtain ⟨event, rest, hevent, hrest, rfl⟩ := List.forall₂_cons_left_iff.mp hsame
  cases hrest
  exact ⟨event, hreplayed, hevent⟩

end Sastt
