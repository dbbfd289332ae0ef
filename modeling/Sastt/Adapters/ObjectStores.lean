import Sastt.Lib.Paths
import Sastt.Ports.ObjectStore

/-!
# The object stores

In memory, objects are kept under the pair of tenant and key, and tenants are
isolated for that reason alone (`InMemoryObjectStore.isolated`). In a bucket
they are kept under a path, which starts with the tenant. Tenant and key are
stripped of slashes and refused if they lead upwards, each of them by itself.

So two tenants are not told apart when their ids differ in slashes at the ends
only, and neither when one id continues the other behind a slash: the objects of
`acme/eu` are those of `acme` under `eu`. All other tenants are isolated
(`S3ObjectStore.isolated_iff`).
-/

namespace Sastt

open Method

/-- What is raised where there is no object. -/
def notFound : PyError := .sastt .tenantAccessDenied "object not found for this tenant" []

/-- What `get` makes of an object that is there, and of none. -/
def received : Option (List UInt8) → Except PyError ObjectReply
  | some payload => .ok (.object payload)
  | none => .error notFound

/-! ## In memory -/

namespace InMemoryObjectStore

/-- `put`. -/
def put (tenantId key : String) (payload : List UInt8) :
    Method PyError (Objects (String × String)) ObjectReply := do
  .modify fun objects => Function.update objects (tenantId, key) (some payload)
  return .stored ("mem://" ++ tenantId ++ "/" ++ key)

/-- `get`. -/
def get (tenantId key : String) : Method PyError (Objects (String × String)) ObjectReply := do
  let objects ← .read
  .ofExcept (received (objects (tenantId, key)))

/-- `delete`. -/
def delete (tenantId key : String) : Method PyError (Objects (String × String)) ObjectReply := do
  let objects ← .read
  .modify fun objects => Function.update objects (tenantId, key) none
  return .deleted (objects (tenantId, key)).isSome

/-- The store. -/
def store : ObjectStore (String × String) where
  run tenantId
    | .put key payload => put tenantId key payload
    | .get key => get tenantId key
    | .delete key => delete tenantId key

/-- **Tenants are isolated in memory.** -/
theorem isolated {A B : String} (hne : A ≠ B) : store.Isolated A B := by
  have hkeyed : store.Keyed (fun tenantId k => k.1 = tenantId) := by
    refine ObjectStore.keyed_of_atKey fun tenantId call => Or.inl ?_
    cases call with
    | put key payload => exact ⟨(tenantId, key), rfl, fun _ => .ok _, fun _ => _, fun s => rfl⟩
    | get key =>
      refine ⟨(tenantId, key), rfl, received, id, fun s => ?_⟩
      rw [id, Function.update_eq_self]
      rfl
    | delete key =>
      exact ⟨(tenantId, key), rfl, fun object => .ok (.deleted object.isSome), fun _ => none,
        fun s => rfl⟩
  exact hkeyed.isolated (fun k hA hB => hne (hA.symm.trans hB))

end InMemoryObjectStore

/-! ## In a bucket -/

/-- `_safe_key`. -/
def safeKey (key : String) : Except PyError String :=
  let normalized := stripEnds '/' key.toList
  if normalized = [] ∨ "..".toList ∈ normalized.splitOn '/' then
    .error (.sastt .sasttError "invalid object key" [])
  else .ok (String.ofList normalized)

/-- **An object store in a bucket.** The bucket is a map from keys to bytes, and
what its client raises is a key that is not there. -/
structure S3ObjectStore where
  bucket : String
  keyPrefix : String := "sastt"

namespace S3ObjectStore

/-- `_key`. -/
def key (store : S3ObjectStore) (tenantId key : String) : Except PyError String :=
  if tenantId = "" then
    .error (.sastt .tenantAccessDenied "tenant is required for object storage" [])
  else do
    let start ← safeKey store.keyPrefix
    let tenant ← safeKey tenantId
    let key ← safeKey key
    return start ++ "/" ++ tenant ++ "/" ++ key

/-- `client.get_object`. -/
def getObject (objectKey : String) : Method PyError (Objects String) (List UInt8) := do
  let objects ← .read
  match objects objectKey with
  | some payload => return payload
  | none => .throw (.other "NoSuchKey")

/-- `put`. -/
def put (store : S3ObjectStore) (tenantId key : String) (payload : List UInt8) :
    Method PyError (Objects String) ObjectReply := do
  let objectKey ← .ofExcept (store.key tenantId key)
  -- `put_object`, which does not fail
  .modify fun objects => Function.update objects objectKey (some payload)
  return .stored ("s3://" ++ store.bucket ++ "/" ++ objectKey)

/-- `get`: whatever is raised, the object is not found. -/
def get (store : S3ObjectStore) (tenantId key : String) :
    Method PyError (Objects String) ObjectReply :=
  Method.catchIf (do
    let objectKey ← .ofExcept (store.key tenantId key)
    let payload ← getObject objectKey
    return .object payload) (fun _ => true) (fun _ => .throw notFound)

/-- `delete`: it is not told whether there was an object. -/
def delete (store : S3ObjectStore) (tenantId key : String) :
    Method PyError (Objects String) ObjectReply :=
  Method.catchIf (do
    let objectKey ← .ofExcept (store.key tenantId key)
    .modify fun objects => Function.update objects objectKey none
    return .deleted true) (fun _ => true) (fun _ => .throw notFound)

/-- The store. -/
def toObjectStore (store : S3ObjectStore) : ObjectStore String where
  run tenantId
    | .put key payload => store.put tenantId key payload
    | .get key => store.get tenantId key
    | .delete key => store.delete tenantId key

/-! ## Keys -/

/-- The keys `_safe_key` accepts, and what it makes of them. -/
theorem safeKey_eq_ok {key safe : String} :
    safeKey key = .ok safe
      ↔ SafePath '/' "..".toList safe.toList ∧ stripEnds '/' key.toList = safe.toList := by
  unfold safeKey
  have htoList : (String.ofList (stripEnds '/' key.toList)).toList = stripEnds '/' key.toList :=
    String.toList_ofList
  dsimp only
  constructor
  · intro h
    split at h
    · cases h
    · next hvalid =>
      cases h
      obtain ⟨hne, hsegments⟩ := not_or.mp hvalid
      rw [htoList]
      exact ⟨safePath_stripEnds hne hsegments, rfl⟩
  · rintro ⟨hsafe, hstrip⟩
    rw [hstrip, if_neg (not_or.mpr ⟨hsafe.ne_nil, hsafe.segments⟩), String.ofList_toList]

/-- A safe path is accepted as it is. -/
theorem safeKey_of_safePath {path : List Char} (h : SafePath '/' "..".toList path) :
    safeKey (String.ofList path) = .ok (String.ofList path) := by
  have htoList : (String.ofList path).toList = path := String.toList_ofList
  rw [safeKey_eq_ok, htoList]
  exact ⟨h, h.stripEnds_eq⟩

variable {store : S3ObjectStore} {A B : String}

/-- The keys of a tenant. -/
theorem key_eq_ok {tenantId key objectKey : String} :
    store.key tenantId key = .ok objectKey ↔ ∃ start tenant safe,
      safeKey store.keyPrefix = .ok start ∧ safeKey tenantId = .ok tenant ∧ safeKey key = .ok safe
        ∧ start ++ "/" ++ tenant ++ "/" ++ safe = objectKey := by
  unfold S3ObjectStore.key
  constructor
  · intro h
    split at h
    · cases h
    · cases hstart : safeKey store.keyPrefix with
      | error e =>
        rw [hstart] at h
        cases h
      | ok start =>
        cases htenant : safeKey tenantId with
        | error e =>
          rw [hstart, htenant] at h
          cases h
        | ok tenant =>
          cases hsafe : safeKey key with
          | error e =>
            rw [hstart, htenant, hsafe] at h
            cases h
          | ok safe =>
            rw [hstart, htenant, hsafe] at h
            exact ⟨start, tenant, safe, rfl, rfl, rfl, Except.ok.inj h⟩
  · rintro ⟨start, tenant, safe, hstart, htenant, hsafe, rfl⟩
    have hne : tenantId ≠ "" := by
      rintro rfl
      cases htenant
    rw [if_neg hne, hstart, htenant, hsafe]
    rfl

/-- **No two keys of the tenants are the same object.** -/
def KeysApart (store : S3ObjectStore) (A B : String) : Prop :=
  ∀ key key' objectKey, store.key A key = .ok objectKey → store.key B key' ≠ .ok objectKey

/-- **The ids of the tenants are separate**: stripped of slashes they are
different, and none of them continues the other one behind a single slash. An id
that is refused has no objects. -/
def Separate (store : S3ObjectStore) (A B : String) : Prop :=
  ∀ start a b, safeKey store.keyPrefix = .ok start → safeKey A = .ok a → safeKey B = .ok b →
    a ≠ b ∧ ¬ Above '/' a.toList b.toList ∧ ¬ Above '/' b.toList a.toList

/-- Two keys are the same behind the beginning they have in common. -/
theorem joined_eq_iff {start a b k k' : String} :
    start ++ "/" ++ a ++ "/" ++ k = start ++ "/" ++ b ++ "/" ++ k'
      ↔ a.toList ++ '/' :: k.toList = b.toList ++ '/' :: k'.toList := by
  have hslash : "/".toList = ['/'] := by decide
  rw [← String.toList_inj]
  simp only [String.toList_append, List.append_assoc, List.append_cancel_left_eq, hslash,
    List.cons_append, List.nil_append, List.cons.injEq, true_and]

/-- **The keys are apart exactly when the ids are separate.** -/
theorem keysApart_iff : store.KeysApart A B ↔ store.Separate A B := by
  constructor
  · intro h start a b hstart ha hb
    have hcollide : ¬ (a.toList = b.toList ∨ Above '/' a.toList b.toList
        ∨ Above '/' b.toList a.toList) := by
      rw [← exists_join_iff (safeKey_eq_ok.mp ha).1 (safeKey_eq_ok.mp hb).1]
      rintro ⟨k, k', hk, hk', hjoin⟩
      refine h (String.ofList k) (String.ofList k') _
        (key_eq_ok.mpr ⟨start, a, _, hstart, ha, safeKey_of_safePath hk, rfl⟩)
        (key_eq_ok.mpr ⟨start, b, _, hstart, hb, safeKey_of_safePath hk', ?_⟩)
      rw [joined_eq_iff, String.toList_ofList, String.toList_ofList]
      exact hjoin.symm
    obtain ⟨hne, habove⟩ := not_or.mp hcollide
    exact ⟨fun heq => hne (congrArg String.toList heq), not_or.mp habove⟩
  · intro h key key' objectKey hA hB
    obtain ⟨start, a, k, hstart, ha, hk, rfl⟩ := key_eq_ok.mp hA
    obtain ⟨start', b, k', hstart', hb, hk', hsame⟩ := key_eq_ok.mp hB
    obtain rfl := Except.ok.inj (hstart'.symm.trans hstart)
    obtain ⟨hne, hab, hba⟩ := h start' a b hstart ha hb
    have hcollide := (exists_join_iff (safeKey_eq_ok.mp ha).1 (safeKey_eq_ok.mp hb).1).mp
      ⟨k.toList, k'.toList, (safeKey_eq_ok.mp hk).1, (safeKey_eq_ok.mp hk').1,
        (joined_eq_iff.mp hsame).symm⟩
    exact hcollide.elim (fun heq => hne (String.toList_inj.mp heq)) (fun h => h.elim hab hba)

/-! ## Calls -/

theorem put_of_key {tenantId key objectKey : String} (h : store.key tenantId key = .ok objectKey)
    (payload : List UInt8) (s : Objects String) : store.put tenantId key payload s
      = (.ok (.stored ("s3://" ++ store.bucket ++ "/" ++ objectKey)),
        Function.update s objectKey (some payload)) := by
  unfold S3ObjectStore.put
  rw [h]
  rfl

theorem get_of_key {tenantId key objectKey : String} (h : store.key tenantId key = .ok objectKey)
    (s : Objects String) : store.get tenantId key s = (received (s objectKey), s) := by
  unfold S3ObjectStore.get Method.catchIf
  rw [h, ofExcept_ok_bind]
  unfold getObject
  rw [bind_assoc, read_bind]
  cases s objectKey <;> rfl

theorem delete_of_key {tenantId key objectKey : String}
    (h : store.key tenantId key = .ok objectKey) (s : Objects String) :
    store.delete tenantId key s = (.ok (.deleted true), Function.update s objectKey none) := by
  unfold S3ObjectStore.delete Method.catchIf
  rw [h]
  rfl

/-- A call whose key is refused only raises. -/
theorem run_of_refused {tenantId key : String} {e : PyError}
    (h : store.key tenantId key = .error e) {call : ObjectCall} (hcall : call.key = key) :
    ∃ e', ∀ s, store.toObjectStore.run tenantId call s = (.error e', s) := by
  subst hcall
  cases call with
  | put key payload =>
    refine ⟨e, fun s => ?_⟩
    show store.put tenantId key payload s = _
    unfold S3ObjectStore.put
    rw [show store.key tenantId key = .error e from h]
    rfl
  | get key =>
    refine ⟨notFound, fun s => ?_⟩
    show store.get tenantId key s = _
    unfold S3ObjectStore.get Method.catchIf
    rw [show store.key tenantId key = .error e from h]
    rfl
  | delete key =>
    refine ⟨notFound, fun s => ?_⟩
    show store.delete tenantId key s = _
    unfold S3ObjectStore.delete Method.catchIf
    rw [show store.key tenantId key = .error e from h]
    rfl

/-- **The objects of a tenant** are those under its keys. -/
theorem keyed (store : S3ObjectStore) : store.toObjectStore.Keyed
    (fun tenantId objectKey => ∃ key, store.key tenantId key = .ok objectKey) := by
  refine ObjectStore.keyed_of_atKey fun tenantId call => ?_
  cases hkey : store.key tenantId call.key with
  | error e => exact Or.inr (run_of_refused hkey rfl)
  | ok objectKey =>
    refine Or.inl ⟨objectKey, ⟨call.key, hkey⟩, ?_⟩
    cases call with
    | put key payload => exact ⟨fun _ => .ok _, fun _ => _, put_of_key hkey payload⟩
    | get key =>
      refine ⟨received, id, fun s => ?_⟩
      rw [id, Function.update_eq_self]
      exact get_of_key hkey s
    | delete key => exact ⟨fun _ => .ok _, fun _ => _, delete_of_key hkey⟩

/-- Where two keys are the same object, one tenant reads what the other one
stored. -/
theorem not_isolated_of_collision {key key' objectKey : String} (hne : A ≠ B)
    (hA : store.key A key = .ok objectKey) (hB : store.key B key' = .ok objectKey) :
    ¬ store.toObjectStore.Isolated A B := by
  intro h
  have hcalls : ∀ c ∈ [(⟨A, .put key []⟩ : TenantCall), ⟨B, .get key'⟩],
      c.tenantId = A ∨ c.tenantId = B := by
    simp
  have hsame := h (fun _ => none) _ hcalls
  have hput : store.toObjectStore.step (fun _ => none) ⟨A, .put key []⟩
      = Function.update (fun _ => none) objectKey (some []) :=
    congrArg Prod.snd (put_of_key hA [] (fun _ => none))
  have hget : ∀ s, store.toObjectStore.answer s ⟨B, .get key'⟩ = received (s objectKey) :=
    fun s => congrArg Prod.fst (get_of_key hB s)
  simp only [trace, hput, hget, List.filter_cons, hne, decide_false, decide_true, if_true,
    Bool.false_eq_true, if_false, List.filter_nil, Function.update_self] at hsame
  simp [received] at hsame

/-- **Two tenants are isolated exactly when their ids are separate**, which is
to say, when no key of the one is the same object as a key of the other. -/
theorem isolated_iff (store : S3ObjectStore) {A B : String} (hne : A ≠ B) :
    (store.toObjectStore.Isolated A B ↔ store.KeysApart A B)
      ∧ (store.KeysApart A B ↔ store.Separate A B) := by
  refine ⟨⟨fun h key key' objectKey hA hB => not_isolated_of_collision hne hA hB h, fun h => ?_⟩,
    keysApart_iff⟩
  refine store.keyed.isolated ?_
  rintro objectKey ⟨key, hA⟩ ⟨key', hB⟩
  exact h key key' objectKey hA hB

/-- Two tenants with separate ids. -/
theorem isolated_acme_other :
    ({ bucket := "sastt-audio" } : S3ObjectStore).toObjectStore.Isolated "acme" "other" := by
  obtain ⟨hisolated, hseparate⟩ :=
    isolated_iff { bucket := "sastt-audio" } (show "acme" ≠ "other" by decide)
  refine hisolated.mpr (hseparate.mpr ?_)
  intro start a b _ ha hb
  cases ha
  cases hb
  decide

/-- **Two tenants that are not isolated**: what one of them stores is the
other's. -/
theorem not_isolated_acme_eu : "acme/eu" ≠ "" ∧ "acme" ≠ "" ∧ "acme/eu" ≠ "acme"
    ∧ ¬ ({ bucket := "sastt-audio" } : S3ObjectStore).toObjectStore.Isolated "acme/eu" "acme" :=
  ⟨by decide, by decide, by decide,
    not_isolated_of_collision (by decide)
      (show S3ObjectStore.key _ _ "audio" = .ok "sastt/acme/eu/audio" by decide +kernel)
      (show S3ObjectStore.key _ _ "eu/audio" = .ok "sastt/acme/eu/audio" by decide +kernel)⟩

end S3ObjectStore

end Sastt
