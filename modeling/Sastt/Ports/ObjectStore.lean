import Sastt.Domain.Errors
import Sastt.Lib.Method
import Sastt.Lib.Noninterference

/-!
# The object store port

Objects are stored by tenant and key. A store keeps them in a map, whose keys
are what it makes of the two, and each call of a tenant reads and writes the
objects that are the tenant's (`ObjectStore.Keyed`). Where no object is of two
tenants, what one of them is answered does not depend on the calls of the other
(`ObjectStore.Keyed.isolated`).
-/

namespace Sastt

/-- A call of the port. -/
inductive ObjectCall
  | put (key : String) (payload : List UInt8)
  | get (key : String)
  | delete (key : String)
deriving DecidableEq

/-- The key a call is about. -/
def ObjectCall.key : ObjectCall → String
  | .put key _ | .get key | .delete key => key

/-- What a call returns: where the object was put, its bytes, or whether it was
there. -/
inductive ObjectReply
  | stored (uri : String)
  | object (payload : List UInt8)
  | deleted (existed : Bool)
deriving DecidableEq

/-- A call of a tenant. -/
structure TenantCall where
  tenantId : String
  call : ObjectCall
deriving DecidableEq

/-- The objects by the keys `κ` of a store. -/
abbrev Objects (κ : Type) : Type := κ → Option (List UInt8)

/-- **An object store**: what a call of a tenant returns or raises, and what it
leaves of the objects. -/
structure ObjectStore (κ : Type) where
  run (tenantId : String) (call : ObjectCall) : Method PyError (Objects κ) ObjectReply

namespace ObjectStore

variable {κ : Type}

/-- The objects after a call. -/
def step (store : ObjectStore κ) (s : Objects κ) (c : TenantCall) : Objects κ :=
  (store.run c.tenantId c.call s).2

/-- What the tenant is answered. -/
def answer (store : ObjectStore κ) (s : Objects κ) (c : TenantCall) : Except PyError ObjectReply :=
  (store.run c.tenantId c.call s).1

/-- **Two tenants are isolated**: whatever is stored already, and however the
calls of both are interleaved, `B` is answered what it would be answered without
the calls of `A`. -/
def Isolated (store : ObjectStore κ) (A B : String) : Prop :=
  ∀ (s : Objects κ) (calls : List TenantCall), (∀ c ∈ calls, c.tenantId = A ∨ c.tenantId = B) →
    (trace store.step store.answer s calls).filter (fun a => a.1.tenantId = B)
      = trace store.step store.answer s (calls.filter (fun c => c.tenantId = B))

/-- **What calls of a tenant do**: they depend on its objects, and change no
others. -/
structure Keyed (store : ObjectStore κ) (owns : String → κ → Prop) : Prop where
  answers : ∀ tenantId call s t, (∀ k, owns tenantId k → s k = t k) →
    (store.run tenantId call s).1 = (store.run tenantId call t).1
  keeps : ∀ tenantId call s t, (∀ k, owns tenantId k → s k = t k) → ∀ k, owns tenantId k →
    (store.run tenantId call s).2 k = (store.run tenantId call t).2 k
  frame : ∀ tenantId call s k, ¬ owns tenantId k → (store.run tenantId call s).2 k = s k

/-- **A method at one object**, which reads and writes that object only. -/
def AtKey [DecidableEq κ] (m : Method PyError (Objects κ) ObjectReply) (k : κ) : Prop :=
  ∃ (reply : Option (List UInt8) → Except PyError ObjectReply)
    (write : Option (List UInt8) → Option (List UInt8)),
    ∀ s, m s = (reply (s k), Function.update s k (write (s k)))

variable {store : ObjectStore κ} {owns : String → κ → Prop} {A B : String}

/-- Calls that are each at an object of the tenant, or only raise. -/
theorem keyed_of_atKey [DecidableEq κ]
    (h : ∀ tenantId call, (∃ k, owns tenantId k ∧ AtKey (store.run tenantId call) k)
      ∨ ∃ e, ∀ s, store.run tenantId call s = (.error e, s)) : store.Keyed owns := by
  refine ⟨fun tenantId call s t hst => ?_, fun tenantId call s t hst k hk => ?_,
    fun tenantId call s k hk => ?_⟩
  · obtain ⟨own, hown, reply, write, hat⟩ | ⟨e, hraises⟩ := h tenantId call
    · rw [hat, hat, hst own hown]
    · rw [hraises, hraises]
  · obtain ⟨own, hown, reply, write, hat⟩ | ⟨e, hraises⟩ := h tenantId call
    · rw [hat, hat]
      show Function.update s own (write (s own)) k = Function.update t own (write (t own)) k
      rw [hst own hown]
      by_cases hsame : k = own
      · rw [hsame, Function.update_self, Function.update_self]
      · rw [Function.update_of_ne hsame, Function.update_of_ne hsame, hst k hk]
    · rw [hraises, hraises]
      exact hst k hk
  · obtain ⟨own, hown, reply, write, hat⟩ | ⟨e, hraises⟩ := h tenantId call
    · rw [hat]
      have hother : k ≠ own := by
        rintro rfl
        exact hk hown
      exact Function.update_of_ne hother _ _
    · rw [hraises]

/-- **Tenants without a common object are isolated.** -/
theorem Keyed.isolated (h : store.Keyed owns) (hapart : ∀ k, owns A k → ¬ owns B k) :
    store.Isolated A B := by
  intro s calls hcalls
  have hunwinding : Unwinding store.step store.answer (fun c : TenantCall => c.tenantId = B)
      (fun _ c => c.tenantId = A ∨ c.tenantId = B)
      (fun s t : Objects κ => ∀ k, owns B k → s k = t k) := by
    refine ⟨fun s t c hst _ hB => ?_, fun s t c hst _ hB => ?_, fun s t c hst hc hB k hk => ?_⟩
    · subst hB
      exact h.keeps c.tenantId c.call s t hst
    · subst hB
      exact h.answers c.tenantId c.call s t hst
    · have hA : c.tenantId = A := hc.resolve_right hB
      have hother : ¬ owns c.tenantId k := fun hown => hapart k (hA ▸ hown) hk
      exact (h.frame c.tenantId c.call s k hother).trans (hst k hk)
  exact hunwinding.trace_eq (fun _ _ => rfl)
    (fun _ c hpre => hcalls c (hpre.subset List.mem_concat_self))

end ObjectStore

end Sastt
