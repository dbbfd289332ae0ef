import Mathlib.Algebra.Order.Monoid.Unbundled.WithTop
import Mathlib.Data.Int.Cast.Basic
import Mathlib.Data.List.Forall2
import Mathlib.Data.Set.Insert
import Mathlib.Order.Defs.PartialOrder

/-!
# Documents and schemas

A document is what JSON can write down, and a schema is the set of the documents it
accepts. The keywords of the schema language are the sets they stand for, so that a
schema of several keywords is the intersection of theirs. A keyword that is about
documents of one type, as `minLength` is about texts, accepts all of another type.

A document of a fixed shape has its fields in a fixed order. A schema that lists
its properties in that order is checked field by field, and leaves none unchecked
(`obj_mem_properties_iff`).
-/

/-- **A document**, with numbers in `R`. -/
inductive Json (R : Type)
  | null
  | bool (b : Bool)
  | num (r : R)
  | str (s : String)
  | arr (items : List (Json R))
  | obj (fields : List (String × Json R))

/-- The types of documents. -/
inductive JsonType
  | null
  | boolean
  | integer
  | number
  | string
  | array
  | object
deriving DecidableEq

namespace Json

variable {R : Type}

/-- The type of a document, where a number is a number. -/
def kind : Json R → JsonType
  | null => .null
  | bool _ => .boolean
  | num _ => .number
  | str _ => .string
  | arr _ => .array
  | obj _ => .object

/-- A value, or null where there is none. -/
def ofOption {α : Type} (f : α → Json R) : Option α → Json R
  | none => null
  | some a => f a

/-- A number is an integer if its value is one. -/
def IsInteger [IntCast R] (document : Json R) : Prop := ∃ n : ℤ, document = num (n : R)

/-- The numbers may be floats, of which minus infinity is one. -/
instance [IntCast R] : IntCast (WithBot R) := ⟨fun n => ((n : R) : WithBot R)⟩

@[simp] theorem isInteger_natCast [AddGroupWithOne R] (n : ℕ) :
    IsInteger (num (n : WithBot R)) :=
  ⟨n, congrArg (fun r : R => num (r : WithBot R)) (Int.cast_natCast n).symm⟩

@[simp] theorem not_isInteger_null [IntCast R] : ¬ (null : Json R).IsInteger := nofun

end Json

/-- **A schema**: the documents it accepts. -/
abbrev JsonSchema (R : Type) := Set (Json R)

namespace JsonSchema

open Json

variable {R : Type}

/-! ## Keywords -/

/-- `type`: one of the types. -/
def type [IntCast R] (types : List JsonType) : JsonSchema R :=
  {document | document.kind ∈ types ∨ (.integer ∈ types ∧ document.IsInteger)}

/-- `const`. -/
def const (value : Json R) : JsonSchema R := {value}

/-- `enum`. -/
def enum (values : List (Json R)) : JsonSchema R := {document | document ∈ values}

/-- `minimum`. -/
def minimum [LE R] (bound : R) : JsonSchema R := {document | ∀ r, document = num r → bound ≤ r}

/-- `maximum`. -/
def maximum [LE R] (bound : R) : JsonSchema R := {document | ∀ r, document = num r → r ≤ bound}

/-- `minLength`. -/
def minLength (bound : ℕ) : JsonSchema R := {document | ∀ s, document = str s → bound ≤ s.length}

/-- `items`. -/
def items (schema : JsonSchema R) : JsonSchema R :=
  {document | ∀ xs, document = arr xs → ∀ x ∈ xs, x ∈ schema}

/-- `required`: the fields that must be there. -/
def required (names : List String) : JsonSchema R :=
  {document | ∀ fields, document = obj fields → ∀ name ∈ names, name ∈ fields.map Prod.fst}

/-- `properties`: the schemas of fields that may be there. -/
def properties (schemas : List (String × JsonSchema R)) : JsonSchema R :=
  {document | ∀ fields, document = obj fields →
    ∀ property ∈ schemas, ∀ value ∈ fields.lookup property.1, value ∈ property.2}

/-- `additionalProperties`, beside properties of these names: the schema of every other
field. -/
def additionalProperties (names : List String) (schema : JsonSchema R) : JsonSchema R :=
  {document | ∀ fields, document = obj fields →
    ∀ field ∈ fields, field.1 ∉ names → field.2 ∈ schema}

/-- The schema `false`, which accepts nothing. -/
def never : JsonSchema R := ∅

/-- `allOf`. -/
def allOf (schemas : List (JsonSchema R)) : JsonSchema R :=
  {document | ∀ schema ∈ schemas, document ∈ schema}

/-- `if` and `then`. -/
def ifThen (condition consequence : JsonSchema R) : JsonSchema R :=
  {document | document ∈ condition → document ∈ consequence}

/-! ## What the keywords accept -/

section Membership

variable {document value : Json R} {s : String} {r bound : R} {xs : List (Json R)}
  {fields : List (String × Json R)} {names : List String} {schema : JsonSchema R}
  {schemas : List (String × JsonSchema R)}

@[simp] theorem mem_type [IntCast R] {types : List JsonType} :
    document ∈ type types ↔ document.kind ∈ types ∨ (.integer ∈ types ∧ document.IsInteger) :=
  Iff.rfl

@[simp] theorem mem_const : document ∈ const value ↔ document = value := Iff.rfl

@[simp] theorem mem_enum {values : List (Json R)} : document ∈ enum values ↔ document ∈ values :=
  Iff.rfl

@[simp] theorem num_mem_minimum [LE R] : num r ∈ minimum bound ↔ bound ≤ r := by simp [minimum]

@[simp] theorem null_mem_minimum [LE R] : null ∈ minimum bound := nofun

@[simp] theorem num_mem_maximum [LE R] : num r ∈ maximum bound ↔ r ≤ bound := by simp [maximum]

@[simp] theorem null_mem_maximum [LE R] : null ∈ maximum bound := nofun

@[simp] theorem str_mem_minLength {n : ℕ} : (str s : Json R) ∈ minLength n ↔ n ≤ s.length := by
  simp [minLength]

@[simp] theorem arr_mem_items : arr xs ∈ items schema ↔ ∀ x ∈ xs, x ∈ schema := by simp [items]

@[simp] theorem obj_mem_required :
    obj fields ∈ required names ↔ ∀ name ∈ names, name ∈ fields.map Prod.fst := by simp [required]

@[simp] theorem obj_mem_properties : obj fields ∈ properties schemas
    ↔ ∀ property ∈ schemas, ∀ value ∈ fields.lookup property.1, value ∈ property.2 := by
  simp [properties]

@[simp] theorem obj_mem_additionalProperties : obj fields ∈ additionalProperties names schema
    ↔ ∀ field ∈ fields, field.1 ∉ names → field.2 ∈ schema := by simp [additionalProperties]

@[simp] theorem mem_allOf {schemas : List (JsonSchema R)} :
    document ∈ allOf schemas ↔ ∀ schema ∈ schemas, document ∈ schema := Iff.rfl

/-! ## Objects of a fixed shape -/

/-- **Properties in the order of the fields** are checked field by field. -/
theorem obj_mem_properties_iff (hnames : fields.map Prod.fst = schemas.map Prod.fst)
    (hnodup : (schemas.map Prod.fst).Nodup) : obj fields ∈ properties schemas
      ↔ List.Forall₂ (fun field property => field.2 ∈ property.2) fields schemas := by
  rw [obj_mem_properties]
  induction schemas generalizing fields with
  | nil =>
    rw [List.map_nil, List.map_eq_nil_iff] at hnames
    subst hnames
    simp
  | cons property schemas ih =>
    cases fields with
    | nil => cases hnames
    | cons field fields =>
      obtain ⟨hname, hnames⟩ := List.cons.inj hnames
      obtain ⟨hnew, hnodup⟩ := List.nodup_cons.mp hnodup
      rw [List.forall₂_cons, ← ih hnames hnodup, List.forall_mem_cons]
      refine and_congr ?_ (forall₂_congr fun other hother => ?_)
      · rw [List.lookup_cons, show property.1 = field.1 from hname.symm]
        simp
      · have hne : other.1 ≠ field.1 := by
          rintro heq
          exact hnew (hname ▸ heq ▸ List.mem_map_of_mem hother)
        rw [List.lookup_cons, beq_eq_false_iff_ne.mpr hne]

/-- And then no other field is there. -/
theorem obj_mem_additionalProperties_of_eq (hnames : fields.map Prod.fst = names) :
    obj fields ∈ additionalProperties names schema := by
  rw [obj_mem_additionalProperties]
  rintro field hfield hother
  exact absurd (hnames ▸ List.mem_map_of_mem hfield) hother

end Membership

end JsonSchema
