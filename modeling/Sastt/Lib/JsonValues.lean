import Mathlib.Data.Countable.Basic
import Mathlib.Data.List.Sort
import Mathlib.Logic.Encodable.Basic
import Mathlib.Logic.Equiv.List
import Mathlib.Tactic.DeriveCountable
import Sastt.Lib.Dictionaries
import Sastt.Lib.JsonSchema

/-!
# Documents as values

A program that reads a document gets values: numbers are integers or floats, and an object is
a dictionary, so no key occurs twice (`KeysDistinct`). Two dictionaries are equal whatever the
order of their keys, and so are documents whose objects are (`Same`).

A document is written down as a sequence of tokens from which it can be read back
(`tokens_inj`). So there are as many documents as there are texts (`countable`).
-/

/-- An integer or a float. -/
abbrev PyNumber (F : Type) := ℤ ⊕ F

namespace Json

variable {R : Type}

/-- **No object has a key twice.** -/
inductive KeysDistinct : Json R → Prop
  | null : KeysDistinct null
  | bool (b : Bool) : KeysDistinct (bool b)
  | num (r : R) : KeysDistinct (num r)
  | str (s : String) : KeysDistinct (str s)
  | arr {items : List (Json R)} (h : ∀ v ∈ items, KeysDistinct v) : KeysDistinct (arr items)
  | obj {fields : List (String × Json R)} (hkeys : (fields.map Prod.fst).Nodup)
    (h : ∀ field ∈ fields, KeysDistinct field.2) : KeysDistinct (obj fields)

attribute [simp] KeysDistinct.null KeysDistinct.bool KeysDistinct.num KeysDistinct.str

@[simp] theorem keysDistinct_arr {items : List (Json R)} :
    (arr items).KeysDistinct ↔ ∀ v ∈ items, v.KeysDistinct :=
  ⟨fun | .arr h => h, .arr⟩

@[simp] theorem keysDistinct_obj {fields : List (String × Json R)} : (obj fields).KeysDistinct
    ↔ (fields.map Prod.fst).Nodup ∧ ∀ field ∈ fields, field.2.KeysDistinct :=
  ⟨fun | .obj hkeys h => ⟨hkeys, h⟩, fun h => .obj h.1 h.2⟩

/-- **Two documents are the same** as values: the keys of an object have no order. -/
inductive Same : Json R → Json R → Prop
  | null : Same null null
  | bool (b : Bool) : Same (bool b) (bool b)
  | num (r : R) : Same (num r) (num r)
  | str (s : String) : Same (str s) (str s)
  | arr {items items' : List (Json R)} (hlength : items.length = items'.length)
    (h : ∀ p ∈ items.zip items', Same p.1 p.2) : Same (arr items) (arr items')
  | obj {fields fields' : List (String × Json R)}
    (hkeys : ∀ key, fields.lookup key = none ↔ fields'.lookup key = none)
    (h : ∀ key v w, fields.lookup key = some v → fields'.lookup key = some w → Same v w) :
    Same (obj fields) (obj fields')

/-! ## The order of keys -/

section SortKeys

variable (before : String → String → Prop) [DecidableRel before]

mutual

/-- **The document with the keys of its objects in order.** -/
def sortKeys : Json R → Json R
  | null => null
  | bool b => bool b
  | num r => num r
  | str s => str s
  | arr items => arr (sortItems items)
  | obj fields => obj ((sortFields fields).insertionSort (fun f g => before f.1 g.1))

def sortItems : List (Json R) → List (Json R)
  | [] => []
  | v :: items => sortKeys v :: sortItems items

def sortFields : List (String × Json R) → List (String × Json R)
  | [] => []
  | (key, v) :: fields => (key, sortKeys v) :: sortFields fields

end

theorem sortItems_eq_map (items : List (Json R)) :
    sortItems before items = items.map (sortKeys before) := by
  induction items with
  | nil => rfl
  | cons v items ih => rw [sortItems, ih, List.map_cons]

theorem sortFields_eq_map (fields : List (String × Json R)) :
    sortFields before fields = fields.map (fun f => (f.1, sortKeys before f.2)) := by
  induction fields with
  | nil => rfl
  | cons f fields ih => rw [sortFields, ih, List.map_cons]

/-- **What is under a key** is what was under it. -/
theorem lookup_insertionSort_sortFields {fields : List (String × Json R)}
    (h : (fields.map Prod.fst).Nodup) (key : String) :
    ((sortFields before fields).insertionSort (fun f g => before f.1 g.1)).lookup key
      = (fields.lookup key).map (sortKeys before) := by
  have hperm := List.perm_insertionSort (fun f g : String × Json R => before f.1 g.1)
    (sortFields before fields)
  have hnodup : (((sortFields before fields).insertionSort
      (fun f g => before f.1 g.1)).map Prod.fst).Nodup := by
    refine (hperm.map Prod.fst).nodup_iff.mpr ?_
    rw [sortFields_eq_map, List.map_map]
    exact h
  ext w
  rw [lookup_eq_some_iff_mem hnodup, hperm.mem_iff, sortFields_eq_map, Option.map_eq_some_iff]
  constructor
  · intro hmem
    obtain ⟨f, hf, heq⟩ := List.mem_map.mp hmem
    cases heq
    exact ⟨f.2, (lookup_eq_some_iff_mem h).mpr hf, rfl⟩
  · rintro ⟨v, hv, rfl⟩
    exact List.mem_map.mpr ⟨(key, v), (lookup_eq_some_iff_mem h).mp hv, rfl⟩

/-- **The order of keys does not matter.** -/
theorem same_sortKeys : ∀ {v : Json R}, v.KeysDistinct → Same v (sortKeys before v)
  | null, _ => .null
  | bool b, _ => .bool b
  | num r, _ => .num r
  | str s, _ => .str s
  | arr items, h => by
    rw [sortKeys, sortItems_eq_map]
    refine .arr (List.length_map _).symm (fun p hp => ?_)
    have hmem := (List.of_mem_zip hp).1
    have hsort : p.2 = sortKeys before p.1 := by
      obtain ⟨i, hi, heq⟩ := List.mem_iff_getElem.mp hp
      rw [← heq, List.getElem_zip, List.getElem_map]
    rw [hsort]
    exact same_sortKeys (keysDistinct_arr.mp h p.1 hmem)
  | obj fields, h => by
    obtain ⟨hkeys, hvalues⟩ := keysDistinct_obj.mp h
    refine .obj (fun key => ?_) (fun key v w hv hw => ?_)
    · rw [lookup_insertionSort_sortFields before hkeys, Option.map_eq_none_iff]
    · have hmem := (lookup_eq_some_iff_mem hkeys).mp hv
      rw [lookup_insertionSort_sortFields before hkeys, hv] at hw
      rw [← Option.some.inj hw]
      exact same_sortKeys (hvalues _ hmem)
termination_by v => sizeOf v
decreasing_by
  · have hlt := List.sizeOf_lt_of_mem hmem
    simp
    omega
  · have hlt := List.sizeOf_lt_of_mem hmem
    simp at hlt ⊢
    omega

end SortKeys

/-! ## Tokens -/

/-- What a document is written down with. -/
inductive Token (R : Type)
  | null
  | bool (b : Bool)
  | num (r : R)
  | str (s : String)
  | arr
  | obj
  | item
  | key (s : String)
  | close

mutual

/-- The tokens of a document. -/
def tokens : Json R → List (Token R)
  | null => [.null]
  | bool b => [.bool b]
  | num r => [.num r]
  | str s => [.str s]
  | arr items => .arr :: itemTokens items
  | obj fields => .obj :: fieldTokens fields

def itemTokens : List (Json R) → List (Token R)
  | [] => [.close]
  | v :: items => .item :: (tokens v ++ itemTokens items)

def fieldTokens : List (String × Json R) → List (Token R)
  | [] => [.close]
  | (k, v) :: fields => .key k :: (tokens v ++ fieldTokens fields)

end

mutual

/-- **A document is read back from its tokens**, and from them it is known where it ends. -/
theorem tokens_inj : ∀ {v w : Json R} {r r' : List (Token R)},
    tokens v ++ r = tokens w ++ r' → v = w ∧ r = r'
  | null, w, r, r', h => by cases w <;> simp_all [tokens]
  | bool b, w, r, r', h => by cases w <;> simp_all [tokens]
  | num n, w, r, r', h => by cases w <;> simp_all [tokens]
  | str s, w, r, r', h => by cases w <;> simp_all [tokens]
  | arr items, w, r, r', h => by
    cases w with
    | arr items' =>
      obtain ⟨rfl, hrest⟩ := itemTokens_inj (List.cons.inj h).2
      exact ⟨rfl, hrest⟩
    | _ => simp [tokens] at h
  | obj fields, w, r, r', h => by
    cases w with
    | obj fields' =>
      obtain ⟨rfl, hrest⟩ := fieldTokens_inj (List.cons.inj h).2
      exact ⟨rfl, hrest⟩
    | _ => simp [tokens] at h

theorem itemTokens_inj : ∀ {vs ws : List (Json R)} {r r' : List (Token R)},
    itemTokens vs ++ r = itemTokens ws ++ r' → vs = ws ∧ r = r'
  | [], ws, r, r', h => by cases ws <;> simp_all [itemTokens]
  | v :: vs, ws, r, r', h => by
    cases ws with
    | nil => simp [itemTokens] at h
    | cons w ws =>
      simp only [itemTokens, List.cons_append, List.append_assoc] at h
      obtain ⟨rfl, hitems⟩ := tokens_inj (List.cons.inj h).2
      obtain ⟨rfl, hrest⟩ := itemTokens_inj hitems
      exact ⟨rfl, hrest⟩

theorem fieldTokens_inj : ∀ {vs ws : List (String × Json R)} {r r' : List (Token R)},
    fieldTokens vs ++ r = fieldTokens ws ++ r' → vs = ws ∧ r = r'
  | [], ws, r, r', h => by cases ws <;> simp_all [fieldTokens]
  | (k, v) :: vs, ws, r, r', h => by
    cases ws with
    | nil => simp [fieldTokens] at h
    | cons field ws =>
      obtain ⟨k', w⟩ := field
      simp only [fieldTokens, List.cons_append, List.append_assoc] at h
      obtain ⟨hkey, hvalue⟩ := List.cons.inj h
      obtain rfl := Token.key.inj hkey
      obtain ⟨rfl, hfields⟩ := tokens_inj hvalue
      obtain ⟨rfl, hrest⟩ := fieldTokens_inj hfields
      exact ⟨rfl, hrest⟩

end

theorem tokens_injective : Function.Injective (tokens (R := R)) := fun _ _ h =>
  (tokens_inj (congrArg (· ++ []) h)).1

end Json

instance countableString : Countable String :=
  Function.Injective.countable (f := fun s => s.toList.map Char.toNat) (fun _ _ h =>
    String.toList_inj.mp (List.map_injective_iff.mpr (fun _ _ h => Char.toNat_inj.mp h) h))

deriving instance Countable for Json.Token

/-- **There are no more documents than numbers.** -/
instance {R : Type} [Countable R] : Countable (Json R) := Json.tokens_injective.countable
