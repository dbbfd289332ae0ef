import Mathlib.Data.Set.Insert
import Mathlib.Data.Finset.Basic
import Sastt.Lib.PointerForest

/-!
# Apartness constraints over a pointer forest

Records that are merged by forwarding pointers can carry constraints: some
pairs of records are known to be *apart*, and no chain of merges may bring
them under one root. A program keeps the constraints as marks on the roots
– the mark set of a root names records it must not be merged with – while
the constraints themselves are about nodes, and the nodes' roots move.

`Marked` is what relates the two: the marks of the roots say exactly which
trees the constraints hold apart. It is kept by recording a constraint
(`Marked.insert_pair`) and by linking two roots and handing the marks of one
to the other (`Marked.link`), *provided the link does not break a constraint
itself*, and `Marked.separated_link_iff` says what that proviso is in
terms of the marks: no mark of the linked root resolves to the root it is
linked to. Comparing marks with the root's own name is not enough – a mark
names the node that was the root when the constraint was recorded.

The half of `Marked` that says every mark stems from a constraint needs no
proviso (`Sound.link`), so the condition on the marks is not only
sufficient but necessary.

Records may wear badges besides: names given to them from elsewhere. Nothing
ties a badge to the marks, so whether roots held apart are told apart by
their badges too (`ToldApart`) is a condition on every step that gives a
badge, sets a mark or hands marks over.
-/

variable {α : Type}

/-- **The constraints hold**: nodes recorded as apart have different
roots. -/
def Separated (f : PointerForest α) (apart : α → α → Prop) : Prop :=
  ∀ a b, apart a b → f.root a ≠ f.root b

/-- **Every mark of a root stems from a constraint** between a node of its
tree and a node of the tree the mark resolves to. -/
def Sound (f : PointerForest α) (marks : α → Finset α) (apart : α → α → Prop) : Prop :=
  ∀ r x, f.parent r = none → x ∈ marks r →
    ∃ a b, apart a b ∧ f.root a = r ∧ f.root b = f.root x

/-- **The marks of a root cover its constraints**: for each of them the
root carries a mark that resolves to the other tree. -/
def Covered (f : PointerForest α) (marks : α → Finset α) (apart : α → α → Prop) : Prop :=
  ∀ a b, apart a b → ∃ x ∈ marks (f.root a), f.root x = f.root b

/-- The marks of the roots say exactly which trees are held apart. -/
structure Marked (f : PointerForest α) (marks : α → Finset α)
    (apart : α → α → Prop) : Prop where
  symm : ∀ a b, apart a b → apart b a
  sound : Sound f marks apart
  covered : Covered f marks apart

/-- The constraints together with one between `a` and `b`, in both
orders. -/
def insertPair (apart : α → α → Prop) (a b : α) : α → α → Prop :=
  fun x y => apart x y ∨ (x = a ∧ y = b) ∨ (x = b ∧ y = a)

/-! ## Forests with the same pointers -/

section Congr

variable {f g : PointerForest α} {marks : α → Finset α} {apart : α → α → Prop}

/-- The constraints read the roots only. -/
theorem Separated.congr (h : Separated f apart) (hp : g.parent = f.parent) :
    Separated g apart := by
  have hroot : g.root = f.root := funext (PointerForest.root_congr hp)
  unfold Separated
  rw [hroot]
  exact h

/-- Marks are exact for the pointers, whatever bound the forest carries. -/
theorem Marked.congr (h : Marked f marks apart) (hp : g.parent = f.parent) :
    Marked g marks apart := by
  have hroot : g.root = f.root := funext (PointerForest.root_congr hp)
  refine ⟨h.symm, ?_, ?_⟩
  · unfold Sound
    rw [hroot, hp]
    exact h.sound
  · unfold Covered
    rw [hroot]
    exact h.covered

end Congr

section

variable [DecidableEq α] {f : PointerForest α} {marks : α → Finset α}
  {apart : α → α → Prop}

/-! ## Recording a constraint -/

/-- The marks with two roots marked with each other. -/
def markPair (marks : α → Finset α) (A B : α) : α → Finset α :=
  Function.update (Function.update marks A (insert B (marks A)))
    B (insert A (marks B))

theorem mem_markPair_iff {A B : α} (hAB : A ≠ B) {r x : α} :
    x ∈ markPair marks A B r ↔ x ∈ marks r ∨ (r = A ∧ x = B) ∨ (r = B ∧ x = A) := by
  unfold markPair
  by_cases hB : r = B
  · subst hB
    rw [Function.update_self, Finset.mem_insert]
    constructor
    · rintro (h | h)
      · exact Or.inr (Or.inr ⟨rfl, h⟩)
      · exact Or.inl h
    · rintro (h | ⟨h, -⟩ | ⟨-, h⟩)
      · exact Or.inr h
      · exact absurd h.symm hAB
      · exact Or.inl h
  · rw [Function.update_of_ne hB]
    by_cases hA : r = A
    · subst hA
      rw [Function.update_self, Finset.mem_insert]
      constructor
      · rintro (h | h)
        · exact Or.inr (Or.inl ⟨rfl, h⟩)
        · exact Or.inl h
      · rintro (h | ⟨-, h⟩ | ⟨h, -⟩)
        · exact Or.inr h
        · exact Or.inl h
        · exact absurd h hB
    · rw [Function.update_of_ne hA]
      constructor
      · exact Or.inl
      · rintro (h | ⟨h, -⟩ | ⟨h, -⟩)
        · exact h
        · exact absurd h hA
        · exact absurd h hB

/-- Marking two roots with each other records a constraint between any two
nodes of their trees. -/
theorem Sound.insert_pair (h : Sound f marks apart) {a b : α}
    (hab : f.root a ≠ f.root b) :
    Sound f (markPair marks (f.root a) (f.root b)) (insertPair apart a b) := by
  intro r x hr hx
  rcases (mem_markPair_iff hab).mp hx with hx | ⟨rfl, rfl⟩ | ⟨rfl, rfl⟩
  · obtain ⟨c, d, hcd, hc, hd⟩ := h r x hr hx
    exact ⟨c, d, Or.inl hcd, hc, hd⟩
  · exact ⟨a, b, Or.inr (Or.inl ⟨rfl, rfl⟩), rfl, (f.root_root b).symm⟩
  · exact ⟨b, a, Or.inr (Or.inr ⟨rfl, rfl⟩), rfl, (f.root_root a).symm⟩

/-- **Recording a constraint keeps the marks exact.** -/
theorem Marked.insert_pair (h : Marked f marks apart) {a b : α}
    (hab : f.root a ≠ f.root b) :
    Marked f (markPair marks (f.root a) (f.root b)) (insertPair apart a b) where
  symm := by
    rintro x y (hxy | hxy | hxy)
    · exact Or.inl (h.symm x y hxy)
    · exact Or.inr (Or.inr ⟨hxy.2, hxy.1⟩)
    · exact Or.inr (Or.inl ⟨hxy.2, hxy.1⟩)
  sound := h.sound.insert_pair hab
  covered := by
    rintro x y (hxy | ⟨rfl, rfl⟩ | ⟨rfl, rfl⟩)
    · obtain ⟨z, hz, hzy⟩ := h.covered x y hxy
      exact ⟨z, (mem_markPair_iff hab).mpr (Or.inl hz), hzy⟩
    · exact ⟨_, (mem_markPair_iff hab).mpr (Or.inr (Or.inl ⟨rfl, rfl⟩)), f.root_root y⟩
    · exact ⟨_, (mem_markPair_iff hab).mpr (Or.inr (Or.inr ⟨rfl, rfl⟩)), f.root_root y⟩

/-! ## Linking two roots -/

/-- The marks after `s` is linked to `t`: the marks of `s` are handed to
`t`, less `t` itself. -/
def handMarks (marks : α → Finset α) (s t : α) : α → Finset α :=
  Function.update marks t (marks t ∪ (marks s \ {t}))

theorem mem_handMarks_of_ne {s t r : α} (hr : r ≠ t) :
    handMarks marks s t r = marks r := Function.update_of_ne hr _ _

theorem mem_handMarks_self {s t x : α} :
    x ∈ handMarks marks s t t ↔ x ∈ marks t ∨ (x ∈ marks s ∧ x ≠ t) := by
  unfold handMarks
  rw [Function.update_self, Finset.mem_union, Finset.mem_sdiff, Finset.mem_singleton]

variable {s t : α} (hs : f.parent s = none) (ht : f.parent t = none) (hst : s ≠ t)

/-- **Linking keeps the marks sound**, whatever the constraints say. -/
theorem Sound.link (h : Sound f marks apart) :
    Sound (f.link s t hs ht hst) (handMarks marks s t) apart := by
  intro r x hr hx
  have hrs : r ≠ s := by
    rintro rfl
    rw [f.parent_link_self] at hr
    cases hr
  have hr' : f.parent r = none := by
    rwa [f.parent_link_of_ne hs ht hst hrs] at hr
  by_cases hrt : r = t
  · subst hrt
    rcases mem_handMarks_self.mp hx with hx | ⟨hx, -⟩
    · obtain ⟨a, b, hab, ha, hb⟩ := h r x hr' hx
      refine ⟨a, b, hab, ?_, f.root_link_eq_of_root_eq hs ht hst hb⟩
      rw [f.root_link, if_neg (by rw [ha]; exact hrs), ha]
    · obtain ⟨a, b, hab, ha, hb⟩ := h s x hs hx
      refine ⟨a, b, hab, ?_, f.root_link_eq_of_root_eq hs ht hst hb⟩
      rw [f.root_link, if_pos ha]
  · rw [mem_handMarks_of_ne hrt] at hx
    obtain ⟨a, b, hab, ha, hb⟩ := h r x hr' hx
    refine ⟨a, b, hab, ?_, f.root_link_eq_of_root_eq hs ht hst hb⟩
    rw [f.root_link, if_neg (by rw [ha]; exact hrs), ha]

/-- A link *respects* the marks of `s` when none of them resolves to
`t`. -/
def Respects (f : PointerForest α) (marks : α → Finset α) (s t : α) : Prop :=
  ∀ x ∈ marks s, f.root x ≠ t

omit [DecidableEq α] in
/-- A respectful link joins no two trees that are held apart. -/
theorem Marked.ne_of_respects (h : Marked f marks apart) (hr : Respects f marks s t)
    {a b : α} (hab : apart a b) (ha : f.root a = s) : f.root b ≠ t := by
  obtain ⟨x, hx, hxb⟩ := h.covered a b hab
  rw [ha] at hx
  rw [← hxb]
  exact hr x hx

/-- **A respectful link keeps the marks exact.** -/
theorem Marked.link (h : Marked f marks apart) (hr : Respects f marks s t) :
    Marked (f.link s t hs ht hst) (handMarks marks s t) apart where
  symm := h.symm
  sound := h.sound.link hs ht hst
  covered := by
    intro a b hab
    obtain ⟨x, hx, hxb⟩ := h.covered a b hab
    refine ⟨x, ?_, f.root_link_eq_of_root_eq hs ht hst hxb⟩
    rw [f.root_link]
    by_cases ha : f.root a = s
    · -- the tree of `a` moves under `t`, which is handed the mark
      rw [if_pos ha, mem_handMarks_self]
      rw [ha] at hx
      refine Or.inr ⟨hx, ?_⟩
      rintro rfl
      exact hr x hx (f.root_of_parent_none ht)
    · rw [if_neg ha]
      by_cases hat : f.root a = t
      · rw [hat, mem_handMarks_self]
        exact Or.inl (hat ▸ hx)
      · rw [mem_handMarks_of_ne hat]
        exact hx

/-- **A link keeps the constraints exactly when it respects the marks.** -/
theorem Marked.separated_link_iff (h : Marked f marks apart) (hsep : Separated f apart) :
    Separated (f.link s t hs ht hst) apart ↔ Respects f marks s t := by
  constructor
  · intro hsep' x hx hxt
    obtain ⟨a, b, hab, ha, hb⟩ := h.sound s x hs hx
    exact hsep' a b hab
      ((f.root_link_eq_iff hs ht hst (hsep a b hab)).mpr (Or.inl ⟨ha, hb.trans hxt⟩))
  · intro hr a b hab heq
    rcases (f.root_link_eq_iff hs ht hst (hsep a b hab)).mp heq with ⟨ha, hb⟩ | ⟨ha, hb⟩
    · exact h.ne_of_respects hr hab ha hb
    · exact h.ne_of_respects hr (h.symm a b hab) hb ha

end

/-! ## Badges -/

section Badges

variable {β : Type} {parent : α → Option α} {marks : α → Finset α} {badge : α → Option β}

/-- Two records are marked with each other. -/
def Mutual (marks : α → Finset α) (a b : α) : Prop := b ∈ marks a ∧ a ∈ marks b

theorem Mutual.symm {a b : α} (h : Mutual marks a b) : Mutual marks b a := ⟨h.2, h.1⟩

/-- **Roots marked with each other wear no badge in common.** -/
def ToldApart (parent : α → Option α) (marks : α → Finset α) (badge : α → Option β) : Prop :=
  ∀ a b, parent a = none → parent b = none → a ≠ b → Mutual marks a b →
    ∀ i, badge a = some i → badge b ≠ some i

variable [DecidableEq α]

/-- **Giving a root a badge** keeps the badges apart exactly when none of the
roots it is marked with wears it. -/
theorem ToldApart.update_iff (h : ToldApart parent marks badge) {r : α} {i : β}
    (hr : parent r = none) :
    ToldApart parent marks (Function.update badge r (some i))
      ↔ ∀ b, parent b = none → b ≠ r → Mutual marks r b → badge b ≠ some i := by
  constructor
  · intro h' b hb hbr hmutual
    have hne := h' r b hr hb hbr.symm hmutual i (Function.update_self r _ badge)
    rwa [Function.update_of_ne hbr] at hne
  · intro hnone a b ha hb hab hmutual j hja hjb
    by_cases har : a = r
    · subst har
      rw [Function.update_self] at hja
      cases hja
      rw [Function.update_of_ne hab.symm] at hjb
      exact hnone b hb hab.symm hmutual hjb
    · rw [Function.update_of_ne har] at hja
      by_cases hbr : b = r
      · subst hbr
        rw [Function.update_self] at hjb
        cases hjb
        exact hnone a ha hab hmutual.symm hja
      · rw [Function.update_of_ne hbr] at hjb
        exact h a b ha hb hab hmutual j hja hjb

/-- **Marking two roots with each other** keeps the badges apart exactly when
they wear none in common. -/
theorem ToldApart.markPair_iff (h : ToldApart parent marks badge) {a b : α}
    (ha : parent a = none) (hb : parent b = none) (hab : a ≠ b) :
    ToldApart parent (markPair marks a b) badge
      ↔ ∀ i, badge a = some i → badge b ≠ some i := by
  constructor
  · exact fun h' => h' a b ha hb hab ⟨(mem_markPair_iff hab).mpr (Or.inr (Or.inl ⟨rfl, rfl⟩)),
      (mem_markPair_iff hab).mpr (Or.inr (Or.inr ⟨rfl, rfl⟩))⟩
  · intro hnone x y hx hy hxy hmutual i hix hiy
    rcases (mem_markPair_iff hab).mp hmutual.1 with hold | ⟨rfl, rfl⟩ | ⟨rfl, rfl⟩
    · rcases (mem_markPair_iff hab).mp hmutual.2 with hold' | ⟨rfl, rfl⟩ | ⟨rfl, rfl⟩
      · exact h x y hx hy hxy ⟨hold, hold'⟩ i hix hiy
      · exact hnone i hiy hix
      · exact hnone i hix hiy
    · exact hnone i hix hiy
    · exact hnone i hiy hix

/-- **Linking a root to another** keeps the badges apart exactly when no root
that the first is marked with, and that is marked with the second, wears the
second's badge. -/
theorem ToldApart.link_iff (h : ToldApart parent marks badge) {s t : α}
    (ht : parent t = none) (hst : s ≠ t) :
    ToldApart (Function.update parent s (some t)) (handMarks marks s t) badge
      ↔ ∀ x, parent x = none → x ≠ s → x ≠ t → x ∈ marks s → t ∈ marks x →
        ∀ i, badge t = some i → badge x ≠ some i := by
  have hroot : ∀ {x : α}, x ≠ s → (Function.update parent s (some t)) x = parent x :=
    fun hx => Function.update_of_ne hx _ _
  have hnot : ∀ {x : α}, (Function.update parent s (some t)) x = none → x ≠ s := by
    rintro x hx rfl
    rw [Function.update_self] at hx
    cases hx
  constructor
  · intro h' x hx hxs hxt hmark hback
    refine h' t x ((hroot hst.symm).trans ht) ((hroot hxs).trans hx) hxt.symm ⟨?_, ?_⟩
    · exact mem_handMarks_self.mpr (Or.inr ⟨hmark, hxt⟩)
    · rwa [mem_handMarks_of_ne hxt]
  · intro hnone
    -- the marks of the others are as they were
    have hside : ∀ x, parent x = none → x ≠ s → x ≠ t → Mutual (handMarks marks s t) t x →
        ∀ i, badge t = some i → badge x ≠ some i := by
      intro x hx hxs hxt hmutual i hit
      have hback : t ∈ marks x := by
        have hmark := hmutual.2
        rwa [mem_handMarks_of_ne hxt] at hmark
      rcases mem_handMarks_self.mp hmutual.1 with hmark | ⟨hmark, -⟩
      · exact h t x ht hx hxt.symm ⟨hmark, hback⟩ i hit
      · exact hnone x hx hxs hxt hmark hback i hit
    intro a b ha hb hab hmutual i hia hib
    have has := hnot ha
    have hbs := hnot hb
    rw [hroot has] at ha
    rw [hroot hbs] at hb
    by_cases hat : a = t
    · subst hat
      exact hside b hb hbs hab.symm hmutual i hia hib
    · by_cases hbt : b = t
      · subst hbt
        exact hside a ha has hab hmutual.symm i hib hia
      · unfold Mutual at hmutual
        rw [mem_handMarks_of_ne hat, mem_handMarks_of_ne hbt] at hmutual
        exact h a b ha hb hab hmutual i hia hib

end Badges
