/-! # Stable sorting

Under a total preorder, a sorted list is known by what it holds of each class of tied elements, in
order (`eq_of_ties`). Sorting keeps the order within every class (`isStableSort_mergeSort`) and
commutes with leaving elements out (`mergeSort_filter`). So a list can be sorted piece by piece
before it is sorted as a whole (`mergeSort_append_mergeSort`). -/

namespace SqlStyle

/-- Where a list changes over from passing a test to failing it is fixed by the list. -/
theorem append_eq_filter {α : Type} {q : α → Bool} {a b : List α} (ha : ∀ x ∈ a, q x = true)
    (hb : ∀ x ∈ b, q x = false) :
    (a ++ b).filter q = a ∧ (a ++ b).filter (fun x => !q x) = b := by
  rw [List.filter_append, List.filter_append, List.filter_eq_self.mpr ha,
    List.filter_eq_nil_iff.mpr (by simpa using hb), List.filter_eq_nil_iff.mpr (by simpa using ha),
    List.filter_eq_self.mpr (by simpa using hb)]
  simp

/-- Neither of two elements goes before the other. -/
def tied {α : Type} (le : α → α → Bool) (x y : α) : Bool := le x y && le y x

/-- A list sorted stably: the same elements in order, and those that are tied as they stood
before. -/
structure IsStableSort {α : Type} (le : α → α → Bool) (xs sorted : List α) : Prop where
  perm : sorted.Perm xs
  ordered : sorted.Pairwise fun a b => le a b = true
  ties : ∀ x, sorted.filter (tied le x) = xs.filter (tied le x)

section

variable {α : Type} {le : α → α → Bool}

theorem tied_self (total : ∀ a b, (le a b || le b a) = true) (a : α) : tied le a a = true := by
  have h := total a a
  rw [Bool.or_self] at h
  rw [tied, h, Bool.and_self]

theorem mem_of_ties (total : ∀ a b, (le a b || le b a) = true) {a b : List α}
    (h : ∀ x, a.filter (tied le x) = b.filter (tied le x)) {x : α} (hx : x ∈ a) : x ∈ b := by
  have hmem : x ∈ a.filter (tied le x) := List.mem_filter.mpr ⟨hx, tied_self total x⟩
  rw [h x] at hmem
  exact (List.mem_filter.mp hmem).1

/-- Two lists in order that hold the same of every class of tied elements are equal. -/
theorem eq_of_ties (total : ∀ a b, (le a b || le b a) = true) {a b : List α}
    (ha : a.Pairwise fun x y => le x y = true) (hb : b.Pairwise fun x y => le x y = true)
    (h : ∀ x, a.filter (tied le x) = b.filter (tied le x)) : a = b := by
  have refl : ∀ x, le x x = true := fun x => by simpa using total x x
  induction a generalizing b with
  | nil =>
    cases b with
    | nil => rfl
    | cons y b => cases mem_of_ties total (fun x => (h x).symm) List.mem_cons_self
  | cons x a ih =>
    cases b with
    | nil => cases mem_of_ties total h List.mem_cons_self
    | cons y b =>
      obtain ⟨hxa, hta⟩ := List.pairwise_cons.mp ha
      obtain ⟨hyb, htb⟩ := List.pairwise_cons.mp hb
      -- each head occurs in the other list, so neither goes before the other
      have hxy : le x y = true := by
        rcases List.mem_cons.mp (mem_of_ties total (fun x => (h x).symm) List.mem_cons_self)
          with rfl | hy
        · exact refl y
        · exact hxa y hy
      have hyx : le y x = true := by
        rcases List.mem_cons.mp (mem_of_ties total h List.mem_cons_self) with rfl | hx
        · exact refl x
        · exact hyb x hx
      have hhead := h x
      rw [List.filter_cons_of_pos (tied_self total x),
        List.filter_cons_of_pos (by rw [tied, hxy, hyx]; rfl)] at hhead
      obtain rfl := (List.cons.inj hhead).1
      congr 1
      refine ih hta htb fun z => ?_
      have hz := h z
      simp only [List.filter_cons] at hz
      split at hz
      · exact (List.cons.inj hz).2
      · exact hz

variable (trans : ∀ a b c, le a b = true → le b c = true → le a c = true)
  (total : ∀ a b, (le a b || le b a) = true)

include trans total

/-- Sorting what passes a test is keeping what passes of the sorted list. -/
theorem mergeSort_filter (p : α → Bool) (l : List α) :
    (l.filter p).mergeSort le = (l.mergeSort le).filter p := by
  induction l with
  | nil => simp
  | cons a l ih =>
    obtain ⟨l₁, l₂, hcons, hl, hlt⟩ := List.mergeSort_cons trans total a l
    by_cases hp : p a = true
    · -- `a` goes in front of the first element that is not before it, with or without the others
      obtain ⟨m₁, m₂, hcons', hm, hlt'⟩ := List.mergeSort_cons trans total a (l.filter p)
      have hge : ∀ x ∈ l₂, le a x = true := by
        have := List.pairwise_mergeSort trans total (a :: l)
        rw [hcons] at this
        exact (List.pairwise_cons.mp (List.pairwise_append.mp this).2.1).1
      have hge' : ∀ x ∈ m₂, le a x = true := by
        have := List.pairwise_mergeSort trans total (a :: l.filter p)
        rw [hcons'] at this
        exact (List.pairwise_cons.mp (List.pairwise_append.mp this).2.1).1
      rw [hm, hl, List.filter_append] at ih
      have hM := append_eq_filter (q := fun x => !le a x) (b := m₂) hlt'
        (fun x hx => by simp [hge' x hx])
      have hL := append_eq_filter (q := fun x => !le a x) (a := l₁.filter p) (b := l₂.filter p)
        (fun x hx => hlt x (List.mem_filter.mp hx).1)
        (fun x hx => by simp [hge x (List.mem_filter.mp hx).1])
      rw [ih] at hM
      rw [List.filter_cons_of_pos hp, hcons', hcons, List.filter_append, List.filter_cons_of_pos hp,
        ← hM.1, ← hM.2, hL.1, hL.2]
    · rw [List.filter_cons_of_neg hp, ih, hl, hcons, List.filter_append, List.filter_append,
        List.filter_cons_of_neg hp]

theorem mergeSort_ties (x : α) (l : List α) :
    (l.mergeSort le).filter (tied le x) = l.filter (tied le x) := by
  rw [← mergeSort_filter trans total]
  -- elements tied with `x` are tied with each other, so they are in order already
  refine List.mergeSort_of_pairwise (List.pairwise_of_forall_mem_list fun a ha b hb => ?_)
  have hax := (Bool.and_eq_true_iff.mp (List.mem_filter.mp ha).2).2
  have hxb := (Bool.and_eq_true_iff.mp (List.mem_filter.mp hb).2).1
  exact trans a x b hax hxb

theorem isStableSort_mergeSort (l : List α) : IsStableSort le l (l.mergeSort le) where
  perm := List.mergeSort_perm l le
  ordered := List.pairwise_mergeSort trans total l
  ties x := mergeSort_ties trans total x l

/-- A list sorted as a whole does not show whether its parts were sorted before. -/
theorem mergeSort_append_mergeSort (a b : List α) :
    (a.mergeSort le ++ b.mergeSort le).mergeSort le = (a ++ b).mergeSort le := by
  refine eq_of_ties total (List.pairwise_mergeSort trans total _)
    (List.pairwise_mergeSort trans total _) ?_
  intro x
  rw [mergeSort_ties trans total, mergeSort_ties trans total, List.filter_append,
    List.filter_append, mergeSort_ties trans total, mergeSort_ties trans total]

end

end SqlStyle
