/-
# `EventSearch.Data.Sorting` — stable sorting

Each element in turn moves back past those that come after it and stops at the first that does
not.  Elements that are tied keep their order, and nothing is asked of the order: one that is not
transitive still gives a definite result.

**Proved here.**  Sorting keeps the elements (`sortBy_perm`), may be done on what a list is mapped
from (`sortBy_map`), leaves tied elements as they come (`sortBy_filter`), and puts the elements in
order when the order is transitive among them (`sortBy_pairwise`), as one by keys is
(`sortBy_sorted`).
-/
namespace EventSearch.Data

variable {α : Type}

/-- Put an element into a list that is sorted backwards, before those that come after it. -/
def insertBack (order : α → α → Ordering) (x : α) : List α → List α
  | [] => [x]
  | y :: ys => if order x y = .lt then y :: insertBack order x ys else x :: y :: ys

/-- A list sorted by an order. -/
def sortBy (order : α → α → Ordering) (xs : List α) : List α :=
  (xs.foldl (fun sorted x => insertBack order x sorted) []).reverse

theorem insertBack_perm (order : α → α → Ordering) (x : α) (ys : List α) :
    (insertBack order x ys).Perm (x :: ys) := by
  induction ys with
  | nil => exact .refl _
  | cons y ys ih =>
    unfold insertBack
    split
    · exact (ih.cons y).trans (.swap x y ys)
    · exact .refl _

theorem foldl_insertBack_perm (order : α → α → Ordering) (xs sorted : List α) :
    (xs.foldl (fun sorted x => insertBack order x sorted) sorted).Perm (xs ++ sorted) := by
  induction xs generalizing sorted with
  | nil => exact .refl _
  | cons x xs ih =>
    refine (ih _).trans (((insertBack_perm order x sorted).append_left xs).trans ?_)
    exact List.perm_middle

theorem sortBy_perm (order : α → α → Ordering) (xs : List α) : (sortBy order xs).Perm xs := by
  refine (List.reverse_perm _).trans ?_
  simpa using foldl_insertBack_perm order xs []

/-! ## Sorting what is mapped -/

theorem insertBack_map {β : Type} (order : α → α → Ordering) (f : β → α) (x : β) (ys : List β) :
    insertBack order (f x) (ys.map f) =
      (insertBack (fun a b => order (f a) (f b)) x ys).map f := by
  induction ys with
  | nil => rfl
  | cons y ys ih =>
    rw [List.map_cons, insertBack, insertBack]
    split
    · rw [ih, List.map_cons]
    · rfl

theorem sortBy_map {β : Type} (order : α → α → Ordering) (f : β → α) (xs : List β) :
    sortBy order (xs.map f) = (sortBy (fun a b => order (f a) (f b)) xs).map f := by
  have hfold : ∀ sorted : List β,
      (xs.map f).foldl (fun sorted x => insertBack order x sorted) (sorted.map f) =
        (xs.foldl (fun sorted x => insertBack (fun a b => order (f a) (f b)) x sorted)
          sorted).map f := by
    induction xs with
    | nil => exact fun _ => rfl
    | cons x xs ih =>
      intro sorted
      rw [List.map_cons, List.foldl_cons, List.foldl_cons, insertBack_map]
      exact ih _
  have hsorted := hfold []
  rw [List.map_nil] at hsorted
  rw [sortBy, sortBy, hsorted, List.map_reverse]

/-! ## Ties -/

/-- An element does not move past those it is tied with. -/
theorem insertBack_filter {order : α → α → Ordering} {p : α → Bool} {x : α} {ys : List α}
    (h : ∀ y ∈ ys, p x = true → p y = true → order x y ≠ .lt) :
    (insertBack order x ys).filter p = (x :: ys).filter p := by
  induction ys with
  | nil => rfl
  | cons y ys ih =>
    rw [insertBack]
    split
    · next hlt =>
      rw [List.filter_cons, ih fun z hz => h z (List.mem_cons_of_mem y hz)]
      by_cases hx : p x = true
      · have hy : ¬ p y = true := fun hy => h y List.mem_cons_self hx hy hlt
        simp [hx, hy]
      · simp [hx, List.filter_cons]
    · rfl

/-- Elements that are tied with each other keep their order. -/
theorem sortBy_filter {order : α → α → Ordering} {p : α → Bool} {xs : List α}
    (h : ∀ x ∈ xs, ∀ y ∈ xs, p x = true → p y = true → order x y ≠ .lt) :
    (sortBy order xs).filter p = xs.filter p := by
  -- what is sorted so far is the reverse of what was read, as far as the ties go
  have hfold : ∀ ys sorted : List α, (∀ y ∈ ys, y ∈ xs) → (∀ y ∈ sorted, y ∈ xs) →
      (ys.foldl (fun sorted x => insertBack order x sorted) sorted).filter p
        = (ys.reverse ++ sorted).filter p := by
    intro ys
    induction ys with
    | nil => exact fun sorted _ _ => rfl
    | cons y ys ih =>
      intro sorted hys hin
      have hy := hys y List.mem_cons_self
      rw [List.foldl_cons, ih _ (fun z hz => hys z (List.mem_cons_of_mem y hz)) fun z hz => ?_,
        List.filter_append, insertBack_filter fun z hz => h y hy z (hin z hz),
        ← List.filter_append, List.reverse_cons, List.append_assoc, List.singleton_append]
      rcases List.mem_cons.1 ((insertBack_perm order y sorted).mem_iff.1 hz) with rfl | hz
      · exact hy
      · exact hin z hz
  rw [sortBy, List.filter_reverse, hfold xs [] (fun _ hx => hx) (fun _ hx => absurd hx
    List.not_mem_nil), List.append_nil, List.filter_reverse, List.reverse_reverse]

/-! ## Sorted lists -/

section Sorted

variable {order : α → α → Ordering} {le : α → α → Prop}

/-- An element moves back past those that come after it only, so what is sorted backwards stays so. -/
theorem insertBack_pairwise {x : α} {ys : List α}
    (hlt : ∀ y ∈ ys, order x y = .lt → le x y) (hge : ∀ y ∈ ys, order x y ≠ .lt → le y x)
    (htrans : ∀ y ∈ ys, ∀ z ∈ ys, le z y → le y x → le z x)
    (hys : ys.Pairwise fun a b => le b a) :
    (insertBack order x ys).Pairwise fun a b => le b a := by
  induction ys with
  | nil => exact List.pairwise_singleton _ _
  | cons y ys ih =>
    obtain ⟨hy, hys⟩ := List.pairwise_cons.1 hys
    rw [insertBack]
    split
    · next hxy =>
      refine List.pairwise_cons.2 ⟨fun z hz => ?_, ih
        (fun z hz => hlt z (List.mem_cons_of_mem y hz)) (fun z hz => hge z (List.mem_cons_of_mem y hz))
        (fun z hz w hw => htrans z (List.mem_cons_of_mem y hz) w (List.mem_cons_of_mem y hw)) hys⟩
      rcases List.mem_cons.1 ((insertBack_perm order x ys).mem_iff.1 hz) with rfl | hz
      · exact hlt y List.mem_cons_self hxy
      · exact hy z hz
    · next hxy =>
      have hyx := hge y List.mem_cons_self hxy
      refine List.pairwise_cons.2 ⟨fun z hz => ?_, List.pairwise_cons.2 ⟨hy, hys⟩⟩
      rcases List.mem_cons.1 hz with rfl | hz
      · exact hyx
      · exact htrans y List.mem_cons_self z (List.mem_cons_of_mem y hz) (hy z hz) hyx

/-- What an order tells of the elements of a list is how the sorted list goes, as long as it is
transitive among them. -/
theorem sortBy_pairwise {xs : List α}
    (hlt : ∀ x ∈ xs, ∀ y ∈ xs, order x y = .lt → le x y)
    (hge : ∀ x ∈ xs, ∀ y ∈ xs, order x y ≠ .lt → le y x)
    (htrans : ∀ x ∈ xs, ∀ y ∈ xs, ∀ z ∈ xs, le x y → le y z → le x z) :
    (sortBy order xs).Pairwise le := by
  -- what is sorted so far and what is to come are elements of one list
  have hfold : ∀ ys sorted : List α, (∀ y ∈ ys, y ∈ xs) → (∀ y ∈ sorted, y ∈ xs) →
      sorted.Pairwise (fun a b => le b a) →
      (ys.foldl (fun sorted x => insertBack order x sorted) sorted).Pairwise fun a b => le b a := by
    intro ys
    induction ys with
    | nil => exact fun sorted _ _ hsorted => hsorted
    | cons y ys ih =>
      intro sorted hys hin hsorted
      have hy := hys y List.mem_cons_self
      refine ih _ (fun z hz => hys z (List.mem_cons_of_mem y hz)) (fun z hz => ?_)
        (insertBack_pairwise (fun z hz => hlt y hy z (hin z hz)) (fun z hz => hge y hy z (hin z hz))
          (fun z hz w hw => htrans w (hin w hw) z (hin z hz) y hy) hsorted)
      rcases List.mem_cons.1 ((insertBack_perm order y sorted).mem_iff.1 hz) with rfl | hz
      · exact hy
      · exact hin z hz
  rw [sortBy, List.pairwise_reverse]
  exact hfold xs [] (fun _ hx => hx) (fun _ hx => absurd hx List.not_mem_nil) List.Pairwise.nil

end Sorted

/-- Elements that are compared by keys are sorted by them. -/
theorem sortBy_sorted {order : α → α → Ordering} {key : α → Int} {xs : List α}
    (h : ∀ x ∈ xs, ∀ y ∈ xs, order x y = compare (key x) (key y)) :
    (sortBy order xs).Pairwise fun a b => key a ≤ key b := by
  refine sortBy_pairwise (fun x hx y hy hxy => ?_) (fun x hx y hy hxy => ?_)
    fun x _ y _ z _ hxy hyz => Int.le_trans hxy hyz
  · rw [h x hx y hy, Int.compare_eq_lt] at hxy
    exact Int.le_of_lt hxy
  · rw [h x hx y hy, ne_eq, Int.compare_eq_lt, Int.not_lt] at hxy
    exact hxy

end EventSearch.Data
