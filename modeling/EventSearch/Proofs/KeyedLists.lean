/-
# `EventSearch.Proofs.KeyedLists` — lists of keys and values

A keyed list is told by its keys in order and by what stands under each key (`valuesOf`).  To set a
key replaces the first value under it, or puts the pair at the end (`keys_upsert`,
`valuesOf_upsert`): all other keys keep what stands under them, and distinct keys stay distinct.
Many keys are set one after the other (`setAll`), where the last value for a key is the one that
stays.

Names without repetitions stand in the order of their first occurrence: one more name is put at the
end when it is new (`eraseDups_concat`).
-/
import EventSearch.Data.Dataset
import Mathlib.Data.List.Induction
import Mathlib.Data.List.Nodup

namespace EventSearch.Data

/-! ## Names without repetitions -/

theorem eraseDups_concat (names : List String) (name : String) : (names ++ [name]).eraseDups
    = if name ∈ names then names.eraseDups else names.eraseDups ++ [name] := by
  rw [List.eraseDups_append]
  by_cases h : name ∈ names <;> simp [List.removeAll, h, List.eraseDups_cons]

theorem nodup_eraseDups (names : List String) : names.eraseDups.Nodup := by
  induction names using List.reverseRecOn with
  | nil => exact List.nodup_nil
  | append_singleton names name ih =>
    rw [eraseDups_concat]
    split
    · exact ih
    · next h =>
      rw [← List.concat_eq_append, List.nodup_concat, List.mem_eraseDups]
      exact ⟨h, ih⟩

variable {α : Type}

/-! ## Values under a key -/

/-- All values under a key, in order. -/
def valuesOf (key : String) (xs : List (String × α)) : List α :=
  (xs.filter fun x => x.1 = key).map (·.2)

theorem valuesOf_cons (key : String) (x : String × α) (xs : List (String × α)) :
    valuesOf key (x :: xs) = if x.1 = key then x.2 :: valuesOf key xs else valuesOf key xs := by
  by_cases h : x.1 = key <;> simp [valuesOf, h]

theorem valuesOf_append (key : String) (xs ys : List (String × α)) :
    valuesOf key (xs ++ ys) = valuesOf key xs ++ valuesOf key ys := by
  rw [valuesOf, List.filter_append, List.map_append]
  rfl

theorem mem_valuesOf {key : String} {value : α} {xs : List (String × α)} :
    value ∈ valuesOf key xs ↔ (key, value) ∈ xs := by
  simp [valuesOf]

theorem valuesOf_eq_nil {key : String} {xs : List (String × α)} :
    valuesOf key xs = [] ↔ key ∉ xs.map (·.1) := by
  rw [List.eq_nil_iff_forall_not_mem]
  simp [mem_valuesOf]

theorem find?_eq_head? (key : String) (xs : List (String × α)) :
    find? key xs = (valuesOf key xs).head? := by
  induction xs with
  | nil => rfl
  | cons x xs ih =>
    obtain ⟨k, v⟩ := x
    rw [find?, valuesOf_cons]
    split
    · rfl
    · exact ih

theorem find?_isSome_iff {key : String} {xs : List (String × α)} :
    (find? key xs).isSome = true ↔ key ∈ xs.map (·.1) := by
  rw [find?_eq_head?, ← not_iff_not, ← valuesOf_eq_nil]
  cases valuesOf key xs <;> simp

/-- A key that stands once has one value. -/
theorem valuesOf_of_mem {key : String} {value : α} {xs : List (String × α)}
    (hxs : (xs.map (·.1)).Nodup) (h : (key, value) ∈ xs) : valuesOf key xs = [value] := by
  induction xs with
  | nil => cases h
  | cons x xs ih =>
    obtain ⟨hx, hxs⟩ := List.nodup_cons.1 hxs
    rw [valuesOf_cons]
    rcases List.mem_cons.1 h with rfl | h
    · rw [if_pos rfl, valuesOf_eq_nil.2 hx]
    · have hne : x.1 ≠ key := by
        rintro rfl
        exact hx (List.mem_map.2 ⟨_, h, rfl⟩)
      rw [if_neg hne, ih hxs h]

/-! ## Setting a key -/

theorem keys_upsert (key : String) (value : α) (xs : List (String × α)) :
    (upsert key value xs).map (·.1)
      = if key ∈ xs.map (·.1) then xs.map (·.1) else xs.map (·.1) ++ [key] := by
  induction xs with
  | nil => rfl
  | cons x xs ih =>
    obtain ⟨k, v⟩ := x
    rw [upsert]
    split
    · next h => simp [h]
    · next h =>
      rw [List.map_cons, ih]
      by_cases hmem : key ∈ xs.map (·.1) <;> simp [hmem, Ne.symm h]

theorem nodup_upsert {key : String} {value : α} {xs : List (String × α)} :
    ((upsert key value xs).map (·.1)).Nodup ↔ (xs.map (·.1)).Nodup := by
  rw [keys_upsert]
  split
  · rfl
  · next h =>
    rw [← List.concat_eq_append, List.nodup_concat, and_iff_right h]

theorem valuesOf_upsert (k key : String) (value : α) (xs : List (String × α)) :
    valuesOf k (upsert key value xs)
      = if key = k then value :: (valuesOf k xs).tail else valuesOf k xs := by
  induction xs with
  | nil => rw [upsert, valuesOf_cons]; rfl
  | cons x xs ih =>
    obtain ⟨k', v⟩ := x
    by_cases h : k' = key
    · subst h
      by_cases hk : k' = k <;> simp [upsert, valuesOf_cons, hk]
    · by_cases hk : k' = k
      · subst hk
        simp [upsert, valuesOf_cons, h, ih, Ne.symm h]
      · simp [upsert, valuesOf_cons, h, hk, ih]

/-- Pairs set one after the other. -/
def setAll (updates xs : List (String × α)) : List (String × α) :=
  updates.foldl (fun xs u => upsert u.1 u.2 xs) xs

theorem nodup_setAll {updates xs : List (String × α)} :
    ((setAll updates xs).map (·.1)).Nodup ↔ (xs.map (·.1)).Nodup := by
  induction updates generalizing xs with
  | nil => rfl
  | cons u updates ih => exact ih.trans nodup_upsert

/-- The last value that is set takes the place of the first one, and others stay. -/
theorem valuesOf_setAll (key : String) (updates xs : List (String × α)) :
    valuesOf key (setAll updates xs) = (valuesOf key updates).getLast?.elim (valuesOf key xs)
      fun value => value :: (valuesOf key xs).tail := by
  induction updates generalizing xs with
  | nil => rfl
  | cons u updates ih =>
    have hstep := ih (upsert u.1 u.2 xs)
    rw [valuesOf_upsert] at hstep
    rw [show setAll (u :: updates) xs = setAll updates (upsert u.1 u.2 xs) from rfl, hstep,
      valuesOf_cons]
    split
    · rw [List.getLast?_cons]
      cases (valuesOf key updates).getLast? <;> rfl
    · rfl

theorem find?_setAll (key : String) (updates xs : List (String × α)) :
    find? key (setAll updates xs) = (valuesOf key updates).getLast?.or (find? key xs) := by
  rw [find?_eq_head?, valuesOf_setAll, find?_eq_head?]
  cases (valuesOf key updates).getLast? <;> rfl

end EventSearch.Data
