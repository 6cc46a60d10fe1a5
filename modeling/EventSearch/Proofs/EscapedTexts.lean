/-
# `EventSearch.Proofs.EscapedTexts` — a text made visible tells which text it is

No escape starts another one (`escapedChar_append_inj`), so the characters of an escaped text can
be told one after the other, and no two texts look alike (`escaped_injective`).
-/
import EventSearch.Text.Escaped

namespace EventSearch.Text

/-! ## Numbers in base 16 -/

theorem digitChar_inj : ∀ a < 16, ∀ b < 16, Nat.digitChar a = Nat.digitChar b → a = b := by decide

theorem digitChar_ne_brace : ∀ a < 16, Nat.digitChar a ≠ '}' := by decide

theorem toDigits_sixteen_injective {a b : Nat} (h : Nat.toDigits 16 a = Nat.toDigits 16 b) :
    a = b := by
  induction a using Nat.strongRecOn generalizing b with
  | ind a ih =>
    have hsingle {x y : Nat} (he : [Nat.digitChar x] = Nat.toDigits 16 (y / 16) ++ [Nat.digitChar (y % 16)]) :
        False := by
      have hlength := congrArg List.length he
      rw [List.length_append, List.length_singleton, List.length_singleton] at hlength
      have hpos := @Nat.length_toDigits_pos 16 (y / 16)
      omega
    rw [Nat.toDigits_eq_if (by decide), @Nat.toDigits_eq_if 16 b (by decide)] at h
    split at h
    · next ha =>
      split at h
      · next hb => exact digitChar_inj a ha b hb (List.cons.inj h).1
      · exact (hsingle h).elim
    · next ha =>
      split at h
      · exact (hsingle h.symm).elim
      · next hb =>
        obtain ⟨hinit, hlast⟩ := List.append_inj' h rfl
        have hdiv := ih (a / 16) (by omega) hinit
        have hmod := digitChar_inj (a % 16) (by omega) (b % 16) (by omega) (List.cons.inj hlast).1
        omega

theorem brace_not_mem_toDigits (n : Nat) : '}' ∉ Nat.toDigits 16 n := by
  induction n using Nat.strongRecOn with
  | ind n ih =>
    rw [Nat.toDigits_eq_if (by decide)]
    split
    · next h =>
      rw [List.mem_singleton]
      exact (digitChar_ne_brace n h).symm
    · next h =>
      rw [List.mem_append, List.mem_singleton]
      rintro (hm | hm)
      · exact ih (n / 16) (by omega) hm
      · exact digitChar_ne_brace (n % 16) (by omega) hm.symm

/-- What stands in front of the first mark is told by the whole. -/
theorem append_mark_inj {mark : Char} {cs ds xs ys : List Char} (hc : mark ∉ cs) (hd : mark ∉ ds)
    (h : cs ++ mark :: xs = ds ++ mark :: ys) : cs = ds ∧ xs = ys := by
  induction cs generalizing ds with
  | nil =>
    cases ds with
    | nil => exact ⟨rfl, (List.cons.inj h).2⟩
    | cons d ds =>
      obtain rfl := (List.cons.inj h).1
      exact absurd List.mem_cons_self hd
  | cons c cs ih =>
    cases ds with
    | nil =>
      obtain rfl := (List.cons.inj h).1
      exact absurd List.mem_cons_self hc
    | cons d ds =>
      obtain ⟨rfl, htail⟩ := List.cons.inj h
      obtain ⟨rfl, rfl⟩ := ih (fun hm => hc (List.mem_cons_of_mem c hm))
        (fun hm => hd (List.mem_cons_of_mem c hm)) htail
      exact ⟨rfl, rfl⟩

/-! ## Escapes -/

/-- The characters with an escape of their own, and the second character of it. -/
def shortEscapes : List (Char × Char) :=
  [('"', '"'), ('\\', '\\'), ('\n', 'n'), ('\r', 'r'), ('\t', 't'), ('\x00', '0')]

/-- A character stands for itself, has a short escape or is written by its number. -/
theorem escapedChar_cases (c : Char) :
    (escapedChar c = [c] ∧ c ≠ '"' ∧ c ≠ '\\') ∨
    (∃ d, (c, d) ∈ shortEscapes ∧ escapedChar c = ['\\', d]) ∨
    escapedChar c = '\\' :: 'u' :: '{' :: (Nat.toDigits 16 c.toNat ++ ['}']) := by
  unfold escapedChar
  split
  · next h => exact .inr (.inl ⟨'"', by simp [shortEscapes, h], rfl⟩)
  · next hquote =>
    split
    · next h => exact .inr (.inl ⟨'\\', by simp [shortEscapes, h], rfl⟩)
    · next hslash =>
      split
      · next h => exact .inr (.inl ⟨'n', by simp [shortEscapes, h], rfl⟩)
      · split
        · next h => exact .inr (.inl ⟨'r', by simp [shortEscapes, h], rfl⟩)
        · split
          · next h => exact .inr (.inl ⟨'t', by simp [shortEscapes, h], rfl⟩)
          · split
            · next h =>
              have hzero : c = '\x00' := Char.toNat_inj.1 h
              exact .inr (.inl ⟨'0', by simp [shortEscapes, hzero], rfl⟩)
            · split
              · exact .inl ⟨rfl, hquote, hslash⟩
              · exact .inr (.inr rfl)

theorem shortEscapes_inj {c c' d : Char} (h : (c, d) ∈ shortEscapes) (h' : (c', d) ∈ shortEscapes) :
    c = c' := by
  simp only [shortEscapes, List.mem_cons, List.not_mem_nil, or_false, Prod.mk.injEq] at h h'
  rcases h with ⟨rfl, rfl⟩ | ⟨rfl, rfl⟩ | ⟨rfl, rfl⟩ | ⟨rfl, rfl⟩ | ⟨rfl, rfl⟩ | ⟨rfl, rfl⟩ <;>
    exact Eq.symm (by simpa using h')

theorem shortEscapes_ne {c d : Char} (h : (c, d) ∈ shortEscapes) : d ≠ 'u' := by
  rintro rfl
  simp [shortEscapes] at h

/-- The first escape of a text is told by the text. -/
theorem escapedChar_append_inj {c c' : Char} {xs ys : List Char}
    (h : escapedChar c ++ xs = escapedChar c' ++ ys) : c = c' ∧ xs = ys := by
  rcases escapedChar_cases c with ⟨he, -, hne⟩ | ⟨d, hd, he⟩ | he
  · rcases escapedChar_cases c' with ⟨he', -, -⟩ | ⟨d', -, he'⟩ | he'
    · rw [he, he'] at h
      exact List.cons.inj h
    · rw [he, he'] at h
      exact absurd (List.cons.inj h).1 hne
    · rw [he, he'] at h
      exact absurd (List.cons.inj h).1 hne
  · rcases escapedChar_cases c' with ⟨he', -, hne'⟩ | ⟨d', hd', he'⟩ | he'
    · rw [he, he'] at h
      exact absurd (List.cons.inj h).1.symm hne'
    · rw [he, he'] at h
      obtain ⟨rfl, htail⟩ := List.cons.inj (List.cons.inj h).2
      exact ⟨shortEscapes_inj hd hd', htail⟩
    · rw [he, he'] at h
      exact absurd (List.cons.inj (List.cons.inj h).2).1 (shortEscapes_ne hd)
  · rcases escapedChar_cases c' with ⟨he', -, hne'⟩ | ⟨d', hd', he'⟩ | he'
    · rw [he, he'] at h
      exact absurd (List.cons.inj h).1.symm hne'
    · rw [he, he'] at h
      exact absurd (List.cons.inj (List.cons.inj h).2).1.symm (shortEscapes_ne hd')
    · rw [he, he'] at h
      have hdigits : Nat.toDigits 16 c.toNat ++ '}' :: xs = Nat.toDigits 16 c'.toNat ++ '}' :: ys := by
        simpa using h
      obtain ⟨hnumber, htail⟩ := append_mark_inj (brace_not_mem_toDigits _)
        (brace_not_mem_toDigits _) hdigits
      exact ⟨Char.toNat_inj.1 (toDigits_sixteen_injective hnumber), htail⟩

/-- No escape is a quote. -/
theorem escapedChar_ne_quote {c : Char} {xs ys : List Char} : escapedChar c ++ xs ≠ '"' :: ys := by
  intro h
  rcases escapedChar_cases c with ⟨he, hne, -⟩ | ⟨d, -, he⟩ | he
  · rw [he] at h
    exact hne (List.cons.inj h).1
  · rw [he] at h
    exact absurd (List.cons.inj h).1 (by decide)
  · rw [he] at h
    exact absurd (List.cons.inj h).1 (by decide)

/-- An escaped text ends at the first quote that is no escape. -/
theorem flatMap_escapedChar_inj {cs ds xs ys : List Char}
    (h : cs.flatMap escapedChar ++ '"' :: xs = ds.flatMap escapedChar ++ '"' :: ys) :
    cs = ds ∧ xs = ys := by
  induction cs generalizing ds with
  | nil =>
    cases ds with
    | nil => exact ⟨rfl, (List.cons.inj h).2⟩
    | cons d ds =>
      rw [List.flatMap_cons, List.append_assoc] at h
      exact absurd h.symm escapedChar_ne_quote
  | cons c cs ih =>
    cases ds with
    | nil =>
      rw [List.flatMap_cons, List.append_assoc] at h
      exact absurd h escapedChar_ne_quote
    | cons d ds =>
      rw [List.flatMap_cons, List.flatMap_cons, List.append_assoc, List.append_assoc] at h
      obtain ⟨rfl, htail⟩ := escapedChar_append_inj h
      obtain ⟨rfl, hrest⟩ := ih htail
      exact ⟨rfl, hrest⟩

/-- A text made visible tells where it ends. -/
theorem escaped_append_inj {s t : String} {xs ys : List Char}
    (h : (escaped s).toList ++ xs = (escaped t).toList ++ ys) : s = t ∧ xs = ys := by
  simp only [escaped, String.toList_ofList, List.cons_append, List.append_assoc,
    List.nil_append] at h
  obtain ⟨hchars, hrest⟩ := flatMap_escapedChar_inj (List.cons.inj h).2
  exact ⟨String.toList_inj.1 hchars, hrest⟩

/-- No two texts look alike. -/
theorem escaped_injective {s t : String} (h : escaped s = escaped t) : s = t :=
  (escaped_append_inj (congrArg (String.toList · ++ []) h)).1

end EventSearch.Text
