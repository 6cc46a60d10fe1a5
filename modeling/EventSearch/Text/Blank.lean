/-
# `EventSearch.Text.Blank` — blank characters and trimming

Two notions of space meet in this library.  Values, cells and whole queries are trimmed of *blank*
characters, the property White_Space of Unicode.  The query grammars skip only *layout*: space,
tab, carriage return and line feed.

**Proved here.**  Layout is blank (`isBlank_of_isLayout`), and trimming leaves a text that neither
starts nor ends with a blank (`trimStart_head`, `trim_of_not_blank`).
-/
namespace EventSearch.Text

/-! ## Classes -/

/-- The property White_Space. -/
def isBlank (c : Char) : Bool :=
  let n := c.toNat
  (9 ≤ n && n ≤ 13) || n == 0x20 || n == 0x85 || n == 0xA0 || n == 0x1680 ||
    (0x2000 ≤ n && n ≤ 0x200A) || n == 0x2028 || n == 0x2029 || n == 0x202F || n == 0x205F ||
    n == 0x3000

/-- The blanks that separate tokens of a query. -/
def isLayout (c : Char) : Bool :=
  c = ' ' || c = '\t' || c = '\r' || c = '\n'

theorem isBlank_of_isLayout {c : Char} (h : isLayout c = true) : isBlank c = true := by
  simp only [isLayout, Bool.or_eq_true, decide_eq_true_eq] at h
  rcases h with ((rfl | rfl) | rfl) | rfl <;> decide

/-! ## Trimming -/

/-- The text from its first character that is not blank. -/
def trimStart (cs : List Char) : List Char := cs.dropWhile isBlank

/-- The text up to its last character that is not blank. -/
def trimEnd (cs : List Char) : List Char := (cs.reverse.dropWhile isBlank).reverse

def trim (cs : List Char) : List Char := trimEnd (trimStart cs)

/-- Nothing but blanks. -/
def allBlank (cs : List Char) : Bool := cs.all isBlank

/-- `trim` on strings. -/
def trimmed (s : String) : String := String.ofList (trim s.toList)

/-- What is left of a text after the layout it starts with. -/
def skipLayout (cs : List Char) : List Char := cs.dropWhile isLayout

theorem trimStart_head {c : Char} {cs r : List Char} (h : trimStart cs = c :: r) :
    isBlank c = false := by
  induction cs with
  | nil => simp [trimStart] at h
  | cons d ds ih =>
    by_cases hd : isBlank d = true
    · simp only [trimStart, List.dropWhile_cons, hd, if_true] at h
      exact ih h
    · simp only [trimStart, List.dropWhile_cons, hd] at h
      obtain ⟨rfl, -⟩ := List.cons.inj h
      simpa using hd

/-- A text that starts and ends with characters that are not blank is not changed. -/
theorem trim_of_not_blank {cs : List Char} (hs : ∀ c, cs.head? = some c → isBlank c = false)
    (he : ∀ c, cs.getLast? = some c → isBlank c = false) : trim cs = cs := by
  have hs' : trimStart cs = cs := by
    cases cs with
    | nil => rfl
    | cons c r => simp [trimStart, hs c rfl]
  have he' : trimEnd cs = cs := by
    unfold trimEnd
    rw [← List.head?_reverse] at he
    generalize hr : cs.reverse = l at he ⊢
    have hc : cs = l.reverse := by rw [← hr, List.reverse_reverse]
    cases l with
    | nil => simp [hc]
    | cons c r => simp [he c rfl, hc]
  rw [trim, hs', he']

end EventSearch.Text
