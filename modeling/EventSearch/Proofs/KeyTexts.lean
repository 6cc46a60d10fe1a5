/-
# `EventSearch.Proofs.KeyTexts` — the text of a key tells its cells apart

Records are grouped by one text for all cells of a key.  The cells stand in it one behind the other
between brackets and commas, and a text cell may hold brackets and commas of its own.  Still no two
keys share a text unless their cells are alike one by one (`keyText_eq_iff`): each cell says where
it ends, a number or a time by the first parenthesis and a text by the first quote that is no
escape, so that what stands behind it can be read on (`inspect_append_inj`).

Cells are alike when they are of one kind and print alike (`Value.alike`).  The kind counts, so the
number 1 and the text 1 differ, and so do the two zeros and one instant at two offsets.
-/
import EventSearch.Proofs.CellTexts

namespace EventSearch.Data

open EventSearch.Text EventSearch.Number EventSearch.Calendar

/-- Cells of one kind that print alike. -/
def Value.alike : Value → Value → Bool
  | .null, .null => true
  | .bool a, .bool b => a = b
  | .integer a, .integer b => a = b
  | .float x, .float y => Layout.inspected.write x = Layout.inspected.write y
  | .timestamp t, .timestamp u => t.fullText = u.fullText
  | .text s, .text t => s = t
  | _, _ => false

/-- Rows of one length whose cells are alike. -/
def alikeRows : Row → Row → Bool
  | [], [] => true
  | a :: as, b :: bs => a.alike b && alikeRows as bs
  | _, _ => false

/-- Alike cells are shown by one text. -/
theorem inspect_of_alike {a b : Value} (h : a.alike b = true) : a.inspect = b.inspect := by
  cases a <;> cases b <;> simp_all [Value.alike, Value.inspect]

end EventSearch.Data

namespace EventSearch.Number

open EventSearch.Text

/-! ## Texts without parentheses -/

/-- No closing parenthesis, by which a cell of another kind than text ends. -/
def Unclosed (cs : List Char) : Prop := ')' ∉ cs

theorem Unclosed.append {cs ds : List Char} (hc : Unclosed cs) (hd : Unclosed ds) :
    Unclosed (cs ++ ds) := by
  intro h
  exact (List.mem_append.1 h).elim hc hd

theorem Unclosed.cons {c : Char} {cs : List Char} (hc : ')' ≠ c) (hd : Unclosed cs) :
    Unclosed (c :: cs) := by
  intro h
  exact (List.mem_cons.1 h).elim hc hd

theorem unclosed_nil : Unclosed [] := List.not_mem_nil

theorem unclosed_of_digits {cs : List Char} (h : Digits cs) : Unclosed cs := by
  intro hm
  have hd := h ')' hm
  cases hd

theorem unclosed_toDigits (n : Nat) : Unclosed (Nat.toDigits 10 n) :=
  unclosed_of_digits (digits_toDigits n)

theorem unclosed_replicate (n : Nat) : Unclosed (List.replicate n '0') :=
  unclosed_of_digits (digits_replicate n)

theorem unclosed_toString (n : Int) : Unclosed (toString n).toList := by
  rw [Double.toList_toString]
  split
  · exact (unclosed_toDigits _).cons (by decide)
  · exact unclosed_toDigits _

theorem unclosed_zeroPadded (width n : Nat) : Unclosed (zeroPadded width n).toList := by
  rw [zeroPadded, String.toList_ofList]
  exact (unclosed_replicate _).append (unclosed_toDigits _)

namespace Layout

variable (l : Layout)

theorem unclosed_positional {digits : List Char} (h : Unclosed digits) (whole : Int) :
    Unclosed (l.positional digits whole) := by
  have hpoint : Unclosed (if l.keepsPoint then ['.', '0'] else []) := by
    cases l.keepsPoint <;> simp [Unclosed]
  unfold positional
  split
  · exact (h.append (unclosed_replicate _)).append hpoint
  · split
    · refine Unclosed.append (fun hm => h (List.mem_of_mem_take hm)) ?_
      exact Unclosed.cons (by decide) fun hm => h (List.mem_of_mem_drop hm)
    · exact ((unclosed_replicate _).append h).cons (by decide) |>.cons (by decide)

theorem unclosed_scientific {digits : List Char} (h : Unclosed digits) (power : Int) :
    Unclosed (l.scientific digits power) := by
  have hsign : Unclosed (if power < 0 then ['-'] else if l.signsExponent then ['+'] else []) := by
    split
    · simp [Unclosed]
    · split <;> simp [Unclosed]
  have hmark : ')' ≠ 'e' := by decide
  have hbehind {mantissa : List Char} (hm : Unclosed mantissa) :=
    (hm.append (hsign.cons hmark)).append (unclosed_toDigits power.natAbs)
  cases digits with
  | nil => exact hbehind h
  | cons d rest =>
    cases rest with
    | nil => exact hbehind h
    | cons c rest =>
      have hrest : Unclosed (c :: rest) := fun hm => h (List.mem_cons_of_mem d hm)
      have hd : ')' ≠ d := fun he => h (he ▸ List.mem_cons_self)
      have hpoint : ')' ≠ '.' := by decide
      exact hbehind ((hrest.cons hpoint).cons hd)

theorem unclosed_write (x : Double) : Unclosed (l.write x).toList := by
  cases x with
  | nan => simp [write, Unclosed]
  | infinite negative => cases negative <;> simp [write, Unclosed]
  | finite negative m e =>
    have hbody : Unclosed
        (if m = 0 then l.positional ['0'] 1 else l.writeDecimal (Double.shortest l.tie m e)) := by
      split
      · exact l.unclosed_positional (by simp [Unclosed]) 1
      · unfold writeDecimal
        simp only
        split
        · exact l.unclosed_positional (unclosed_toDigits _) _
        · exact l.unclosed_scientific (unclosed_toDigits _) _
    rw [write, String.toList_ofList]
    cases negative with
    | true => exact hbody.cons (by decide)
    | false => exact hbody

end Layout

end EventSearch.Number

namespace EventSearch.Calendar

open EventSearch.Text EventSearch.Number

theorem Clock.unclosed_fractionText (t : Clock) : Unclosed t.fractionText.toList := by
  have hpoint (width n : Nat) : Unclosed ("." ++ zeroPadded width n).toList := by
    rw [String.toList_append]
    exact Unclosed.append (by simp [Unclosed]) (unclosed_zeroPadded width n)
  unfold fractionText
  simp only
  split
  · exact unclosed_nil
  · split
    · exact hpoint 3 _
    · split
      · exact hpoint 6 _
      · exact hpoint 9 _

theorem Clock.unclosed_yearText (y : Int) : Unclosed (yearText y).toList := by
  unfold yearText
  split
  · exact unclosed_zeroPadded 4 _
  · rw [String.toList_append]
    refine Unclosed.append ?_ (unclosed_zeroPadded 4 _)
    split <;> simp [Unclosed]

theorem Timestamp.unclosed_offsetText (offset : Int) : Unclosed (offsetText offset).toList := by
  have hsign : Unclosed (signText offset).toList := by
    unfold signText
    split <;> simp [Unclosed]
  have hcolon : Unclosed ":".toList := by simp [Unclosed]
  have hseconds : Unclosed (if offset.natAbs % 60 = 0 then ""
      else ":" ++ zeroPadded 2 (offset.natAbs % 60)).toList := by
    split
    · exact unclosed_nil
    · rw [String.toList_append]
      exact hcolon.append (unclosed_zeroPadded 2 _)
  simp only [offsetText, String.toList_append]
  exact (((hsign.append (unclosed_zeroPadded 2 _)).append hcolon).append
    (unclosed_zeroPadded 2 _)).append hseconds

theorem Timestamp.unclosed_fullText (t : Timestamp) : Unclosed t.fullText.toList := by
  have hdash : Unclosed "-".toList := by simp [Unclosed]
  have hcolon : Unclosed ":".toList := by simp [Unclosed]
  have hmark : Unclosed "T".toList := by simp [Unclosed]
  have hpadded := unclosed_zeroPadded
  simp only [fullText, clockText, Clock.dateText, Clock.timeText, String.toList_append]
  exact ((((((Clock.unclosed_yearText _).append hdash).append (hpadded 2 _)).append hdash).append
      (hpadded 2 _)).append hmark).append
    ((((hpadded 2 _).append hcolon).append (hpadded 2 _)).append hcolon |>.append (hpadded 2 _))
    |>.append (Clock.unclosed_fractionText _) |>.append (unclosed_offsetText _)

end EventSearch.Calendar

namespace EventSearch.Provider

open EventSearch.Text EventSearch.Number EventSearch.Calendar EventSearch.Data EventSearch.Search

/-! ## Cells in front of others -/

/-- A cell between parentheses ends at the first one that closes. -/
theorem enclosed_append_inj {before s t : String} (hs : Unclosed s.toList) (ht : Unclosed t.toList)
    {xs ys : List Char}
    (h : (before ++ s ++ ")").toList ++ xs = (before ++ t ++ ")").toList ++ ys) :
    s = t ∧ xs = ys := by
  simp only [String.toList_append, List.append_assoc, List.append_cancel_left_eq] at h
  obtain ⟨hst, hrest⟩ := append_mark_inj hs ht h
  exact ⟨String.toList_inj.1 hst, hrest⟩

/-- What stands behind a cell can be read on. -/
theorem inspect_append_inj {a b : Value} {xs ys : List Char}
    (h : a.inspect.toList ++ xs = b.inspect.toList ++ ys) : a.alike b = true ∧ xs = ys := by
  -- the first letter tells the kind, so only two cells of one kind are left to compare
  have hkind : kindLetter a = kindLetter b := by
    have hhead := congrArg List.head? h
    rw [List.head?_append, List.head?_append, inspect_head, inspect_head] at hhead
    exact Option.some.inj hhead
  cases a with
  | null =>
    cases b with
    | null => exact ⟨rfl, List.append_cancel_left h⟩
    | _ => simp [kindLetter] at hkind
  | bool p =>
    cases b with
    | bool q =>
      cases p <;> cases q
      · exact ⟨rfl, List.append_cancel_left h⟩
      · simp [Value.inspect] at h
      · simp [Value.inspect] at h
      · exact ⟨rfl, List.append_cancel_left h⟩
    | _ => simp [kindLetter] at hkind
  | integer m =>
    cases b with
    | integer n =>
      obtain ⟨hmn, hrest⟩ := enclosed_append_inj (unclosed_toString m) (unclosed_toString n) h
      exact ⟨decide_eq_true (Double.toString_injective hmn), hrest⟩
    | _ => simp [kindLetter] at hkind
  | float x =>
    cases b with
    | float y =>
      obtain ⟨hxy, hrest⟩ := enclosed_append_inj (Layout.inspected.unclosed_write x)
        (Layout.inspected.unclosed_write y) h
      exact ⟨decide_eq_true hxy, hrest⟩
    | _ => simp [kindLetter] at hkind
  | timestamp t =>
    cases b with
    | timestamp u =>
      obtain ⟨htu, hrest⟩ := enclosed_append_inj t.unclosed_fullText u.unclosed_fullText h
      exact ⟨decide_eq_true htu, hrest⟩
    | _ => simp [kindLetter] at hkind
  | text s =>
    cases b with
    | text t =>
      simp only [Value.inspect, String.toList_append, List.append_assoc,
        List.append_cancel_left_eq] at h
      obtain ⟨hst, hrest⟩ := escaped_append_inj h
      exact ⟨decide_eq_true hst, List.append_cancel_left hrest⟩
    | _ => simp [kindLetter] at hkind

/-- Cells are alike exactly when one text shows both. -/
theorem alike_iff_inspect {a b : Value} : a.alike b = true ↔ a.inspect = b.inspect :=
  ⟨inspect_of_alike, fun h => (inspect_append_inj (congrArg (String.toList · ++ []) h)).1⟩

/-! ## Keys -/

/-- The cells of a key behind the first one, each after a comma, and the bracket at the end. -/
def tailText (key : Row) : List Char :=
  key.flatMap (fun cell => [',', ' '] ++ cell.inspect.toList) ++ [']']

theorem toList_keyText (key : Row) : (keyText key).toList = '[' :: match key with
    | [] => [']']
    | cell :: cells => cell.inspect.toList ++ tailText cells := by
  cases key with
  | nil => rfl
  | cons cell cells =>
    simp only [keyText, tailText, List.map_cons, String.toList_append, toList_intercalate_cons,
      List.flatMap_map, List.append_assoc]
    rfl

theorem alikeRows_of_tailText {as bs : Row} (h : tailText as = tailText bs) :
    alikeRows as bs = true := by
  induction as generalizing bs with
  | nil =>
    cases bs with
    | nil => rfl
    | cons b bs => simp [tailText] at h
  | cons a as ih =>
    cases bs with
    | nil => simp [tailText] at h
    | cons b bs =>
      simp only [tailText, List.flatMap_cons, List.append_assoc, List.append_cancel_left_eq] at h
      obtain ⟨hcell, htail⟩ := inspect_append_inj h
      rw [alikeRows, hcell, Bool.true_and]
      exact ih htail

theorem inspect_of_alikeRows {as bs : Row} (h : alikeRows as bs = true) :
    as.map Value.inspect = bs.map Value.inspect := by
  induction as generalizing bs with
  | nil =>
    cases bs with
    | nil => rfl
    | cons b bs => cases h
  | cons a as ih =>
    cases bs with
    | nil => cases h
    | cons b bs =>
      rw [alikeRows, Bool.and_eq_true] at h
      rw [List.map_cons, List.map_cons, alike_iff_inspect.1 h.1, ih h.2]

theorem inspect_append_ne (v : Value) (xs : List Char) : v.inspect.toList ++ xs ≠ [']'] := by
  intro h
  have hhead := congrArg List.head? h
  rw [List.head?_append, inspect_head] at hhead
  cases v <;> simp [kindLetter] at hhead

/-- Keys share a text exactly when their cells are alike. -/
theorem keyText_eq_iff {as bs : Row} : keyText as = keyText bs ↔ alikeRows as bs = true := by
  constructor
  · intro h
    have hchars := congrArg String.toList h
    rw [toList_keyText, toList_keyText, List.cons.injEq] at hchars
    cases as with
    | nil =>
      cases bs with
      | nil => rfl
      | cons b bs => exact absurd hchars.2.symm (inspect_append_ne b _)
    | cons a as =>
      cases bs with
      | nil => exact absurd hchars.2 (inspect_append_ne a _)
      | cons b bs =>
        obtain ⟨hcell, htail⟩ := inspect_append_inj hchars.2
        rw [alikeRows, hcell, alikeRows_of_tailText htail]
        rfl
  · intro h
    rw [keyText, keyText, inspect_of_alikeRows h]

theorem keyText_eq_iff_inspect {as bs : Row} :
    keyText as = keyText bs ↔ as.map Value.inspect = bs.map Value.inspect :=
  ⟨fun h => inspect_of_alikeRows (keyText_eq_iff.1 h), fun h => by rw [keyText, keyText, h]⟩

end EventSearch.Provider
