/-
# `EventSearch.Proofs.CellTexts` — a cell answers the text of another exactly when they are alike

A row is linked by the texts of its cells, while its records were grouped by all that the cells
hold.  Most cells are told by their texts (`Telling`): not the empty text, which has none, nor a
timestamp with seconds in its offset or a number that is none.  Such a cell and another one of its
field, unless their texts mix them up (`Apart`), agree exactly when the other one answers the text
of the first (`answers_iff_inspect`).
-/
import EventSearch.Proofs.CellFilters
import EventSearch.Proofs.EscapedTexts
import EventSearch.Proofs.NumberTexts
import EventSearch.Proofs.TimestampReading

namespace EventSearch.Search

open EventSearch.Text EventSearch.Number EventSearch.Calendar EventSearch.Data EventSearch.Provider

/-! ## Cells told by their texts -/

/-- A cell that is shown with all that it holds. -/
def Sound : Value → Prop
  | .float x => x.Canonical
  | .timestamp t => t.Writable
  | _ => True

/-- A cell whose text says all that it holds. -/
structure Telling (v : Value) : Prop where
  sound : Sound v
  not_nan : v ≠ .float .nan
  not_empty : v ≠ .text ""

/-- Two cells that are not mixed up by their texts: whole numbers with one nearest number, the two
zeros, one instant at two offsets and cells of different kinds may be. -/
def Apart : Value → Value → Prop
  | .null, _ | _, .null | .bool _, .bool _ | .text _, .text _ => True
  | .integer m, .integer n => (Double.ofInt n).same (.ofInt m) = true → m = n
  | .float x, .float y => x.isZero = true → y.isZero = true → x = y
  | .timestamp t, .timestamp u => t.utc = u.utc → t.offset = u.offset
  | a, b => answers b a.criterionText? = false

/-- The letter with which a cell of a kind is shown. -/
def kindLetter : Value → Char
  | .null => 'N'
  | .bool _ => 'B'
  | .integer _ => 'I'
  | .float _ => 'F'
  | .timestamp _ => 'D'
  | .text _ => 'T'

theorem inspect_head (v : Value) : v.inspect.toList.head? = some (kindLetter v) := by
  cases v with
  | null => rfl
  | bool b => cases b <;> rfl
  | integer n => simp [Value.inspect, String.toList_append, kindLetter]
  | float x => simp [Value.inspect, String.toList_append, kindLetter]
  | timestamp t => simp [Value.inspect, String.toList_append, kindLetter]
  | text s => simp [Value.inspect, String.toList_append, kindLetter]

theorem inspect_ne {a b : Value} (h : kindLetter a ≠ kindLetter b) : a.inspect ≠ b.inspect := by
  intro he
  have hhead := inspect_head a
  rw [he, inspect_head b] at hhead
  exact h (Option.some.inj hhead).symm

theorem bracketed_inj {before after s t : String} (h : before ++ s ++ after = before ++ t ++ after) :
    s = t := by
  have hlist := congrArg String.toList h
  simp only [String.toList_append, List.append_cancel_right_eq, List.append_cancel_left_eq] at hlist
  exact String.toList_inj.1 hlist

/-! ## Kinds -/

theorem criterionText?_text {s : String} (h : s ≠ "") : (Value.text s).criterionText? = some s := by
  have hempty : s.isEmpty = false := by
    rw [Bool.eq_false_iff]
    exact fun he => h (String.isEmpty_iff.1 he)
  simp only [Value.criterionText?, hempty, Bool.false_eq_true, if_false]

/-- Cells of different kinds do not answer each other. -/
theorem answers_of_kind_ne {a b : Value} (ha : Telling a) (h : Apart a b)
    (hk : kindLetter a ≠ kindLetter b) : answers b a.criterionText? = false := by
  cases a with
  | null => cases b <;> first | exact absurd rfl hk | rfl
  | text s =>
    cases b with
    | null =>
      rw [criterionText?_text fun he => ha.not_empty (congrArg Value.text he)]
      rfl
    | text t => exact absurd rfl hk
    | _ => exact h
  | bool p => cases b <;> first | exact absurd rfl hk | exact h | rfl
  | integer m => cases b <;> first | exact absurd rfl hk | exact h | rfl
  | float x => cases b <;> first | exact absurd rfl hk | exact h | rfl
  | timestamp t => cases b <;> first | exact absurd rfl hk | exact h | rfl

theorem answers_bool (p q : Bool) :
    answers (.bool q) (Value.bool p).criterionText? = true ↔
      (Value.bool p).inspect = (Value.bool q).inspect := by
  cases p <;> cases q <;> decide

theorem answers_text {s t : String} (h : s ≠ "") :
    answers (.text t) (Value.text s).criterionText? = true ↔
      (Value.text s).inspect = (Value.text t).inspect := by
  rw [criterionText?_text h]
  constructor
  · intro he
    have hts : t = s := by simpa [answers, valueEquals] using he
    rw [hts]
  · intro he
    have hs : s = t := escaped_injective (bracketed_inj he)
    simp [answers, valueEquals, hs]

/-- What a number cell answers is a matter of the number. -/
theorem answers_number {b : Value} {y x : Double} {text : String}
    (hb : answers b (some text) = match b.asDouble?, Double.read? (trim text.toList) with
      | some x, some y => x.same y
      | _, _ => false)
    (hy : b.asDouble? = some y) (hx : Double.read? (trim text.toList) = some x) :
    answers b (some text) = y.same x := by
  rw [hb, hy, hx]

theorem answers_integer {m n : Int} (h : (Double.ofInt n).same (.ofInt m) = true → m = n) :
    answers (.integer n) (Value.integer m).criterionText? = true ↔
      (Value.integer m).inspect = (Value.integer n).inspect := by
  have hread : Double.read? (trim (toString m).toList) = some (Double.ofInt m) := by
    rw [(Double.unbroken_toString m).trim, Double.read?_toString]
  have hanswers : answers (.integer n) (Value.integer m).criterionText?
      = (Double.ofInt n).same (Double.ofInt m) := answers_number rfl rfl hread
  rw [hanswers]
  constructor
  · intro he
    rw [h he]
  · intro he
    rw [Double.toString_injective (bracketed_inj he)]
    exact Double.same_self (Double.roundRatio_ne_nan _ _ _)

theorem answers_float {x y : Double} (hx : x.Canonical) (hn : x ≠ .nan) (hy : y.Canonical)
    (h : x.isZero = true → y.isZero = true → x = y) :
    answers (.float y) (Value.float x).criterionText? = true ↔
      (Value.float x).inspect = (Value.float y).inspect := by
  have hread : Double.read? (trim (Layout.plain.write x).toList) = some x := by
    rw [(Layout.unbroken_write_plain x).trim, Layout.read?_write Layout.plain hx]
  have hanswers : answers (.float y) (Value.float x).criterionText? = y.same x :=
    answers_number rfl rfl hread
  rw [hanswers]
  constructor
  · intro he
    rcases Double.eq_of_same hy hx he with rfl | ⟨hzy, hzx⟩
    · rfl
    · rw [h hzx hzy]
  · intro he
    rw [← Layout.write_injective Layout.inspected hx hy (bracketed_inj he)]
    exact Double.same_self hn

theorem answers_timestamp {t u : Timestamp} (ht : t.Writable) (hu : u.Writable)
    (h : t.utc = u.utc → t.offset = u.offset) :
    answers (.timestamp u) (Value.timestamp t).criterionText? = true ↔
      (Value.timestamp t).inspect = (Value.timestamp u).inspect := by
  have hanswers : answers (.timestamp u) (Value.timestamp t).criterionText? = u.same t := by
    show (readTimestamp? t.rfc3339).any u.same = u.same t
    rw [Timestamp.readTimestamp?_rfc3339 ht]
    rfl
  rw [hanswers, Timestamp.same_iff]
  constructor
  · intro he
    have htu : t = u := by
      cases t
      cases u
      exact congr (congrArg Timestamp.mk he.symm) (h he.symm)
    rw [htu]
  · intro he
    rw [Timestamp.fullText_injective ht hu (bracketed_inj he)]

/-- A cell answers the text of another exactly when both look alike. -/
theorem answers_iff_inspect {a b : Value} (ha : Telling a) (hb : Sound b) (h : Apart a b) :
    answers b a.criterionText? = true ↔ a.inspect = b.inspect := by
  -- within one kind the texts decide; cells of two kinds neither answer nor look alike
  by_cases hk : kindLetter a = kindLetter b
  · cases a with
    | null =>
      cases b with
      | null => exact ⟨fun _ => rfl, fun _ => rfl⟩
      | _ => simp [kindLetter] at hk
    | bool p =>
      cases b with
      | bool q => exact answers_bool p q
      | _ => simp [kindLetter] at hk
    | integer m =>
      cases b with
      | integer n => exact answers_integer h
      | _ => simp [kindLetter] at hk
    | float x =>
      have hx : x ≠ .nan := fun he => ha.not_nan (congrArg Value.float he)
      cases b with
      | float y => exact answers_float ha.sound hx hb h
      | _ => simp [kindLetter] at hk
    | timestamp t =>
      cases b with
      | timestamp u => exact answers_timestamp ha.sound hb h
      | _ => simp [kindLetter] at hk
    | text s =>
      have hs : s ≠ "" := fun he => ha.not_empty (congrArg Value.text he)
      cases b with
      | text t => exact answers_text hs
      | _ => simp [kindLetter] at hk
  · rw [answers_of_kind_ne ha h hk]
    constructor
    · intro he
      cases he
    · intro he
      exact absurd he (inspect_ne hk)

end EventSearch.Search
