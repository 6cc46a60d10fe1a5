/-
# `EventSearch.Proofs.WrittenCriteria` — the texts of solid criteria

A node is told by its connective (`Connective.node`), so that both kinds are treated alike.  Solid
criteria are a leaf or a node of solid criteria (`Solid.node_induction`).  No part of them is empty,
so every child is written (`renderParts_eq_map`): the text on its own lists the children with a
connective between them (`toQuery_listText`), and a nested node stands in parentheses
(`partText_node`).
-/
import EventSearch.Proofs.CriteriaShape
import EventSearch.Proofs.Layout

namespace EventSearch.Query

open EventSearch.Text

theorem dropLead?_dot (datatype name : String) :
    dropLead? (datatype ++ ".") (datatype ++ "." ++ name) = some name := by
  have ha : after? (datatype ++ ".").toList (datatype ++ "." ++ name).toList = some name.toList :=
    after?_eq_some.2 (by simp)
  rw [dropLead?, ha, Option.map_some, String.ofList_toList]

theorem stripDatatype_dot (datatype path : String) :
    stripDatatype (some datatype) (datatype ++ "." ++ path) = path := by
  simp only [stripDatatype, dropLead?_dot, Option.getD_some]

/-! ## Nodes -/

namespace Connective

/-- What a connective makes of two criteria. -/
def apply : Connective → Criteria → Criteria → Criteria
  | .and => .and
  | .or => .or

/-- The node of several criteria. -/
def node : Connective → List Criteria → Criteria
  | .and, cs => .conj cs
  | .or, cs => .disj cs

/-- What stands between the children of a node. -/
def between (mode : Mode) : Connective → String
  | .and => Criteria.conjText mode
  | .or => Criteria.disjText mode

theorem leaves_apply (op : Connective) (a b : Criteria) :
    (op.apply a b).leaves = a.leaves ++ b.leaves := by
  cases op with
  | and => exact Criteria.leaves_and a b
  | or => exact Criteria.leaves_or a b

theorem leaves_node (op : Connective) (cs : List Criteria) :
    (op.node cs).leaves = cs.flatMap Criteria.leaves := by
  cases op <;> simp [node, Criteria.leaves]

/-- The children of a node, taken together from the left, are the node. -/
theorem foldl_apply {op : Connective} {c : Criteria} {cs : List Criteria}
    (h : (op.node (c :: cs)).Solid) : cs.foldl op.apply c = op.node (c :: cs) := by
  cases op with
  | and => exact Criteria.foldl_and h
  | or => exact Criteria.foldl_or h

end Connective

namespace Criteria

/-- What holds of every leaf, and of a node when it holds of its children, holds of solid
criteria. -/
@[elab_as_elim] theorem Solid.node_induction {P : Criteria → Prop} (leaf : ∀ l, P (.leaf l))
    (node : ∀ (op : Connective) (c : Criteria) (cs : List Criteria), (op.node (c :: cs)).Solid →
      2 ≤ (c :: cs).length → (∀ d ∈ c :: cs, d.Solid ∧ P d) → P (op.node (c :: cs)))
    {c : Criteria} (h : c.Solid) : P c := by
  induction h with
  | leaf l => exact leaf l
  | @conj cs hlen hs hk ih =>
    cases cs with
    | nil => simp at hlen
    | cons c cs => exact node .and c cs (.conj hlen hs hk) hlen fun d hd => ⟨hs d hd, ih d hd⟩
  | @disj cs hlen hs hk ih =>
    cases cs with
    | nil => simp at hlen
    | cons c cs => exact node .or c cs (.disj hlen hs hk) hlen fun d hd => ⟨hs d hd, ih d hd⟩

/-! ## Texts -/

section Text

variable (mode : Mode) (datatype : Option String)

/-- The text of a nested part. -/
def partText (c : Criteria) : List Char := (render mode datatype true c).toList

/-- The texts of more parts, each behind a connective. -/
def moreText (op : Connective) (cs : List Criteria) : List Char :=
  cs.flatMap fun c => (op.between mode).toList ++ partText mode datatype c

/-- The text of a list of parts. -/
def listText (op : Connective) (c : Criteria) (cs : List Criteria) : List Char :=
  partText mode datatype c ++ moreText mode datatype op cs

@[simp] theorem moreText_nil (op : Connective) : moreText mode datatype op [] = [] := rfl

theorem moreText_cons (op : Connective) (c : Criteria) (cs : List Criteria) :
    moreText mode datatype op (c :: cs) = (op.between mode).toList ++
      (partText mode datatype c ++ moreText mode datatype op cs) := by
  simp [moreText]

variable {mode : Mode} {datatype : Option String}

theorem render_node (op : Connective) (nested : Bool) (cs : List Criteria) :
    render mode datatype nested (op.node cs)
      = joined nested (op.between mode) (renderParts mode datatype cs) := by
  cases op <;> simp [Connective.node, render, Connective.between]

theorem renderParts_eq_map {cs : List Criteria} (h : ∀ c ∈ cs, c.Solid) :
    renderParts mode datatype cs = cs.map (render mode datatype true) := by
  induction cs with
  | nil => rfl
  | cons c cs ih =>
    have ih := ih fun d hd => h d (List.mem_cons_of_mem c hd)
    have hc := (h c List.mem_cons_self).not_empty
    cases c with
    | empty => exact absurd rfl hc
    | leaf l => simp [renderParts, ih]
    | conj ds => simp [renderParts, ih]
    | disj ds => simp [renderParts, ih]

/-- The children of a node one after the other. -/
theorem toList_intercalate_parts (op : Connective) {c : Criteria} {cs : List Criteria}
    (h : ∀ d ∈ c :: cs, d.Solid) :
    ((op.between mode).intercalate (renderParts mode datatype (c :: cs))).toList
      = listText mode datatype op c cs := by
  rw [renderParts_eq_map h, List.map_cons, toList_intercalate_cons, List.flatMap_map]
  rfl

theorem partText_node (op : Connective) {c : Criteria} {cs : List Criteria}
    (h : ∀ d ∈ c :: cs, d.Solid) (hl : 2 ≤ (c :: cs).length) :
    partText mode datatype (op.node (c :: cs))
      = '(' :: (listText mode datatype op c cs ++ [')']) := by
  have hlen : (renderParts mode datatype (c :: cs)).length > 1 := by
    rw [renderParts_eq_map h, List.length_map]
    exact hl
  rw [partText, render_node, joined, Bool.true_and, if_pos (by simpa using hlen),
    String.toList_append, String.toList_append, toList_intercalate_parts op h]
  rfl

variable (mode datatype) in
/-- The text of solid criteria lists their parts. -/
theorem toQuery_listText {c : Criteria} (hs : c.Solid) :
    ∃ op d ds, (c.toQuery mode datatype).toList = listText mode datatype op d ds ∧
      (∀ e ∈ d :: ds, e.Solid) ∧ ds.foldl op.apply d = c ∧
      c.leaves = (d :: ds).flatMap leaves := by
  refine Solid.node_induction (fun l => ?_) (fun op d ds hn _ hall => ?_) hs
  · refine ⟨.and, .leaf l, [], ?_, fun e he => ?_, rfl, by simp⟩
    · simp [listText, partText, toQuery, render]
    · obtain rfl := List.mem_singleton.1 he
      exact .leaf l
  · have hall : ∀ e ∈ d :: ds, e.Solid := fun e he => (hall e he).1
    refine ⟨op, d, ds, ?_, hall, Connective.foldl_apply hn, Connective.leaves_node op (d :: ds)⟩
    rw [toQuery, render_node, joined, Bool.false_and, if_neg (by decide),
      toList_intercalate_parts op hall]

theorem ends_moreText (op : Connective) {cs : List Criteria}
    (h : ∀ c ∈ cs, Tight (partText mode datatype c)) {lead : List Char} (hl : Ends lead) :
    Ends (lead ++ moreText mode datatype op cs) := by
  induction cs generalizing lead with
  | nil => simpa using hl
  | cons c cs ih =>
    have hc := (h c List.mem_cons_self).ends
    rw [moreText_cons, ← List.append_assoc, ← List.append_assoc, List.append_assoc lead]
    exact ih (fun d hd => h d (List.mem_cons_of_mem c hd)) ((hc.append _).append lead)

theorem tight_listText (op : Connective) {c : Criteria} {cs : List Criteria}
    (h : ∀ d ∈ c :: cs, Tight (partText mode datatype d)) :
    Tight (listText mode datatype op c cs) := by
  have hc := h c List.mem_cons_self
  exact ⟨hc.starts.append _,
    ends_moreText op (fun d hd => h d (List.mem_cons_of_mem c hd)) hc.ends⟩

end Text

end Criteria

end EventSearch.Query
