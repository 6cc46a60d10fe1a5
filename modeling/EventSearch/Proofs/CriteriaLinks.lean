/-
# `EventSearch.Proofs.CriteriaLinks` — criteria as the parameters of a link

The parameters of a link tell criteria by their `criterion` text.  The text names physical paths
without their datatype, and whoever follows the link reads them as logical fields.  So every test is
asked again of the field named like its path, and translated once more: `compile_criteriaParams`
says which criteria come out, of a query in either language and by any table, and when they find
the same records.

| | |
| :-- | :-- |
| a name that the grammar cannot read | the link is an error, or another query |
| a name that the table translates | the test moves to other paths, its value is transformed again |
| all names of the datatype itself, none translated elsewhere | the same criteria (`Leaf.Settled`) |
-/
import EventSearch.Proofs.CriterionRoundTrip
import EventSearch.Proofs.LuceneRoundTrip
import EventSearch.Proofs.SameRecords
import EventSearch.Provider.Memory
import EventSearch.Search.Link

namespace EventSearch.Query

open EventSearch.Text

/-! ## Compiled queries by any table -/

namespace Criteria

/-- Criteria without any condition, or as the combinators build them from leaves. -/
def Built (c : Criteria) : Prop := c = .empty ∨ c.Solid

theorem Built.and {a b : Criteria} (ha : a.Built) (hb : b.Built) : (a.and b).Built := by
  rcases ha with rfl | ha
  · rwa [empty_and]
  rcases hb with rfl | hb
  · rw [and_empty]
    exact .inr ha
  exact .inr (ha.and hb)

theorem Built.or {a b : Criteria} (ha : a.Built) (hb : b.Built) : (a.or b).Built := by
  rcases ha with rfl | ha
  · rwa [empty_or]
  rcases hb with rfl | hb
  · rw [or_empty]
    exact .inr ha
  exact .inr (ha.or hb)

theorem Built.apply {op : Connective} {a b : Criteria} (ha : a.Built) (hb : b.Built) :
    (op.apply a b).Built := by
  cases op with
  | and => exact ha.and hb
  | or => exact ha.or hb

theorem Built.foldl {op : Connective} {cs : List Criteria} (hs : ∀ c ∈ cs, c.Built) {c : Criteria}
    (hc : c.Built) : (cs.foldl op.apply c).Built := by
  induction cs generalizing c with
  | nil => exact hc
  | cons d ds ih =>
    exact ih (fun e he => hs e (List.mem_cons_of_mem d he)) (hc.apply (hs d List.mem_cons_self))

end Criteria

theorem compileTest_cases (datatype : String) (table : TranslationTable) (field operator : String)
    (value : Option String) :
    (∃ path, compileTest datatype table field operator value = .leaf ⟨path, operator, value⟩) ∨
      ∃ (op : Connective) (leaves : List Leaf) (apply : String → String),
        compileTest datatype table field operator value
          = (leaves.map .leaf).foldl op.apply .empty ∧
        ∀ l ∈ leaves, l.operator = operator ∧ l.value = value.map apply := by
  unfold compileTest
  cases table.get? field with
  | none => exact .inl ⟨_, rfl⟩
  | some translation =>
    refine .inr ⟨if isNegated operator then .and else .or,
      translation.paths.map fun path => ⟨path, operator, value.map translation.applyTo⟩,
      translation.applyTo, ?_, fun l hl => ?_⟩
    · rw [List.map_map]
      cases isNegated operator <;> rfl
    · obtain ⟨path, -, rfl⟩ := List.mem_map.1 hl
      exact ⟨rfl, rfl⟩

theorem CriterionTree.mem_operatorsFor_map {operator : String} {value : Option String}
    (h : operator ∈ operatorsFor value) (apply : String → String) :
    operator ∈ operatorsFor (value.map apply) := by
  cases value with
  | none => exact h
  | some v => exact h

/-- A sound tree compiles to built criteria by any table, with the operators it asks for. -/
theorem CriterionTree.compile_operators {t : CriterionTree} (h : t.Sound) (datatype : String)
    (table : TranslationTable) : (t.compile datatype table).Built ∧
      ∀ l ∈ (t.compile datatype table).leaves, l.operator ∈ operatorsFor l.value := by
  induction t with
  | compare path operator value =>
    rw [compile]
    rcases compileTest_cases datatype table path operator value with
      ⟨path, hleaf⟩ | ⟨op, leaves, apply, hfold, hall⟩
    · rw [hleaf]
      refine ⟨.inr (.leaf _), fun l hm => ?_⟩
      obtain rfl := List.mem_singleton.1 hm
      exact h.2
    · rw [hfold]
      have hbuilt : ∀ c ∈ leaves.map Criteria.leaf, c.Built := by
        intro c hc
        obtain ⟨l, -, rfl⟩ := List.mem_map.1 hc
        exact .inr (.leaf l)
      refine ⟨Criteria.Built.foldl hbuilt (.inl rfl), fun l hm => ?_⟩
      rw [Criteria.leaves_foldl op.leaves_apply] at hm
      obtain ⟨hop, hvalue⟩ := hall l (by simpa [Criteria.leaves, List.flatMap_map] using hm)
      rw [hop, hvalue]
      exact mem_operatorsFor_map h.2 apply
  | and left right ihl ihr =>
    obtain ⟨hls, hll⟩ := ihl h.1
    obtain ⟨hrs, hrl⟩ := ihr h.2
    refine ⟨hls.and hrs, fun l hm => ?_⟩
    rw [compile, Criteria.leaves_and] at hm
    exact (List.mem_append.1 hm).elim (hll l) (hrl l)
  | or left right ihl ihr =>
    obtain ⟨hls, hll⟩ := ihl h.1
    obtain ⟨hrs, hrl⟩ := ihr h.2
    refine ⟨hls.or hrs, fun l hm => ?_⟩
    rw [compile, Criteria.leaves_or] at hm
    exact (List.mem_append.1 hm).elim (hll l) (hrl l)

theorem FromLucene.operator {datatype : String} {l : Leaf} (h : FromLucene datatype l) :
    l.operator ∈ CriterionTree.operatorsFor l.value := by
  have hequal : ∀ negated, Term.signedOperator negated "==" ∈ CriterionTree.operators := by decide
  have hpattern : ∀ negated, Term.signedOperator negated "~" ∈ CriterionTree.operators := by decide
  have hbound : ∀ op ∈ boundOperators, op ∈ CriterionTree.operators := by decide
  have hpresence : ∀ negated, Term.signedOperator negated "==" ∈ ["==", "!="] := by decide
  cases h with
  | value negated v => exact hequal negated
  | pattern negated p => exact hpattern negated
  | bound v hf ho => exact hbound _ ho
  | presence negated => exact hpresence negated

/-- What a query of either language compiles to. -/
theorem compile_cases {datatype query : String} {table : TranslationTable} {mode : Mode}
    {c : Criteria} (h : compile datatype table mode query = .ok c) :
    c.Built ∧ ∀ l ∈ c.leaves, l.operator ∈ CriterionTree.operatorsFor l.value := by
  cases mode with
  | lucene =>
    rcases compile_lucene_cases h with rfl | ⟨hs, hl⟩
    · exact ⟨.inl rfl, fun l hm => by cases hm⟩
    · exact ⟨.inr hs, fun l hm => (hl l hm).operator⟩
  | criterion =>
    simp only [compile] at h
    split at h
    · obtain rfl := Except.ok.inj h
      exact ⟨.inl rfl, fun l hm => by cases hm⟩
    · cases hr : CriterionTree.read query with
      | error place =>
        rw [hr] at h
        cases h
      | ok t =>
        rw [hr] at h
        obtain rfl : t.compile datatype table = c := Except.ok.inj h
        exact CriterionTree.compile_operators (CriterionTree.sound_of_read hr) datatype table

/-! ## Leaves that stay -/

/-- A leaf of a field of the datatype, which the table does not know, or knows as this very path
with this very value. -/
def Leaf.Settled (datatype : String) (table : TranslationTable) (l : Leaf) : Prop :=
  l.path = datatype ++ "." ++ l.name datatype ∧
    (table.get? (l.name datatype) = none ∨ ∃ translation : Translation,
      table.get? (l.name datatype) = some translation ∧ translation.paths = [l.path] ∧
        l.value.map translation.applyTo = l.value)

/-- A settled leaf is read again as itself. -/
theorem Leaf.Settled.reread {datatype : String} {table : TranslationTable} {l : Leaf}
    (h : l.Settled datatype table) : l.reread datatype table = .leaf l := by
  obtain ⟨hpath, hget | ⟨translation, hget, hpaths, hvalue⟩⟩ := h
  · rw [Leaf.reread, compileTest, hget]
    simp only [← hpath]
  · rw [Leaf.reread, compileTest, hget]
    simp only [hpaths, hvalue, List.map_cons, List.map_nil]
    cases isNegated l.operator <;> rfl

end EventSearch.Query

namespace EventSearch.Search

open EventSearch.Text EventSearch.Data EventSearch.Query EventSearch.Provider

/-! ## Links -/

/-- The link parameters of a compiled query, in either language and by any table, are read when the
names of all tests can be, and ask each test of the logical field of its name.  The records are the
same where each test asked so finds its own records; criteria whose tests are settled come back. -/
theorem compile_criteriaParams {σ : Type} {s : Surface σ} {mode : Mode} {query : String}
    {c : Criteria} (h : Plan.compileQuery s mode query = .ok c)
    (hn : ∀ l ∈ c.leaves, CriterionTree.IsPath (l.name s.datatype).toList) :
    ∃ text d, find? "query" (criteriaParams c s.datatype) = some text ∧
      Plan.compileQuery s .criterion text = .ok d ∧
      d = c.substitute (Leaf.reread s.datatype s.translations) ∧
      (∀ scope, (∀ l ∈ c.leaves, l.reread s.datatype s.translations ≠ .empty ∧
          SameRecords scope (l.reread s.datatype s.translations) (.leaf l)) →
        SameRecords scope d c) ∧
      ((∀ l ∈ c.leaves, l.Settled s.datatype s.translations) → d = c) := by
  have hcompile : compile s.datatype s.translations mode query = .ok c := by
    rw [Plan.compileQuery] at h
    split at h
    · next hc =>
      obtain rfl := Except.ok.inj h
      exact hc
    · cases h
  obtain ⟨hbuilt, hoperators⟩ := compile_cases hcompile
  have hread := compile_toQuery_reread s.translations hbuilt
    fun l hm => ⟨hn l hm, hoperators l hm⟩
  refine ⟨_, _, rfl, by rw [Plan.compileQuery, hread], rfl, fun scope hsame => ?_, fun hsettled => ?_⟩
  · rcases hbuilt with rfl | hs
    · exact .refl scope .empty
    · exact sameRecords_substitute hs hsame
  · rcases hbuilt with rfl | hs
    · rfl
    · exact Criteria.substitute_eq_self hs fun l hm => (hsettled l hm).reread

/-- Events with a user and two addresses: `addr` stands for both addresses, `user` for the user in
lower case. -/
def addressSurface : Surface Unit :=
  ⟨"events", "events", (Store.ofList []).provider,
    .ofList [("addr", ⟨["events.src", "events.dst"], none⟩),
      ("user", ⟨["events.user"], some ⟨"lowercase", lower⟩⟩)],
    [], .lucene, "timestamp", "timestamp", [], .default⟩

/-- A query of translated fields comes back: its paths are not translated again, and its value is
in lower case already. -/
theorem compile_criteriaParams_addresses :
    ∃ c text, Plan.compileQuery addressSurface .criterion "addr = X && user != Ann" = .ok c ∧
      c = .conj [.disj [.test "events.src" "=" "X", .test "events.dst" "=" "X"],
        .test "events.user" "!=" "ann"] ∧
      find? "query" (criteriaParams c "events") = some text ∧
      Plan.compileQuery addressSurface .criterion text = .ok c := by
  have h : Plan.compileQuery addressSurface .criterion "addr = X && user != Ann"
      = .ok (.conj [.disj [.test "events.src" "=" "X", .test "events.dst" "=" "X"],
        .test "events.user" "!=" "ann"]) := eq_ok_of_toOption (by decide +kernel)
  have hpath (name : String) (hname : CriterionTree.takePath? name.toList = some (name.toList, [])) :
      CriterionTree.IsPath name.toList := (CriterionTree.takePath?_join hname).1
  have hleaves (P : Leaf → Prop) (hsrc : P ⟨"events.src", "=", some "X"⟩)
      (hdst : P ⟨"events.dst", "=", some "X"⟩) (huser : P ⟨"events.user", "!=", some "ann"⟩) :
      ∀ l ∈ Criteria.leaves (.conj [.disj [.test "events.src" "=" "X", .test "events.dst" "=" "X"],
        .test "events.user" "!=" "ann"]), P l := by
    simpa [Criteria.leaves, Criteria.leavesOfAll, Criteria.test] using ⟨hsrc, hdst, huser⟩
  obtain ⟨text, d, htext, hd, -, -, hself⟩ := compile_criteriaParams h
    (hleaves _ (hpath "src" (by decide)) (hpath "dst" (by decide)) (hpath "user" (by decide)))
  have hsettled := hleaves (·.Settled "events" addressSurface.translations) ⟨rfl, .inl rfl⟩
    ⟨rfl, .inl rfl⟩ ⟨rfl, .inr ⟨_, rfl, rfl, by decide⟩⟩
  obtain rfl := hself hsettled
  exact ⟨_, text, h, rfl, htext, hd⟩

/-- Of a field that is translated elsewhere the link finds other records, and of a path with a blank
in it the link cannot be read. -/
theorem criteriaParams_misses :
    (∃ c text d, Plan.compileQuery addressSurface .lucene "addr:x" = .ok c ∧
      find? "query" (criteriaParams c "events") = some text ∧
      Plan.compileQuery addressSurface .criterion text = .ok d ∧
      let scope : Scope := ⟨"events", ⟨[("addr", .text), ("src", .text), ("dst", .text)], []⟩⟩
      Passes scope [("addr", .text "x")] c ∧ ¬ Passes scope [("addr", .text "x")] d) ∧
    let table : TranslationTable := .ofList [("host", ⟨["events.host name"], none⟩)]
    ∃ c text, compile "events" table .criterion "host = x" = .ok c ∧
      find? "query" (criteriaParams c "events") = some text ∧
      ∀ d, compile "events" table .criterion text ≠ .ok d := by
  refine ⟨⟨.test "events.addr" "==" "x", "addr == \"x\"",
    .disj [.test "events.src" "==" "x", .test "events.dst" "==" "x"],
    eq_ok_of_toOption (by decide +kernel), by decide +kernel,
    eq_ok_of_toOption (by decide +kernel), ?_, ?_⟩,
    .test "events.host name" "=" "x", "host name = \"x\"",
    eq_ok_of_toOption (by decide +kernel), by decide +kernel, fun d h => ?_⟩
  · exact ⟨_, rfl, by decide +kernel⟩
  · rintro ⟨f, hf, haccepts⟩
    obtain rfl := Except.ok.inj hf
    exact absurd haccepts (by decide +kernel)
  · have hnone : (compile "events" (.ofList [("host", ⟨["events.host name"], none⟩)]) .criterion
        "host name = \"x\"").toOption = none := by decide +kernel
    rw [h] at hnone
    cases hnone

end EventSearch.Search
