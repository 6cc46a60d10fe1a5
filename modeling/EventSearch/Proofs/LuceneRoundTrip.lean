/-
# `EventSearch.Proofs.LuceneRoundTrip` — `lucene` criteria come back from their text

Compiled `lucene` criteria are written as text and compiled again.  They come back exactly when no
leaf has a value that ends in a backslash where it can only be written in quotes
(`compile_toQuery_lucene`).

The argument goes up the tree.  A list of criteria that can be read, each as itself or as others
(`ReadAs`), is read from the left into the tree of its connectives (`takeChain_reads`), so a node
reads back when its children do.  When some leaf cannot be quoted, the part with the first of them is not read, and reading stops in front
of a connective, or the leaves differ from there on, whatever is read behind them
(`takeChain_breaks`).
-/
import Mathlib.Data.List.Basic
import EventSearch.Proofs.LuceneBackslash

namespace EventSearch.Query

open EventSearch.Text Criteria

/-! ## Connectives -/

/-- Between `lucene` criteria stands the name of the connective. -/
theorem Connective.between_lucene (op : Connective) :
    op.between .lucene = " " ++ op.toText ++ " " := by
  cases op <;> decide

/-- The text between criteria starts with a space and a letter. -/
theorem Connective.between_eq (op : Connective) :
    ∃ c cs, (op.between .lucene).toList = ' ' :: c :: cs ∧ isBlank c = false ∧ c ≠ ')' := by
  cases op with
  | and => exact ⟨'A', ['N', 'D', ' '], rfl, by decide, by decide⟩
  | or => exact ⟨'O', ['R', ' '], rfl, by decide, by decide⟩

theorem Connective.between_length (op : Connective) : 0 < (op.between .lucene).toList.length := by
  obtain ⟨c, cs, hc, -, -⟩ := op.between_eq
  rw [hc]
  exact Nat.succ_pos _

theorem LuceneTree.takeConnective?_between (op : Connective) {rest : List Char} (h : Starts rest) :
    takeConnective? ((op.between .lucene).toList ++ rest) = some (op, rest) := by
  rw [op.between_lucene, takeConnective?_written op h]

theorem LuceneTree.compile_combine (datatype : String) (left right : LuceneTree)
    (op : Connective) : (LuceneTree.combine left op right).compile datatype
      = op.apply (left.compile datatype) (right.compile datatype) := by
  cases op <;> rfl

/-- Connectives only add leaves behind those of a tree. -/
theorem LuceneTree.leaves_takeChain (datatype : String) (fuel : Nat) (tree : LuceneTree)
    (cs : List Char) : ∃ more, ((takeChain fuel tree cs).1.compile datatype).leaves
      = (tree.compile datatype).leaves ++ more := by
  refine takeChain_induction (P := fun t => ∃ more, (t.compile datatype).leaves
    = (tree.compile datatype).leaves ++ more) ?_ (rfl : takeChain fuel tree cs = (_, _)) ⟨[], ?_⟩
  · rintro left op right ⟨more, hm⟩
    refine ⟨more ++ (right.compile datatype).leaves, ?_⟩
    rw [compile_combine, Connective.leaves_apply, hm, List.append_assoc]
  · rw [List.append_nil]

/-! ## Lists of parts -/

section Parts

variable (datatype : String)

/-- What is known of the text of a part. -/
structure PartOk (c : Criteria) : Prop where
  tight : Tight (partText .lucene (some datatype) c)
  reads : (∀ l ∈ c.leaves, ¬ l.Unquotable) → Reads datatype (partText .lucene (some datatype) c) c
  breaks : (∃ l ∈ c.leaves, l.Unquotable) → Breaks datatype (partText .lucene (some datatype) c) c

variable {datatype}

theorem follows_moreParts (op : Connective) {cs : List Criteria} (h : cs ≠ [])
    (tail : List Char) : Follows (moreText .lucene (some datatype) op cs ++ tail) := by
  cases cs with
  | nil => exact absurd rfl h
  | cons c cs =>
    obtain ⟨d, ds, hd, -, -⟩ := op.between_eq
    rw [moreText_cons, hd]
    exact follows_cons (by decide) _

theorem follows_moreParts_ends (op : Connective) (cs : List Criteria) {tail : List Char}
    (ht : EndsParts tail) : Follows (moreText .lucene (some datatype) op cs ++ tail) := by
  by_cases h : cs = []
  · subst h
    exact LuceneTree.follows_of_ends ht
  · exact follows_moreParts op h tail

/-- The text of a part, read as some criteria. -/
structure ReadAs (datatype : String) (c d : Criteria) : Prop where
  tight : Tight (partText .lucene (some datatype) c)
  reads : Reads datatype (partText .lucene (some datatype) c) d

/-- Parts that can be read are read into the tree of their connectives. -/
theorem takeChain_reads (op : Connective) {g : Criteria → Criteria} {cs : List Criteria}
    (h : ∀ c ∈ cs, ReadAs datatype c (g c)) (tree : LuceneTree) :
    ∃ t : LuceneTree, t.compile datatype = (cs.map g).foldl op.apply (tree.compile datatype) ∧
      ∀ fuel tail, (moreText .lucene (some datatype) op cs).length ≤ fuel → EndsParts tail →
        LuceneTree.takeChain fuel tree (moreText .lucene (some datatype) op cs ++ tail) = (t, tail) := by
  induction cs generalizing tree with
  | nil =>
    refine ⟨tree, rfl, fun fuel tail _ ht => ?_⟩
    cases fuel with
    | zero => rfl
    | succ fuel => simp [LuceneTree.takeChain, LuceneTree.takeConnective?_none ht]
  | cons c cs ih =>
    have hc := h c List.mem_cons_self
    obtain ⟨t, htc, htr⟩ := hc.reads
    obtain ⟨u, huc, hur⟩ := ih (fun d hd => h d (List.mem_cons_of_mem c hd)) (.combine tree op t)
    refine ⟨u, ?_, fun fuel tail hf ht => ?_⟩
    · rw [huc, LuceneTree.compile_combine, htc, List.map_cons, List.foldl_cons]
    · have hb := op.between_length
      rw [moreText_cons] at hf ⊢
      simp only [List.length_append] at hf
      obtain ⟨fuel, rfl⟩ : ∃ n, fuel = n + 1 := ⟨fuel - 1, by omega⟩
      have hcon := LuceneTree.takeConnective?_between op
        (hc.tight.starts.append (moreText .lucene (some datatype) op cs ++ tail))
      have hpart := htr fuel (moreText .lucene (some datatype) op cs ++ tail) (by omega)
        (follows_moreParts_ends op cs ht)
      rw [List.append_assoc, List.append_assoc]
      simp only [LuceneTree.takeChain, hcon, hpart]
      exact hur fuel tail (by omega) ht

/-- A list of parts that can be read is read into the tree of its connectives. -/
theorem takeCriteria_readAs (op : Connective) {g : Criteria → Criteria} {c : Criteria}
    {cs : List Criteria} (h : ∀ d ∈ c :: cs, ReadAs datatype d (g d)) :
    ∃ t : LuceneTree, t.compile datatype = (cs.map g).foldl op.apply (g c) ∧
      ∀ fuel tail, (listText .lucene (some datatype) op c cs).length < fuel → EndsParts tail →
        LuceneTree.takeCriteria fuel (listText .lucene (some datatype) op c cs ++ tail) = .ok (t, tail) := by
  obtain ⟨t, htc, htr⟩ := (h c List.mem_cons_self).reads
  obtain ⟨u, huc, hur⟩ := takeChain_reads op (fun d hd => h d (List.mem_cons_of_mem c hd)) t
  refine ⟨u, by rw [huc, htc], fun fuel tail hf ht => ?_⟩
  rw [listText] at hf ⊢
  rw [List.length_append] at hf
  obtain ⟨fuel, rfl⟩ : ∃ n, fuel = n + 1 := ⟨fuel - 1, by omega⟩
  have hpart := htr fuel (moreText .lucene (some datatype) op cs ++ tail) (by omega)
    (follows_moreParts_ends op cs ht)
  rw [List.append_assoc]
  simp only [LuceneTree.takeCriteria, hpart, hur fuel tail (by omega) ht]

/-- A node in parentheses is read when its parts are. -/
theorem readAs_node (op : Connective) {g : Criteria → Criteria} {c : Criteria} {cs : List Criteria}
    (hl : 2 ≤ (c :: cs).length) (hs : ∀ d ∈ c :: cs, d.Solid)
    (h : ∀ d ∈ c :: cs, ReadAs datatype d (g d)) :
    ReadAs datatype (op.node (c :: cs)) ((cs.map g).foldl op.apply (g c)) := by
  have htext : partText .lucene (some datatype) (op.node (c :: cs)) = _ := partText_node op hs hl
  have htight := tight_listText op fun d hd => (h d hd).tight
  obtain ⟨t, htc, htr⟩ := takeCriteria_readAs op h
  refine ⟨?_, .group t, by rw [LuceneTree.compile, htc], fun fuel tail hf _ => ?_⟩
  · rw [htext]
    exact tight_between (by decide) (by decide) _
  · rw [htext] at hf ⊢
    simp only [List.length_cons, List.length_append, List.length_nil] at hf
    obtain ⟨fuel, rfl⟩ : ∃ n, fuel = n + 1 := ⟨fuel - 1, by omega⟩
    have hcs : '(' :: (listText .lucene (some datatype) op c cs ++ [')']) ++ tail
        = '(' :: (listText .lucene (some datatype) op c cs ++ ')' :: tail) := by simp
    rw [hcs, LuceneTree.takeCriterion_paren, (htight.starts.append _).skipLayout,
      htr fuel (')' :: tail) (by omega) (endsParts_close tail)]
    simp [skipLayout_cons (c := ')') (by decide)]

/-- Where a part cannot be quoted, reading stops in front of a connective, or the leaves that are
read differ. -/
theorem takeChain_breaks (op : Connective) {cs : List Criteria} (h : ∀ c ∈ cs, PartOk datatype c)
    (hq : ∃ c ∈ cs, ∃ l ∈ c.leaves, l.Unquotable) (tree : LuceneTree) (fuel : Nat)
    (tail : List Char) (hf : (moreText .lucene (some datatype) op cs).length ≤ fuel) :
    (∃ rest, (LuceneTree.takeChain fuel tree (moreText .lucene (some datatype) op cs ++ tail)).2
        = (op.between .lucene).toList ++ rest) ∨
      Diverge ((LuceneTree.takeChain fuel tree (moreText .lucene (some datatype) op cs ++ tail)).1.compile
          datatype).leaves
        ((tree.compile datatype).leaves ++ cs.flatMap Criteria.leaves) := by
  induction cs generalizing tree fuel with
  | nil => obtain ⟨c, hc, -⟩ := hq; cases hc
  | cons c cs ih =>
    have hc := h c List.mem_cons_self
    have hb := op.between_length
    rw [moreText_cons] at hf ⊢
    simp only [List.length_append] at hf
    obtain ⟨fuel, rfl⟩ : ∃ n, fuel = n + 1 := ⟨fuel - 1, by omega⟩
    have hcon := LuceneTree.takeConnective?_between op
      (hc.tight.starts.append (moreText .lucene (some datatype) op cs ++ tail))
    rw [List.append_assoc, List.append_assoc]
    simp only [LuceneTree.takeChain, hcon]
    -- the first part that cannot be quoted decides: it is not read, or its leaves are others
    by_cases hbad : ∃ l ∈ c.leaves, l.Unquotable
    · cases hr : LuceneTree.takeCriterion fuel
          (partText .lucene (some datatype) c ++ (moreText .lucene (some datatype) op cs ++ tail)) with
      | error place => exact .inl ⟨_, rfl⟩
      | ok p =>
        obtain ⟨t, rest⟩ := p
        have hd := hc.breaks hbad fuel _ t rest (by omega) hr
        obtain ⟨more, hm⟩ := LuceneTree.leaves_takeChain datatype fuel (.combine tree op t) rest
        refine .inr ?_
        simp only [hm, LuceneTree.compile_combine, Connective.leaves_apply, List.flatMap_cons]
        rw [← List.append_assoc]
        exact hd.append _ more _
    · have hgood : ∀ l ∈ c.leaves, ¬ l.Unquotable := fun l hl hu => hbad ⟨l, hl, hu⟩
      obtain ⟨t, htc, htr⟩ := hc.reads hgood
      have hq' := ((List.exists_mem_cons_iff _ c cs).1 hq).resolve_left hbad
      have hne : cs ≠ [] := by
        obtain ⟨d, hd, -⟩ := hq'
        exact List.ne_nil_of_mem hd
      have hpart := htr fuel (moreText .lucene (some datatype) op cs ++ tail) (by omega)
        (follows_moreParts op hne tail)
      have hrest := ih (fun d hd => h d (List.mem_cons_of_mem c hd)) hq' (.combine tree op t) fuel
        (by omega)
      simp only [hpart]
      simpa only [LuceneTree.compile_combine, Connective.leaves_apply, htc, List.flatMap_cons,
        List.append_assoc] using hrest

theorem takeCriteria_reads (op : Connective) {c : Criteria} {cs : List Criteria}
    (h : ∀ d ∈ c :: cs, PartOk datatype d) (hq : ∀ d ∈ c :: cs, ∀ l ∈ d.leaves, ¬ l.Unquotable) :
    ∃ t : LuceneTree, t.compile datatype = cs.foldl op.apply c ∧
      ∀ fuel tail, (listText .lucene (some datatype) op c cs).length < fuel → EndsParts tail →
        LuceneTree.takeCriteria fuel (listText .lucene (some datatype) op c cs ++ tail) = .ok (t, tail) := by
  have hread := takeCriteria_readAs op (g := id) fun d hd => ⟨(h d hd).tight, (h d hd).reads (hq d hd)⟩
  rwa [List.map_id] at hread

theorem takeCriteria_breaks (op : Connective) {c : Criteria} {cs : List Criteria}
    (h : ∀ d ∈ c :: cs, PartOk datatype d) (hq : ∃ d ∈ c :: cs, ∃ l ∈ d.leaves, l.Unquotable)
    {fuel : Nat} {tail rest : List Char} {t : LuceneTree}
    (hf : (listText .lucene (some datatype) op c cs).length < fuel)
    (hr : LuceneTree.takeCriteria fuel (listText .lucene (some datatype) op c cs ++ tail) = .ok (t, rest)) :
    (∃ after, rest = (op.between .lucene).toList ++ after) ∨
      Diverge (t.compile datatype).leaves ((c :: cs).flatMap Criteria.leaves) := by
  have hc := h c List.mem_cons_self
  rw [listText] at hf hr
  rw [List.length_append] at hf
  obtain ⟨fuel, rfl⟩ : ∃ n, fuel = n + 1 := ⟨fuel - 1, by omega⟩
  rw [List.append_assoc] at hr
  simp only [LuceneTree.takeCriteria] at hr
  by_cases hbad : ∃ l ∈ c.leaves, l.Unquotable
  · split at hr
    · cases hr
    · next first after hfirst =>
      have hd := hc.breaks hbad fuel _ first after (by omega) hfirst
      obtain ⟨more, hm⟩ := LuceneTree.leaves_takeChain datatype fuel first after
      obtain rfl : (LuceneTree.takeChain fuel first after).1 = t := by rw [Except.ok.inj hr]
      rw [hm, List.flatMap_cons]
      exact .inr (by simpa using hd.append [] more (cs.flatMap Criteria.leaves))
  · obtain ⟨u, huc, hur⟩ := hc.reads fun l hl hu => hbad ⟨l, hl, hu⟩
    have hq' := ((List.exists_mem_cons_iff _ c cs).1 hq).resolve_left hbad
    have hne : cs ≠ [] := by
      obtain ⟨d, hd, -⟩ := hq'
      exact List.ne_nil_of_mem hd
    have hpart := hur fuel (moreText .lucene (some datatype) op cs ++ tail) (by omega)
      (follows_moreParts op hne tail)
    have hrest := takeChain_breaks op (fun d hd => h d (List.mem_cons_of_mem c hd)) hq' u fuel tail
      (by omega)
    rw [hpart] at hr
    rw [Except.ok.inj hr] at hrest
    rw [List.flatMap_cons, ← huc]
    exact hrest

/-! ## Nodes -/

/-- A node reads back when its children do. -/
theorem partOk_node (op : Connective) {c : Criteria} {cs : List Criteria}
    (hn : (op.node (c :: cs)).Solid) (hl : 2 ≤ (c :: cs).length)
    (hs : ∀ d ∈ c :: cs, d.Solid) (h : ∀ d ∈ c :: cs, PartOk datatype d) :
    PartOk datatype (op.node (c :: cs)) := by
  have htext : partText .lucene (some datatype) (op.node (c :: cs)) = _ := partText_node op hs hl
  have htight := tight_listText op fun d hd => (h d hd).tight
  have hcs : ∀ tail, partText .lucene (some datatype) (op.node (c :: cs)) ++ tail
      = '(' :: (listText .lucene (some datatype) op c cs ++ ')' :: tail) := by
    intro tail
    simp [htext]
  constructor
  case tight =>
    rw [htext]
    exact tight_between (by decide) (by decide) _
  case reads =>
    intro hq
    have hparts : ∀ d ∈ c :: cs, ReadAs datatype d (id d) := fun d hd =>
      ⟨(h d hd).tight, (h d hd).reads fun l hm => hq l (by
        rw [Connective.leaves_node]
        exact List.mem_flatMap.2 ⟨d, hd, hm⟩)⟩
    have hread := (readAs_node op hl hs hparts).reads
    rwa [List.map_id, id_eq, Connective.foldl_apply hn] at hread
  case breaks =>
    intro hq
    rw [Connective.leaves_node] at hq
    intro fuel tail t rest hf hr
    rw [htext] at hf
    simp only [List.length_cons, List.length_append, List.length_nil] at hf
    obtain ⟨fuel, rfl⟩ : ∃ n, fuel = n + 1 := ⟨fuel - 1, by omega⟩
    have hq' : ∃ d ∈ c :: cs, ∃ l ∈ d.leaves, l.Unquotable := by
      obtain ⟨l, hm, hu⟩ := hq
      obtain ⟨d, hd, hm⟩ := List.mem_flatMap.1 hm
      exact ⟨d, hd, l, hm, hu⟩
    rw [hcs, LuceneTree.takeCriterion_paren, (htight.starts.append _).skipLayout] at hr
    split at hr
    · cases hr
    · next inner after hi =>
      split at hr
      · next close hskip =>
        cases hr
        rw [Connective.leaves_node]
        rcases takeCriteria_breaks op h hq' (by omega) hi with ⟨left, rfl⟩ | hd
        · -- in front of a connective there is no closing parenthesis
          obtain ⟨d, ds, hd, hb, hne⟩ := op.between_eq
          rw [hd, List.cons_append, skipLayout_space, List.cons_append,
            skipLayout_cons (isLayout_of_not_blank hb)] at hskip
          exact absurd (List.cons.inj hskip).1 hne
        · exact hd
      · cases hr

/-- The text of every part of compiled criteria is as it should be. -/
theorem partOk {c : Criteria} (hs : c.Solid) (hl : ∀ l ∈ c.leaves, FromLucene datatype l) :
    PartOk datatype c := by
  revert hl
  refine Solid.node_induction (fun l hl => ?_) (fun op c cs hn hlen hall hl => ?_) hs
  · have hf : FromLucene datatype l := hl l (by simp [leaves])
    refine ⟨tight_leaf hf, fun hq => reads_leaf hf (hq l (by simp [leaves])), ?_⟩
    rintro ⟨l', hm, hu⟩
    obtain rfl : l' = l := by simpa [leaves] using hm
    exact breaks_leaf hf hu
  · refine partOk_node op hn hlen (fun d hd => (hall d hd).1) fun d hd => (hall d hd).2 ?_
    intro l hm
    refine hl l ?_
    rw [Connective.leaves_node]
    exact List.mem_flatMap.2 ⟨d, hd, hm⟩

end Parts

/-! ## Whole queries -/

/-- A query that is read is read from its trimmed text, and nothing but blanks is left. -/
theorem LuceneTree.read_eq_ok {s : String} {t : LuceneTree} (h : Tight s.toList) :
    read s = .ok t ↔ ∃ rest, takeCriteria (fuelFor s.toList) s.toList = .ok (t, rest) ∧
      allBlank rest = true := by
  simp only [read, h.trim]
  cases takeCriteria (fuelFor s.toList) s.toList with
  | error place => simp
  | ok p =>
    obtain ⟨tree, rest⟩ := p
    cases hb : allBlank rest with
    | false => simp [hb]
    | true =>
      simp only [hb, if_true, Except.ok.injEq, Prod.mk.injEq]
      constructor
      · intro he
        exact ⟨rest, ⟨he, rfl⟩, hb⟩
      · rintro ⟨_, ⟨he, -⟩, -⟩
        exact he

theorem compile_lucene_eq_ok {datatype s : String} {table : TranslationTable} {c : Criteria}
    (h : Tight s.toList) :
    compile datatype table .lucene s = .ok c ↔
      ∃ t : LuceneTree, LuceneTree.read s = .ok t ∧ t.compile datatype = c := by
  simp only [compile, h.starts.allBlank]
  cases LuceneTree.read s <;> simp [Except.map]

/-- What a `lucene` query compiles to. -/
theorem compile_lucene_cases {datatype query : String} {table : TranslationTable} {c : Criteria}
    (h : compile datatype table .lucene query = .ok c) :
    c = .empty ∨ c.Solid ∧ ∀ l ∈ c.leaves, FromLucene datatype l := by
  simp only [compile] at h
  split at h
  · exact .inl (Except.ok.inj h).symm
  · cases hr : LuceneTree.read query with
    | error place => rw [hr] at h; cases h
    | ok t =>
      rw [hr] at h
      obtain rfl : t.compile datatype = c := Except.ok.inj h
      exact .inr (LuceneTree.compile_leaves (LuceneTree.sound_of_read hr) datatype)

/-- Criteria compiled from a `lucene` query come back from their text in `lucene` exactly when no
leaf that compares has a value that ends in a backslash. -/
theorem compile_toQuery_lucene {datatype query : String} {table : TranslationTable} {c : Criteria}
    (h : compile datatype table .lucene query = .ok c) :
    compile datatype table .lucene (c.toQuery .lucene (some datatype)) = .ok c ↔
      ∀ l ∈ c.leaves, l.operator ∈ comparisonOperators →
        ∀ v, l.value = some v → ¬ EndsInBackslash v.toList := by
  rcases compile_lucene_cases h with rfl | ⟨hs, hl⟩
  · exact ⟨fun _ _ hm => (List.not_mem_nil hm).elim, fun _ => rfl⟩
  obtain ⟨op, d, ds, htext, hall, hfold, hleaves⟩ :=
    toQuery_listText .lucene (some datatype) hs
  have hok : ∀ e ∈ d :: ds, PartOk datatype e := fun e he => partOk (hall e he) fun l hm => by
    refine hl l ?_
    rw [hleaves]
    exact List.mem_flatMap.2 ⟨e, he, hm⟩
  have htight : Tight (c.toQuery .lucene (some datatype)).toList := by
    rw [htext]
    exact tight_listText op fun e he => (hok e he).tight
  have hfuel : (listText .lucene (some datatype) op d ds).length
      < LuceneTree.fuelFor (listText .lucene (some datatype) op d ds) := by
    rw [LuceneTree.fuelFor]
    omega
  rw [compile_lucene_eq_ok htight]
  simp only [LuceneTree.read_eq_ok htight, htext]
  constructor
  · rintro ⟨t, ⟨rest, hr, hblank⟩, htc⟩ l hm hop v hv hb
    have hq : ∃ e ∈ d :: ds, ∃ l ∈ e.leaves, l.Unquotable := by
      rw [hleaves] at hm
      obtain ⟨e, he, hm⟩ := List.mem_flatMap.1 hm
      exact ⟨e, he, l, hm, hop, v, hv, hb⟩
    rw [← List.append_nil (listText .lucene (some datatype) op d ds)] at hr
    rcases takeCriteria_breaks op hok hq (by simpa using hfuel) hr with ⟨left, rfl⟩ | hd
    · obtain ⟨x, xs, hx, hxb, -⟩ := op.between_eq
      simp [hx, allBlank, hxb] at hblank
    · rw [htc, hleaves] at hd
      exact hd.ne rfl
  · intro hq
    obtain ⟨t, htc, htr⟩ := takeCriteria_reads op hok fun e he l hm hu => by
      obtain ⟨hop, v, hv, hb⟩ := hu
      refine hq l ?_ hop v hv hb
      rw [hleaves]
      exact List.mem_flatMap.2 ⟨e, he, hm⟩
    refine ⟨t, ⟨[], ?_, rfl⟩, by rw [htc, hfold]⟩
    have hr := htr _ [] hfuel fun x hx => by cases hx
    rwa [List.append_nil] at hr

/-- `sev:high OR -msg:"a b"` comes back from its text; a value with a final backslash does not. -/
theorem compile_toQuery_lucene_samples :
    (∃ c, compile "e" .empty .lucene "sev:high OR -msg:\"a b\"" = .ok c ∧
      compile "e" .empty .lucene (c.toQuery .lucene (some "e")) = .ok c) ∧
    ∃ c, compile "e" .empty .lucene "msg:a\\\\" = .ok c ∧
      compile "e" .empty .lucene (c.toQuery .lucene (some "e")) ≠ .ok c := by
  have hgood : compile "e" .empty .lucene "sev:high OR -msg:\"a b\""
      = .ok (.disj [.test "e.sev" "==" "high", .test "e.msg" "!=" "a b"]) :=
    eq_ok_of_toOption (by decide +kernel)
  have hbad : compile "e" .empty .lucene "msg:a\\\\" = .ok (.test "e.msg" "==" "a\\") :=
    eq_ok_of_toOption (by decide +kernel)
  refine ⟨⟨_, hgood, (compile_toQuery_lucene hgood).2 ?_⟩, _, hbad, fun h => ?_⟩
  · intro l hl _ v hv
    simp only [Criteria.test, Criteria.leaves, Criteria.leavesOfAll, List.append_nil,
      List.cons_append, List.nil_append, List.mem_cons, List.not_mem_nil, or_false] at hl
    rcases hl with rfl | rfl <;> (obtain rfl := Option.some.inj hv; decide)
  · refine (compile_toQuery_lucene hbad).1 h _ (List.mem_singleton.2 rfl) ?_ _ rfl ?_ <;> decide

end EventSearch.Query
