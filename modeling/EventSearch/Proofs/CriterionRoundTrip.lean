/-
# `EventSearch.Proofs.CriterionRoundTrip` — criteria and their `criterion` text

Criteria whose paths the grammar can read are written as text and compiled again, by any table.
Each test then is one of a logical field, the field named like the path, and the nodes are what they
were (`compile_toQuery_reread`).  Criteria compiled from a `criterion` query without translations
come back so, whatever their values and indexes are (`compile_toQuery_criterion`).

Every part is written so that the reader takes it for one primary: a test, or a node in
parentheses.  A conjunction is then read by one level of the grammar (`takeAndChain_reads`) and a
disjunction by the level above it (`takeOr?_reads`).
-/
import EventSearch.Proofs.CriteriaSubstitution
import EventSearch.Proofs.CriterionLeaves

namespace EventSearch.Query

open EventSearch.Text Criteria

namespace Leaf

/-- The name by which a leaf is written. -/
def name (datatype : String) (l : Leaf) : String := stripDatatype (some datatype) l.path

/-- A leaf read again: a test of the logical field of its name. -/
def reread (datatype : String) (table : TranslationTable) (l : Leaf) : Criteria :=
  compileTest datatype table (l.name datatype) l.operator l.value

/-- A leaf whose text the grammar takes for a test. -/
def Writable (datatype : String) (l : Leaf) : Prop :=
  CriterionTree.IsPath (l.name datatype).toList ∧ l.operator ∈ CriterionTree.operatorsFor l.value

end Leaf

namespace CriterionTree

/-! ## Symbols -/

/-- The symbol of a connective. -/
def symbol : Connective → List Char
  | .and => ['&', '&']
  | .or => ['|', '|']

theorem between_criterion (op : Connective) :
    (op.between .criterion).toList = ' ' :: (symbol op ++ [' ']) := by
  cases op <;> rfl

theorem between_length (op : Connective) : (op.between .criterion).toList.length = 4 := by
  cases op <;> rfl

theorem skipLayout_between (op : Connective) (rest : List Char) :
    skipLayout ((op.between .criterion).toList ++ rest) = symbol op ++ ' ' :: rest := by
  cases op <;> rfl

theorem takeSymbol?_between (op : Connective) {rest : List Char} (h : Starts rest) :
    LuceneTree.takeSymbol? (symbol op) ((op.between .criterion).toList ++ rest) = some rest := by
  have ha : after? (symbol op) (symbol op ++ ' ' :: rest) = some (' ' :: rest) :=
    after?_eq_some.2 rfl
  simp [LuceneTree.takeSymbol?, skipLayout_between, ha, skipLayout_space, h.skipLayout]

theorem takeSymbol?_other {op other : Connective} (h : op ≠ other) (rest : List Char) :
    LuceneTree.takeSymbol? (symbol op) ((other.between .criterion).toList ++ rest) = none := by
  rw [LuceneTree.takeSymbol?, skipLayout_between]
  cases op <;> cases other <;> first | exact absurd rfl h | rfl

theorem skipLayout_ends {cs : List Char} (h : EndsParts cs) : skipLayout cs = cs := by
  cases cs with
  | nil => rfl
  | cons c cs =>
    obtain rfl := h c rfl
    exact skipLayout_cons (by decide) cs

theorem takeSymbol?_ends (op : Connective) {cs : List Char} (h : EndsParts cs) :
    LuceneTree.takeSymbol? (symbol op) cs = none := by
  rw [LuceneTree.takeSymbol?, skipLayout_ends h]
  cases cs with
  | nil => cases op <;> rfl
  | cons c cs =>
    obtain rfl := h c rfl
    cases op <;> rfl

theorem followsTest_between (op : Connective) (rest : List Char) :
    FollowsTest ((op.between .criterion).toList ++ rest) := by
  constructor
  · rw [between_criterion]
    exact endsPath_space _
  · rw [skipLayout_between]
    cases op <;> rfl

theorem followsTest_ends {cs : List Char} (h : EndsParts cs) : FollowsTest cs := by
  constructor
  · refine ⟨fun c hc => ?_, fun hc => ?_⟩
    · rw [h c hc]
      decide
    · exact absurd (h _ hc) (by decide)
  · rw [skipLayout_ends h]
    cases cs with
    | nil => rfl
    | cons c cs =>
      obtain rfl := h c rfl
      rfl

/-! ## Parts -/

/-- The text of a part is read as a primary that compiles to some criteria.  A step down costs one
unit of fuel, and there are at most three of them to a parenthesis. -/
def Reads (datatype : String) (table : TranslationTable) (text : List Char) (c : Criteria) : Prop :=
  ∃ t : CriterionTree, t.compile datatype table = c ∧ ∀ fuel tail, 3 * text.length ≤ fuel →
    FollowsTest tail → takePrimary? fuel (text ++ tail) = some (t, tail)

section Parts

variable (datatype : String) (table : TranslationTable)

/-- What is known of the text of a part, and of what it is read as. -/
structure ReadAs (c d : Criteria) : Prop where
  tight : Tight (partText .criterion (some datatype) c)
  reads : Reads datatype table (partText .criterion (some datatype) c) d

variable {datatype table} {g : Criteria → Criteria}

theorem followsTest_more (op : Connective) (cs : List Criteria) {tail : List Char}
    (ht : EndsParts tail) : FollowsTest (moreText .criterion (some datatype) op cs ++ tail) := by
  cases cs with
  | nil => exact followsTest_ends ht
  | cons c cs =>
    rw [moreText_cons, List.append_assoc]
    exact followsTest_between op _

/-- No conjunct stands in front of an alternative. -/
theorem takeSymbol?_and_more (cs : List Criteria) {tail : List Char} (ht : EndsParts tail) :
    LuceneTree.takeSymbol? (symbol .and) (moreText .criterion (some datatype) .or cs ++ tail)
      = none := by
  cases cs with
  | nil => exact takeSymbol?_ends .and ht
  | cons c cs =>
    rw [moreText_cons, List.append_assoc]
    exact takeSymbol?_other (by decide) _

/-- Parts that can be read are read into a conjunction. -/
theorem takeAndChain_reads {cs : List Criteria} (h : ∀ c ∈ cs, ReadAs datatype table c (g c))
    (tree : CriterionTree) :
    ∃ t : CriterionTree, t.compile datatype table
        = (cs.map g).foldl Criteria.and (tree.compile datatype table) ∧
      ∀ fuel tail, 3 * (moreText .criterion (some datatype) .and cs).length ≤ fuel →
        EndsParts tail →
        takeAndChain fuel tree (moreText .criterion (some datatype) .and cs ++ tail)
          = (t, tail) := by
  induction cs generalizing tree with
  | nil =>
    refine ⟨tree, rfl, fun fuel tail _ ht => ?_⟩
    cases fuel with
    | zero => rfl
    | succ fuel =>
      have hn := takeSymbol?_ends .and ht
      rw [symbol] at hn
      simp [takeAndChain, hn]
  | cons c cs ih =>
    have hc := h c List.mem_cons_self
    obtain ⟨t, htc, htr⟩ := hc.reads
    obtain ⟨u, huc, hur⟩ := ih (fun d hd => h d (List.mem_cons_of_mem c hd)) (.and tree t)
    refine ⟨u, by rw [huc, compile, htc, List.map_cons, List.foldl_cons], fun fuel tail hf ht => ?_⟩
    rw [moreText_cons] at hf ⊢
    rw [List.length_append, List.length_append, between_length] at hf
    obtain ⟨fuel, rfl⟩ : ∃ n, fuel = n + 1 := ⟨fuel - 1, by omega⟩
    have hsym := takeSymbol?_between .and
      (hc.tight.starts.append (moreText .criterion (some datatype) .and cs ++ tail))
    rw [symbol] at hsym
    have hpart := htr fuel (moreText .criterion (some datatype) .and cs ++ tail) (by omega)
      (followsTest_more .and cs ht)
    rw [List.append_assoc, List.append_assoc]
    simp only [takeAndChain, hsym, Option.bind_some, hpart]
    exact hur fuel tail (by omega) ht

/-- A part alone is read as a conjunction where no other part follows. -/
theorem takeAnd?_part {c : Criteria} {t : CriterionTree} {tail : List Char} {fuel : Nat}
    (hr : takePrimary? fuel (partText .criterion (some datatype) c ++ tail) = some (t, tail))
    (hn : LuceneTree.takeSymbol? (symbol .and) tail = none) :
    takeAnd? (fuel + 1) (partText .criterion (some datatype) c ++ tail) = some (t, tail) := by
  rw [symbol] at hn
  have hchain : takeAndChain fuel t tail = (t, tail) := by
    cases fuel with
    | zero => rfl
    | succ fuel => simp [takeAndChain, hn]
  simp [takeAnd?, hr, hchain]

/-- Parts that can be read are read into a disjunction. -/
theorem takeOrChain_reads {cs : List Criteria} (h : ∀ c ∈ cs, ReadAs datatype table c (g c))
    (tree : CriterionTree) :
    ∃ t : CriterionTree, t.compile datatype table
        = (cs.map g).foldl Criteria.or (tree.compile datatype table) ∧
      ∀ fuel tail, 3 * (moreText .criterion (some datatype) .or cs).length ≤ fuel →
        EndsParts tail →
        takeOrChain fuel tree (moreText .criterion (some datatype) .or cs ++ tail)
          = (t, tail) := by
  induction cs generalizing tree with
  | nil =>
    refine ⟨tree, rfl, fun fuel tail _ ht => ?_⟩
    cases fuel with
    | zero => rfl
    | succ fuel =>
      have hn := takeSymbol?_ends .or ht
      rw [symbol] at hn
      simp [takeOrChain, hn]
  | cons c cs ih =>
    have hc := h c List.mem_cons_self
    obtain ⟨t, htc, htr⟩ := hc.reads
    obtain ⟨u, huc, hur⟩ := ih (fun d hd => h d (List.mem_cons_of_mem c hd)) (.or tree t)
    refine ⟨u, by rw [huc, compile, htc, List.map_cons, List.foldl_cons], fun fuel tail hf ht => ?_⟩
    rw [moreText_cons] at hf ⊢
    rw [List.length_append, List.length_append, between_length] at hf
    obtain ⟨fuel, rfl⟩ : ∃ n, fuel = n + 2 := ⟨fuel - 2, by omega⟩
    have hsym := takeSymbol?_between .or
      (hc.tight.starts.append (moreText .criterion (some datatype) .or cs ++ tail))
    rw [symbol] at hsym
    have hpart := takeAnd?_part (htr fuel (moreText .criterion (some datatype) .or cs ++ tail)
      (by omega) (followsTest_more .or cs ht)) (takeSymbol?_and_more cs ht)
    rw [List.append_assoc, List.append_assoc]
    simp only [takeOrChain, hsym, Option.bind_some, hpart]
    exact hur (fuel + 1) tail (by omega) ht

theorem takeOrChain_ends {tail : List Char} (ht : EndsParts tail) (fuel : Nat)
    (tree : CriterionTree) : takeOrChain fuel tree tail = (tree, tail) := by
  cases fuel with
  | zero => rfl
  | succ fuel =>
    have hn := takeSymbol?_ends .or ht
    rw [symbol] at hn
    simp [takeOrChain, hn]

/-- A list of parts that can be read is read into the tree of its connectives. -/
theorem takeOr?_reads (op : Connective) {c : Criteria} {cs : List Criteria}
    (h : ∀ d ∈ c :: cs, ReadAs datatype table d (g d)) :
    ∃ t : CriterionTree, t.compile datatype table = (cs.map g).foldl op.apply (g c) ∧
      ∀ fuel tail, 3 * (listText .criterion (some datatype) op c cs).length + 2 ≤ fuel →
        EndsParts tail →
        takeOr? fuel (listText .criterion (some datatype) op c cs ++ tail) = some (t, tail) := by
  have hcs : ∀ d ∈ cs, ReadAs datatype table d (g d) := fun d hd => h d (List.mem_cons_of_mem c hd)
  obtain ⟨t, htc, htr⟩ := (h c List.mem_cons_self).reads
  cases op with
  | and =>
    obtain ⟨u, huc, hur⟩ := takeAndChain_reads hcs t
    refine ⟨u, by rw [huc, htc]; rfl, fun fuel tail hf ht => ?_⟩
    rw [listText] at hf ⊢
    rw [List.length_append] at hf
    obtain ⟨fuel, rfl⟩ : ∃ n, fuel = n + 2 := ⟨fuel - 2, by omega⟩
    have hpart := htr fuel (moreText .criterion (some datatype) .and cs ++ tail) (by omega)
      (followsTest_more .and cs ht)
    rw [List.append_assoc]
    simp only [takeOr?, takeAnd?, hpart, Option.map_some, hur fuel tail (by omega) ht,
      takeOrChain_ends ht]
  | or =>
    obtain ⟨u, huc, hur⟩ := takeOrChain_reads hcs t
    refine ⟨u, by rw [huc, htc]; rfl, fun fuel tail hf ht => ?_⟩
    rw [listText] at hf ⊢
    rw [List.length_append] at hf
    obtain ⟨fuel, rfl⟩ : ∃ n, fuel = n + 2 := ⟨fuel - 2, by omega⟩
    have hpart := takeAnd?_part (htr fuel (moreText .criterion (some datatype) .or cs ++ tail)
      (by omega) (followsTest_more .or cs ht)) (takeSymbol?_and_more cs ht)
    rw [List.append_assoc]
    simp only [takeOr?, hpart, Option.map_some, hur (fuel + 1) tail (by omega) ht]

/-! ## Nodes and leaves -/

theorem readAs_node (op : Connective) {c : Criteria} {cs : List Criteria}
    (hl : 2 ≤ (c :: cs).length) (hs : ∀ d ∈ c :: cs, d.Solid)
    (h : ∀ d ∈ c :: cs, ReadAs datatype table d (g d)) :
    ReadAs datatype table (op.node (c :: cs)) ((cs.map g).foldl op.apply (g c)) := by
  have htext : partText .criterion (some datatype) (op.node (c :: cs)) = _ := partText_node op hs hl
  have htight := tight_listText op fun d hd => (h d hd).tight
  obtain ⟨t, htc, htr⟩ := takeOr?_reads op h
  refine ⟨?_, t, htc, fun fuel tail hf _ => ?_⟩
  · rw [htext]
    exact tight_between (by decide) (by decide) _
  · rw [htext] at hf ⊢
    simp only [List.length_cons, List.length_append, List.length_nil] at hf
    obtain ⟨fuel, rfl⟩ : ∃ n, fuel = n + 1 := ⟨fuel - 1, by omega⟩
    have hr := htr fuel (')' :: tail) (by omega) (endsParts_close tail)
    have hcs : '(' :: (listText .criterion (some datatype) op c cs ++ [')']) ++ tail
        = '(' :: (listText .criterion (some datatype) op c cs ++ ')' :: tail) := by simp
    rw [hcs, takePrimary?_paren, (htight.starts.append _).skipLayout, hr]
    simp [skipLayout_cons (c := ')') (by decide)]

/-- A test is a primary. -/
theorem takePrimary?_of_starts {c : Char} {cs : List Char} (hc : c ≠ '(') {r : CriterionTree × List Char}
    (h : takeTest? (c :: cs) = some r) (fuel : Nat) : takePrimary? fuel (c :: cs) = some r := by
  rw [takePrimary?_of_ne hc, h]

theorem takePrimary?_path {path rest : List Char} (hp : IsPath path) {r : CriterionTree × List Char}
    (h : takeTest? (path ++ rest) = some r) (fuel : Nat) :
    takePrimary? fuel (path ++ rest) = some r := by
  obtain ⟨c, cs, rfl, hc⟩ := hp.head
  refine takePrimary?_of_starts ?_ h fuel
  rintro rfl
  exact absurd hc (by decide)

variable {l : Leaf} (hp : IsPath (l.name datatype).toList)

include hp

theorem readAs_present (ho : l.operator = "==") (hv : l.value = none) :
    ReadAs datatype table (.leaf l) (l.reread datatype table) := by
  have htext : partText .criterion (some datatype) (.leaf l) = (l.name datatype).toList := by
    simp [partText, render, Leaf.toText, Leaf.toCriterion, ho, hv, isNegated, Leaf.name]
  refine ⟨by rw [htext]; exact ⟨hp.starts, hp.ends⟩, .compare (l.name datatype) "==" none,
    by rw [Leaf.reread, ho, hv, compile], fun fuel tail _ ht => ?_⟩
  rw [htext]
  refine takePrimary?_path hp ?_ fuel
  rw [takeTest?_present hp ht, String.ofList_toList]

theorem readAs_absent (ho : l.operator = "!=") (hv : l.value = none) :
    ReadAs datatype table (.leaf l) (l.reread datatype table) := by
  have htext : partText .criterion (some datatype) (.leaf l) = '!' :: (l.name datatype).toList := by
    simp [partText, render, Leaf.toText, Leaf.toCriterion, ho, hv, isNegated, Leaf.name]
  refine ⟨?_, .compare (l.name datatype) "!=" none, by rw [Leaf.reread, ho, hv, compile],
    fun fuel tail _ ht => ?_⟩
  · rw [htext]
    exact ⟨starts_cons (by decide) _, hp.ends.append ['!']⟩
  · rw [htext, List.cons_append]
    refine takePrimary?_of_starts (by decide) ?_ fuel
    rw [takeTest?_absent hp ht, String.ofList_toList]

theorem readAs_comparison (ho : l.operator ∈ operators) {v : String} (hv : l.value = some v) :
    ReadAs datatype table (.leaf l) (l.reread datatype table) := by
  have htext : partText .criterion (some datatype) (.leaf l) = (l.name datatype).toList ++
      (' ' :: (l.operator.toList ++ ' ' :: (criterionValue v).toList)) := by
    simp [partText, render, Leaf.toText, Leaf.toCriterion, hv, Leaf.name]
  have hends : Ends (criterionValue v).toList := by
    simpa [criterionValue, doubleQuoted] using ends_concat (c := '"') (by decide)
      ('"' :: escapeChar '"' (escapeChar '\\' v.toList))
  refine ⟨?_, .compare (l.name datatype) l.operator (some v), by rw [Leaf.reread, hv, compile],
    fun fuel tail _ _ => ?_⟩
  · rw [htext]
    refine ⟨hp.starts.append _, ?_⟩
    simpa using hends.append ((l.name datatype).toList ++ ' ' :: l.operator.toList ++ [' '])
  · rw [htext, List.append_assoc]
    refine takePrimary?_path hp ?_ fuel
    rw [List.cons_append, List.append_assoc, List.cons_append, takeTest?_comparison hp ho,
      String.ofList_toList]

/-- The text of a leaf is read, whatever its value. -/
theorem readAs_leaf (ho : l.operator ∈ operatorsFor l.value) :
    ReadAs datatype table (.leaf l) (l.reread datatype table) := by
  cases hv : l.value with
  | none =>
    rw [hv] at ho
    rcases List.mem_cons.1 ho with ho | ho
    · exact readAs_present hp ho hv
    · exact readAs_absent hp (List.mem_singleton.1 ho) hv
  | some v =>
    rw [hv] at ho
    exact readAs_comparison hp ho hv

omit hp

/-- Every part of criteria with such leaves is read, and its leaves are read again. -/
theorem readAs {c : Criteria} (hs : c.Solid) (hl : ∀ l ∈ c.leaves, l.Writable datatype) :
    ReadAs datatype table c (c.substitute (Leaf.reread datatype table)) := by
  revert hl
  refine Solid.node_induction (fun l hl => ?_) (fun op c cs hn hlen hall hl => ?_) hs
  · obtain ⟨hp, ho⟩ := hl l (by simp [leaves])
    exact readAs_leaf hp ho
  · rw [substitute_node]
    refine readAs_node op hlen (fun d hd => (hall d hd).1) fun d hd => (hall d hd).2 ?_
    intro l hm
    refine hl l ?_
    rw [Connective.leaves_node]
    exact List.mem_flatMap.2 ⟨d, hd, hm⟩

end Parts

/-! ## Whole queries -/

/-- A text without blanks around it is read when its alternatives are, with nothing left. -/
theorem read_of_takeOr? {s : String} {t : CriterionTree} (h : Tight s.toList)
    (hr : takeOr? (fuelFor s.toList) s.toList = some (t, [])) : read s = .ok t := by
  simp only [read, h.trim, hr]
  rfl

end CriterionTree

/-- What a `criterion` query compiles to without translations. -/
theorem compile_criterion_cases {datatype query : String} {c : Criteria}
    (h : compile datatype .empty .criterion query = .ok c) :
    c = .empty ∨ c.Solid ∧ ∀ l ∈ c.leaves, FromCriterion datatype l := by
  simp only [compile] at h
  split at h
  · exact .inl (Except.ok.inj h).symm
  · cases hr : CriterionTree.read query with
    | error place => rw [hr] at h; cases h
    | ok t =>
      rw [hr] at h
      obtain rfl : t.compile datatype .empty = c := Except.ok.inj h
      exact .inr (CriterionTree.compile_leaves (CriterionTree.sound_of_read hr) datatype)

/-- A leaf of a query without translations is written by its path, and read as itself. -/
theorem FromCriterion.writable {datatype : String} {l : Leaf} (h : FromCriterion datatype l) :
    l.Writable datatype := by
  obtain @⟨path, op, value, hp, ho⟩ := h
  refine ⟨?_, ho⟩
  rw [Leaf.name, stripDatatype_dot]
  exact hp

theorem FromCriterion.reread {datatype : String} {l : Leaf} (h : FromCriterion datatype l) :
    l.reread datatype .empty = .leaf l := by
  obtain @⟨path, op, value, -, -⟩ := h
  rw [Leaf.reread, Leaf.name, stripDatatype_dot]
  rfl

/-- Criteria that can be written are read from their text as tests of logical fields. -/
theorem compile_toQuery_reread {datatype : String} (table : TranslationTable) {c : Criteria}
    (hc : c = .empty ∨ c.Solid) (hl : ∀ l ∈ c.leaves, l.Writable datatype) :
    compile datatype table .criterion (c.toQuery .criterion (some datatype))
      = .ok (c.substitute (Leaf.reread datatype table)) := by
  rcases hc with rfl | hs
  · rfl
  obtain ⟨op, d, ds, htext, hall, hfold, hleaves⟩ :=
    toQuery_listText .criterion (some datatype) hs
  have hparts : ∀ e ∈ d :: ds, CriterionTree.ReadAs datatype table e
      (e.substitute (Leaf.reread datatype table)) := fun e he =>
    CriterionTree.readAs (hall e he) fun l hm => by
      refine hl l ?_
      rw [hleaves]
      exact List.mem_flatMap.2 ⟨e, he, hm⟩
  have htight : Tight (c.toQuery .criterion (some datatype)).toList := by
    rw [htext]
    exact tight_listText op fun e he => (hparts e he).tight
  obtain ⟨t, htc, htr⟩ := CriterionTree.takeOr?_reads op hparts
  have hread : CriterionTree.read (c.toQuery .criterion (some datatype)) = .ok t := by
    refine CriterionTree.read_of_takeOr? htight ?_
    rw [htext]
    have hr := htr (CriterionTree.fuelFor (listText .criterion (some datatype) op d ds)) []
      (by rw [CriterionTree.fuelFor]; omega) endsParts_nil
    rwa [List.append_nil] at hr
  simp only [compile, htight.starts.allBlank, hread, Except.map]
  rw [htc, ← substitute_foldl, hfold]
  rfl

/-- Criteria compiled from a `criterion` query without translations come back from their text,
whatever their values and indexes are. -/
theorem compile_toQuery_criterion {datatype query : String} {c : Criteria}
    (h : compile datatype .empty .criterion query = .ok c) :
    compile datatype .empty .criterion (c.toQuery .criterion (some datatype)) = .ok c := by
  rcases compile_criterion_cases h with rfl | ⟨hs, hl⟩
  · rfl
  have hself : c.substitute (Leaf.reread datatype .empty) = c :=
    substitute_eq_self hs fun l hm => (hl l hm).reread
  rw [compile_toQuery_reread .empty (.inr hs) fun l hm => (hl l hm).writable, hself]

/-- Quotes, backslashes and an index with blanks in it come back. -/
theorem compile_toQuery_criterion_samples :
    ∃ c, compile "e" .empty .criterion "a(x y).b != 'it\\'s \\\\' && (!c || d <>* \"<\")" = .ok c ∧
      compile "e" .empty .criterion (c.toQuery .criterion (some "e")) = .ok c := by
  have h : compile "e" .empty .criterion "a(x y).b != 'it\\'s \\\\' && (!c || d <>* \"<\")"
      = .ok (.conj [.test "e.a(x y).b" "!=" "it's \\",
          .disj [.absent "e.c", .test "e.d" "<>*" "<"]]) :=
    eq_ok_of_toOption (by decide +kernel)
  exact ⟨_, h, compile_toQuery_criterion h⟩

end EventSearch.Query
