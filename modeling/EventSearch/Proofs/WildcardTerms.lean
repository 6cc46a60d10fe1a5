/-
# `EventSearch.Proofs.WildcardTerms` — which texts a value with wildcards finds

A value without quotes that holds a wildcard is compiled to a search by its pattern.  On a declared
field the leaf accepts the texts that the parts of the value cover, as long as wildcards stand for no
line feed and the value does not end in an open backslash (`accepts_wildcard`).

| value | text | covered | accepted |
|---|---|---|---|
| `a*b` | `a`, line feed, `b` | yes | no |
| `a?\` | `ab\` | yes | no |
| `a?\` | `ab` | no | yes |

The last two are one fault: the pattern leaves out the backslash that the text of a value keeps.  A
pattern can be refused for its size only, and that of a value of up to 2500 characters is not.
-/
import EventSearch.Proofs.CellFilters
import EventSearch.Proofs.GlobPatternSize
import EventSearch.Proofs.LuceneMeaning

namespace EventSearch.Provider

open EventSearch.Text EventSearch.Data EventSearch.Pattern EventSearch.Query
open EventSearch.Query.BareText

/-! ## Leaves -/

section Leaves

variable {scope : Scope} {name : String} {raw : String} {parts : List GlobPart}

/-- A value with wildcards is looked for by its pattern. -/
theorem compile_wildcard (datatype : String) (field : FieldPath)
    (h : hasWildcard raw.toList = true) (modifier : Option Modifier) :
    Term.compile datatype false (.value (some field) (.bare raw) modifier)
      = .test (datatype ++ "." ++ field.toText) "~" (String.ofList (globPattern raw.toList)) := by
  have hcomparison : Term.comparison (.bare raw)
      = ("~", String.ofList (globPattern raw.toList)) := if_pos h
  simp only [Term.compile, Bool.false_and, Bool.false_eq_true, if_false, hcomparison,
    Term.signedOperator]
  rfl

theorem read_globPattern (hbody : globBody raw.toList = parts.flatMap GlobPart.written) :
    Pattern.read false (String.ofList (globPattern raw.toList))
      = if (globSequence parts).fits then .ok (globSequence parts) else .error .tooLarge := by
  rw [Pattern.read, parse?_globPattern hbody]

/-- The leaf of such a pattern, unless the pattern is too large. -/
theorem compile_globPattern (hd : (scope.dataset.fieldType? name).isSome) (hn : name ≠ anyField)
    (hbody : globBody raw.toList = parts.flatMap GlobPart.written) :
    Filter.compile scope (.test (scope.datatype ++ "." ++ name) "~"
        (String.ofList (globPattern raw.toList)))
      = if (globSequence parts).fits then
          .ok (.leaf ⟨.field name, .matchesPattern (globSequence parts), false⟩)
        else .error (.invalidCriteria
          (.invalidPattern (String.ofList (globPattern raw.toList)) .tooLarge)) := by
  have hbase : baseOperator "~" = "~" := by decide
  have hnegated : isNegated "~" = false := by decide
  have hleaf : Predicate.ofLeaf ⟨scope.datatype ++ "." ++ name, "~",
      some (String.ofList (globPattern raw.toList))⟩
      = if (globSequence parts).fits then .ok (.matchesPattern (globSequence parts))
        else .error (.invalidCriteria
          (.invalidPattern (String.ofList (globPattern raw.toList)) .tooLarge)) := by
    simp only [Predicate.ofLeaf, hbase, Predicate.ofOperator, read_globPattern hbody]
    by_cases hfits : (globSequence parts).fits = true
    · simp [hfits]
    · simp [hfits]
  rw [Criteria.test, Filter.compile, LeafFilter.compile_eq, hleaf, hnegated,
    Search.target_field hd hn]
  by_cases hfits : (globSequence parts).fits = true
  · rw [if_pos hfits, if_pos hfits]
    rfl
  · rw [if_neg hfits, if_neg hfits]
    rfl

/-- It accepts the texts that the written parts cover. -/
theorem accepts_globSequence {record : Record} {s : String}
    (hrecord : find? name record = some (.text s)) :
    (Filter.leaf ⟨.field name, .matchesPattern (globSequence parts), false⟩).accepts record = true ↔
      Covers (· ≠ '\n') parts s.toList := by
  simp only [Filter.accepts, LeafFilter.accepts, LeafFilter.hits, hrecord, Option.any_some,
    Predicate.test, Value.display, Bool.bne_false, foundIn_globSequence]

/-- What the written parts cover, all parts cover with the open backslash behind it. -/
theorem covers_written {wild : Char → Prop} {text : List Char}
    (hparts : globParts raw.toList = parts ++ (openEnd raw.toList).map .char) :
    Covers wild parts text ↔ Covers wild (globParts raw.toList) (text ++ openEnd raw.toList) := by
  rw [hparts, openEnd]
  split
  · exact covers_append_char.symm
  · rw [List.map_nil, List.append_nil, List.append_nil]

end Leaves

/-- On a declared field the leaf of a value with wildcards accepts the texts that the parts of the
value cover, an open backslash at its end aside and wildcards kept inside a line.  Nothing but the
size of its pattern keeps it from being tested. -/
theorem accepts_wildcard {scope : Scope} {field : FieldPath} {raw : String}
    (hd : (scope.dataset.fieldType? field.toText).isSome) (hn : field.toText ≠ anyField)
    (hw : hasWildcard raw.toList = true) (modifier : Option Modifier) :
    let compiled := Filter.compile scope
      (Term.compile scope.datatype false (.value (some field) (.bare raw) modifier))
    (raw.toList.length ≤ 2500 → ∃ f, compiled = .ok f) ∧
    (∀ e, compiled = .error e → e = .invalidCriteria
      (.invalidPattern (String.ofList (globPattern raw.toList)) .tooLarge)) ∧
    ∀ f, compiled = .ok f → ∀ (record : Record) (s : String),
      find? field.toText record = some (.text s) →
      (f.accepts record = true ↔
        Covers (· ≠ '\n') (globParts raw.toList) (s.toList ++ openEnd raw.toList)) ∧
      (endsOpen raw.toList = false → '\n' ∉ s.toList →
        (f.accepts record = true ↔ Covers (fun _ => True) (globParts raw.toList) s.toList)) := by
  intro compiled
  obtain ⟨parts, hbody, hparts⟩ := globBody_eq raw.toList
  have hcompiled : compiled = _ := congrArg (Filter.compile scope)
    (compile_wildcard scope.datatype field hw modifier)
  rw [compile_globPattern hd hn hbody] at hcompiled
  refine ⟨fun hlength => ?_, fun e he => ?_, fun f hf record s hrecord => ?_⟩
  · have hle := length_globParts_le raw.toList
    rw [hparts, List.length_append] at hle
    rw [hcompiled, if_pos (fits_globSequence (by omega))]
    exact ⟨_, rfl⟩
  · rw [hcompiled] at he
    split at he
    · cases he
    · exact (Except.error.inj he).symm
  · rw [hcompiled] at hf
    split at hf
    · obtain rfl := Except.ok.inj hf
      have haccepts := (accepts_globSequence hrecord).trans (covers_written hparts)
      refine ⟨haccepts, fun hopen hline => ?_⟩
      have hend : openEnd raw.toList = [] := by
        rw [openEnd, hopen]
        rfl
      rw [haccepts, hend, List.append_nil]
      exact ⟨.mono fun _ _ _ => trivial, .mono fun c hc _ he => hline (he ▸ hc)⟩
    · cases hf

/-- `l?w\**` finds `low*`, with the star, and not `lows`. -/
theorem accepts_wildcard_star :
    let c := Term.compile "e" false (.value (some ⟨[⟨"sev", none⟩]⟩) (.bare "l?w\\**") none)
    ∃ f, Filter.compile sampleScope c = .ok f ∧
      f.accepts [("sev", .text "low*")] = true ∧ f.accepts [("sev", .text "lows")] = false := by
  intro c
  have hdeclared : (sampleScope.dataset.fieldType? (FieldPath.toText ⟨[⟨"sev", none⟩]⟩)).isSome := by
    decide
  have hwild : hasWildcard "l?w\\**".toList = true := by decide
  have hwildcard := accepts_wildcard hdeclared (by decide) hwild none
  obtain ⟨f, hf⟩ := hwildcard.1 (by decide)
  have hparts : globParts "l?w\\**".toList = [.char 'l', .one, .char 'w', .char '*', .run] := by
    decide
  refine ⟨f, hf, ?_, Bool.eq_false_iff.2 fun haccepts => ?_⟩
  · refine ((hwildcard.2.2 f hf _ "low*" rfl).2 (by decide) (by decide)).2 ?_
    rw [hparts]
    exact ⟨['l'], _, rfl, rfl, ['o'], _, rfl, ⟨'o', rfl, trivial⟩, ['w'], _, rfl, rfl, ['*'], _, rfl,
      rfl, [], [], rfl, List.forall_mem_nil _, rfl⟩
  · have hcovers := ((hwildcard.2.2 f hf _ "lows" rfl).2 (by decide) (by decide)).1 haccepts
    rw [hparts] at hcovers
    obtain ⟨_, _, he, rfl, _, _, rfl, ⟨_, rfl, -⟩, _, _, rfl, rfl, _, _, rfl, rfl, -⟩ := hcovers
    simp at he

/-- A wildcard stands for no line feed, and an open backslash at the end is not looked for. -/
theorem accepts_wildcard_misses :
    let covered (raw s : String) : Prop := Covers (fun _ => True) (globParts raw.toList) s.toList
    let finds (raw s : String) : Prop := ∃ f, Filter.compile sampleScope
      (Term.compile "e" false (.value (some ⟨[⟨"sev", none⟩]⟩) (.bare raw) none)) = .ok f ∧
      f.accepts [("sev", .text s)] = true
    (covered "a*b" "a\nb" ∧ ¬ finds "a*b" "a\nb") ∧
      (covered "a?\\" "ab\\" ∧ ¬ finds "a?\\" "ab\\") ∧
      ¬ covered "a?\\" "ab" ∧ finds "a?\\" "ab" := by
  intro covered finds
  have hfinds : ∀ {raw s : String} {parts : List GlobPart}, hasWildcard raw.toList = true →
      parts.length ≤ 2500 → globBody raw.toList = parts.flatMap GlobPart.written →
      (finds raw s ↔ Covers (· ≠ '\n') parts s.toList) := by
    intro raw s parts hw hlength hbody
    have hdeclared : (sampleScope.dataset.fieldType? "sev").isSome := by decide
    have hcompiled := compile_globPattern hdeclared (by decide) hbody
    rw [if_pos (fits_globSequence hlength)] at hcompiled
    simp only [finds]
    rw [compile_wildcard "e" ⟨[⟨"sev", none⟩]⟩ hw none]
    constructor
    · rintro ⟨f, hf, haccepts⟩
      obtain rfl := Except.ok.inj (hcompiled.symm.trans hf)
      exact (accepts_globSequence rfl).1 haccepts
    · exact fun hcovers => ⟨_, hcompiled, (accepts_globSequence rfl).2 hcovers⟩
  have hstar : globBody "a*b".toList = [.char 'a', .run, .char 'b'].flatMap GlobPart.written := by
    decide
  have hopen : globBody "a?\\".toList = [.char 'a', .one].flatMap GlobPart.written := by decide
  refine ⟨⟨?_, fun h => ?_⟩, ⟨?_, fun h => ?_⟩, fun h => ?_, ?_⟩
  · exact ⟨['a'], _, rfl, rfl, ['\n'], _, rfl, fun _ _ => trivial, ['b'], _, rfl, rfl, rfl⟩
  · obtain ⟨_, _, he, rfl, u, _, rfl, hu, _, _, rfl, rfl, rfl⟩ :=
      (hfinds (by decide) (by decide) hstar).1 h
    have hfeed : '\n' ∈ "a\nb".toList := by decide
    rw [he] at hfeed
    exact hu '\n' (by simpa using hfeed) rfl
  · exact ⟨['a'], _, rfl, rfl, ['b'], _, rfl, ⟨'b', rfl, trivial⟩, ['\\'], _, rfl, rfl, rfl⟩
  · obtain ⟨_, _, he, rfl, _, _, rfl, ⟨_, rfl, -⟩, rfl⟩ :=
      (hfinds (by decide) (by decide) hopen).1 h
    simp at he
  · obtain ⟨_, _, he, rfl, _, _, rfl, ⟨_, rfl, -⟩, _, _, rfl, rfl, -⟩ := h
    simp at he
  · refine (hfinds (by decide) (by decide) hopen).2 ?_
    exact ⟨['a'], _, rfl, rfl, ['b'], _, rfl, ⟨'b', rfl, by decide⟩, rfl⟩

end EventSearch.Provider
