/-
# `EventSearch.Proofs.MarkedResults` — what marks change in a result

Marks are put on the texts of a page at the end of a search.  With them a request finds what it finds
without, in as many rows and the same cells up to the texts, or is refused because its terms make too
large a pattern.  Every text of a result stands in some record, so that the texts of a dataset without
markers are read back from the result as `Proofs/MarkedTexts` says: all of them, but for those in which
a marker is completed early (`execute_marked`).
-/
import EventSearch.Proofs.MarkedTexts
import EventSearch.Proofs.Partitions
import EventSearch.Proofs.RequestFaults

namespace EventSearch.Provider

open EventSearch.Data EventSearch.Query

/-! ## Where the texts of a result come from -/

theorem text_of_cell {record : Record} {c : Column} {s : String} (h : c.cell record = .text s) :
    ∃ name, (name, .text s) ∈ record := by
  cases c with
  | count => cases h
  | field name =>
    rw [Column.cell] at h
    cases hfind : find? name record with
    | none => simp [hfind] at h
    | some v =>
      obtain rfl : v = .text s := by simpa [hfind] using h
      exact ⟨name, mem_of_find? hfind⟩
  | component name zone unit =>
    rw [Column.cell] at h
    cases hfind : find? name record with
    | none => simp [hfind] at h
    | some v =>
      rw [hfind, Option.map_some, Option.getD_some, Column.componentOf] at h
      split at h <;> cases h

theorem text_of_groupRow {count : Nat} {columns : List Column} {key : Row} {s : String}
    (h : .text s ∈ groupRow count columns key) : .text s ∈ key := by
  fun_induction groupRow count columns key with
  | case1 key => cases h
  | case2 columns key ih => exact ih ((List.mem_cons.1 h).resolve_left nofun)
  | case3 c columns hc ih => exact ih ((List.mem_cons.1 h).resolve_left nofun)
  | case4 c columns cell key hc ih =>
    rcases List.mem_cons.1 h with hcell | hrest
    · exact hcell ▸ List.mem_cons_self
    · exact List.mem_cons_of_mem _ (ih hrest)

/-- Every text of a row, listed or counted, stands in some record. -/
theorem text_of_allRows {request : Request} {f : Filter} {columns : List Column}
    {records : List Record} {row : Row} {s : String}
    (hrow : row ∈ Store.allRows request f columns records) (hs : .text s ∈ row) :
    ∃ record ∈ records, ∃ name, (name, .text s) ∈ record := by
  rw [Store.allRows, Search.mem_sortRows] at hrow
  split at hrow
  · obtain ⟨g, hg, rfl⟩ := List.mem_map.1 hrow
    obtain ⟨record, hrecord, hkey⟩ := List.mem_map.1 ((tally_groupsOf columns _).counts g hg).1
    have hcell := text_of_groupRow hs
    rw [← hkey] at hcell
    obtain ⟨c, -, hc⟩ := List.mem_map.1 hcell
    exact ⟨record, (List.mem_filter.1 hrecord).1, text_of_cell hc⟩
  · obtain ⟨record, hrecord, rfl⟩ := List.mem_map.1 hrow
    obtain ⟨c, -, hc⟩ := List.mem_map.1 hs
    exact ⟨record, (List.mem_filter.1 hrecord).1, text_of_cell hc⟩

theorem mem_of_page {offset : Nat} {limit : Option Nat} {rows : List Row} {row : Row}
    (h : row ∈ Store.page offset limit rows) : row ∈ rows := by
  cases limit with
  | none => exact List.mem_of_mem_drop h
  | some n => exact List.mem_of_mem_drop (List.mem_of_mem_take h)

end EventSearch.Provider

namespace EventSearch.Highlight

open EventSearch.Data EventSearch.Provider

/-! ## Rows read back -/

/-- A text cell with its markers removed, or another cell as it is. -/
def stripCell (h : Highlight) : Value → Value
  | .text s => .text (h.strip s)
  | v => v

/-- No text of a dataset holds a marker. -/
def Spares (h : Highlight) (d : Dataset) : Prop :=
  ∀ record ∈ d.records, ∀ name s, (name, .text s) ∈ record → Unmarked h s.toList

/-- What is read back from a row after the texts in it were marked. -/
structure ReadBack (h : Highlight) (terms : List String) (row : Row) : Prop where
  strip : (row.map (h.markCell terms)).map h.stripCell = row ↔
    ∀ s, .text s ∈ row → Clear h stripView [] (piecesOf terms s)
  cut : ∀ s, .text s ∈ row → ∀ pieces,
    CutAt (termsOf terms) s.toList pieces ↔ pieces = piecesOf terms s
  fragments : ∀ s, .text s ∈ row →
    (h.fragments? (h.markText terms s) = some (piecesOf terms s) ↔
      Clear h cutView [] (piecesOf terms s))

theorem stripCell_markCell_iff {h : Highlight} {terms : List String} {v : Value} :
    h.stripCell (h.markCell terms v) = v ↔ ∀ s, v = .text s → h.strip (h.markText terms s) = s := by
  cases v <;> simp [markCell, stripCell]

theorem readBack_of_unmarked {h : Highlight} {a b : Char} {mid : List Char} (hf : Framed h a b mid)
    (terms : List String) {row : Row} (hu : ∀ s, .text s ∈ row → Unmarked h s.toList) :
    ReadBack h terms row where
  strip := by
    have hcells : (row.map (h.markCell terms)).map h.stripCell = row ↔
        ∀ v ∈ row, h.stripCell (h.markCell terms v) = v := by
      rw [List.map_map]
      exact ⟨fun heq => List.map_inj_left.1 (heq.trans (List.map_id row).symm),
        fun hall => (List.map_congr_left hall).trans (List.map_id row)⟩
    rw [hcells]
    constructor
    · intro hall s hs
      exact (strip_markText_iff hf terms (hu s hs)).1 (stripCell_markCell_iff.1 (hall _ hs) s rfl)
    · intro hclear v hv
      refine stripCell_markCell_iff.2 ?_
      rintro s rfl
      exact (strip_markText_iff hf terms (hu s hv)).2 (hclear s hv)
  cut := fun s _ pieces => cutAt_iff
  fragments := fun s hs => fragments?_markText_iff hf terms (hu s hs)

end EventSearch.Highlight

namespace EventSearch.Search

open EventSearch.Data EventSearch.Provider EventSearch.Query

/-! ## Searches with marks -/

theorem parts_of_checked {store : Store} {request : Request} {d : Dataset} {f : Filter}
    {columns : List Column} (h : store.checked request = .ok (d, f, columns)) :
    store.dataset request.datatype = .ok d ∧
      Filter.compile ⟨request.datatype, d⟩ request.criteria = .ok f := by
  unfold Store.checked at h
  cases hd : store.dataset request.datatype with
  | error e => simp [hd, Except.bind] at h
  | ok d' =>
    cases hf : Filter.compile ⟨request.datatype, d'⟩ request.criteria with
    | error e => simp [hd, hf, Except.bind] at h
    | ok f' =>
      cases hc : Column.ofRetrievals ⟨request.datatype, d'⟩ request.retrievals with
      | error e => simp [hd, hf, hc, Except.bind, Except.map] at h
      | ok columns' =>
        obtain ⟨rfl, rfl, rfl⟩ : d' = d ∧ f' = f ∧ columns' = columns := by
          simpa [hd, hf, hc, Except.bind, Except.map] using h
        exact ⟨rfl, hf⟩

/-- A search with marks over texts that hold no marker is refused when the search without them is.
Otherwise it has the same total and the same rows, each with its texts marked, unless its terms make
too large a pattern; and from a row is read back what stands in it, as far as no marker is completed
early. -/
theorem execute_marked {store : Store} {request : Request} {h : Highlight}
    (hmarks : request.highlight = some h) (hopening : h.opening = Highlight.default.opening)
    (hclosing : h.closing = Highlight.default.closing)
    (hspares : ∀ d, store.dataset request.datatype = .ok d → h.Spares d) :
    (∀ e, store.execute { request with highlight := none } = .error e →
      store.execute request = .error e) ∧
    ∀ result, store.execute { request with highlight := none } = .ok result →
      ∃ d f, ∃ rows : List Row, store.dataset request.datatype = .ok d ∧
        Filter.compile ⟨request.datatype, d⟩ request.criteria = .ok f ∧
        result.rows = rows.map .ok ∧
        (Highlight.termsFit f.freeTexts = false →
          store.execute request = .error (.invalidCriteria .tooManyTerms)) ∧
        (Highlight.termsFit f.freeTexts = true →
          store.execute request = .ok (.ofRows
            (rows.map fun row => row.map (h.markCell f.freeTexts)) result.total)) ∧
        ∀ row ∈ rows, h.ReadBack f.freeTexts row := by
  have hframed : Highlight.Framed h '❤' '❥' "HL💘DS".toList :=
    { Highlight.framed_default with
      opening := hopening ▸ Highlight.framed_default.opening
      closing := hclosing ▸ Highlight.framed_default.closing }
  have hplain : store.execute { request with highlight := none }
      = (store.checked request).bind (Store.answered { request with highlight := none }) :=
    Store.execute_eq store _
  rw [hplain, Store.execute_eq store request]
  cases hchecked : store.checked request with
  | error e => exact ⟨fun e he => he, nofun⟩
  | ok c =>
    obtain ⟨d, f, columns⟩ := c
    obtain ⟨hd, hf⟩ := parts_of_checked hchecked
    refine ⟨nofun, fun result hresult => ?_⟩
    obtain rfl := Except.ok.inj hresult
    refine ⟨d, f, _, hd, hf, rfl, fun hfit => ?_, fun hfit => ?_, fun row hrow => ?_⟩
    · simp only [Except.bind, Store.answered, hmarks, Store.markRows, hfit]
      rfl
    · simp only [Except.bind, Store.answered, hmarks, Store.markRows, hfit]
      rfl
    · refine Highlight.readBack_of_unmarked hframed _ fun s hs => ?_
      obtain ⟨record, hrecord, name, hmem⟩ := text_of_allRows (mem_of_page hrow) hs
      exact hspares d hd record hrecord name s hmem

/-- One event in a room. -/
def eventIn (room : String) : Dataset := ⟨[("room", .text)], [[("room", .text room)]]⟩

/-- A request for the rooms of events that hold a seven. -/
def listRooms (highlight : Option Highlight) : Request :=
  ⟨"events", [Retrieval.field "events.room"], .leaf ⟨"events._raw_query", "==", some "7"⟩, none, 0,
    false, highlight⟩

/-- The room of a found event is shown. -/
theorem execute_listRooms {room : String} (highlight : Option Highlight)
    (hchecked : Store.checked [("events", eventIn room)] (listRooms none)
      = .ok (eventIn room, inRoom, [.field "room"]))
    (hfound : inRoom.accepts [("room", .text room)] = true) :
    Store.execute [("events", eventIn room)] (listRooms highlight)
      = (Store.markRows highlight ["7"] [[.text room]]).map fun shown => .ofRows shown 1 := by
  have hrows : Store.allRows (listRooms highlight) inRoom [.field "room"] (eventIn room).records
      = [[.text room]] := by
    have hrecords : (eventIn room).records.filter (fun record => inRoom.accepts record)
        = [[("room", .text room)]] :=
      List.filter_cons_of_pos hfound
    rw [Store.allRows, hrecords]
    rfl
  have hchecked' : Store.checked [("events", eventIn room)] (listRooms highlight)
      = .ok (eventIn room, inRoom, [.field "room"]) := hchecked
  rw [Store.execute_eq, hchecked']
  simp only [Except.bind, Store.answered, hrows]
  rfl

theorem spares_eventIn {h : Highlight} {room : String} (hu : Highlight.Unmarked h room.toList) :
    h.Spares (eventIn room) := by
  intro record hrecord field s hs
  obtain rfl := List.mem_singleton.1 hrecord
  obtain ⟨-, hroom⟩ := Prod.mk.inj (List.mem_singleton.1 hs)
  exact Value.text.inj hroom ▸ hu

/-- A room is shown with its number marked, and read back. -/
theorem execute_marked_room : ∃ marked : String,
    Store.execute [("events", eventIn "room 7")] (listRooms none)
      = .ok (.ofRows [[.text "room 7"]] 1) ∧
    Store.execute [("events", eventIn "room 7")] (listRooms (some .default))
      = .ok (.ofRows [[.text marked]] 1) ∧
    Highlight.default.strip marked = "room 7" ∧
    Highlight.default.fragments? marked = some [.plain "room ", .hit "7"] := by
  have hunmarked : Highlight.Unmarked .default "room 7".toList := by
    constructor <;> decide
  have hplain : Store.execute [("events", eventIn "room 7")] (listRooms none)
      = .ok (.ofRows [[.text "room 7"]] 1) := execute_listRooms none rfl (by decide +kernel)
  have hspares : ∀ d, Store.dataset [("events", eventIn "room 7")] (listRooms (some .default)).datatype
      = .ok d → Highlight.default.Spares d :=
    fun d hd => Except.ok.inj hd ▸ spares_eventIn hunmarked
  obtain ⟨-, hanswer⟩ := execute_marked rfl rfl rfl hspares
  obtain ⟨d, f, rows, hd, hf, hrows, -, hmarked, hread⟩ := hanswer _ hplain
  obtain rfl : eventIn "room 7" = d := Except.ok.inj hd
  obtain rfl : inRoom = f := Except.ok.inj hf
  obtain rfl : rows = [[.text "room 7"]] :=
    List.map_injective_iff.2 (fun _ _ => Except.ok.inj) hrows.symm
  obtain ⟨hstrip, -, hfragments⟩ := hread _ List.mem_cons_self
  have hpieces : Highlight.piecesOf ["7"] "room 7" = [.plain "room ", .hit "7"] := by
    decide +kernel
  have hclear : Highlight.Clear .default Highlight.stripView []
      (Highlight.piecesOf ["7"] "room 7") :=
    (Highlight.cutAt_piecesOf _ _).clear (by decide) (by decide)
  refine ⟨_, hplain, hmarked termsFit_seven, ?_, ?_⟩
  · have hrow := hstrip.2 fun s hs => by
      obtain rfl : s = "room 7" := by simpa using hs
      exact hclear
    exact Value.text.inj (List.cons.inj hrow).1
  · rw [← hpieces]
    exact (hfragments _ List.mem_cons_self).2 hclear.cut_of_strip

/-- Behind an opening marker without its last character, the marker of a match is found one character
early: the text that is read back is another one. -/
theorem execute_marked_misses : Highlight.Unmarked .default "❤HL💘DS7".toList ∧
    ∃ marked : String,
      Store.execute [("events", eventIn "❤HL💘DS7")] (listRooms none)
        = .ok (.ofRows [[.text "❤HL💘DS7"]] 1) ∧
      Store.execute [("events", eventIn "❤HL💘DS7")] (listRooms (some .default))
        = .ok (.ofRows [[.text marked]] 1) ∧
      Highlight.default.strip marked = "HL💘DS❤7" ∧
      Highlight.default.fragments? marked = some [.hit "HL💘DS❤7"] := by
  have hfound : inRoom.accepts [("room", .text "❤HL💘DS7")] = true := by decide +kernel
  refine ⟨by constructor <;> decide, "❤HL💘DS❤HL💘DS❤7❥HL💘DS❥", execute_listRooms none rfl hfound, ?_,
    ?_, ?_⟩
  · rw [execute_listRooms _ rfl hfound, Store.markRows, if_pos termsFit_seven]
    exact congrArg (fun rows => Except.ok (ResultSet.ofRows rows 1)) (by decide +kernel)
  · decide +kernel
  · decide +kernel

end EventSearch.Search
