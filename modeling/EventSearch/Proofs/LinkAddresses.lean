/-
# `EventSearch.Proofs.LinkAddresses` — links read back from their addresses

The address of a link is its base, a question mark and the pairs of the link, each a key and a value
with `=` between, with `&` between the pairs.

| what is read | the text of it | why it is read back |
| :-- | :-- | :-- |
| a byte | itself, or `%` and two digits | `decodeBytes?_encodeByte` |
| a key or a value | its bytes, one after the other | `decode?_encode` |
| a pair | both sides of `=` | the key holds no `=`, for its characters are plain or `%` |
| the pairs | the pieces between `&` | no pair holds one, for the same reason |

So a link is read back from its address whatever its query, its keys and its values hold, and two
links with one address are the same (`toUrl_read`).
-/
import EventSearch.Proofs.SeparatedTexts
import EventSearch.Search.Link

namespace EventSearch.Text.Percent

/-! ## Encoded texts -/

/-- A character that stands for itself. -/
def PlainChar (c : Char) : Prop := c.toNat < 0x80 ∧ isPlain (UInt8.ofNat c.toNat) = true

instance : DecidablePred PlainChar := fun _ => inferInstanceAs (Decidable (_ ∧ _))

/-- The character of a plain byte. -/
theorem plain_ofNat {b : UInt8} (h : isPlain b = true) :
    (Char.ofNat b.toNat).toNat = b.toNat ∧ PlainChar (Char.ofNat b.toNat) := by
  have hlt : b.toNat < 0x80 := by
    simp only [isPlain, Bool.or_eq_true, Bool.and_eq_true, decide_eq_true_eq, beq_iff_eq] at h
    omega
  have hvalid : b.toNat.isValidChar := .inl (by omega)
  have hnat : (Char.ofNat b.toNat).toNat = b.toNat := by
    rw [Char.ofNat, dif_pos hvalid]
    rfl
  refine ⟨hnat, ?_⟩
  rw [PlainChar, hnat, UInt8.ofNat_toNat]
  exact ⟨hlt, h⟩

theorem hexValue?_hexDigit : ∀ n < 16, hexValue? (hexDigit n) = some n := by decide

theorem plain_hexDigit : ∀ n < 16, PlainChar (hexDigit n) := by decide

theorem mem_encodeByte {b : UInt8} {c : Char} (h : c ∈ encodeByte b) : c = '%' ∨ PlainChar c := by
  have hb := b.toNat_lt
  rw [encodeByte] at h
  split at h
  · next hplain =>
    rw [List.mem_singleton.1 h]
    exact .inr (plain_ofNat hplain).2
  · simp only [List.mem_cons, List.not_mem_nil, or_false] at h
    rcases h with rfl | rfl | rfl
    · exact .inl rfl
    · exact .inr (plain_hexDigit _ (by omega))
    · exact .inr (plain_hexDigit _ (by omega))

/-- An encoded text holds plain characters and the mark of escapes. -/
theorem mem_encode {s : String} {c : Char} (h : c ∈ (encode s).toList) : c = '%' ∨ PlainChar c := by
  rw [encode, String.toList_ofList, List.mem_flatMap] at h
  obtain ⟨b, -, hb⟩ := h
  exact mem_encodeByte hb

/-! ## Decoding -/

theorem decodeBytes?_cons {c : Char} (hc : c ≠ '%') (hlt : c.toNat < 0x80) (rest : List Char) :
    decodeBytes? (c :: rest) = (decodeBytes? rest).map (UInt8.ofNat c.toNat :: ·) := by
  rw [decodeBytes?]
  · rw [if_pos hlt]
  · intro a b tail he
    exact absurd he hc

theorem decodeBytes?_encodeByte (b : UInt8) (rest : List Char) :
    decodeBytes? (encodeByte b ++ rest) = (decodeBytes? rest).map (b :: ·) := by
  have hb := b.toNat_lt
  rw [encodeByte]
  split
  · next hplain =>
    obtain ⟨hnat, hlt, hself⟩ := plain_ofNat hplain
    have hpercent : Char.ofNat b.toNat ≠ '%' := by
      intro he
      rw [he] at hself
      exact absurd hself (by decide)
    rw [List.singleton_append, decodeBytes?_cons hpercent hlt, hnat, UInt8.ofNat_toNat]
  · have hhigh := hexValue?_hexDigit (b.toNat / 16) (by omega)
    have hlow := hexValue?_hexDigit (b.toNat % 16) (by omega)
    have hbyte : UInt8.ofNat (16 * (b.toNat / 16) + b.toNat % 16) = b := by
      rw [Nat.div_add_mod]
      exact UInt8.ofNat_toNat
    simp only [List.cons_append, List.nil_append, decodeBytes?, hhigh, hlow, bind, Option.bind,
      hbyte]
    cases decodeBytes? rest <;> rfl

theorem decodeBytes?_encode (bs : List UInt8) : decodeBytes? (bs.flatMap encodeByte) = some bs := by
  induction bs with
  | nil => rfl
  | cons b bs ih =>
    rw [List.flatMap_cons, decodeBytes?_encodeByte, ih]
    rfl

/-- Every text is read back from what it is encoded to. -/
theorem decode?_encode (s : String) : decode? (encode s) = some s := by
  have hbytes : ByteArray.mk (bytes s).toArray = s.toByteArray := by
    rw [bytes, Array.toArray_toList]
  rw [decode?, encode, String.toList_ofList, decodeBytes?_encode]
  simp only [bind, Option.bind, hbytes, String.fromUTF8?, s.isValidUTF8]
  rfl

end EventSearch.Text.Percent

namespace EventSearch.Search

open EventSearch.Text EventSearch.Query

/-! ## Pairs -/

/-- A key and a value, read from the text of a pair. -/
def readPair? (text : List Char) : Option (String × String) := do
  let (key, value) ← splitOnce? '=' (String.ofList text)
  return (← Percent.decode? key, ← Percent.decode? value)

/-- The pairs of an address, read from what follows its question mark. -/
def readPairs? (text : String) : Option Params := (splitAt '&' text.toList).mapM readPair?

namespace Link

/-- What is not plain, but for the mark of escapes, is in no key and no value. -/
theorem not_mem_encode {mark : Char} (hmark : ¬ (mark = '%' ∨ Percent.PlainChar mark)) (s : String) :
    mark ∉ (Percent.encode s).toList :=
  fun h => hmark (Percent.mem_encode h)

theorem not_mem_pairText (p : String × String) : '&' ∉ (pairText p).toList := by
  have hkey : '&' ∉ (Percent.encode p.1).toList := not_mem_encode (by decide) p.1
  have hvalue : '&' ∉ (Percent.encode p.2).toList := not_mem_encode (by decide) p.2
  rw [pairText, String.toList_append, String.toList_append]
  simp [hkey, hvalue]

theorem readPair?_pairText (p : String × String) : readPair? (pairText p).toList = some p := by
  have hsplit : splitOnce? '=' (pairText p) = some (Percent.encode p.1, Percent.encode p.2) :=
    splitOnce?_joined rfl (not_mem_encode (by decide) p.1) _
  rw [readPair?, String.ofList_toList, hsplit]
  simp only [bind, Option.bind, Percent.decode?_encode]
  rfl

theorem mapM_readPair? (ps : Params) :
    ((ps.map pairText).map String.toList).mapM readPair? = some ps := by
  induction ps with
  | nil => rfl
  | cons p ps ih =>
    rw [List.map_cons, List.map_cons, List.mapM_cons, readPair?_pairText, ih]
    rfl

/-- Some pairs, one at least, are read back from their texts. -/
theorem readPairs?_joined (p : String × String) (ps : Params) :
    readPairs? ("&".intercalate ((p :: ps).map pairText)) = some (p :: ps) := by
  have hnone : ∀ text ∈ (p :: ps).map pairText, '&' ∉ text.toList := by
    intro text htext
    obtain ⟨pair, -, rfl⟩ := List.mem_map.1 htext
    exact not_mem_pairText pair
  rw [readPairs?, List.map_cons, splitAt_joined rfl hnone]
  exact mapM_readPair? (p :: ps)

/-- A link is told by its pairs. -/
theorem eq_of_pairs {l other : Link} (h : other.pairs = l.pairs) : other = l := by
  obtain ⟨query, mode, params⟩ := l
  obtain ⟨query', mode', params'⟩ := other
  simp only [pairs, List.cons.injEq, Prod.mk.injEq, true_and] at h
  obtain ⟨rfl, hmode, rfl⟩ := h
  have hname : ∀ m m' : Mode, m'.name = m.name → m' = m := by
    intro m m'
    cases m <;> cases m' <;> decide
  rw [hname mode mode' hmode]

/-- The address of a link is its base, a question mark and a text from which the query, the mode and
the parameters are read back as they are, in their order; no other link has this address. -/
theorem toUrl_read (l : Link) (base : String) :
    (∃ text, l.toUrl base = base ++ "?" ++ text ∧
      readPairs? text = some (("query", l.query) :: ("query_mode", l.mode.name) :: l.params)) ∧
    ∀ other : Link, other.toUrl base = l.toUrl base ↔ other = l := by
  have hread (l : Link) : readPairs? ("&".intercalate (l.pairs.map pairText)) = some l.pairs :=
    readPairs?_joined ("query", l.query) (("query_mode", l.mode.name) :: l.params)
  refine ⟨⟨_, rfl, hread l⟩, fun other => ⟨fun h => ?_, fun h => h ▸ rfl⟩⟩
  have htext : "&".intercalate (other.pairs.map pairText)
      = "&".intercalate (l.pairs.map pairText) := by
    simp only [toUrl, ← String.toList_inj, String.toList_append] at h
    exact String.toList_inj.1 (List.append_cancel_left h)
  have hother := hread other
  rw [htext, hread l] at hother
  exact eq_of_pairs (Option.some.inj hother).symm

end Link

end EventSearch.Search
