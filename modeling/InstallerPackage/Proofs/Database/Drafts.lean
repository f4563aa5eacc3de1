import InstallerPackage.Database.Draft
import InstallerPackage.Proofs.Database.Pools

/-!
# Drafts and their string pools

`Draft.WellFormed` are the drafts that can be written down without loss. The pool of such a draft is read
back (`Draft.read?_pool`), and a reference to a text that the draft mentions leads to that text again
(`Draft.get_indexOf`).
-/

namespace InstallerPackage

/-! ### Well-formed drafts -/

/-- Names of tables can be told apart and are not taken for errors, positions and types of columns
fit into their words, and every row has a fitting cell for every column. -/
structure Draft.WellFormed (d : Draft) : Prop where
  distinct : (d.map DraftTable.name).Nodup
  named : ∀ t ∈ d, t.name ≠ "" ∧ t.name ≠ StringPool.missing
  columns : ∀ t ∈ d, 1 ≤ t.columns.length ∧ t.columns.length ≤ Schema.maxColumns
  packed : ∀ t ∈ d, ∀ c ∈ t.columns, c.packed < 2 ^ 16
  length : ∀ t ∈ d, ∀ row ∈ t.rows, row.length = t.columns.length
  fits : ∀ t ∈ d, ∀ row ∈ t.rows, ∀ p ∈ t.columns.zip row, p.1.Fits p.2

/-- Every text can be written in Latin-1, its length fits into a word, and it does not end with a
zero. -/
structure Draft.Encodable (d : Draft) : Prop where
  latin1 : ∀ s ∈ d.strings, ∀ c ∈ s.toList, c.toNat < 256
  length : ∀ s ∈ d.strings, s.toList.length ≤ 65535
  trimmed : ∀ s ∈ d.strings, s.toList.getLast? ≠ some (Char.ofNat 0)

namespace Draft

variable {d : Draft} {t : DraftTable} {s : String}

/-! ### Texts -/

/-- Texts in Latin-1 are read back. -/
theorem decode_latin1 (h : ∀ c ∈ s.toList, c.toNat < 256) :
    CodePage.latin1.decode (Bytes.ofList (latin1 s)) = s := by
  -- a character of Latin-1 is the number of its byte
  have hchar : ∀ c ∈ s.toList, Char.ofNat (UInt8.ofNat c.toNat).toNat = c := by
    intro c hc
    rw [UInt8.toNat_ofNat', Nat.mod_eq_of_lt (h c hc), Char.ofNat_toNat]
  have hchars : (s.toList.map fun c => Char.ofNat (UInt8.ofNat c.toNat).toNat) = s.toList :=
    (List.map_congr_left hchar).trans (List.map_id _)
  rw [CodePage.decode, CodePage.latin1, Charset.decode, Bytes.toList_ofList, latin1, List.map_map,
    List.map_map]
  exact (congrArg String.ofList hchars).trans (String.ofList_toList)

theorem getLast?_latin1 (h : ∀ c ∈ s.toList, c.toNat < 256)
    (hlast : s.toList.getLast? ≠ some (Char.ofNat 0)) : (latin1 s).getLast? ≠ some 0 := by
  rw [latin1, List.getLast?_map]
  -- the last byte is zero only if the last character is
  intro hzero
  obtain ⟨c, hc, hbyte⟩ := Option.map_eq_some_iff.mp hzero
  have hlt := h c (List.mem_of_getLast? hc)
  have hnat : c.toNat = 0 := by
    have := congrArg UInt8.toNat hbyte
    rwa [UInt8.toNat_ofNat', Nat.mod_eq_of_lt hlt] at this
  refine hlast ?_
  rw [hc, ← Char.ofNat_toNat c, hnat]

/-! ### The pool of a draft -/

theorem strings_eq (d : Draft) : d.strings = "" :: d.strings.tail := by
  rw [strings, List.eraseDups_cons, List.tail_cons]

/-- Only the first string is empty. -/
theorem ne_of_mem_tail (h : s ∈ d.strings.tail) : s ≠ "" := by
  rw [strings, List.eraseDups_cons, List.tail_cons, List.mem_eraseDups, List.mem_filter] at h
  simpa using h.2

theorem mem_strings (ht : t ∈ d) (hs : s ∈ t.texts) : s ∈ d.strings := by
  rw [strings, List.mem_eraseDups]
  exact List.mem_cons_of_mem _ (List.mem_flatMap.mpr ⟨t, ht, hs⟩)

theorem name_mem_strings (ht : t ∈ d) : t.name ∈ d.strings :=
  mem_strings ht (List.mem_cons_self ..)

theorem column_mem_strings {c : DraftColumn} (ht : t ∈ d) (hc : c ∈ t.columns) :
    c.name ∈ d.strings := by
  refine mem_strings ht ?_
  rw [DraftTable.texts, List.cons_append]
  exact List.mem_cons_of_mem _ (List.mem_append_left _ (List.mem_map_of_mem hc))

theorem cell_mem_strings {row : List Cell} (ht : t ∈ d) (hrow : row ∈ t.rows)
    (hs : Cell.text s ∈ row) : s ∈ d.strings := by
  refine mem_strings ht (List.mem_append_right _ (List.mem_flatMap.mpr ⟨row, hrow, ?_⟩))
  exact List.mem_flatMap.mpr ⟨_, hs, List.mem_singleton.mpr rfl⟩

/-- A reference leads to the text that it stands for. -/
theorem get_indexOf (h : s ∈ d.strings) : StringPool.get d.strings.toArray (d.indexOf s) = s := by
  have hlt : d.strings.idxOf s < d.strings.length := List.idxOf_lt_length_iff.mpr h
  rw [StringPool.get, indexOf, List.getElem?_toArray, List.getElem?_eq_getElem hlt, List.getElem_idxOf,
    Option.getD_some]

theorem indexOf_lt (h : s ∈ d.strings) : d.indexOf s < d.strings.length :=
  List.idxOf_lt_length_iff.mpr h

/-- The strings behind the empty one, as entries of a pool. -/
def entries (d : Draft) : List StringPool.Entry := d.strings.tail.map fun s => ⟨latin1 s, 1⟩

theorem poolBytes_eq (d : Draft) (word : LengthWord) :
    d.poolBytes word = StringPool.poolOf word d.entries := by
  rw [poolBytes, StringPool.poolOf, entries, List.flatMap_map]
  congr 2
  funext s
  cases word <;> rfl

theorem textBytes_eq (d : Draft) : d.textBytes = StringPool.textOf d.entries := by
  rw [textBytes, StringPool.textOf, entries, List.flatMap_map]

theorem stringsOf_entries (h : d.Encodable) : StringPool.stringsOf d.entries = d.strings := by
  have hdecode : ∀ s ∈ d.strings.tail, CodePage.latin1.decode (Bytes.ofList (latin1 s)) = s :=
    fun s hs => decode_latin1 (h.latin1 s (List.mem_of_mem_tail hs))
  rw [StringPool.stringsOf, entries, List.map_map, strings_eq]
  congr 1
  exact (List.map_congr_left hdecode).trans (List.map_id _)

theorem fits_entries (h : d.Encodable) : ∀ e ∈ d.entries, e.Fits := by
  intro e he
  obtain ⟨s, hs, rfl⟩ := List.mem_map.mp he
  have hmem := List.mem_of_mem_tail hs
  refine ⟨?_, (by decide : 1 < 2 ^ 16), getLast?_latin1 (h.latin1 s hmem) (h.trimmed s hmem)⟩
  have := h.length s hmem
  rw [latin1, List.length_map]
  omega

/-- **The pool of a draft is read back**, whichever word the lengths are in. -/
theorem read?_pool (h : d.Encodable) (word : LengthWord) :
    StringPool.read? (Bytes.ofList (d.poolBytes word)) (Bytes.ofList d.textBytes) =
      ⟨some ⟨.latin1, d.strings.toArray⟩, []⟩ := by
  have hfits := fits_entries h
  rw [poolBytes_eq, textBytes_eq, ← stringsOf_entries h]
  -- in the high words companions do not matter, in the low ones those of a draft are all ones
  cases word with
  | high => exact StringPool.read?_high hfits
  | low =>
    refine StringPool.read?_low_of_ones hfits (fun e he => ?_) fun e he => ?_
    · obtain ⟨s, hs, rfl⟩ := List.mem_map.mp he
      rfl
    · -- the empty string is not among the entries, as it is the first of all strings
      obtain ⟨s, hs, rfl⟩ := List.mem_map.mp he
      intro hempty
      refine ne_of_mem_tail hs ?_
      rw [← String.toList_eq_nil_iff]
      exact List.map_eq_nil_iff.mp hempty

end Draft

end InstallerPackage
