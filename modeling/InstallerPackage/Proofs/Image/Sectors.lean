import InstallerPackage.Container.Allocation
import InstallerPackage.Container.Image
import InstallerPackage.Proofs.ByteLists

/-!
# Contents in consecutive sectors

Everything that is written takes consecutive sectors. `Medium.Stores` says that the sectors from one
on hold some content, and the lemmas about it read the content back: as bytes
(`Stores.toList_sector`), as a single sector (`Stores.sector_eq`), or as words (`load_of_stores`).
-/

namespace InstallerPackage

/-! ### Words -/

namespace Image

theorem words_append (l more : List Nat) : words (l ++ more) = words l ++ words more :=
  List.flatMap_append

theorem length_words (l : List Nat) : (words l).length = 4 * l.length :=
  Bytes.length_flatMap_little 4 l

theorem number_words {l : List Nat} {i n : Nat} (hn : l[i]? = some n) (more : List UInt8) :
    Bytes.number (Bytes.ofList (words l ++ more)) (4 * i) 4 = n % 2 ^ 32 :=
  Bytes.number_ofList_flatMap hn more

theorem getElem?_words {l : List Nat} {i n : Nat} (hn : l[i]? = some n) (hlt : n < 2 ^ 32)
    (more : List UInt8) : (Bytes.words (Bytes.ofList (words l ++ more)))[i]? = some n := by
  have hi : i < l.length := (List.getElem?_eq_some_iff.mp hn).1
  have hsize : i < (Bytes.words (Bytes.ofList (words l ++ more))).size := by
    rw [Bytes.size_words, Bytes.size_ofList, List.length_append, length_words]
    omega
  rw [Array.getElem?_eq_getElem hsize, Bytes.getElem_words, number_words hn,
    Nat.mod_eq_of_lt hlt]

/-- The words that were written are read first. -/
theorem prefix_words {l : List Nat} (h : ∀ n ∈ l, n < 2 ^ 32) (more : List UInt8) :
    l <+: (Bytes.words (Bytes.ofList (words l ++ more))).toList := by
  refine List.prefix_iff_getElem?.mpr fun i hi => ?_
  rw [Array.getElem?_toList]
  exact getElem?_words (List.getElem?_eq_getElem hi) (h _ (List.getElem_mem hi)) more

theorem words_ofList_words {l : List Nat} (h : ∀ n ∈ l, n < 2 ^ 32) :
    Bytes.words (Bytes.ofList (words l)) = l.toArray := by
  apply Array.ext'
  apply List.ext_getElem?
  -- word by word
  intro i
  rw [Array.getElem?_toList]
  cases hi : l[i]? with
  | none =>
    -- there are no more words than were written
    have hlen : l.length ≤ i := List.getElem?_eq_none_iff.mp hi
    rw [Array.getElem?_eq_none]
    rw [Bytes.size_words, Bytes.size_ofList, length_words]
    omega
  | some n =>
    have := getElem?_words hi (h n (List.mem_of_getElem? hi)) []
    rw [List.append_nil] at this
    simpa [hi] using this

end Image

/-! ### Pieces of one length -/

theorem take_drop_append {α : Type} {l : List α} {start length : Nat}
    (h : start + length ≤ l.length) (more : List α) :
    ((l ++ more).drop start).take length = (l.drop start).take length := by
  rw [List.drop_append_of_le_length (by omega), List.take_append_of_le_length]
  rw [List.length_drop]
  omega

/-- A list is put together again from its pieces. -/
theorem flatMap_eq_of_pieces {α : Type} {f : Nat → List α} {u first count : Nat} {content : List α}
    (hlen : content.length = count * u)
    (h : ∀ i < count, f (first + i) = (content.drop (i * u)).take u) :
    (List.range' first count).flatMap f = content := by
  -- piece by piece, the rest of the content being the content of the rest
  induction count generalizing first content with
  | zero =>
    rw [Nat.zero_mul] at hlen
    rw [List.length_eq_zero_iff.mp hlen]
    rfl
  | succ count ih =>
    have htail : (content.drop u).length = count * u := by
      rw [List.length_drop, hlen, Nat.succ_mul, Nat.add_sub_cancel]
    -- the first piece is what `f` gives at `first`, the others make up the rest
    have hhead := h 0 (Nat.succ_pos _)
    rw [Nat.zero_mul, Nat.add_zero, List.drop_zero] at hhead
    rw [List.range'_succ, List.flatMap_cons, hhead, ih htail, List.take_append_drop]
    intro i hi
    rw [List.drop_drop, Nat.add_comm u, ← Nat.succ_mul, Nat.add_assoc, Nat.add_comm 1]
    exact h (i + 1) (by omega)

/-! ### Stored contents -/

namespace Medium

/-- The sectors from `first` on hold `content`. -/
def Stores (m : Medium) (first : Nat) (content : List UInt8) : Prop :=
  ∃ before after, m.bytes.data.toList = before ++ content ++ after ∧
    before.length = (first + 1) * m.sectorSize

variable {m : Medium} {first count : Nat} {content : List UInt8}

/-- A part that begins with a sector is stored from that sector on. -/
theorem Stores.part {before after : List UInt8} (h : m.Stores first (before ++ content ++ after))
    (count : Nat) (hlen : before.length = count * m.sectorSize) :
    m.Stores (first + count) content := by
  obtain ⟨front, rest, hbytes, hfront⟩ := h
  refine ⟨front ++ before, after ++ rest, ?_, ?_⟩
  · rw [hbytes]
    simp only [List.append_assoc]
  · rw [List.length_append, hfront, hlen, ← Nat.add_mul]
    congr 1
    omega

theorem Stores.left {after : List UInt8} (h : m.Stores first (content ++ after)) :
    m.Stores first content := by
  obtain ⟨before, rest, hbytes, hbefore⟩ := h
  exact ⟨before, after ++ rest, by rw [hbytes]; simp only [List.append_assoc], hbefore⟩

theorem Stores.right {before : List UInt8} (h : m.Stores first (before ++ content)) (count : Nat)
    (hlen : before.length = count * m.sectorSize) : m.Stores (first + count) content := by
  rw [← List.append_nil (before ++ content)] at h
  exact h.part count hlen

theorem Stores.sector_eq (h : m.Stores first content) (hlen : content.length = m.sectorSize) :
    m.sector first = Bytes.ofList content := by
  obtain ⟨before, after, hbytes, hbefore⟩ := h
  rw [← Bytes.toList_inj, sector, Bytes.toList_slice, Bytes.toList_ofList, hbytes, offset,
    ← hbefore, List.append_assoc, List.drop_left, ← hlen, List.take_left]

theorem Stores.hasSector (h : m.Stores first content) (hlen : content.length = count * m.sectorSize)
    {i : Nat} (hi : i < count) : m.hasSector (first + i) = true := by
  obtain ⟨before, after, hbytes, hbefore⟩ := h
  have hsize : m.bytes.size = (first + 1) * m.sectorSize + count * m.sectorSize + after.length := by
    rw [← Bytes.length_toList, hbytes, List.length_append, List.length_append, hbefore, hlen]
  have hle := Nat.mul_le_mul_right m.sectorSize (show i + 1 ≤ count by omega)
  rw [Medium.hasSector, decide_eq_true_eq, offset, hsize, Nat.add_right_comm, Nat.add_mul _ i,
    Nat.add_mul]
  rw [Nat.succ_mul] at hle
  omega

theorem Stores.toList_sector (h : m.Stores first content)
    (hlen : content.length = count * m.sectorSize) {i : Nat} (hi : i < count) :
    (m.sector (first + i)).data.toList =
      (content.drop (i * m.sectorSize)).take m.sectorSize := by
  obtain ⟨before, after, hbytes, hbefore⟩ := h
  have hle := Nat.mul_le_mul_right m.sectorSize (show i + 1 ≤ count from hi)
  rw [Nat.succ_mul] at hle
  rw [sector, Bytes.toList_slice, hbytes, offset, Nat.add_right_comm, Nat.add_mul, ← hbefore,
    ← List.drop_drop, List.append_assoc, List.drop_left]
  exact take_drop_append (by omega) after

end Medium

/-! ### The allocation table -/

namespace Allocation

variable {m : Medium} {first count : Nat} {links : List Nat}

theorem hasSector_of_stores {perSector : Nat} (hper : 4 * perSector = m.sectorSize)
    (h : m.Stores first (Image.words links)) (hlen : links.length = count * perSector) :
    ∀ n ∈ List.range' first count, m.hasSector n = true := by
  intro n hn
  obtain ⟨i, hi, rfl⟩ := List.mem_range'.mp hn
  rw [Nat.one_mul]
  refine h.hasSector ?_ hi
  rw [Image.length_words, hlen, ← hper, Nat.mul_left_comm]

/-- Sector after sector, the links that were written are added to the table. -/
theorem foldl_of_stores {perSector : Nat} (hper : 4 * perSector = m.sectorSize)
    (h : m.Stores first (Image.words links)) (hlen : links.length = count * perSector)
    (hlt : ∀ n ∈ links, n < 2 ^ 32) (hall : ∀ n ∈ List.range' first count, m.hasSector n = true)
    (table : Array Nat) :
    (List.range' first count).foldl
      (fun table n => if m.hasSector n then table ++ Bytes.words (m.sector n) else table) table =
        table ++ links.toArray := by
  -- sector by sector, with the table so far free
  induction count generalizing first links table with
  | zero =>
    rw [Nat.zero_mul] at hlen
    rw [List.length_eq_zero_iff.mp hlen]
    simp
  | succ count ih =>
    have hle : perSector ≤ links.length := by
      rw [hlen, Nat.succ_mul]
      exact Nat.le_add_left ..
    have hhead : (links.take perSector).length = perSector := List.length_take_of_le hle
    have htail : (links.drop perSector).length = count * perSector := by
      rw [List.length_drop, hlen, Nat.succ_mul, Nat.add_sub_cancel]
    have hsector : (Image.words (links.take perSector)).length = m.sectorSize := by
      rw [Image.length_words, hhead, hper]
    -- the first sector has the first links, and what follows is stored behind it
    rw [← List.take_append_drop perSector links, Image.words_append] at h
    rw [List.range'_succ] at hall ⊢
    rw [List.foldl_cons, if_pos (hall first (List.mem_cons_self ..)), h.left.sector_eq hsector,
      Image.words_ofList_words fun n hn => hlt n (List.mem_of_mem_take hn),
      ih (h.right 1 (by rw [hsector, Nat.one_mul])) htail
        (fun n hn => hlt n (List.mem_of_mem_drop hn))
        (fun n hn => hall n (List.mem_cons_of_mem _ hn)),
      Array.append_assoc]
    congr 1
    rw [List.append_toArray, List.take_append_drop]

/-- A table in consecutive sectors is read as it was written. -/
theorem load_of_stores {perSector : Nat} (hper : 4 * perSector = m.sectorSize)
    (h : m.Stores first (Image.words links)) (hlen : links.length = count * perSector)
    (hlt : ∀ n ∈ links, n < 2 ^ 32) :
    load m (List.range' first count).toArray = ⟨links.toArray, []⟩ := by
  have hall := hasSector_of_stores hper h hlen
  have hfold := foldl_of_stores hper h hlen hlt hall #[]
  -- the notices would be about sectors that are not in the file, and all of them are
  rw [load]
  congr 1
  · rw [← Array.foldl_toList]
    exact hfold.trans Array.empty_append
  · rw [List.map_eq_nil_iff, List.filter_eq_nil_iff]
    intro n hn
    simp [hall n hn]

/-- A list sector is read as it was written: the entries among all its words but the last, and the last
word as the link to the next one. -/
theorem read_listWords {entries : List Nat} {next : Nat}
    (hlt : ∀ n ∈ entries ++ [next], n < 2 ^ 32) :
    let b := Bytes.ofList (Image.words (entries ++ [next]))
    listEntries b = (entries.filter (! isSentinel ·)).toArray ∧ nextList b = next := by
  have hnumber := Image.number_words (l := entries ++ [next]) List.getElem?_concat_length []
  rw [List.append_nil, Nat.mod_eq_of_lt (hlt next List.mem_concat_self)] at hnumber
  constructor
  · rw [listEntries, Image.words_ofList_words hlt, List.pop_toArray, List.dropLast_concat,
      List.filter_toArray' List.size_toArray]
  · rw [nextList, Bytes.size_ofList, Image.length_words, List.length_append, List.length_singleton]
    exact hnumber

end Allocation

end InstallerPackage
