import InstallerPackage.Proofs.CodePages
import InstallerPackage.Proofs.Summary.Entries
import InstallerPackage.Summary.PropertySet

/-!
# Reading a property set that was written

The table of a written property set is followed by the values, in the same order and each with some
zeros behind it, so that the place of a value depends on all the values in front of it. The proofs take
a list of properties apart at one of them: `PropertySet.exists_row` and `PropertySet.exists_value` are
the bytes around its row and around its value.

* `Content.read?_bytes` reads a value back, whatever stands in front of it and behind it.
* `PropertySet.readings_write` says that a written set has, for every field, the values of the
  properties with its number and its type.
* `PropertySet.apply_write` is the round trip.
-/

namespace InstallerPackage

namespace Summary

open Bytes

variable {page : CodePage} {f : Field}

/-! ### Values -/

theorem Kind.code_injective : Function.Injective Kind.code := by
  intro k l h
  have hk := Kind.ofCode?_code k
  rw [h, Kind.ofCode?_code l] at hk
  exact (Option.some.inj hk).symm

namespace Content

/-- What stands behind the type of a value. -/
def payload : Content → List UInt8
  | short n => little 2 n ++ little 2 0
  | long n => little 4 n
  | text bytes => little 4 (bytes.length + 1) ++ (bytes ++ [0])
  | time ticks => little 8 ticks

theorem bytes_eq (c : Content) : c.bytes = little 4 c.kind.code ++ c.payload := by
  cases c <;> simp only [bytes, payload, kind, List.append_assoc]

section Reading

variable {c : Content} {width n : Nat} {rest : List UInt8} (before after : List UInt8)

theorem number_type : number (ofList (before ++ (c.bytes ++ after))) before.length 4 = c.kind.code := by
  rw [bytes_eq, List.append_assoc, number_ofList_between]
  cases c <;> rfl

/-- The number behind the type of a value. -/
theorem number_payload (hpayload : c.payload = little width n ++ rest) (hn : n < 256 ^ width) :
    number (ofList (before ++ (c.bytes ++ after))) (before.length + 4) width = n := by
  have hbetween := number_ofList_between width n (before ++ little 4 c.kind.code) (rest ++ after)
  rw [List.length_append, length_little, Nat.mod_eq_of_lt hn] at hbetween
  rw [bytes_eq, hpayload]
  simpa only [List.append_assoc] using hbetween

theorem size_payload (hpayload : c.payload = little width n ++ rest) :
    (ofList (before ++ (c.bytes ++ after))).size =
      before.length + (4 + (width + (rest.length + after.length))) := by
  rw [bytes_eq, hpayload]
  simp only [size_ofList, List.length_append, length_little]
  omega

/-- The bytes of a text, with the zero behind them. -/
theorem slice_text (bytes : List UInt8) :
    slice (ofList (before ++ ((text bytes).bytes ++ after))) (before.length + 8) (bytes.length + 1) =
      ofList (bytes ++ [0]) := by
  have hsplit : before ++ ((text bytes).bytes ++ after) =
      (before ++ little 4 Kind.text.code ++ little 4 (bytes.length + 1)) ++
        ((bytes ++ [0]) ++ after) := by
    simp only [Content.bytes, List.append_assoc]
  rw [hsplit, slice_ofList, List.drop_left', List.take_left']
  · simp only [List.length_append, List.length_singleton]
  · simp only [List.length_append, length_little]

/-- **A value is read back**, whatever stands in front of it and behind it. -/
theorem read?_bytes (h : c.Fits) :
    Value.read? c.kind page (ofList (before ++ (c.bytes ++ after))) before.length =
      some (c.value page) := by
  -- by type; each payload is a number of its own width, with what is left of the value behind it
  cases c with
  | short n =>
    have hpayload : (short n).payload = little 2 n ++ little 2 0 := rfl
    have hsize := size_payload before after hpayload
    have hnumber := number_payload before after hpayload h
    change (if _ then none else some (Value.number _)) = _
    rw [if_neg (by omega), hnumber, value]
  | long n =>
    have hpayload : (long n).payload = little 4 n ++ [] := (List.append_nil _).symm
    have hsize := size_payload before after hpayload
    have hnumber := number_payload before after hpayload h
    change (if _ then none else some (Value.number _)) = _
    rw [if_neg (by omega), hnumber, value]
  | time ticks =>
    have hpayload : (time ticks).payload = little 8 ticks ++ [] := (List.append_nil _).symm
    have hsize := size_payload before after hpayload
    have hnumber := number_payload before after hpayload h
    change (if _ then none else some (Value.number _)) = _
    rw [if_neg (by omega), hnumber, value]
  | text bytes =>
    have hpayload : (text bytes).payload = little 4 (bytes.length + 1) ++ (bytes ++ [0]) := rfl
    have hsize := size_payload before after hpayload
    have hnumber := number_payload before after hpayload h
    rw [List.length_append, List.length_singleton] at hsize
    -- a text has its length in front, the closing zero counted
    change some (Value.text (readText page _ _)) = _
    rw [readText, if_neg (by omega)]
    dsimp only
    -- all bytes are there, and the zero that was written behind them is trimmed
    rw [hnumber, Nat.min_eq_left (by omega), slice_text, CodePage.decodeTrimmed,
      trimZeros_ofList_concat_zero, value, CodePage.decodeTrimmed]

end Reading

end Content

/-! ### The layout -/

namespace PropertySet

/-- The rows behind some properties give offsets behind the values of these. -/
theorem table_append (offset : Nat) (front rest : List Property) :
    table offset (front ++ rest) =
      table offset front ++ table (offset + (values front).length) rest := by
  induction front generalizing offset with
  | nil => rfl
  | cons p front ih =>
    simp only [List.cons_append, table, ih, values, List.flatMap_cons, List.length_append,
      List.append_assoc, Nat.add_assoc]

theorem values_append (front rest : List Property) :
    values (front ++ rest) = values front ++ values rest := List.flatMap_append

theorem values_cons (p : Property) (rest : List Property) :
    values (p :: rest) = p.content.padded ++ values rest := List.flatMap_cons

theorem length_body (properties : List Property) :
    (body properties).length = valuesPlace properties.length + (values properties).length := by
  simp only [body, List.length_append, length_little, length_table, valuesPlace]

theorem size_write (properties : List Property) :
    (write properties).size = 48 + (body properties).length := by
  rw [write, size_ofList, List.length_append, length_preamble, preambleSize]

/-- The section begins behind the preamble. -/
theorem sectionOf_write (properties : List Property) :
    sectionOf (write properties) = ofList (body properties) := by
  have hplace : number (write properties) 44 4 = 48 := by
    rw [write, number_ofList_prefix (by rw [length_preamble, preambleSize])]
    decide
  rw [sectionOf, hplace, ← toList_inj, toList_extract, size_write, write, toList_ofList,
    toList_ofList, List.drop_left' (show preamble.length = 48 from length_preamble),
    Nat.add_sub_cancel_left, List.take_length]

/-- The place of a value in the section. -/
def placeOf (properties : List Property) (i : Nat) : Nat :=
  valuesPlace properties.length + (values (properties.take i)).length

variable {properties : List Property} {p : Property} {i : Nat}

/-- A list can be taken apart at any of its places. -/
theorem eq_take_cons_drop (hp : properties[i]? = some p) :
    properties = properties.take i ++ p :: properties.drop (i + 1) := by
  obtain ⟨hi, rfl⟩ := List.getElem?_eq_some_iff.mp hp
  rw [List.getElem_cons_drop, List.take_append_drop]

/-- The size of a section and the number of its properties. -/
def head (properties : List Property) : List UInt8 :=
  little 4 (body properties).length ++ little 4 properties.length

theorem length_head : (head properties).length = 8 := by
  simp only [head, List.length_append, length_little]

theorem body_eq (properties : List Property) :
    body properties =
      head properties ++ table (valuesPlace properties.length) properties ++ values properties := by
  rw [head, length_body, body]

/-- The row of a property, and what stands around it. -/
theorem exists_row (hp : properties[i]? = some p) :
    ∃ before after, before.length = 8 + 8 * i ∧ body properties =
      before ++ (little 4 p.id ++ (little 4 (placeOf properties i) ++ after)) := by
  have hi : i ≤ properties.length := (List.getElem?_eq_some_iff.mp hp).1.le
  -- the table splits at the row, whose place is where the values in front of it end
  have htable := table_append (valuesPlace properties.length) (properties.take i)
    (p :: properties.drop (i + 1))
  rw [← eq_take_cons_drop hp, table, ← placeOf] at htable
  refine ⟨head properties ++ table (valuesPlace properties.length) (properties.take i),
    table (placeOf properties i + p.content.padded.length) (properties.drop (i + 1)) ++
      values properties, ?_, ?_⟩
  · rw [List.length_append, length_head, length_table, List.length_take_of_le hi]
  · rw [body_eq, htable]
    simp only [List.append_assoc]

/-- The value of a property, and what stands around it. -/
theorem exists_value (hp : properties[i]? = some p) :
    ∃ before after, before.length = placeOf properties i ∧ body properties =
      before ++ (p.content.bytes ++ after) := by
  obtain ⟨zeros, hzeros⟩ : ∃ zeros, p.content.padded = p.content.bytes ++ zeros := ⟨_, rfl⟩
  have hvalues := values_append (properties.take i) (p :: properties.drop (i + 1))
  rw [← eq_take_cons_drop hp, values_cons, hzeros] at hvalues
  refine ⟨head properties ++ table (valuesPlace properties.length) properties ++
    values (properties.take i), zeros ++ values (properties.drop (i + 1)), ?_, ?_⟩
  · rw [List.length_append, List.length_append, length_head, length_table, placeOf, valuesPlace]
  · rw [body_eq, hvalues]
    simp only [List.append_assoc]

/-! ### Reading it back -/

/-- Readings that are all the same leave no choice. -/
theorem lastOf_eq_some {readings : List (Option Value)} {v : Value} (hmem : some v ∈ readings)
    (h : ∀ x ∈ readings, x = some v) : lastOf readings = some v := by
  have hmem' : v ∈ readings.filterMap id := List.mem_filterMap.mpr ⟨some v, hmem, rfl⟩
  cases hlast : lastOf readings with
  | none =>
    rw [List.getLast?_eq_none_iff.mp hlast] at hmem'
    exact absurd hmem' List.not_mem_nil
  | some w =>
    obtain ⟨x, hx, rfl⟩ := List.mem_filterMap.mp (List.mem_of_getLast? hlast)
    exact h _ hx

/-- What can be written: numbers and values have room in their fields, and so have the offsets. -/
structure Writable (properties : List Property) : Prop where
  ids : ∀ p ∈ properties, p.id < 2 ^ 32
  fits : ∀ p ∈ properties, p.content.Fits
  small : (write properties).size < 2 ^ 32

namespace Writable

theorem length_lt (h : Writable properties) : (body properties).length < 2 ^ 32 := by
  have hsize := h.small
  rw [size_write] at hsize
  omega

/-- A value begins inside the section, so its place has room in the table. -/
theorem placeOf_lt (h : Writable properties) (hp : properties[i]? = some p) :
    placeOf properties i < 2 ^ 32 := by
  obtain ⟨before, after, hlength, hbody⟩ := exists_value hp
  have hlt := h.length_lt
  rw [hbody, List.length_append] at hlt
  omega

theorem declaredCount_body (h : Writable properties) :
    declaredCount (ofList (body properties)) = properties.length := by
  have hlt := h.length_lt
  have hcount := number_ofList_between 4 properties.length (little 4 (body properties).length)
    (table (valuesPlace properties.length) properties ++ values properties)
  rw [length_little, ← List.append_assoc, ← List.append_assoc, ← head, ← body_eq] at hcount
  rw [declaredCount, hcount, Nat.mod_eq_of_lt]
  rw [length_body, valuesPlace] at hlt
  omega

/-- The section has room for all its entries. -/
theorem length_le_possibleCount (properties : List Property) :
    properties.length ≤ possibleCount (ofList (body properties)) := by
  rw [possibleCount, size_ofList, length_body, valuesPlace]
  omega

/-- The preamble and the head of the section are there. -/
theorem not_short (properties : List Property) :
    ¬ ((write properties).size < 48 ∨ (ofList (body properties)).size < 8) := by
  rw [size_write, size_ofList, length_body, valuesPlace]
  omega

theorem entryCount_write (h : Writable properties) :
    entryCount (write properties) = properties.length := by
  rw [entryCount, sectionOf_write, if_neg (not_short properties), ← declaredCount, ← possibleCount,
    h.declaredCount_body, Nat.min_eq_left (length_le_possibleCount properties)]

/-- No entries have to be left out. -/
theorem notices_apply_write (h : Writable properties) (s : Summary) :
    (apply (write properties) s).notices = [] := by
  unfold apply
  rw [body?_eq, sectionOf_write, if_neg (not_short properties)]
  dsimp only
  split
  · next hcut =>
    have hcount := length_le_possibleCount properties
    rw [h.declaredCount_body] at hcut
    exact absurd hcut (Nat.not_lt.mpr hcount)
  · rfl

theorem number_id (h : Writable properties) (hp : properties[i]? = some p) :
    number (ofList (body properties)) (8 + 8 * i) 4 = p.id := by
  obtain ⟨before, after, hlength, hbody⟩ := exists_row hp
  rw [hbody, ← hlength, number_ofList_between]
  exact Nat.mod_eq_of_lt (h.ids p (List.mem_of_getElem? hp))

theorem valuePlace_body (h : Writable properties) (hp : properties[i]? = some p) :
    valuePlace (ofList (body properties)) i = placeOf properties i := by
  obtain ⟨before, after, hlength, hbody⟩ := exists_row hp
  -- the offset is the second number of the row
  have hnumber := number_ofList_between 4 (placeOf properties i) (before ++ little 4 p.id) after
  rw [List.append_assoc, ← hbody, List.length_append, length_little, hlength,
    Nat.mod_eq_of_lt (show placeOf properties i < 256 ^ 4 from h.placeOf_lt hp)] at hnumber
  rw [valuePlace, ← hnumber]
  congr 1
  omega

/-- An entry is for a field if the property has its number and its type. -/
theorem isFor_iff (h : Writable properties) (hp : properties[i]? = some p) :
    IsFor (ofList (body properties)) f i ↔ p.id = f.id ∧ p.content.kind = f.kind := by
  -- type and room can be read off the bytes at the value's place
  obtain ⟨before, after, hlength, hbody⟩ := exists_value hp
  have htype : number (ofList (body properties)) (valuePlace (ofList (body properties)) i) 4
      % 0x10000 = p.content.kind.code := by
    rw [h.valuePlace_body hp, ← hlength, hbody, Content.number_type]
    cases p.content <;> rfl
  have hroom : valuePlace (ofList (body properties)) i + 4 ≤ (ofList (body properties)).size := by
    rw [h.valuePlace_body hp, ← hlength, hbody, Content.bytes_eq]
    simp only [size_ofList, List.length_append, length_little]
    omega
  constructor
  · intro hfor
    exact ⟨(h.number_id hp).symm.trans hfor.id, Kind.code_injective (htype.symm.trans hfor.kind)⟩
  · rintro ⟨hid, hkind⟩
    exact ⟨hroom, (h.number_id hp).trans hid, htype.trans (congrArg Kind.code hkind)⟩

theorem valueAt?_body (h : Writable properties) (hp : properties[i]? = some p)
    (hkind : p.content.kind = f.kind) :
    valueAt? (ofList (body properties)) page f i = some (p.content.value page) := by
  obtain ⟨before, after, hlength, hbody⟩ := exists_value hp
  rw [valueAt?, h.valuePlace_body hp, ← hkind, ← hlength, hbody]
  exact Content.read?_bytes before after (h.fits p (List.mem_of_getElem? hp))

/-- The readings of a written set for a field are the values of the properties with its number and its
type, in their order. -/
theorem readings_write (h : Writable properties) (page : CodePage) (f : Field) :
    readings (write properties) page f =
      (properties.filter fun p => p.id = f.id ∧ p.content.kind = f.kind).map fun p =>
        some (p.content.value page) := by
  have hget (i : Fin properties.length) : properties[i.1]? = some properties[i.1] :=
    List.getElem?_eq_getElem i.2
  have hplaces : readings (write properties) page f =
      ((List.finRange properties.length).filter fun i : Fin properties.length =>
        decide (IsFor (ofList (body properties)) f i.1)).map
          fun i : Fin properties.length => valueAt? (ofList (body properties)) page f i.1 := by
    rw [readings, h.entryCount_write, sectionOf_write, ← List.map_coe_finRange_eq_range,
      List.filter_map, List.map_map]
    rfl
  have hfilter : ((List.finRange properties.length).filter fun i : Fin properties.length =>
        decide (IsFor (ofList (body properties)) f i.1)) =
      (List.finRange properties.length).filter fun i : Fin properties.length =>
        decide (properties[i.1].id = f.id ∧ properties[i.1].content.kind = f.kind) :=
    List.filter_congr fun i _ => decide_eq_decide.mpr (h.isFor_iff (hget i))
  rw [hplaces, hfilter]
  -- the properties, too, are read off their places
  conv_rhs => rw [← List.map_getElem_finRange properties, List.filter_map, List.map_map]
  refine List.map_congr_left fun i hi => ?_
  have hmatch := of_decide_eq_true (List.mem_filter.mp hi).2
  exact h.valueAt?_body (hget i) hmatch.2

/-- If the numbers are distinct, a field has one reading if there is a property for it. -/
theorem lastOf_readings (h : Writable properties) (hdistinct : (properties.map Property.id).Nodup)
    (hp : p ∈ properties) (hid : p.id = f.id) (hkind : p.content.kind = f.kind) :
    lastOf (readings (write properties) page f) = some (p.content.value page) := by
  rw [h.readings_write]
  refine lastOf_eq_some ?_ fun v hv => ?_
  · refine List.mem_map.mpr ⟨p, List.mem_filter.mpr ⟨hp, ?_⟩, rfl⟩
    exact decide_eq_true ⟨hid, hkind⟩
  · -- another property with the same number would be the same one
    obtain ⟨q, hq, rfl⟩ := List.mem_map.mp hv
    obtain ⟨hq, hmatch⟩ := List.mem_filter.mp hq
    have hsame : q.id = p.id := (of_decide_eq_true hmatch).1.trans hid.symm
    rw [List.inj_on_of_nodup_map hdistinct hq hp hsame]

/-- Without a property for it a field has no reading. -/
theorem lastOf_readings_eq_none (h : Writable properties)
    (hnone : ∀ p ∈ properties, ¬ (p.id = f.id ∧ p.content.kind = f.kind)) :
    lastOf (readings (write properties) page f) = none := by
  have hfilter : (properties.filter fun p => p.id = f.id ∧ p.content.kind = f.kind) = [] :=
    List.filter_eq_nil_iff.mpr fun p hp hmatch => hnone p hp (of_decide_eq_true hmatch)
  rw [h.readings_write, hfilter]
  rfl

end Writable

/-- The code page that some properties declare: that of property 1, if there is one and it has the type
of code pages, or else Latin-1. -/
def declaredPage (properties : List Property) : CodePage :=
  match properties.find? (·.id = 1) with
  | some ⟨_, .short n⟩ => .ofNumber n
  | _ => .latin1

/-- Texts are read in the code page that the properties declare. -/
theorem Writable.pageIn_write (h : Writable properties)
    (hdistinct : (properties.map Property.id).Nodup) :
    pageIn (write properties) = declaredPage properties := by
  rw [pageIn, declaredPage]
  -- the page is declared by the property with that number, if it is of the right type
  cases hfind : properties.find? (·.id = 1) with
  | none =>
    rw [h.lastOf_readings_eq_none fun p hp hmatch => ?_]
    · rfl
    · have hno := List.find?_eq_none.mp hfind p hp
      exact hno (decide_eq_true hmatch.1)
  | some p =>
    have hp := List.mem_of_find?_eq_some hfind
    have hfound := List.find?_some hfind
    have hid : p.id = Field.codePage.id := of_decide_eq_true hfound
    obtain ⟨id, content⟩ := p
    cases content with
    | short n =>
      rw [h.lastOf_readings hdistinct hp hid rfl]
      rfl
    | long | text | time =>
      -- there is no other property with the number of the code page
      rw [h.lastOf_readings_eq_none fun q hq hmatch => ?_]
      · rfl
      · have hsame := List.inj_on_of_nodup_map hdistinct hq hp (hmatch.1.trans hid.symm)
        rw [hsame] at hmatch
        cases hmatch.2

/-- **What is written is read back.** From a property set with distinct numbers, without a notice,
every field gets the value of the property with its number and its type, texts without zeros at their
end and in the code page that is declared, and no other field is touched. -/
theorem apply_write (properties : List Property) (h : Writable properties)
    (hdistinct : (properties.map Property.id).Nodup) :
    (apply (write properties) {}).notices = [] ∧
    (∀ p ∈ properties, ∀ f : Field, p.id = f.id → p.content.kind = f.kind →
      (apply (write properties) {}).value.get f = p.content.value (declaredPage properties)) ∧
    (∀ f : Field, (∀ p ∈ properties, ¬ (p.id = f.id ∧ p.content.kind = f.kind)) →
      (apply (write properties) {}).value.get f = ({} : Summary).get f) ∧
    (apply (write properties) {}).value.totalSize = 0 := by
  -- by what every field has after a run: its last reading, or what it had
  refine ⟨h.notices_apply_write {}, ?_, ?_, totalSize_apply _ {}⟩
  · intro p hp f hid hkind
    rw [get_apply, h.pageIn_write hdistinct, h.lastOf_readings hdistinct hp hid hkind,
      Option.getD_some]
  · intro f hnone
    rw [get_apply, h.lastOf_readings_eq_none hnone, Option.getD_none]

/-- A title in front of its code page, a time, a number of the wrong type, and an empty text. -/
def described (page : Nat) (title : List UInt8) : List Property :=
  [⟨2, .text title⟩, ⟨1, .short page⟩, ⟨12, .time 116444736010000000⟩, ⟨14, .short 7⟩,
    ⟨4, .text []⟩, ⟨19, .long 2⟩]

/-- The title may be in UTF-8, or in a page whose characters have two bytes. -/
theorem apply_write_described :
    (Writable (described 65001 [0xC3, 0xA9, 0]) ∧
      ((described 65001 [0xC3, 0xA9, 0]).map Property.id).Nodup ∧
      (apply (write (described 65001 [0xC3, 0xA9, 0])) {}).notices = [] ∧
      (apply (write (described 65001 [0xC3, 0xA9, 0])) {}).value =
        { title := "é", codePage := 65001, createTime := 1, security := 2 }) ∧
    (Writable (described 1361 [0xD0, 0x65, 0x8B, 0x69]) ∧
      ((described 1361 [0xD0, 0x65, 0x8B, 0x69]).map Property.id).Nodup ∧
      (apply (write (described 1361 [0xD0, 0x65, 0x8B, 0x69])) {}).notices = [] ∧
      (apply (write (described 1361 [0xD0, 0x65, 0x8B, 0x69])) {}).value =
        { title := "한글", codePage := 1361, createTime := 1, security := 2 }) := by
  have hread : ∀ (page : Nat) (title : List UInt8) (text : String),
      Writable (described page title) → (CodePage.ofNumber page).decodeTrimmed (ofList title) = text →
      Writable (described page title) ∧ ((described page title).map Property.id).Nodup ∧
        (apply (write (described page title)) {}).notices = [] ∧
        (apply (write (described page title)) {}).value =
          { title := text, codePage := page, createTime := 1, security := 2 } := by
    -- all properties but the title are the same in both samples
    intro page title text hwritable htext
    have hdistinct : ((described page title).map Property.id).Nodup :=
      (by decide : [2, 1, 12, 14, 4, 19].Nodup)
    obtain ⟨hnotices, hfields, hother, hsize⟩ := apply_write (described page title) hwritable hdistinct
    refine ⟨hwritable, hdistinct, hnotices, ext_get (fun f => ?_) hsize⟩
    cases f
    case codePage => exact hfields ⟨1, .short page⟩ (by simp [described]) _ rfl rfl
    case title =>
      exact (hfields ⟨2, .text title⟩ (by simp [described]) _ rfl rfl).trans (congrArg Value.text htext)
    case author =>
      exact (hfields ⟨4, .text []⟩ (by simp [described]) _ rfl rfl).trans
        (congrArg Value.text (CodePage.decode_of_size_eq_zero _ rfl))
    case createTime =>
      refine (hfields ⟨12, .time 116444736010000000⟩ (by simp [described]) _ rfl rfl).trans ?_
      exact congrArg Value.number (by decide +kernel : Time.ofTicks 116444736010000000 = 1)
    case security => exact hfields ⟨19, .long 2⟩ (by simp [described]) _ rfl rfl
    -- the sample has no property for what is left
    all_goals exact hother _ (by simp [described, Field.id, Field.kind, Content.kind])
  exact ⟨hread 65001 _ _ ⟨by decide, by simp [described, Content.Fits], by decide +kernel⟩ (by decide +kernel),
    hread 1361 _ _ ⟨by decide, by simp [described, Content.Fits], by decide +kernel⟩ (by decide +kernel)⟩

end PropertySet

end Summary

end InstallerPackage
