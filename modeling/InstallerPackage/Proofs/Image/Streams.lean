import InstallerPackage.Proofs.Image.Loading
import InstallerPackage.Proofs.Packages

/-!
# Looking up streams in a written file

A look-up in the directory takes the first record that fits, whatever it is looked up by. In a file
that was written for an outline this is the record of the first entry that fits
(`Outline.Listed.find?`), so a stream is found by its name, with its bytes (`Image.Holding.find?`),
if nothing in front of it has the same name (`Outline.Has`).

`Outline.ofStreams` is the simplest outline that holds some streams: there is nothing besides. A
file that was written for it has a record for each of the streams, in their order, and for no others
(`Image.Holding.exists_record`, `Image.Holding.of_isStream`). `Package.exists_load_write` opens a
written file as a package.
-/

namespace InstallerPackage

open Image

namespace Outline

variable {order : Name → Name → Bool} {o : Outline} {d : Directory} {stream : Name × List UInt8}
  {streams : List (Name × List UInt8)}

/-- The first record with some property is that of the first entry with it. -/
theorem Listed.find? (h : Listed order o d) {q : Record → Bool} {P : ObjectKind → Name → Bool}
    (hq : ∀ r, q r = P r.kind r.name) (hroot : P .root rootName = false) {i : Nat} {e : Entry}
    (he : o[i]? = some e) (hyes : P (item order o e (i + 1)).kind e.name = true)
    (hno : ∀ (j : Nat) (f : Entry), j < i → o[j]? = some f →
      P (item order o f (j + 1)).kind f.name = false) :
    d.records.find? q = d.records[i + 1]? := by
  obtain ⟨start, size, r, hr, hshows⟩ := h.entry i e he
  obtain ⟨hi, hget⟩ := Array.getElem?_eq_some_iff.mp hr
  rw [hr, Array.find?_eq_some_iff_getElem]
  refine ⟨?_, i + 1, hi, hget, fun j hj => ?_⟩
  · rw [hq, hshows.kind, hshows.name, item_name, hyes]
  · -- in front of it stand the root's record and those of other entries
    cases j with
    | zero =>
      obtain ⟨start, size, hshows⟩ := h.root
      have hzero : d.records[0] = d.root := rfl
      rw [hzero, hq, hshows.kind, hshows.name]
      change (!P .root rootName) = true
      rw [hroot]
      rfl
    | succ j =>
      have hlt : j < o.length := by
        have := (List.getElem?_eq_some_iff.mp he).1
        omega
      have hf : o[j]? = some o[j] := List.getElem?_eq_getElem hlt
      obtain ⟨start, size, r', hr', hshows'⟩ := h.entry j _ hf
      obtain ⟨hj', hget'⟩ := Array.getElem?_eq_some_iff.mp hr'
      rw [hget', hq, hshows'.kind, hshows'.name, item_name, hno j _ (by omega) hf]
      rfl

/-- The outline has a stream of that name with those bytes, and no entry of the same name in front
of it. -/
def Has (o : Outline) (stream : Name × List UInt8) : Prop :=
  ∃ (i : Nat) (e : Entry), o[i]? = some e ∧ e.name.decode = stream.1 ∧ e.payload = some stream.2 ∧
    ∀ (j : Nat) (f : Entry), j < i → o[j]? = some f → f.name.decode ≠ stream.1

/-- Some streams, all of them in the root. Their names are stored as they are. -/
def ofStreams (streams : List (Name × List UInt8)) : Outline :=
  streams.map fun stream => { name := stream.1, payload := some stream.2 }

/-- The names of streams can be stored in a directory, and they are different from each other. -/
structure Storable (streams : List (Name × List UInt8)) : Prop where
  length : ∀ stream ∈ streams, 1 ≤ stream.1.length ∧ stream.1.length < Record.nameUnits
  units : ∀ stream ∈ streams, ∀ c ∈ stream.1, c < 2 ^ 16
  slash : ∀ stream ∈ streams, Name.slash ∉ stream.1.decode
  distinct : (streams.map fun stream => stream.1.decode).Nodup

theorem Storable.index_eq (h : Storable streams) {i j : Nat} {e f : Entry}
    (he : (ofStreams streams)[i]? = some e) (hf : (ofStreams streams)[j]? = some f)
    (hname : e.name.decode = f.name.decode) : i = j := by
  rw [ofStreams, List.getElem?_map] at he hf
  obtain ⟨s, hs, rfl⟩ := Option.map_eq_some_iff.mp he
  obtain ⟨s', hs', rfl⟩ := Option.map_eq_some_iff.mp hf
  have hi := (List.getElem?_eq_some_iff.mp hs).1
  refine (List.getElem?_inj (by rwa [List.length_map]) h.distinct).mp ?_
  rw [List.getElem?_map, List.getElem?_map, hs, hs']
  exact congrArg some hname

theorem wellFormed_ofStreams (h : Storable streams) : (ofStreams streams).WellFormed where
  parent i e he := by
    obtain ⟨stream, -, rfl⟩ := List.mem_map.mp (List.mem_of_getElem? he)
    exact ⟨Nat.zero_le _, .inl rfl⟩
  length e he := by
    obtain ⟨stream, hstream, rfl⟩ := List.mem_map.mp he
    exact h.length stream hstream
  units e he := by
    obtain ⟨stream, hstream, rfl⟩ := List.mem_map.mp he
    exact h.units stream hstream
  slash e he := by
    obtain ⟨stream, hstream, rfl⟩ := List.mem_map.mp he
    exact h.slash stream hstream
  distinct _ _ _ _ he hf _ hname := h.index_eq he hf hname

theorem has_ofStreams (h : Storable streams) (hstream : stream ∈ streams)
    (hplain : stream.1.decode = stream.1) : (ofStreams streams).Has stream := by
  obtain ⟨i, hi⟩ := List.mem_iff_getElem?.mp hstream
  have he : (ofStreams streams)[i]? = some { name := stream.1, payload := some stream.2 } := by
    rw [ofStreams, List.getElem?_map, hi, Option.map_some]
  refine ⟨i, _, he, hplain, rfl, fun j f hlt hf hname => Nat.ne_of_lt hlt ?_⟩
  exact h.index_eq hf he (hname.trans hplain.symm)

end Outline

/-- A stream is found by its name, and it has its bytes. -/
theorem Image.Holding.find? {l : Layout} {o : Outline} {c : Container} (h : Holding l o c)
    {stream : Name × List UInt8} (hroot : Outline.rootName.decode ≠ stream.1)
    (hhas : o.Has stream) :
    ∃ r, Database.find? c stream.1 = some r ∧ r.size = stream.2.length ∧
      c.volume.readRecord r = ⟨Bytes.ofList stream.2, []⟩ := by
  -- the record that is found is the one of the entry, and its bytes are the payload
  obtain ⟨i, e, he, hname, hpayload, hfirst⟩ := hhas
  obtain ⟨r, x, hr, -, -, hsize, -⟩ := h.stream he hpayload
  have hfind := h.listed.find? (q := Directory.named stream.1)
    (P := fun _ name => name.decode == stream.1) (fun r => rfl) (beq_eq_false_iff_ne.mpr hroot) he
    (beq_iff_eq.mpr hname) fun j f hj hf => beq_eq_false_iff_ne.mpr (hfirst j f hj hf)
  refine ⟨r, hfind.trans hr, hsize, ?_⟩
  rw [h.readRecord _ r hr, Outline.payloadAt, he, Option.bind_some, hpayload, Option.getD_some]

namespace Image.Holding

variable {l : Layout} {streams : List (Name × List UInt8)} {c : Container}

/-- A record of a stream, as far as its stream can tell. -/
structure Represents (c : Container) (r : Record) (stream : Name × List UInt8) : Prop where
  isStream : r.isStream = true
  decoded : r.decoded = stream.1.decode
  bytes : c.volume.readRecord r = ⟨Bytes.ofList stream.2, []⟩

/-- Each of the streams has its record. -/
theorem exists_record (h : Holding l (.ofStreams streams) c) {i : Nat} {stream : Name × List UInt8}
    (hstream : streams[i]? = some stream) :
    ∃ r, c.directory.records[i + 1]? = some r ∧ Represents c r stream := by
  have he : (Outline.ofStreams streams)[i]? =
      some { name := stream.1, payload := some stream.2 } := by
    rw [Outline.ofStreams, List.getElem?_map, hstream, Option.map_some]
  obtain ⟨start, size, r, hr, hshows⟩ := h.listed.entry i _ he
  refine ⟨r, hr, ?_, ?_, ?_⟩
  · rw [Record.isStream, hshows.kind]
    rfl
  · rw [Record.decoded, hshows.name]
    rfl
  · rw [h.readRecord _ r hr, Outline.payloadAt, he]
    rfl

/-- There are no other records of streams. -/
theorem of_isStream (h : Holding l (.ofStreams streams) c) {j : Nat} {r : Record}
    (hr : c.directory.records[j]? = some r) (hisStream : r.isStream = true) :
    ∃ i stream, j = i + 1 ∧ streams[i]? = some stream ∧ Represents c r stream := by
  -- the root's record is in front, and behind it there is one for every stream
  cases j with
  | zero =>
    obtain ⟨start, size, hshows⟩ := h.listed.root
    rw [Directory.getElem?_root, Option.some.injEq] at hr
    rw [← hr, Record.isStream, hshows.kind] at hisStream
    cases hisStream
  | succ i =>
    cases hstream : streams[i]? with
    | none =>
      -- behind the streams there are only records that are not in use
      have hkind := h.listed.other i r hr (by rw [Outline.ofStreams, List.getElem?_map, hstream]; rfl)
      rw [Record.isStream, hkind] at hisStream
      cases hisStream
    | some stream =>
      obtain ⟨r', hr', hrepresents⟩ := h.exists_record hstream
      obtain rfl := Option.some.inj (hr.symm.trans hr')
      exact ⟨i, stream, rfl, hstream, hrepresents⟩

end Image.Holding

/-- A written file opens as a package. -/
theorem Package.exists_load_write {l : Layout} {o : Outline} (hl : l.Valid) (hw : o.WellFormed)
    (hs : (plan l (o.items l.order)).Small) (style : Manifest.Style) :
    ∃ p, (load (write l o) style).outcome.value = .ok p ∧ Holding l o p.container := by
  obtain ⟨c, hc, hholding⟩ := load_write hl hw hs
  have hquiet : c.Quiet := by
    intro r hr
    obtain ⟨i, hi⟩ := Array.mem_iff_getElem?.mp hr
    rw [hholding.readRecord i r hi]
  obtain ⟨p, hp, rfl, -⟩ := load_of_container hc hquiet style
  exact ⟨p, hp, hholding⟩

end InstallerPackage
