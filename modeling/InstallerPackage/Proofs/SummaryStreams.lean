import InstallerPackage.Proofs.Image.Streams
import InstallerPackage.Proofs.Summary.Entries
import InstallerPackage.Summary.PropertySet

/-!
# Which stream the summary is read from

The stream of summary information has a fixed name, `Package.summaryName`, but it is looked for by a
part of that name. Any stream with that part in its name can be taken for it (`Package.Resembles`),
and the first such stream in the directory is.

So the summary of a package is that of the stream with the right name as long as no record in front
of it resembles it (`Package.summary_of_load`), and the order of the records decides when there is
one: document summaries, which number their properties in another way, have such a name, too
(`Package.not_summary_by_name`).
-/

namespace InstallerPackage

open Image Summary

namespace Package

variable {b : ByteArray} {style : Manifest.Style} {p : Package} {i : Nat} {r : Record}

/-- The name of the stream of summary information. -/
def summaryName : Name := 5 :: summaryFragment

/-- A stream that can be taken for that of the summary: its name contains what is looked for. -/
structure Resembles (r : Record) : Prop where
  isStream : r.isStream = true
  fragment : summaryFragment <:+: r.decoded

theorem resembles_iff : Resembles r ↔ Directory.streamContains summaryFragment r = true := by
  rw [Directory.streamContains, Bool.and_eq_true, Name.contains_iff]
  exact ⟨fun h => ⟨h.isStream, h.fragment⟩, fun h => ⟨h.1, h.2⟩⟩

/-- The stream of the summary resembles itself. -/
theorem resembles_of_name (hstream : r.isStream = true) (hname : r.decoded = summaryName) :
    Resembles r :=
  ⟨hstream, hname ▸ List.infix_cons (List.infix_refl summaryFragment)⟩

/-- No record in front of position `i` can be taken for that of the summary. -/
def FirstAt (p : Package) (i : Nat) : Prop :=
  ∀ (j : Nat) (s : Record), j < i → p.records[j]? = some s → ¬ Resembles s

/-- The look-up ends at the first record that can be taken for that of the summary. -/
theorem findContaining?_eq_some_iff :
    p.container.directory.findContaining? summaryFragment = some r ↔
      ∃ i, p.records[i]? = some r ∧ Resembles r ∧ p.FirstAt i := by
  change p.records.find? (Directory.streamContains summaryFragment) = some r ↔ _
  rw [Array.find?_eq_some_iff_getElem, ← resembles_iff]
  constructor
  · -- a record that the look-up has passed by cannot resemble the summary's
    rintro ⟨hresembles, i, hi, hget, hfront⟩
    refine ⟨i, Array.getElem?_eq_some_iff.mpr ⟨hi, hget⟩, hresembles, fun j s hj hs hres => ?_⟩
    obtain ⟨hlt, rfl⟩ := Array.getElem?_eq_some_iff.mp hs
    have hno := hfront j hj
    rw [resembles_iff.mp hres] at hno
    cases hno
  · -- the first one that resembles it comes before all others that do
    rintro ⟨i, hr, hresembles, hfirst⟩
    obtain ⟨hi, hget⟩ := Array.getElem?_eq_some_iff.mp hr
    refine ⟨hresembles, i, hi, hget, fun j hj => ?_⟩
    have hno := hfirst j _ hj (Array.getElem?_eq_getElem (hj.trans hi))
    rw [resembles_iff, Bool.not_eq_true] at hno
    rw [hno]
    rfl

/-- If there is such a record, there is a first one, and it does not stand behind it. -/
theorem exists_first (hr : p.records[i]? = some r) (hresembles : Resembles r) :
    ∃ k s, k ≤ i ∧ p.records[k]? = some s ∧ Resembles s ∧ p.FirstAt k := by
  have hfound : (p.container.directory.findContaining? summaryFragment).isSome = true :=
    Array.find?_isSome.mpr ⟨r, Array.mem_of_getElem? hr, resembles_iff.mp hresembles⟩
  obtain ⟨s, hs⟩ := Option.isSome_iff_exists.mp hfound
  obtain ⟨k, hk, hres, hfirst⟩ := findContaining?_eq_some_iff.mp hs
  exact ⟨k, s, Nat.le_of_not_lt fun hlt => hfirst i r hlt hr hresembles, hk, hres, hfirst⟩

/-- What the stream of a record says, over what is known of a file anyway. -/
def summaryFrom (p : Package) (b : ByteArray) (r : Record) : Summary :=
  (Summary.apply (p.container.volume.readRecord r).value { totalSize := b.size }).value

/-- The first record that can be taken for that of the summary is. -/
theorem summary_of_first (hload : (load b style).outcome.value = .ok p)
    (hr : p.records[i]? = some r) (hresembles : Resembles r) (hfirst : p.FirstAt i) :
    p.summary = p.summaryFrom b r := by
  have h := loaded_of_load hload
  rw [h.summary, loadSummary, findContaining?_eq_some_iff.mpr ⟨i, hr, hresembles, hfirst⟩,
    h.container.bytes_eq]
  rfl

/-- **The summary is that of the first stream that resembles the summary's.** When there is a stream
with the summary's name, this is the stream itself or one in front of it; with nothing in front that
resembles it, it is the stream itself. Streams behind it never matter. -/
theorem summary_of_load (b : ByteArray) (style : Manifest.Style) (p : Package)
    (hload : (load b style).outcome.value = .ok p) (i : Nat) (r : Record)
    (hr : p.records[i]? = some r) (hstream : r.isStream = true) (hname : r.decoded = summaryName) :
    (∃ k s, k ≤ i ∧ p.records[k]? = some s ∧ Resembles s ∧ p.FirstAt k ∧
      p.summary = p.summaryFrom b s) ∧
    (p.FirstAt i → p.summary = p.summaryFrom b r) := by
  have hresembles := resembles_of_name hstream hname
  refine ⟨?_, summary_of_first hload hr hresembles⟩
  obtain ⟨k, s, hk, hs, hres, hfirst⟩ := exists_first hr hresembles
  exact ⟨k, s, hk, hs, hres, hfirst, summary_of_first hload hs hres hfirst⟩

/-! ### Two kinds of summaries in one file -/

/-- A property set with one text as its second property. -/
def captionBytes (caption : String) : List UInt8 :=
  PropertySet.preamble ++ PropertySet.body [⟨2, .text caption.toUTF8.data.toList⟩]

/-- The summary of a package, with a title. -/
def summaryStream : Name × List UInt8 := (summaryName, captionBytes "Setup")

/-- The summary of a document: the second property is a category. -/
def documentStream : Name × List UInt8 :=
  (5 :: Name.ofString "DocumentSummaryInformation", captionBytes "Reports")

/-- Whatever the file's size is, the caption is taken for the title. -/
theorem title_apply_caption (n : Nat) :
    (Summary.apply (Bytes.ofList summaryStream.2) { totalSize := n }).value.title = "Setup" ∧
      (Summary.apply (Bytes.ofList documentStream.2) { totalSize := n }).value.title = "Reports" := by
  rw [value_apply, value_apply, fill_eq_foldl, fill_eq_foldl]
  exact ⟨rfl, rfl⟩

theorem decode_summaryName : summaryName.decode = summaryName := by decide +kernel

/-- A file with some streams, and nothing else. -/
def streamsImage (streams : List (Name × List UInt8)) : ByteArray :=
  write .sample (.ofStreams streams)

/-- In such a file only the root stands in front of the first stream. -/
theorem firstAt_one {l : Layout} {streams : List (Name × List UInt8)}
    (h : Holding l (.ofStreams streams) p.container) : p.FirstAt 1 := by
  intro j s hj hs hresembles
  obtain ⟨i, -, rfl, -⟩ := h.of_isStream hs hresembles.isStream
  omega

/-- Both summaries can be written, in either order. -/
theorem exists_load_summaries {streams : List (Name × List UInt8)}
    (h : streams = [summaryStream, documentStream] ∨ streams = [documentStream, summaryStream]) :
    ∃ p, (load (streamsImage streams) {}).outcome.value = .ok p ∧
      Holding .sample (.ofStreams streams) p.container := by
  have hstorable : Outline.Storable streams := by
    rcases h with rfl | rfl <;> refine ⟨?_, ?_, ?_, ?_⟩ <;> decide +kernel
  have hsmall : (plan .sample ((Outline.ofStreams streams).items Layout.sample.order)).Small := by
    refine (sized_plan Layout.valid_sample _).small Layout.valid_sample ?_
    rcases h with rfl | rfl <;> decide +kernel
  exact exists_load_write Layout.valid_sample (Outline.wellFormed_ofStreams hstorable) hsmall {}

/-- The summary in front of that of a document gives the title. -/
theorem summary_of_load_setup :
    ∃ p r, (load (streamsImage [summaryStream, documentStream]) {}).outcome.value = .ok p ∧
      p.records[1]? = some r ∧ r.isStream = true ∧ r.decoded = summaryName ∧ p.FirstAt 1 ∧
      p.summary.title = "Setup" := by
  obtain ⟨p, hload, hholding⟩ := exists_load_summaries (.inl rfl)
  -- the summary's stream is the first entry, so its record is the second one
  have hstream : [summaryStream, documentStream][0]? = some summaryStream := rfl
  obtain ⟨r, hr, hrep⟩ := hholding.exists_record hstream
  have hname : r.decoded = summaryName := hrep.decoded.trans decode_summaryName
  have hfirst := firstAt_one hholding
  refine ⟨p, r, hload, hr, hrep.isStream, hname, hfirst, ?_⟩
  rw [(summary_of_load _ {} p hload 1 r hr hrep.isStream hname).2 hfirst, summaryFrom, hrep.bytes]
  exact (title_apply_caption _).1

/-- The name of the summary does not decide: in the other order the package has the document's
category for its title, although only one stream has the name of the summary. -/
theorem not_summary_by_name :
    ¬ ∀ (b : ByteArray) (style : Manifest.Style) (p : Package),
      (load b style).outcome.value = .ok p → ∀ (i : Nat) (r : Record), p.records[i]? = some r →
        r.isStream = true → r.decoded = summaryName →
        (∀ (j : Nat) (s : Record), p.records[j]? = some s → s.isStream = true →
          s.decoded = summaryName → j = i) →
        p.summary = p.summaryFrom b r := by
  intro hall
  obtain ⟨p, hload, hholding⟩ := exists_load_summaries (.inr rfl)
  have hfront : [documentStream, summaryStream][0]? = some documentStream := rfl
  have hbehind : [documentStream, summaryStream][1]? = some summaryStream := rfl
  obtain ⟨r, hr, hrep⟩ := hholding.exists_record hbehind
  obtain ⟨s, hs, hreps⟩ := hholding.exists_record hfront
  have hresembles : Resembles s := by
    refine ⟨hreps.isStream, ?_⟩
    rw [hreps.decoded, ← Name.contains_iff]
    decide +kernel
  -- the name of the first stream only contains that of the summary
  have honly : ∀ (j : Nat) (t : Record), p.records[j]? = some t → t.isStream = true →
      t.decoded = summaryName → j = 2 := by
    intro j t ht hstream hname
    obtain ⟨i, stream, rfl, hi, hrept⟩ := hholding.of_isStream ht hstream
    rw [hrept.decoded] at hname
    match i, hi with
    | 0, hi =>
      obtain rfl := Option.some.inj hi
      exact absurd hname (by decide +kernel)
    | 1, hi => rfl
  -- by the name alone the second stream would be taken, although the first one was
  have hsummary := hall _ {} p hload 2 r hr hrep.isStream
    (hrep.decoded.trans decode_summaryName) honly
  rw [summary_of_first hload hs hresembles (firstAt_one hholding), summaryFrom, summaryFrom,
    hrep.bytes, hreps.bytes] at hsummary
  have htitle := congrArg Summary.title hsummary
  rw [(title_apply_caption _).1, (title_apply_caption _).2] at htitle
  exact absurd htitle (by decide)

end Package

end InstallerPackage
