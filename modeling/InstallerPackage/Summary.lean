import InstallerPackage.Notice
import InstallerPackage.Text.CodePage
import InstallerPackage.Text.Time

/-!
# Summary information

A stream of its own tells who made a file, when and with what. It is a *property set*: a preamble, and
a section with a table of properties. An entry of the table is the number of a property and the offset
of its value inside the section; a value begins with its type.

* `Summary.Field` names the properties that are kept. Each has one number and one type, and an entry
  with the number but another type is ignored.
* `Summary.Value.read?` reads a value. `Summary.get` and `Summary.set` are the view of a summary as a
  function of the field.
* `Summary.apply` reads a whole property set into a `Summary`. The entries for the code page are moved
  to the front (`Summary.inOrder`). Then the values are read one after the other (`Summary.Filling.take`),
  each over what was there before, and texts in the code page that was read last.
-/

namespace InstallerPackage

/-- What a file says about itself. -/
structure Summary where
  title : String := ""
  subject : String := ""
  author : String := ""
  keywords : String := ""
  comments : String := ""
  template : String := ""
  lastSavedBy : String := ""
  revisionNumber : String := ""
  creatingApp : String := ""
  codePage : Nat := 0
  /-- Seconds since 1970, or 0 if unknown; so are the two other times. -/
  createTime : Nat := 0
  lastSaveTime : Nat := 0
  lastPrintedTime : Nat := 0
  pageCount : Nat := 0
  wordCount : Nat := 0
  characterCount : Nat := 0
  security : Nat := 0
  /-- The number of bytes in the file. -/
  totalSize : Nat := 0
  deriving DecidableEq, Repr

namespace Summary

/-! ### Values -/

/-- The types of values that are known. -/
inductive Kind where
  /-- A 16-bit number. -/
  | short
  /-- A 32-bit number. -/
  | long
  /-- A text with its length in front. -/
  | text
  /-- A point in time. -/
  | time
  deriving DecidableEq, Repr

/-- The code of a type. -/
def Kind.code : Kind → Nat
  | short => 2
  | long => 3
  | text => 30
  | time => 64

/-- The type that a code stands for. -/
def Kind.ofCode? (code : Nat) : Option Kind :=
  [short, long, text, time].find? (·.code = code)

@[simp] theorem Kind.ofCode?_code (k : Kind) : Kind.ofCode? k.code = some k := by
  cases k <;> rfl

/-- A value. -/
inductive Value where
  | number (n : Nat)
  | text (s : String)
  deriving DecidableEq, Repr

/-- The text whose type stands at `offset`. A length beyond the end of the bytes is cut; without room
for a length the text is empty. -/
def readText (page : CodePage) (b : ByteArray) (offset : Nat) : String :=
  if b.size < offset + 8 then ""
  else
    let length := min (Bytes.number b (offset + 4) 4) (b.size - (offset + 8))
    page.decodeTrimmed (Bytes.slice b (offset + 8) length)

/-- The value whose type stands at `offset`, if the bytes have room for it. -/
def Value.read? (kind : Kind) (page : CodePage) (b : ByteArray) (offset : Nat) : Option Value :=
  match kind with
  | .text => some (.text (readText page b offset))
  | .time =>
    if b.size < offset + 12 then none
    else some (.number (Time.ofTicks (Bytes.number b (offset + 4) 8)))
  | .short =>
    if b.size < offset + 6 then none else some (.number (Bytes.number b (offset + 4) 2))
  | .long =>
    if b.size < offset + 8 then none else some (.number (Bytes.number b (offset + 4) 4))

/-! ### Fields -/

/-- The properties that are kept. -/
inductive Field where
  | codePage | title | subject | author | keywords | comments | template | lastSavedBy
  | revisionNumber | lastPrintedTime | createTime | lastSaveTime | pageCount | wordCount
  | characterCount | creatingApp | security
  deriving DecidableEq, Repr

namespace Field

/-- All fields. -/
def all : List Field := [codePage, title, subject, author, keywords, comments, template, lastSavedBy,
  revisionNumber, lastPrintedTime, createTime, lastSaveTime, pageCount, wordCount, characterCount,
  creatingApp, security]

/-- The number of the property. -/
def id : Field → Nat
  | codePage => 1
  | title => 2
  | subject => 3
  | author => 4
  | keywords => 5
  | comments => 6
  | template => 7
  | lastSavedBy => 8
  | revisionNumber => 9
  | lastPrintedTime => 11
  | createTime => 12
  | lastSaveTime => 13
  | pageCount => 14
  | wordCount => 15
  | characterCount => 16
  | creatingApp => 18
  | security => 19

/-- The type that the property's value must have. -/
def kind : Field → Kind
  | codePage => .short
  | lastPrintedTime | createTime | lastSaveTime => .time
  | pageCount | wordCount | characterCount | security => .long
  | title | subject | author | keywords | comments | template | lastSavedBy | revisionNumber
  | creatingApp => .text

/-- The field with a number and a type. -/
def find? (id : Nat) (kind : Kind) : Option Field :=
  all.find? fun f => f.id = id ∧ f.kind = kind

@[simp] theorem find?_id_kind (f : Field) : find? f.id f.kind = some f := by
  cases f <;> rfl

end Field

/-- The summary with a field replaced. Texts go to fields of texts, numbers to the others. -/
def set (s : Summary) (field : Field) (value : Value) : Summary :=
  match field, value with
  | .title, .text t => { s with title := t }
  | .subject, .text t => { s with subject := t }
  | .author, .text t => { s with author := t }
  | .keywords, .text t => { s with keywords := t }
  | .comments, .text t => { s with comments := t }
  | .template, .text t => { s with template := t }
  | .lastSavedBy, .text t => { s with lastSavedBy := t }
  | .revisionNumber, .text t => { s with revisionNumber := t }
  | .creatingApp, .text t => { s with creatingApp := t }
  | .codePage, .number n => { s with codePage := n }
  | .createTime, .number n => { s with createTime := n }
  | .lastSaveTime, .number n => { s with lastSaveTime := n }
  | .lastPrintedTime, .number n => { s with lastPrintedTime := n }
  | .pageCount, .number n => { s with pageCount := n }
  | .wordCount, .number n => { s with wordCount := n }
  | .characterCount, .number n => { s with characterCount := n }
  | .security, .number n => { s with security := n }
  | _, _ => s

/-- The value of a field. -/
def get (s : Summary) : Field → Value
  | .title => .text s.title
  | .subject => .text s.subject
  | .author => .text s.author
  | .keywords => .text s.keywords
  | .comments => .text s.comments
  | .template => .text s.template
  | .lastSavedBy => .text s.lastSavedBy
  | .revisionNumber => .text s.revisionNumber
  | .creatingApp => .text s.creatingApp
  | .codePage => .number s.codePage
  | .createTime => .number s.createTime
  | .lastSaveTime => .number s.lastSaveTime
  | .lastPrintedTime => .number s.lastPrintedTime
  | .pageCount => .number s.pageCount
  | .wordCount => .number s.wordCount
  | .characterCount => .number s.characterCount
  | .security => .number s.security

/-- A summary is known by its fields and the size of the file. -/
theorem ext_get {s t : Summary} (h : ∀ f, s.get f = t.get f) (hsize : s.totalSize = t.totalSize) :
    s = t := by
  cases s
  cases t
  have h₁ := h .title
  have h₂ := h .subject
  have h₃ := h .author
  have h₄ := h .keywords
  have h₅ := h .comments
  have h₆ := h .template
  have h₇ := h .lastSavedBy
  have h₈ := h .revisionNumber
  have h₉ := h .creatingApp
  have h₁₀ := h .codePage
  have h₁₁ := h .createTime
  have h₁₂ := h .lastSaveTime
  have h₁₃ := h .lastPrintedTime
  have h₁₄ := h .pageCount
  have h₁₅ := h .wordCount
  have h₁₆ := h .characterCount
  have h₁₇ := h .security
  simp_all [get]

/-- Setting a field leaves the others alone. -/
theorem get_set_of_ne (s : Summary) {f g : Field} (h : g ≠ f) (v : Value) :
    (s.set f v).get g = s.get g := by
  cases v <;> cases f <;> cases g <;> trivial

/-- A field that is set to a value of its type has that value. -/
theorem get_set_self (s : Summary) {f : Field} {page : CodePage} {b : ByteArray} {offset : Nat}
    {v : Value} (h : Value.read? f.kind page b offset = some v) : (s.set f v).get f = v := by
  -- texts are read for fields of texts and numbers for the others
  cases f <;> cases v <;> simp_all [Value.read?, Field.kind, set, get]

@[simp] theorem totalSize_set (s : Summary) (f : Field) (v : Value) :
    (s.set f v).totalSize = s.totalSize := by
  cases v <;> cases f <;> rfl

/-! ### The property set -/

/-- The number of bytes before the first section. -/
def preambleSize : Nat := 48

/-- The place of the offset of the first section. -/
def sectionPlace : Nat := 44

/-- The first section, up to the end of the data, if there is room for its own head. -/
def body? (b : ByteArray) : Option ByteArray :=
  if b.size < preambleSize then none
  else
    let start := Bytes.number b sectionPlace 4
    if b.size < start + 8 then none else some (Bytes.slice b start (b.size - start))

/-- The number of properties that a section declares. -/
def declaredCount (body : ByteArray) : Nat := Bytes.number body 4 4

/-- The number of entries that a section has room for. -/
def possibleCount (body : ByteArray) : Nat := (body.size - 8) / 8

/-- An entry for a field: the field, and the place of its value in the section. -/
structure Entry where
  field : Field
  offset : Nat
  deriving DecidableEq, Repr

/-- The entry at a position of the table, if it is for a field and its value has a type. -/
def entryAt? (body : ByteArray) (i : Nat) : Option Entry :=
  let id := Bytes.number body (8 + 8 * i) 4
  let offset := Bytes.number body (12 + 8 * i) 4
  -- only the low half of a type says what it is
  if body.size < offset + 4 then none
  else do
    let kind ← Kind.ofCode? (Bytes.number body offset 4 % 0x10000)
    let field ← Field.find? id kind
    pure ⟨field, offset⟩

/-- The entries for fields, in the order of the table. -/
def entries (body : ByteArray) : List Entry :=
  (List.range (min (declaredCount body) (possibleCount body))).filterMap (entryAt? body)

/-- Must the entry wait for the code page? -/
def Entry.waits (e : Entry) : Bool := e.field ≠ .codePage

/-- The entries in the order in which their values are read: those for the code page come first, and
apart from that the order of the table is kept. -/
def inOrder (l : List Entry) : List Entry := l.mergeSort fun e e' => e.waits ≤ e'.waits

/-- What is known while values are read, and the code page of the texts to come. -/
structure Filling where
  summary : Summary
  page : CodePage

/-- Reads the value of an entry, if it can be read, and puts it into its field. The number of a code page
applies from then on. -/
def Filling.take (body : ByteArray) (known : Filling) (e : Entry) : Filling :=
  match Value.read? e.field.kind known.page body e.offset with
  | none => known
  | some value =>
    { summary := known.summary.set e.field value
      -- the entries that follow are read in the page that has been found by now
      page :=
        match e.field, value with
        | .codePage, .number n => .ofNumber n
        | _, _ => known.page }

/-- What is known after reading the values of some entries of a section. -/
def fill (body : ByteArray) (l : List Entry) (s : Summary) : Summary :=
  ((inOrder l).foldl (Filling.take body) ⟨s, .latin1⟩).summary

/-- Reads a property set over what is known already. -/
def apply (b : ByteArray) (s : Summary) : Noted Summary :=
  match body? b with
  | none => pure s
  | some body => do
    let declared := declaredCount body
    let possible := possibleCount body
    -- a count beyond the end of the section is cut to what there is room for
    if possible < declared then .report (.propertyCountCut declared possible)
    pure (fill body (entries body) s)

end Summary

end InstallerPackage
