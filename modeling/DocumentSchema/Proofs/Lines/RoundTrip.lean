import DocumentSchema.Lines.Writer
import DocumentSchema.Proofs.Json.Printed
import DocumentSchema.Proofs.Lines.Passes
import DocumentSchema.Proofs.Text.Utf8

/-!
# Reading what was written

The line of a document has its line feed at the end and nowhere else, so a stream is cut into the
lines that were written to it: none is split, and no two are joined. None of them is blank, since
every text has a character above the blank, so all are numbered. And each is read back.

Writer and reader share nothing but the line feed. What a text is, and how octets stand for it, is
known to both sides only through `Json.parse?_text` and `decodeText?_encodeText`.
-/

namespace DocumentSchema

/-! ## The line of a document -/

theorem documentLine_eq (document : Json) :
    documentLine document = encodeText document.text ++ [lineFeed] := by
  have hfeed : encodeText "\n" = [lineFeed] := by
    rw [encodeText_eq]
    rfl
  rw [documentLine, encodeText_append, hfeed]

theorem lineFeed_notMem_encodeText {document : Json} (hnumbers : document.NumbersReadBack) :
    lineFeed ∉ encodeText document.text := by
  refine notMem_encodeText (by decide) fun c hc hsame ↦ ?_
  have hnewline : c = '\n' := Char.toNat_inj.mp hsame
  exact document.newline_notMem_text hnumbers (hnewline ▸ hc)

theorem isBlankOctet_eq_false {octet : UInt8} (h : 32 < octet.toNat) :
    isBlankOctet octet = false := by
  by_contra hblank
  have hmem : octet ∈ ([32, 9, 10, 12, 13] : Octets) := by
    rw [Bool.not_eq_false, isBlankOctet] at hblank
    simpa [or_assoc] using hblank
  have hall : ∀ blank ∈ ([32, 9, 10, 12, 13] : Octets), blank.toNat ≤ 32 := by simp
  exact Nat.not_lt.mpr (hall octet hmem) h

theorem isBlankLine_encodeText {document : Json} (hnumbers : document.NumbersReadBack) :
    isBlankLine (encodeText document.text) = false := by
  obtain ⟨c, more, htext, habove, hlow⟩ := document.exists_cons_text hnumbers
  have hoctet : UInt8.ofNat c.toNat ∈ encodeText document.text :=
    mem_encodeText_of_mem hlow (htext ▸ List.mem_cons_self)
  have hblank : isBlankOctet (UInt8.ofNat c.toNat) = false :=
    isBlankOctet_eq_false (by rwa [Utf8.toNat_ofNat (by omega)])
  rw [isBlankLine, List.all_eq_false]
  exact ⟨_, hoctet, ne_true_of_eq_false hblank⟩

theorem parseLine?_encodeText {document : Json} (hkeys : document.KeysDistinct)
    (hdepth : document.depth ≤ Json.maxDepth) (hnumbers : document.NumbersReadBack) :
    parseLine? (encodeText document.text) = some document := by
  rw [parseLine?, decodeText?_encodeText]
  exact Json.parse?_text hkeys hdepth hnumbers

/-! ## The lines of a stream -/

theorem linesOf_append {line : Octets} (h : lineFeed ∉ line) (rest : Octets) :
    linesOf (line ++ lineFeed :: rest) = line :: linesOf rest := by
  induction line with
  | nil => rw [List.nil_append, linesOf, if_pos rfl]
  | cons octet more ih =>
    rw [List.mem_cons, not_or] at h
    rw [List.cons_append, linesOf, if_neg (Ne.symm h.1), ih h.2]

/-- **The lines of a stream are the texts that were written to it.** -/
theorem linesOf_flatMap_documentLine {documents : List Json}
    (hnumbers : ∀ document ∈ documents, document.NumbersReadBack) :
    linesOf (documents.flatMap documentLine)
      = documents.map fun document ↦ encodeText document.text := by
  induction documents with
  | nil => rfl
  | cons document rest ih =>
    rw [List.forall_mem_cons] at hnumbers
    rw [List.flatMap_cons, documentLine_eq, List.append_assoc, List.singleton_append,
      linesOf_append (lineFeed_notMem_encodeText hnumbers.1), ih hnumbers.2]
    rfl

def writtenLines (name : String) (first : Nat) (documents : List Json) : List NumberedLine :=
  (documents.zipIdx first).map fun (document, number) ↦
    ⟨number, name, encodeText document.text⟩

theorem numberedLines_flatMap_documentLine {documents : List Json} (name : String)
    (hnumbers : ∀ document ∈ documents, document.NumbersReadBack) :
    numberedLines [(name, documents.flatMap documentLine)]
      = writtenLines name 1 documents := by
  have hfull : (documents.map fun document ↦ encodeText document.text).filter
      (fun line ↦ !isBlankLine line) = documents.map fun document ↦ encodeText document.text := by
    rw [List.filter_eq_self]
    rintro line hline
    obtain ⟨document, hdocument, rfl⟩ := List.mem_map.mp hline
    rw [isBlankLine_encodeText (hnumbers document hdocument)]
    rfl
  rw [numberedLines, List.flatMap_cons, List.flatMap_nil, List.append_nil]
  simp only
  rw [linesOf_flatMap_documentLine hnumbers, hfull, List.map_map, List.zipIdx_map, List.map_map]
  rfl

/-- A stream without bounds takes everything, and every document is written. -/
theorem Stream.addAll_unbounded {stream : Stream} (h : stream.room = none)
    (documents : List Json) : stream.addAll documents
      = ({ stream with octets := stream.octets ++ documents.flatMap documentLine },
          documents.map fun _ ↦ .ok ()) := by
  induction documents generalizing stream with
  | nil => rw [addAll, List.flatMap_nil, List.append_nil, List.map_nil]
  | cons document rest ih =>
    have hadd : stream.add document
        = ({ stream with octets := stream.octets ++ documentLine document }, .ok ()) := by
      rw [add, take, fits, h]
      rfl
    have hrest : addAll { stream with octets := stream.octets ++ documentLine document } rest = _ :=
      ih h
    rw [addAll, hadd]
    dsimp only
    rw [hrest, List.flatMap_cons, List.append_assoc]
    rfl

/-! ## Reading back -/

section Written

variable {documents : List Json}

theorem documentsOf_writtenLines
    (hparse : ∀ document ∈ documents, parseLine? (encodeText document.text) = some document)
    (name : String) (first : Nat) :
    documentsOf (writtenLines name first documents)
      = (documents.zipIdx first).map fun (document, number) ↦ ⟨number, name, document⟩ := by
  induction documents generalizing first with
  | nil => rfl
  | cons document rest ih =>
    rw [List.forall_mem_cons] at hparse
    rw [writtenLines, List.zipIdx_cons, List.map_cons, List.map_cons, documentsOf,
      List.filterMap_cons, NumberedLine.document?, hparse.1]
    exact congrArg _ (ih hparse.2 (first + 1))

theorem messagesOf_writtenLines
    (hparse : ∀ document ∈ documents, parseLine? (encodeText document.text) = some document)
    (name : String) (first : Nat) : messagesOf (writtenLines name first documents) = [] := by
  rw [messagesOf, List.map_eq_nil_iff, malformedOf, List.filter_eq_nil_iff]
  intro line hline
  obtain ⟨⟨document, number⟩, hmem, rfl⟩ := List.mem_map.mp hline
  have hdocument : document ∈ documents := List.fst_mem_of_mem_zipIdx hmem
  rw [NumberedLine.document?, hparse document hdocument]
  exact Bool.false_ne_true

/-- **Reading undoes writing.** Documents that are written to a stream, one after the other, are all
that a reader finds in its octets, each once, in order and with its number, and it has no message
of them. Of the documents it is known that they are nested no deeper than reading goes, that no key
occurs twice in an object, and that their numbers are read back from their texts. -/
theorem Reader.read_written (files : FileSystem) (name : String) (messages : List Message)
    (hkeys : ∀ document ∈ documents, document.KeysDistinct)
    (hdepth : ∀ document ∈ documents, document.depth ≤ 127)
    (hnumbers : ∀ document ∈ documents, document.NumbersReadBack) :
    let written := ({} : Stream).addAll documents
    let reader : Reader := { source := .memory [(name, written.1.octets)], messages }
    written.2 = documents.map (fun _ ↦ .ok ()) ∧
      reader.read files none = (reader,
        { documents := (documents.zipIdx 1).map fun (document, number) ↦ ⟨number, name, document⟩
          stop := .exhausted }) := by
  have hparse : ∀ document ∈ documents,
      parseLine? (encodeText document.text) = some document := fun document h ↦
    parseLine?_encodeText (hkeys document h) (hdepth document h) (hnumbers document h)
  rw [Stream.addAll_unbounded rfl]
  dsimp only
  rw [List.nil_append]
  refine ⟨rfl, ?_⟩
  have hpass : PassesOver
      { source := .memory [(name, documents.flatMap documentLine)], messages } files none
      (numberedLines [(name, documents.flatMap documentLine)]) := passesOver_memory rfl files none
  rw [numberedLines_flatMap_documentLine name hnumbers] at hpass
  obtain ⟨hstop, hportion⟩ := hpass.stops.resolve_right fun h ↦ nomatch h.2
  have hfound := hpass.documents
  rw [hportion, documentsOf_writtenLines hparse] at hfound
  have hreader := hpass.messages
  rw [hportion, messagesOf_writtenLines hparse, List.append_nil] at hreader
  exact Prod.ext hreader (congrArg₂ Pass.mk hfound hstop)

/-- Strings with quotes and controls, empty strings and containers, and both kinds of numbers. -/
theorem Reader.read_written_mixed :
    let oneAndHalf : Binary64 := ⟨false, 3 * Nat.pow 2 1073, by decide +kernel⟩
    let documents : List Json :=
      [.object [("b", .string "\"\n\r\x01é"), ("a", .array [.null, .bool true, .object []])],
        .number (.integer (-3)), .number (.float oneAndHalf), .string "", .array []]
    let written := ({} : Stream).addAll documents
    let reader : Reader := { source := .memory [("store", written.1.octets)] }
    (∀ document ∈ documents,
        document.KeysDistinct ∧ document.depth ≤ 127 ∧ document.NumbersReadBack) ∧
      reader.read {} none = (reader,
        { documents := (documents.zipIdx 1).map fun (document, number) ↦
            ⟨number, "store", document⟩
          stop := .exhausted }) := by
  intro oneAndHalf documents written reader
  have hkeys : ∀ document ∈ documents, document.KeysDistinct := by
    simp [documents, Json.KeysDistinct, Json.KeysDistinctItems, Json.KeysDistinctMembers,
      Entries.keys]
  have hdepth : ∀ document ∈ documents, document.depth ≤ 127 := by
    simp [documents, Json.depth, Json.depthItems, Json.depthMembers]
  have hfloat : (Number.float oneAndHalf).ReadsBack := by
    rw [Number.ReadsBack]
    decide +kernel
  have hinteger : (Number.integer (-3)).ReadsBack := by
    rw [Number.ReadsBack]
    decide
  have hnumbers : ∀ document ∈ documents, document.NumbersReadBack := by
    simp [documents, Json.NumbersReadBack, Json.NumbersReadBackItems, Json.NumbersReadBackMembers,
      hfloat, hinteger]
  exact ⟨fun document h ↦ ⟨hkeys document h, hdepth document h, hnumbers document h⟩,
    (read_written {} "store" [] hkeys hdepth hnumbers).2⟩

end Written

end DocumentSchema
