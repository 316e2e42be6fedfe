import Mathlib.Data.List.Basic
import Workstream.CommandLine.Run
import Workstream.Proofs.Branch.Layout
import Workstream.Proofs.Branch.RoundTrip
import Workstream.Proofs.Text.Lines

/-!
# What the commands about branches print

Three commands print records of branches: one for a workspace that is described, one for each
of some names, and one for each line of a stream of bytes that names the branch of a workspace.
`NamedOn` says which lines these are, and `Picked` which records come of a list of lines. What
is printed for the records is said by `Printed`.

The commands agree. A stream that consists of names on lines of their own gives the records of
these names, those apart that belong to no workspace; lines have no influence on one another,
whether they are text or not; and the record of a described workspace is the one of its name.
-/

namespace Workstream

namespace BranchRecord

/-- The record that comes of a line. The line is a text, and this text without the blank
characters around it is the name of the branch of a workspace. -/
inductive NamedOn : List UInt8 → BranchRecord → Prop where
  | intro {text name : String} {specification : Specification}
      (around : Text.Surrounds name text)
      (read : BranchName.decode? name = some specification) :
      NamedOn (Text.encodeUtf8 text) { name, specification := some specification }

/-- The records that come of lines, in the order of the lines. -/
inductive Picked : List (List UInt8) → List BranchRecord → Prop where
  | none : Picked [] []
  | kept {line : List UInt8} {lines : List (List UInt8)} {record : BranchRecord}
      {records : List BranchRecord} (named : NamedOn line record)
      (others : Picked lines records) : Picked (line :: lines) (record :: records)
  | passed {line : List UInt8} {lines : List (List UInt8)} {records : List BranchRecord}
      (unnamed : ∀ record, ¬ NamedOn line record) (others : Picked lines records) :
      Picked (line :: lines) records

/-- The record of a line is found when there is one. -/
theorem ofLine?_eq_some_iff {line : List UInt8} {record : BranchRecord} :
    ofLine? line = some record ↔ NamedOn line record := by
  constructor
  · intro found
    unfold ofLine? nameOnLine? at found
    split at found
    · rename_i name isName
      obtain ⟨text, isText, rfl⟩ := Option.map_eq_some_iff.1 isName
      obtain rfl := Text.decodeUtf8_eq_some_iff.1 isText
      split at found
      · rename_i isWorkspace
        obtain ⟨specification, read⟩ := Option.isSome_iff_exists.1 isWorkspace
        obtain rfl := Option.some.inj found
        rw [ofName, read]
        exact .intro (Text.trim_eq_iff.1 rfl) read
      · cases found
    · cases found
  · rintro ⟨around, read⟩
    rename_i text name specification
    obtain rfl := Text.trim_eq_iff.2 around
    have isText : Text.decodeUtf8 (Text.encodeUtf8 text) = some text :=
      Text.decodeUtf8_eq_some_iff.2 rfl
    simp [ofLine?, nameOnLine?, isText, BranchName.isWorkspace, read, ofName]

/-- What comes of lines is what is found on each of them. -/
theorem picked_filterMap (lines : List (List UInt8)) :
    Picked lines (lines.filterMap ofLine?) := by
  induction lines with
  | nil => exact .none
  | cons line lines ih =>
    rw [List.filterMap_cons]
    cases found : ofLine? line with
    | none =>
      refine .passed (fun record named => ?_) ih
      rw [ofLine?_eq_some_iff.2 named] at found
      cases found
    | some record => exact .kept (ofLine?_eq_some_iff.1 found) ih

/-- The line feed at the end of a line makes no difference. -/
theorem ofLine?_append_lineFeed (line : List UInt8) : ofLine? (line ++ [10]) = ofLine? line := by
  have sameName : nameOnLine? (line ++ [10]) = nameOnLine? line := by
    simp only [nameOnLine?, Text.decodeUtf8_append_lineFeed, Option.map_map, Function.comp_def,
      Text.trim_append_lineFeed]
  rw [ofLine?, sameName, ofLine?]

/-- A stream is scanned line by line. -/
theorem scan_eq_filterMap {bytes : List UInt8} {lines : List (List UInt8)}
    (cut : Text.Lines bytes lines) : scan bytes = lines.filterMap ofLine? :=
  Text.filterMap_byteLines cut ofLine?_append_lineFeed

/-- What follows complete lines is scanned on its own. -/
theorem scan_append {front : List UInt8} (complete : Text.IsComplete front)
    (back : List UInt8) : scan (front ++ back) = scan front ++ scan back := by
  obtain ⟨lines, cut⟩ := Text.exists_lines front
  obtain ⟨more, cutMore⟩ := Text.exists_lines back
  rw [scan_eq_filterMap (cut.append complete cutMore), List.filterMap_append,
    ← scan_eq_filterMap cut, ← scan_eq_filterMap cutMore]

/-- The last line can be complete or not. -/
theorem scan_append_lineFeed (bytes : List UInt8) : scan (bytes ++ [10]) = scan bytes := by
  obtain ⟨lines, cut⟩ := Text.exists_lines bytes
  rw [scan_eq_filterMap cut]
  rcases cut.append_lineFeed with same | longer
  · exact scan_eq_filterMap same
  · have nothing : ofLine? [] = none := by decide
    rw [scan_eq_filterMap longer, List.filterMap_append, List.filterMap_cons, nothing]
    simp

/-- A name without blank characters around it is kept when it belongs to a workspace. -/
theorem ofLine?_encodeUtf8 {name : String} (trimmed : Text.IsTrimmed name) :
    ofLine? (Text.encodeUtf8 name) = Option.guard isWorkspace (ofName name) := by
  have isName : nameOnLine? (Text.encodeUtf8 name) = some name := by
    rw [nameOnLine?, Text.decodeUtf8_eq_some_iff.2 rfl, Option.map_some, trimmed.trim_eq]
  rw [ofLine?, isName]
  rfl

/-- The records of names on lines of their own are those of the names, in the same order, where
they belong to a workspace. -/
theorem scan_onLines {names : List String}
    (plain : ∀ name ∈ names, '\n' ∉ name.toList ∧ Text.IsTrimmed name) :
    scan (Text.encodeUtf8 (Text.onLines names)) = (names.map ofName).filter isWorkspace := by
  have cut := Text.lines_onLines fun name member => (plain name member).1
  calc scan (Text.encodeUtf8 (Text.onLines names))
      = names.filterMap fun name => ofLine? (Text.encodeUtf8 name) := by
        rw [scan_eq_filterMap cut, List.filterMap_map]
        rfl
    _ = names.filterMap fun name => Option.guard isWorkspace (ofName name) :=
        List.filterMap_congr fun name member => ofLine?_encodeUtf8 (plain name member).2
    _ = (names.map ofName).filter isWorkspace := by
        rw [← List.filterMap_eq_filter, List.filterMap_map]
        rfl

/-- The record of a workspace is the one of its name. -/
theorem ofSpecification_eq_map (currentUser : Option String) (specification : Specification) :
    ofSpecification currentUser specification =
      (BranchName.encode currentUser specification).map ofName := by
  unfold ofSpecification
  cases written : BranchName.encode currentUser specification with
  | error cause => rfl
  | ok name =>
    have read := BranchName.decode?_of_encode written
    simp only [ok_bind, pure_eq_ok, ok_map, ofName, read, Option.getD_some,
      Except.ok.injEq, mk.injEq, Option.some.injEq, true_and]
    obtain ⟨id, owner, access, stream⟩ := specification
    -- A user that is named is not read back from the name.
    cases owner with
    | group => rfl
    | user pinned => cases pinned <;> rfl

end BranchRecord

namespace CommandLine

variable {settings : Settings} {format : OutputFormat}

/-- Names are decoded with success when the records of all of them are kept. -/
theorem Task.exit_decodeReport_eq_zero_iff {project : String} {names : List String} :
    (decodeReport project format names).exit = 0 ↔
      (names.map BranchRecord.ofName).filter BranchRecord.isWorkspace =
        names.map BranchRecord.ofName := by
  rw [decodeReport, List.filter_eq_self, ← List.all_eq_true]
  cases (names.map BranchRecord.ofName).all BranchRecord.isWorkspace <;> simp [Report.status]

/-- To describe a workspace as JSON and to decode the name of its branch are reported alike. -/
theorem Task.encodeReport_eq_decodeReport {specification : Specification} {name : String}
    (written : BranchName.encode settings.user specification = .ok name) (project : String) :
    encodeReport settings .json specification = decodeReport project .json [name] := by
  have read := BranchName.decode_encode written
  have recorded : BranchRecord.ofSpecification settings.user specification =
      .ok (BranchRecord.ofName name) := by
    rw [BranchRecord.ofSpecification_eq_map, written]
    rfl
  have isWorkspace : (BranchRecord.ofName name).isWorkspace = true := by
    rw [BranchRecord.isWorkspace, BranchRecord.ofName, BranchName.decode?_of_encode written]
    rfl
  have unreported : BranchName.decodeEvents project name = [] := by
    rw [BranchName.decodeEvents, read]
  simp only [encodeReport, recorded, decodeReport, List.map_cons, List.map_nil, List.all_cons,
    isWorkspace, List.all_nil, Report.status, BranchRecord.print, BranchRecord.encodedLine,
    List.flatMap_cons, List.flatMap_nil, unreported]
  rfl

/-- The three commands about branches agree. Scanning a stream prints, in the order of its
lines, the records of those lines that are text and name the branch of a workspace, once the
blank characters around them are left out, and nothing else; so what follows complete lines
is scanned as it is on its own. Names on lines of their own give what decoding them gives, the
records apart that belong to no workspace, and decoding succeeds when there are none of these.
Where a workspace has a name, encoding it as JSON prints the record of this name, as decoding
the name does. -/
theorem branch_commands_agree (settings : Settings) (format : OutputFormat)
    (project : Option String) :
    (∀ input, ∃ lines records, Text.Lines input lines ∧ BranchRecord.Picked lines records ∧
      BranchRecord.Printed format records
        ((Task.scan project).run settings format input).output) ∧
    (∀ front back, Text.IsComplete front →
      ((Task.scan project).run settings format (front ++ back)).output =
        ((Task.scan project).run settings format front).output ++
          ((Task.scan project).run settings format back).output) ∧
    (∀ names input unread,
      (∀ name ∈ names, '\n' ∉ name.toList ∧ Text.IsTrimmed name) →
      Text.encodeUtf8 (Text.onLines names) = input ∨
        Text.encodeUtf8 (Text.onLines names) = input ++ [10] →
      ∃ records : List BranchRecord,
        records.map BranchRecord.name = names ∧
        (∀ record ∈ records, record.specification = BranchName.decode? record.name) ∧
        BranchRecord.Printed format records
          ((Task.decode names project).run settings format unread).output ∧
        BranchRecord.Printed format (records.filter BranchRecord.isWorkspace)
          ((Task.scan project).run settings format input).output ∧
        (((Task.decode names project).run settings format unread).exit = 0 ↔
          records.filter BranchRecord.isWorkspace = records)) ∧
    ∀ specification unread,
      ((Task.encode specification).run settings .json unread).exit = 0 →
        ∃ name, BranchName.encode settings.user specification = .ok name ∧
          BranchRecord.Printed .json
            [{ name, specification := BranchName.decode? name }]
            ((Task.encode specification).run settings .json unread).output ∧
          (Task.encode specification).run settings .json unread =
            (Task.decode [name] project).run settings .json unread := by
  have scanned (input : List UInt8) : ((Task.scan project).run settings format input).output =
      BranchRecord.print format (BranchRecord.scan input) := rfl
  refine ⟨fun input => ?_, fun front back complete => ?_, fun names input unread plain laid => ?_,
    fun specification unread succeeded => ?_⟩
  · obtain ⟨lines, cut⟩ := Text.exists_lines input
    refine ⟨lines, _, cut, BranchRecord.picked_filterMap lines, BranchRecord.printed_iff.2 ?_⟩
    rw [scanned, BranchRecord.scan_eq_filterMap cut]
  · rw [scanned, scanned, scanned, BranchRecord.scan_append complete, BranchRecord.print_append]
  · have named : (names.map BranchRecord.ofName).map BranchRecord.name = names := by
      simp [BranchRecord.ofName, Function.comp_def]
    refine ⟨names.map BranchRecord.ofName, named, List.forall_mem_map.2 fun _ _ => rfl,
      BranchRecord.printed_iff.2 rfl, BranchRecord.printed_iff.2 ?_,
      Task.exit_decodeReport_eq_zero_iff⟩
    rw [scanned, ← BranchRecord.scan_onLines plain]
    rcases laid with rfl | laid
    · rfl
    · rw [laid, BranchRecord.scan_append_lineFeed]
  · cases written : BranchName.encode settings.user specification with
    | ok name =>
      have alike : (Task.encode specification).run settings .json unread =
          (Task.decode [name] project).run settings .json unread :=
        Task.encodeReport_eq_decodeReport written _
      refine ⟨name, rfl, BranchRecord.printed_iff.2 ?_, alike⟩
      rw [alike]
      rfl
    | error cause =>
      have refused : (Task.encodeReport settings .json specification).exit = 1 := by
        rw [Task.encodeReport, BranchRecord.ofSpecification_eq_map, written]
        rfl
      exact absurd (refused.symm.trans succeeded) (by decide)

/-- Names of which the second one belongs to no workspace. -/
def mixedNames : List String := ["group/w", "main", "workspace/ann/v"]

/-- After the names there are a line that is not text and one with blank characters around a name.
They change nothing in what is scanned before them. Decoding the names shows one record more than
scanning them. The workspace of the current user is encoded as its name is decoded. -/
theorem branch_commands_agree_mixed :
    let settings : Settings := { Settings.default with user := some "ann" }
    let names := Text.encodeUtf8 (Text.onLines mixedNames)
    let more := [0x66, 0xe9, 10] ++ Text.encodeUtf8 "\tgroup/w \r\n"
    let own := Specification.forUser ⟨"v", by decide, by decide⟩
    let first := "group/w\tgroup workspace w\n"
    let last := "workspace/ann/v\tuser workspace v of ann\n"
    let object := "\x7b\"branch\":\"workspace/ann/v\",\"specification\":" ++
      "\x7b\"access_type\":\"WORKSPACE\",\"development_stream\":\x7b\"type\":\"project\"\x7d," ++
      "\"user_id\":\"ann\",\"workspace_id\":\"v\",\"workspace_type\":\"USER\"\x7d\x7d\n"
    ((Task.scan none).run settings .text (names ++ more)).output = first ++ last ++ first ∧
      (∃ records : List BranchRecord, records.map BranchRecord.name = mixedNames ∧
        ((Task.decode mixedNames none).run settings .text []).output =
          first ++ "main\tnot a workspace branch\n" ++ last ∧
        BranchRecord.Printed .text records (first ++ "main\tnot a workspace branch\n" ++ last) ∧
        ((Task.scan none).run settings .text names).output = first ++ last ∧
        BranchRecord.Printed .text (records.filter BranchRecord.isWorkspace) (first ++ last) ∧
        records.filter BranchRecord.isWorkspace ≠ records) ∧
      ((Task.encode own).run settings .json []).output = object ∧
      BranchRecord.Printed .json
        [{ name := "workspace/ann/v", specification := BranchName.decode? "workspace/ann/v" }]
        object ∧
      (Task.encode own).run settings .json [] =
        (Task.decode ["workspace/ann/v"] none).run settings .json [] := by
  intro settings names more own first last object
  obtain ⟨_, separate, alone, encoded⟩ := branch_commands_agree settings .text none
  have complete : Text.IsComplete names := .inr (by decide +kernel)
  have plain : ∀ name ∈ mixedNames, '\n' ∉ name.toList ∧ Text.IsTrimmed name := by
    decide +kernel
  have scans : ((Task.scan none).run settings .text names).output = first ++ last := by
    decide +kernel
  have scansMore : ((Task.scan none).run settings .text more).output = first := by decide +kernel
  have decodes : ((Task.decode mixedNames none).run settings .text []).output =
      first ++ "main\tnot a workspace branch\n" ++ last := by decide +kernel
  have encodes : ((Task.encode own).run settings .json []).output = object := by decide +kernel
  have isName : BranchName.encode settings.user own = .ok "workspace/ann/v" := by decide +kernel
  have fails : ((Task.decode mixedNames none).run settings .text []).exit ≠ 0 := by decide +kernel
  obtain ⟨records, named, _, decoded, scanned, succeeds⟩ :=
    alone mixedNames names [] plain (.inl rfl)
  obtain ⟨name, written, shown, alike⟩ := encoded own [] (by decide +kernel)
  obtain rfl : name = "workspace/ann/v" := Except.ok.inj (written.symm.trans isName)
  refine ⟨?_, ⟨records, named, decodes, decodes ▸ decoded, scans, scans ▸ scanned,
    mt succeeds.2 fails⟩, encodes, encodes ▸ shown, alike⟩
  rw [separate names more complete, scans, scansMore]

end CommandLine

end Workstream
