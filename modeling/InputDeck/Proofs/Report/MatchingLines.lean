import InputDeck.Proofs.Sorting
import InputDeck.Proofs.Text.ByteOrder
import InputDeck.Proofs.Report.Shapes

/-!
# The lines that a rule reads

A rule searches once and works on what it finds, so two working directories where the search finds
the same lines are the same to it. The search reads the files whose names are texts that its glob
covers, each once and in the order of the bytes of the names, whatever the order in which the
directory lists them. So a rule does not depend on other entries, nor on files without matching
lines, and a directory that is missing is the same to it as an empty one. Where no line is found
there is none to take, and no other stage makes a value of a row of lines.
-/

namespace InputDeck

/-! ## The reports of a search -/

/-- The lines of a report with a pattern. -/
def matchingLines (linePattern : Pattern) (content : List UInt8) : List Text :=
  (Text.lines (Text.ofBytesLenient content)).filter linePattern.isMatch

namespace Directory

/-- There is a file with this name and this content, and the glob covers the name. -/
def HasReport (directory : Directory) (files name : Text) (content : List UInt8) : Prop :=
  (Text.toBytes name, Entry.file content) ∈ directory.pairs ∧ Glob.covers files name = true

/-- The reports of a search in the order in which they are read. -/
def reports (directory : Directory) (files : Text) : List (Text × List UInt8) :=
  (directory.textFiles.filter fun (name, _) => Glob.covers files name).mergeSort
    fun first second => Text.atMost first.1 second.1

/-- An entry is a file with a name that is a text if its name has the bytes of the text. -/
theorem textFile_eq_some_iff {bytes content : List UInt8} {entry : Entry} {name : Text} :
    (match Text.ofBytes? bytes, entry with
      | some name, .file content => some (name, content)
      | _, _ => none) = some (name, content) ↔
      bytes = Text.toBytes name ∧ entry = .file content := by
  rw [← Text.ofBytes?_eq_some_iff]
  split
  · simp [*]
  · rename_i other
    simp only [reduceCtorEq, false_iff, not_and]
    exact other name content

/-- A file whose name is a text stands in the directory under the bytes of the text. -/
theorem mem_textFiles_iff {directory : Directory} {name : Text} {content : List UInt8} :
    (name, content) ∈ directory.textFiles ↔
      (Text.toBytes name, Entry.file content) ∈ directory.pairs := by
  rw [textFiles, List.mem_filterMap]
  constructor
  · rintro ⟨⟨bytes, entry⟩, member, found⟩
    obtain ⟨rfl, rfl⟩ := textFile_eq_some_iff.1 found
    exact member
  · intro member
    exact ⟨_, member, textFile_eq_some_iff.2 ⟨rfl, rfl⟩⟩

/-- Files whose names are texts have different ones. -/
theorem distinct_textFiles (directory : Directory) : (directory.textFiles.map (·.1)).Nodup := by
  refine List.pairwise_map.2
    (List.Pairwise.filterMap _ ?_ (List.pairwise_map.1 directory.distinct))
  rintro ⟨bytes, entry⟩ ⟨others, other⟩ different ⟨name, content⟩ found ⟨otherName, otherContent⟩
    otherFound same
  obtain ⟨written, -⟩ := textFile_eq_some_iff.1 found
  obtain ⟨otherWritten, -⟩ := textFile_eq_some_iff.1 otherFound
  exact different (written.trans ((congrArg Text.toBytes same).trans otherWritten.symm))

/-- The reports of a search are the files whose names the glob covers. -/
theorem mem_reports_iff {directory : Directory} {files name : Text} {content : List UInt8} :
    (name, content) ∈ directory.reports files ↔ directory.HasReport files name content := by
  rw [reports, List.mem_mergeSort, List.mem_filter, mem_textFiles_iff, HasReport]

/-- Reports are read in the order of their names, each once. -/
theorem ascending_reports (directory : Directory) (files : Text) :
    (directory.reports files).Pairwise fun first second => first.1 < second.1 := by
  refine ascending_mergeSort Prod.fst (fun _ _ => Text.atMost_iff _ _) ?_
  exact directory.distinct_textFiles.sublist (List.filter_sublist.map _)

/-- The reports with a matching line are the same where the directories hold the same of them. -/
theorem filter_reports_eq {directory other : Directory} {files : Text} {linePattern : Pattern}
    (same : ∀ name content, matchingLines linePattern content ≠ [] →
      (directory.HasReport files name content ↔ other.HasReport files name content)) :
    (directory.reports files).filter
        (fun report => !(matchingLines linePattern report.2).isEmpty) =
      (other.reports files).filter fun report => !(matchingLines linePattern report.2).isEmpty := by
  refine eq_of_ascending Prod.fst ((directory.ascending_reports files).filter _)
    ((other.ascending_reports files).filter _) ?_
  rintro ⟨name, content⟩
  simp only [List.mem_filter, mem_reports_iff, Bool.not_eq_true', List.isEmpty_eq_false_iff]
  exact and_congr_left (same name content)

end Directory

/-- What makes no items adds none. -/
theorem flatMap_filter_nonempty {α β : Type} (make : α → List β) (items : List α) :
    (items.filter fun item => !(make item).isEmpty).flatMap make = items.flatMap make := by
  have flattened := List.flatten_filter_not_isEmpty (L := items.map make)
  rw [List.filter_map] at flattened
  exact flattened

/-! ## Searching and working on the lines -/

/-- A sound glob is a pattern. -/
theorem ofText?_glob (engine : Engine) {files : Text} (sound : Glob.fault? files = none) :
    Pattern.ofText? engine .glob files = .ok ⟨files, .glob⟩ := by
  rw [Pattern.ofText?, sound]

section

variable {engine : Engine} {pattern files : Text} {linePattern : Pattern}
  (sound : Glob.fault? files = none)
  (read : Pattern.ofText? engine .search pattern = .ok linePattern)
include sound read

/-- A search by a sound glob finds the matching lines of its reports. -/
theorem search_present (directory : Directory) :
    search engine (.present directory) pattern files =
      .ok ((directory.reports files).flatMap fun report => matchingLines linePattern report.2) := by
  rw [search, read, ofText?_glob engine sound]
  rfl

/-- A search in a directory that is missing finds what it finds in an empty one. -/
theorem search_missing :
    search engine .missing pattern files =
      search engine (.present Entries.empty) pattern files := by
  have noReports : Directory.reports Entries.empty files = [] := List.mergeSort_nil
  rw [search_present sound read, noReports, search, read, ofText?_glob engine sound]
  rfl

end

/-- Stages behind the search do not look at the directory. -/
theorem runPipeline_eq_of_noSearch (engine : Engine) (workdir other : Workdir) (input : Stage)
    {pipeline : List Operation} (noSearch : ∀ operation ∈ pipeline, operation.operator ≠ .grep) :
    runPipeline engine workdir input pipeline = runPipeline engine other input pipeline := by
  induction pipeline generalizing input with
  | nil => rfl
  | cons operation rest inductionHypothesis =>
    obtain ⟨notSearch, later⟩ := List.forall_mem_cons.1 noSearch
    have step : operation.run engine workdir input = operation.run engine other input := by
      cases operation with
      | grep => exact absurd rfl notSearch
      | _ => rfl
    rw [runPipeline, runPipeline, step]
    cases operation.run engine other input with
    | error => rfl
    | ok output => exact inductionHypothesis output later

/-- Stages behind the search make no value of no lines. -/
theorem exists_error_of_no_lines (engine : Engine) (workdir : Workdir)
    {pipeline : List Operation}
    (noSearch : ∀ operation ∈ pipeline, operation.operator ≠ .grep) :
    ∃ failure,
      (runPipeline engine workdir (.lines []) pipeline).bind Stage.result = .error failure := by
  cases pipeline with
  | nil => exact ⟨_, rfl⟩
  | cons operation rest =>
    obtain ⟨notSearch, -⟩ := List.forall_mem_cons.1 noSearch
    cases operation with
    | grep => exact absurd rfl notSearch
    | _ => exact ⟨_, rfl⟩

namespace Rule

section

variable {engine : Engine} {rule : Rule} {pattern files : Text} {later : List Operation}
  (pipeline : rule.pipeline = .grep pattern files :: later)
  (noSearch : ∀ operation ∈ later, operation.operator ≠ .grep)
include pipeline noSearch

/-- Where the search finds the same, so does the rule. -/
theorem extract_eq_of_search {workdir other : Workdir}
    (same : search engine workdir pattern files = search engine other pattern files) :
    rule.extract engine workdir = rule.extract engine other := by
  rw [extract_eq, extract_eq, pipeline, runPipeline, runPipeline, Operation.run, Operation.run,
    same]
  cases search engine other pattern files with
  | error => rfl
  | ok lines => exact congrArg (·.bind Stage.result) (runPipeline_eq_of_noSearch _ _ _ _ noSearch)

/-- Where the search finds no lines, the rule fails. -/
theorem exists_error_of_search {workdir : Workdir}
    (nothing : search engine workdir pattern files = .ok []) :
    ∃ failure, rule.extract engine workdir = .error failure := by
  rw [extract_eq, pipeline, runPipeline, Operation.run, nothing]
  exact exists_error_of_no_lines engine workdir noSearch

end

/-- A rule depends on the matching lines of its reports alone. They are found in the order of the
bytes of the names and then in that of the lines, and a rule for which there are none has no
value. -/
theorem extract_depends_on_matching_lines (rule : Rule) (engine : Engine) :
    ∃ pattern files later linePattern,
      rule.pipeline = .grep pattern files :: later ∧
      Pattern.ofText? engine .search pattern = .ok linePattern ∧
      (∀ directory : Directory, ∃ reports : List (Text × List UInt8),
        (∀ name content, (name, content) ∈ reports ↔ directory.HasReport files name content) ∧
        (reports.Pairwise fun first second => Text.toBytes first.1 < Text.toBytes second.1) ∧
        ∀ input, (Operation.grep pattern files).run engine (.present directory) input =
          .ok (.lines (reports.flatMap fun report => matchingLines linePattern report.2))) ∧
      (∀ directory other : Directory,
        (∀ name content, directory.HasReport files name content ↔
          other.HasReport files name content) →
        rule.extract engine (.present directory) = rule.extract engine (.present other)) ∧
      (∀ directory other : Directory,
        (∀ name content, matchingLines linePattern content ≠ [] →
          (directory.HasReport files name content ↔ other.HasReport files name content)) →
        rule.extract engine (.present directory) = rule.extract engine (.present other)) ∧
      rule.extract engine .missing = rule.extract engine (.present Entries.empty) ∧
      ∀ directory : Directory,
        (∀ name content, directory.HasReport files name content →
          matchingLines linePattern content = []) →
        ∃ failure, rule.extract engine (.present directory) = .error failure := by
  obtain ⟨pattern, files, later, pipeline, sound, noSearch⟩ := rule.exists_search
  obtain ⟨linePattern, read⟩ :
      ∃ linePattern, Pattern.ofText? engine .search pattern = .ok linePattern := ⟨_, rfl⟩
  have found := search_present sound read
  have sameLines (directory other : Directory)
      (same : ∀ name content, matchingLines linePattern content ≠ [] →
        (directory.HasReport files name content ↔ other.HasReport files name content)) :
      rule.extract engine (.present directory) = rule.extract engine (.present other) := by
    refine extract_eq_of_search pipeline noSearch ?_
    -- reports without matching lines are left out on both sides before the reports are compared
    rw [found, found, ← flatMap_filter_nonempty, Directory.filter_reports_eq same,
      flatMap_filter_nonempty]
  refine ⟨pattern, files, later, linePattern, pipeline, read, ?_, ?_, sameLines, ?_, ?_⟩
  · intro directory
    refine ⟨directory.reports files, fun name content => Directory.mem_reports_iff,
      (directory.ascending_reports files).imp Text.toBytes_lt_toBytes, fun input => ?_⟩
    rw [Operation.run, found]
    rfl
  · intro directory other same
    exact sameLines directory other fun name content _ => same name content
  · exact extract_eq_of_search pipeline noSearch (search_missing sound read)
  · intro directory nothing
    refine exists_error_of_search pipeline noSearch ?_
    rw [found, List.flatMap_eq_nil_iff.2]
    rintro ⟨name, content⟩ member
    exact nothing name content (Directory.mem_reports_iff.1 member)

end Rule

end InputDeck
