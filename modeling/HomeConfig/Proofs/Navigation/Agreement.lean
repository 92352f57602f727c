import HomeConfig.Navigation.Definition
import HomeConfig.Proofs.Document.Independence
import HomeConfig.Proofs.Document.Line

/-!
# Where lines lead, and what is missing

A line is read by itself when it is asked where it leads, while the check of a document reads all of
the text.  Both find the same includes there (`Reference.filter_includes`).  Then each asks the file
system in its own way: the line leads to files, and the check is content with anything that exists.

So an include to which its line leads is not reported missing.  If all files that a line includes
are reported missing, the line leads nowhere, unless it uses a secret.  For this the report at a
range has to be about the include there and no other, so two includes with one range are shown to be
one (`Reference.eq_of_range_eq`).
-/

namespace HomeConfig

/-! ## Includes by their ranges -/

namespace Reference

open Recogniser

theorem separates_of_getLast? : ∀ tag ∈ "!include" :: directoryTags, ∀ letter,
    tag.toList.getLast? = some letter → Text.isBlank letter = false ∧ Text.isQuote letter = false := by
  have all : ∀ tag ∈ "!include" :: directoryTags, tag.toList.getLast?.all (fun letter =>
      !Text.isBlank letter && !Text.isQuote letter) = true := by decide
  intro tag isTag letter last
  have solid := all tag isTag
  rw [last] at solid
  simpa using solid

/-- The tags for files and for directories differ in their last letters. -/
theorem not_tagged_both (front : Text) :
    ¬ (TaggedBy ["!include"] front ∧ TaggedBy directoryTags front) := by
  rintro ⟨⟨tag, isTag, earlier, letter, last, ends⟩, other, isOther, before, sign, lastOther, endsOther⟩
  have solid := separates_of_getLast? tag (by simp_all) letter last
  have solidOther := separates_of_getLast? other (List.mem_cons_of_mem _ isOther) sign lastOther
  have here := ends.approach_eq solid.1 solid.2
  have there := endsOther.approach_eq solidOther.1 solidOther.2
  have same : letter = sign := (List.cons.inj (here.symm.trans there)).1
  have apart : ∀ other ∈ directoryTags, other.toList.getLast? ≠ some 'e' := by decide
  have e : letter = 'e' := by
    rw [List.mem_singleton.mp isTag] at last
    exact (Option.some.inj last).symm
  exact apart other isOther (by rw [lastOther, ← same, e])

/-- An include is about an excerpt behind a tag. -/
theorem exists_excerpt_of_mem_includes {text : Text} {reference : Reference}
    (member : reference ∈ includes text) :
    ∃ excerpt front tags, reference = ofExcerpt text reference.kind false excerpt ∧
      excerpt.StandsBehind text front ∧ TaggedBy tags front ∧
        (reference.kind = .file ∧ tags = ["!include"] ∨
          reference.kind = .directory ∧ tags = directoryTags) := by
  rcases List.mem_append.mp member with file | directory
  · rcases exists_of_mem_find (finds_tagged (by decide)) file with
      ⟨excerpt, front, rfl, stands, tagged⟩
    exact ⟨excerpt, front, _, rfl, stands, tagged, Or.inl ⟨rfl, rfl⟩⟩
  · rcases exists_of_mem_find (finds_tagged (by decide)) directory with
      ⟨excerpt, front, rfl, stands, tagged⟩
    exact ⟨excerpt, front, _, rfl, stands, tagged, Or.inr ⟨rfl, rfl⟩⟩

/-- Includes with one range are one include. -/
theorem eq_of_range_eq {text : Text} {first second : Reference} (here : first ∈ includes text)
    (there : second ∈ includes text) (same : first.range = second.range) : first = second := by
  rcases exists_excerpt_of_mem_includes here with ⟨excerpt, front, tags, shape, stands, tagged, kinds⟩
  rcases exists_excerpt_of_mem_includes there with
    ⟨other, behind, others, otherShape, otherStands, otherTagged, otherKinds⟩
  have range : excerpt.range text = other.range text := by
    rw [shape, otherShape] at same
    exact same
  have start : excerpt.start = other.start := by
    rw [← stands.toOffset_start, ← otherStands.toOffset_start, range]
  have written : excerpt.text = other.text := by
    rw [← stands.slice_range, ← otherStands.slice_range, range]
  have fronts : front = behind := by rw [stands.before_eq, otherStands.before_eq, start]
  have kind : first.kind = second.kind := by
    rw [fronts] at tagged
    rcases kinds with ⟨file, rfl⟩ | ⟨directory, rfl⟩
    · rcases otherKinds with ⟨otherFile, rfl⟩ | ⟨_, rfl⟩
      · rw [file, otherFile]
      · exact absurd ⟨tagged, otherTagged⟩ (not_tagged_both behind)
    · rcases otherKinds with ⟨_, rfl⟩ | ⟨otherDirectory, rfl⟩
      · exact absurd ⟨otherTagged, tagged⟩ (not_tagged_both behind)
      · rw [directory, otherDirectory]
  obtain ⟨start, text⟩ := excerpt
  obtain ⟨otherStart, otherText⟩ := other
  cases start
  cases written
  rw [shape, otherShape, kind]

end Reference

/-! ## What is reported missing -/

namespace Check

variable {tree : FileTree} {directory : Path} {reference : Reference}

/-- Only the check of includes reports includes. -/
theorem exists_of_includeNotFound {answers : Answers} {isConnected : Bool}
    {document : CheckedDocument} {diagnostic : Diagnostic}
    (member : diagnostic ∈ (validate isConnected document).given answers)
    (code : diagnostic.finding.code = "include-not-found") :
    ∃ uri directory, document.uri = some uri ∧ Uri.directory? uri = .ok (some directory) ∧
      ∃ reference ∈ Reference.includes document.text, ∃ finding,
        include? document.tree directory reference = .ok (some finding) ∧
          diagnostic = ⟨reference.range, finding⟩ := by
  rw [validate, given_runAll] at member
  rcases List.mem_flatMap.mp member with ⟨check, _, found⟩
  have coded := (check.code_of_mem_found answers document diagnostic found).symm.trans code
  cases check with
  | includes =>
    exact forall_mem_found rfl (fun found checked diagnostic =>
      exists_of_mem_missingIncludes checked) diagnostic found
  | entities | services | templates | yaml => exact absurd coded (by decide)

theorem include?_of_hasFile (isFile : reference.kind = .file)
    (stands : tree.hasFile (directory.resolve reference.value.toList) = .ok true) :
    include? tree directory reference = .ok none := by
  unfold FileTree.hasFile at stands
  unfold include? FileTree.has
  cases found : tree.find (directory.resolve reference.value.toList) with
  | error cause =>
    rw [found] at stands
    cases stands
  | ok kind =>
    rw [found] at stands
    cases kind with
    | none => cases stands
    | some kind => simp [isFile, found]

theorem hasFile_of_include? (isFile : reference.kind = .file) {finding : Finding}
    (missing : include? tree directory reference = .ok (some finding)) :
    tree.hasFile (directory.resolve reference.value.toList) = .ok false := by
  unfold include? FileTree.has at missing
  unfold FileTree.hasFile
  cases found : tree.find (directory.resolve reference.value.toList) with
  | error cause => simp [isFile, found] at missing
  | ok kind =>
    cases kind with
    | none => rfl
    | some kind => simp [isFile, found] at missing

end Check

/-! ## Where lines lead -/

namespace Destination

variable {tree : FileTree} {shared : Option Path} {directory : Path}

theorem firstFile?_eq_some {paths : List Path} {path : Path}
    (first : firstFile? tree paths = .ok (some path)) :
    path ∈ paths ∧ tree.hasFile path = .ok true := by
  induction paths with
  | nil => cases first
  | cons head rest inductionHypothesis =>
    rw [firstFile?] at first
    cases stands : tree.hasFile head with
    | error cause =>
      rw [stands] at first
      cases first
    | ok isThere =>
      rw [stands] at first
      cases isThere with
      | true =>
        cases first
        exact ⟨List.mem_cons_self, stands⟩
      | false =>
        rcases inductionHypothesis first with ⟨member, found⟩
        exact ⟨List.mem_cons_of_mem _ member, found⟩

theorem firstFile?_eq_none {paths : List Path}
    (none_ : ∀ path ∈ paths, tree.hasFile path = .ok false) :
    firstFile? tree paths = .ok none := by
  induction paths with
  | nil => rfl
  | cons head rest inductionHypothesis =>
    rw [List.forall_mem_cons] at none_
    rw [firstFile?, none_.1]
    exact inductionHypothesis none_.2

theorem mem_includedFiles_iff {line : Text} {path : Path} :
    path ∈ includedFiles directory line ↔ ∃ reference ∈ Reference.includes line,
      reference.kind = .file ∧ directory.resolve reference.value.toList = path := by
  simp only [includedFiles, List.mem_map, List.mem_filter, decide_eq_true_eq, and_assoc]

/-- A line leads to a file that is there: one that it includes, or one of secrets if it uses one. -/
theorem ofLine_eq_file {line : Text} {path : Path}
    (leads : ofLine tree shared directory line = .ok (.file path)) :
    tree.hasFile path = .ok true ∧
      (Reference.secrets line = [] → path ∈ includedFiles directory line) := by
  unfold ofLine at leads
  cases first : firstFile? tree (includedFiles directory line) with
  | error cause =>
    rw [first] at leads
    cases leads
  | ok found =>
    rw [first] at leads
    cases found with
    | some included =>
      cases leads
      rcases firstFile?_eq_some first with ⟨member, stands⟩
      exact ⟨stands, fun _ => member⟩
    | none =>
      cases used : Reference.secrets line with
      | nil =>
        rw [used] at leads
        cases leads
      | cons secret others =>
        rw [used] at leads
        cases place : firstFile? tree (secretsCandidates directory shared) with
        | error cause =>
          simp only [place] at leads
          cases leads
        | ok found =>
          simp only [place] at leads
          cases found with
          | none => cases leads
          | some secrets =>
            cases leads
            exact ⟨(firstFile?_eq_some place).2, nofun⟩

/-- A line without secrets of whose files none is there leads nowhere. -/
theorem ofLine_eq_nowhere {line : Text}
    (none_ : ∀ path ∈ includedFiles directory line, tree.hasFile path = .ok false)
    (noSecret : Reference.secrets line = []) :
    ofLine tree shared directory line = .ok .nowhere := by
  unfold ofLine
  rw [firstFile?_eq_none none_, noSecret]
  rfl

theorem find_of_directory {text : Text} {uri : String}
    (located : Uri.directory? uri = .ok (some directory)) (line : Nat) :
    find tree shared text uri line = ofLine tree shared directory (Text.lineAt text line) := by
  unfold find
  rw [located]
  rfl

/-- Whatever stands around a line, the includes and secrets on it are those of the line alone.  If
the line leads to a file, no include of that file is reported missing, and the file is one that the
line includes unless it uses a secret.  If every file that the line includes is reported missing,
and it uses no secret, it leads nowhere. -/
theorem lines_lead_to_what_is_not_missing (tree : FileTree) (shared : Option Path) (text : Text)
    (uri : String) (line : Nat) (isConnected : Bool) (answers : Answers) :
    let here := Text.lineAt text line
    let found := (validate isConnected ⟨text, some uri, tree⟩).given answers
    let isMissing (reference : Reference) : Prop := ∃ diagnostic ∈ found,
      diagnostic.range = reference.range ∧ diagnostic.finding.code = "include-not-found"
    let isOnLine (reference : Reference) : Bool := reference.range.start.line = line
    (Reference.includes text).filter isOnLine =
        (Reference.includes here).map (Reference.down line) ∧
      (Reference.secrets text).filter isOnLine =
        (Reference.secrets here).map (Reference.down line) ∧
      (∀ directory path, Uri.directory? uri = .ok (some directory) →
        find tree shared text uri line = .ok (.file path) →
          (∀ reference ∈ Reference.includes text, reference.kind = .file →
            directory.resolve reference.value.toList = path → ¬ isMissing reference) ∧
          (Reference.secrets here = [] → ∃ reference ∈ Reference.includes text,
            reference.kind = .file ∧ isOnLine reference ∧
              directory.resolve reference.value.toList = path)) ∧
      (∀ place, Uri.directory? uri = .ok place →
        (∀ reference ∈ Reference.includes text, reference.kind = .file → isOnLine reference →
          isMissing reference) →
        Reference.secrets here = [] → find tree shared text uri line = .ok .nowhere) := by
  intro here found isMissing isOnLine
  have includes := Reference.filter_includes text line
  -- What is reported at an include is reported of it, below the one directory of the document.
  have reported {directory : Path} (located : Uri.directory? uri = .ok (some directory))
      {reference : Reference} (member : reference ∈ Reference.includes text)
      (missing : isMissing reference) : ∃ finding,
        Check.include? tree directory reference = .ok (some finding) := by
    rcases missing with ⟨diagnostic, among, range, code⟩
    rcases Check.exists_of_includeNotFound among code with
      ⟨address, place, same, there, other, referred, finding, checked, rfl⟩
    cases same
    cases located.symm.trans there
    rw [Reference.eq_of_range_eq referred member range] at checked
    exact ⟨finding, checked⟩
  have onLine {reference : Reference} (member : reference ∈ Reference.includes here) :
      reference.down line ∈ Reference.includes text ∧ isOnLine (reference.down line) = true := by
    rw [← List.mem_filter, includes]
    exact List.mem_map_of_mem member
  refine ⟨includes, Reference.filter_secrets text line, ?_, ?_⟩
  · intro directory path located leads
    rw [find_of_directory located] at leads
    rcases ofLine_eq_file leads with ⟨stands, included⟩
    refine ⟨fun reference member isFile target missing => ?_, fun noSecret => ?_⟩
    · rcases reported located member missing with ⟨finding, checked⟩
      have present := Check.include?_of_hasFile isFile (target ▸ stands)
      cases present.symm.trans checked
    · rcases mem_includedFiles_iff.mp (included noSecret) with ⟨reference, member, isFile, target⟩
      exact ⟨reference.down line, (onLine member).1, isFile, (onLine member).2, target⟩
  · intro place located missing noSecret
    cases place with
    | none =>
      unfold find
      rw [located]
      rfl
    | some directory =>
      rw [find_of_directory located]
      refine ofLine_eq_nowhere (fun path member => ?_) noSecret
      rcases mem_includedFiles_iff.mp member with ⟨reference, among, isFile, rfl⟩
      rcases onLine among with ⟨referred, isHere⟩
      rcases reported located referred (missing _ referred isFile isHere) with ⟨finding, checked⟩
      exact Check.hasFile_of_include? isFile checked

/-- A document that includes one file that is there and one that is not. -/
def doorsAndLocks : CheckedDocument :=
  ⟨"doors: !include doors.yaml\nlocks: !include locks.yaml".toList, some "file:///config/home.yaml",
    .ofPaths [⟨.root, ["config".toList, "doors.yaml".toList]⟩] []⟩

theorem doors_are_found_and_locks_are_missing :
    let text := doorsAndLocks.text
    let tree := doorsAndLocks.tree
    let uri := "file:///config/home.yaml"
    let found := (validate false doorsAndLocks).given Check.nothingKnown
    find tree none text uri 0 = .ok (.file ⟨.root, ["config".toList, "doors.yaml".toList]⟩) ∧
      (¬ ∃ diagnostic ∈ found, diagnostic.range = ⟨⟨0, 16⟩, ⟨0, 26⟩⟩ ∧
        diagnostic.finding.code = "include-not-found") ∧
      find tree none text uri 1 = .ok .nowhere := by
  intro text tree uri found
  have located : Uri.directory? uri = .ok (some ⟨.root, ["config".toList]⟩) :=
    eq_ok_of_toOption (by decide)
  have leads : find tree none text uri 0 =
      .ok (.file ⟨.root, ["config".toList, "doors.yaml".toList]⟩) :=
    eq_ok_of_toOption (by decide +kernel)
  rcases lines_lead_to_what_is_not_missing tree none text uri 0 false Check.nothingKnown with
    ⟨_, _, doors, _⟩
  rcases lines_lead_to_what_is_not_missing tree none text uri 1 false Check.nothingKnown with
    ⟨_, _, _, locks⟩
  have includes : Reference.includes text = [⟨.file, "doors.yaml", ⟨⟨0, 16⟩, ⟨0, 26⟩⟩, false⟩,
      ⟨.file, "locks.yaml", ⟨⟨1, 16⟩, ⟨1, 26⟩⟩, false⟩] := by decide +kernel
  have missing : found = [⟨⟨⟨1, 16⟩, ⟨1, 26⟩⟩, .missingFile "locks.yaml"⟩] := by decide +kernel
  refine ⟨leads, ?_, locks _ located ?_ (by decide +kernel)⟩
  · exact (doors _ _ located leads).1 ⟨.file, "doors.yaml", ⟨⟨0, 16⟩, ⟨0, 26⟩⟩, false⟩
      (by rw [includes]; exact List.mem_cons_self) rfl rfl
  · intro reference member _ isHere
    rw [includes] at member
    rcases List.mem_cons.mp member with rfl | member
    · exact absurd isHere (by decide)
    · cases List.mem_singleton.mp member
      exact ⟨_, missing ▸ List.mem_cons_self, rfl, rfl⟩

end Destination

end HomeConfig
