import HomeConfig.Proofs.Document.Unknown
import HomeConfig.Proofs.Live.Served

/-!
# Checks apart

The checks of a document are made one after the other on one store, and what one of them asks for
is there for the next.  Still none of them has a part in what another one finds.

Every finding has the code of the check that it comes from (`Check.code_of_mem_found`), so the
findings can be told apart afterwards.  Those of the checks that ask nothing are the same with and
without a connection, whatever is answered; those of the other two depend on the answer to their
own question alone.  A check that fails finds nothing, and can be left out.

All this is about answers that are given beforehand.  A check that waits is served its answers one
by one while other questions share the store, but it asks for each list once at most, so what it
was served can be given (`Lookup.exists_findings_of_answer`, `Activity.ComesTo.exists_given`).
-/

namespace HomeConfig

/-- What a document is checked in: whether there is a connection, and what questions are
answered. -/
structure Circumstances where
  isConnected : Bool
  answers : Answers

namespace Circumstances

/-- What the question for the states is answered.  Without a connection it is not asked. -/
def states? (circumstances : Circumstances) : Option (Except Failure (List Entity)) :=
  if circumstances.isConnected then some circumstances.answers.states else none

/-- What the question for the services is answered.  Without a connection it is not asked. -/
def services? (circumstances : Circumstances) : Option (Except Failure (List Service)) :=
  if circumstances.isConnected then some circumstances.answers.services else none

/-- What is found of a document. -/
def findings (circumstances : Circumstances) (document : CheckedDocument) : List Diagnostic :=
  (validate circumstances.isConnected document).given circumstances.answers

end Circumstances

/-- The findings that have one of some codes. -/
def Diagnostic.withCodes (codes : List String) (found : List Diagnostic) : List Diagnostic :=
  found.filter fun diagnostic => codes.contains diagnostic.finding.code

namespace Check

open Diagnostic

/-- The code of what a check finds. -/
def code : Check → String
  | entities => "unknown-entity"
  | services => "unknown-service"
  | includes => "include-not-found"
  | templates => "template-syntax"
  | yaml => "yaml-syntax"

/-! ## Findings by their codes -/

theorem code_of_mem_found (answers : Answers) (document : CheckedDocument) (check : Check) :
    ∀ diagnostic ∈ check.found answers document, diagnostic.finding.code = check.code := by
  cases check with
  | entities =>
    intro diagnostic member
    rw [found_entities] at member
    rcases exists_of_mem_unknown member with ⟨reference, _, _, rfl⟩
    rfl
  | services =>
    intro diagnostic member
    rw [found_services] at member
    rcases exists_of_mem_unknown member with ⟨reference, _, _, rfl⟩
    rfl
  | includes =>
    refine forall_mem_found rfl fun found checked diagnostic member => ?_
    rcases exists_of_mem_missingIncludes checked member with
      ⟨_, _, _, _, reference, _, finding, missing, rfl⟩
    exact code_of_include? missing
  | templates =>
    refine forall_mem_found rfl fun found checked diagnostic member => ?_
    unfold faultyTemplates at checked
    split at checked
    · cases checked
      rcases List.mem_map.mp member with ⟨issue, _, rfl⟩
      rfl
    · cases checked
  | yaml =>
    refine forall_mem_found rfl fun found checked diagnostic member => ?_
    unfold syntaxErrors at checked
    split at checked
    · cases checked
      rcases List.mem_map.mp member with ⟨report, _, rfl⟩
      rfl
    · cases checked

/-- The findings with some codes are those of the checks with these codes. -/
theorem withCodes_flatMap (codes : List String) (answers : Answers) (document : CheckedDocument)
    (checks : List Check) :
    withCodes codes (checks.flatMap (found answers document)) =
      (checks.filter fun check => codes.contains check.code).flatMap (found answers document) := by
  induction checks with
  | nil => rfl
  | cons check rest inductionHypothesis =>
    have same : ∀ diagnostic ∈ found answers document check,
        codes.contains diagnostic.finding.code = codes.contains check.code :=
      fun diagnostic member =>
        congrArg codes.contains (check.code_of_mem_found answers document diagnostic member)
    unfold withCodes at inductionHypothesis ⊢
    rw [List.flatMap_cons, List.filter_append, inductionHypothesis, List.filter_congr same]
    cases chosen : codes.contains check.code with
    | true => simp only [List.filter_cons, chosen, List.filter_true, List.flatMap_cons, if_true]
    | false =>
      simp only [List.filter_cons, chosen, List.filter_false, List.nil_append, Bool.false_eq_true,
        if_false]

/-- What a check that asks nothing finds does not depend on answers. -/
theorem found_congr {check : Check} {document : CheckedDocument}
    {outcome : Except Failure (List Diagnostic)}
    (asksNothing : check.run document = Inquiry.ofExcept outcome) (here there : Answers) :
    check.found here document = check.found there document := by
  unfold found
  rw [asksNothing]
  rfl

theorem flatMap_found_local (document : CheckedDocument) (here there : Answers) :
    [includes, templates, yaml].flatMap (found here document) =
      [includes, templates, yaml].flatMap (found there document) := by
  refine List.flatMap_congr fun check member => ?_
  simp only [List.mem_cons, List.not_mem_nil, or_false] at member
  rcases member with rfl | rfl | rfl
  · exact found_congr rfl here there
  · exact found_congr rfl here there
  · exact found_congr rfl here there

theorem withCodes_local (circumstances : Circumstances) (document : CheckedDocument) :
    withCodes ["include-not-found", "template-syntax", "yaml-syntax"]
        (circumstances.findings document) =
      [includes, templates, yaml].flatMap (found circumstances.answers document) := by
  rw [Circumstances.findings, validate, given_runAll, withCodes_flatMap]
  cases circumstances.isConnected <;> rfl

theorem withCodes_entities (circumstances : Circumstances) (document : CheckedDocument) :
    withCodes ["unknown-entity"] (circumstances.findings document) =
      (circumstances.states?.map fun listed => unknown .unknownEntity
        (isKnownAmong Entity.id listed) (Reference.entities document.text)).getD [] := by
  rw [Circumstances.findings, validate, given_runAll, withCodes_flatMap, Circumstances.states?]
  cases circumstances.isConnected with
  | false => rfl
  | true => exact (List.append_nil _).trans (found_entities circumstances.answers document)

theorem withCodes_services (circumstances : Circumstances) (document : CheckedDocument) :
    withCodes ["unknown-service"] (circumstances.findings document) =
      (circumstances.services?.map fun listed => unknown .unknownService
        (isKnownAmong Service.fullName listed) (Reference.services document.text)).getD [] := by
  rw [Circumstances.findings, validate, given_runAll, withCodes_flatMap, Circumstances.services?]
  cases circumstances.isConnected with
  | false => rfl
  | true => exact (List.append_nil _).trans (found_services circumstances.answers document)

/-! ## Checks that fail -/

theorem found_of_error {answers : Answers} {document : CheckedDocument} {check : Check}
    {cause : Failure} (failed : (check.run document).run.given answers = .error cause) :
    check.found answers document = [] := by
  rw [found, failed]

/-- Checks that fail can be left out. -/
theorem given_runAll_filter {answers : Answers} {document : CheckedDocument}
    {failed : Check → Bool}
    (fails : ∀ check, failed check = true →
      ∃ cause, (check.run document).run.given answers = .error cause) (checks : List Check) :
    (runAll document (checks.filter fun check => !failed check)).given answers =
      (runAll document checks).given answers := by
  rw [given_runAll, given_runAll]
  induction checks with
  | nil => rfl
  | cons check rest inductionHypothesis =>
    cases fate : failed check with
    | true =>
      rcases fails check fate with ⟨cause, error⟩
      rw [List.filter_cons_of_neg (by simp [fate]), List.flatMap_cons, found_of_error error,
        inductionHypothesis, List.nil_append]
    | false =>
      rw [List.filter_cons_of_pos (by simp [fate]), List.flatMap_cons, List.flatMap_cons,
        inductionHypothesis]

/-! ## What checks ask for -/

theorem nodup_all (isConnected : Bool) : (all isConnected).Nodup := by
  cases isConnected <;> decide

theorem eq_of_asks {check other : Check} {registry : Registry} (asks : check.Asks registry)
    (too : other.Asks registry) : check = other := by
  cases check <;> cases other <;> simp_all [Asks]

/-- Different checks ask for different lists. -/
theorem asksOnce_runAll (document : CheckedDocument) {checks : List Check}
    (different : checks.Nodup) :
    (runAll document checks).AsksOnce fun registry => ∃ check ∈ checks, check.Asks registry := by
  induction checks with
  | nil => trivial
  | cons check rest inductionHypothesis =>
    rw [List.nodup_cons] at different
    have safely : (check.runSafely document).AsksOnce check.Asks := by
      refine (asksOnce_run document check).bind_quiet fun outcome => ?_
      cases outcome <;> trivial
    have others (found : List Diagnostic) :
        (runAll document rest >>= fun later => pure (found ++ later)).AsksOnce
          fun registry => ∃ check ∈ rest, check.Asks registry :=
      (inductionHypothesis different.2).bind_quiet fun _ => trivial
    refine (safely.bind others ?_).mono ?_
    · rintro registry asks ⟨other, member, too⟩
      exact different.1 (eq_of_asks asks too ▸ member)
    · rintro registry (asks | ⟨other, member, asks⟩)
      · exact ⟨check, List.mem_cons_self, asks⟩
      · exact ⟨other, List.mem_cons_of_mem _ member, asks⟩

end Check

/-! ## Runs -/

namespace Lookup

variable {ι : Type}

/-- What a job has been asked last. -/
def Asked (calls : List (Call ι)) (job : ι) (lookup : Lookup) : Prop :=
  ∃ before now later, calls = before ++ .asked job now lookup :: later ∧
    ∀ time other, .asked job time other ∉ later

theorem exists_asked_of_begun {isConnected : Bool} {calls : List (Call ι)} {job : ι}
    {begun : Activity Answer}
    (origin : Work.Begun (calls.map (Call.event (activity isConnected))) job begun) :
    ∃ lookup, Asked calls job lookup ∧ begun = lookup.activity isConnected := by
  rcases origin with ⟨_, now, _, split, notAnew⟩
  rcases List.map_eq_append_iff.mp split with ⟨before, rest, rfl, rfl, ends⟩
  rcases List.map_eq_cons_iff.mp ends with ⟨call, later, rfl, same, rfl⟩
  cases call with
  | asked other time lookup =>
    cases same
    refine ⟨lookup, ⟨before, now, later, rfl, fun time other member => ?_⟩, rfl⟩
    exact notAnew time _ (List.mem_map_of_mem member)
  | replied _ _ _ | dropped _ | invalidated => cases same

/-- Findings are the answer to a question for the findings of a document. -/
theorem comesTo_of_findings {isConnected : Bool} {lookup : Lookup} {served : List Served}
    {found : List Diagnostic}
    (comes : (lookup.activity isConnected).ComesTo served (.findings found)) :
    ∃ document, lookup = .findings document ∧
      (validate isConnected document).ComesTo served found := by
  cases lookup with
  | findings document =>
    rcases comes.of_bind with ⟨first, second, middle, rfl, comes, ends⟩
    cases ends
    rw [List.append_nil]
    exact ⟨document, rfl, comes⟩
  | states | table | entity _ =>
    rcases comes.of_bind with ⟨_, _, _, _, _, ends⟩
    cases ends

/-- A job that is answered with findings has been asked for those of a document, and they are what
the checks of the document come to with the answers that they were served. -/
theorem exists_findings_of_answer [DecidableEq ι] {access : Option Access} {timeToLive : Moment}
    {calls : List (Call ι)} {call : Call ι} {job : ι} {found : List Diagnostic}
    (answered : .answer job (.findings found) ∈ (((Work.new access timeToLive).after
      (calls.map (Call.event (activity access.isSome)))).step
        (call.event (activity access.isSome))).1) :
    ∃ document served, Asked (calls ++ [call]) job (.findings document) ∧
      (validate access.isSome document).ComesTo served found := by
  have indexes : ∀ event ∈ calls.map (Call.event (activity access.isSome)), event.Indexes := by
    intro event member
    rcases List.mem_map.mp member with ⟨call, _, rfl⟩
    exact call.indexes_event access.isSome
  rcases Work.exists_comesTo_of_answer indexes (call.indexes_event access.isSome) answered with
    ⟨begun, served, origin, comes⟩
  have calls_ : (calls ++ [call]).map (Call.event (activity access.isSome)) =
      calls.map (Call.event (activity access.isSome)) ++
        [call.event (activity access.isSome)] := List.map_append
  rw [← calls_] at origin
  rcases exists_asked_of_begun origin with ⟨lookup, asked, rfl⟩
  rcases comesTo_of_findings comes with ⟨document, rfl, found⟩
  exact ⟨document, served, asked, found⟩

end Lookup

namespace Check

open Diagnostic

/-- Whatever is answered, checking a document comes to findings.  In any two circumstances, those
about includes, templates and syntax are the same, those about entities are the same if the question
for the states goes the same way, and those about services if the one for the services does.
Whichever checks fail, the findings are those of the other checks alone.  And whenever a question is
answered with findings, these are the findings of its document in circumstances that agree with all
that its checks were served. -/
theorem checks_do_not_interfere {ι : Type} [DecidableEq ι] (access : Option Access)
    (timeToLive : Moment) (calls : List (Lookup.Call ι)) (call : Lookup.Call ι)
    (document : CheckedDocument) :
    let work := (Work.new access timeToLive).after
      (calls.map (Lookup.Call.event (Lookup.activity access.isSome)))
    (∀ circumstances : Circumstances, ∃ served,
      (∀ answer ∈ served, circumstances.answers.Holds answer) ∧
        (validate circumstances.isConnected document).ComesTo served
          (circumstances.findings document)) ∧
      (∀ here there : Circumstances,
        withCodes ["include-not-found", "template-syntax", "yaml-syntax"]
            (here.findings document) =
          withCodes ["include-not-found", "template-syntax", "yaml-syntax"]
            (there.findings document) ∧
        (here.states? = there.states? → withCodes ["unknown-entity"] (here.findings document) =
          withCodes ["unknown-entity"] (there.findings document)) ∧
        (here.services? = there.services? →
          withCodes ["unknown-service"] (here.findings document) =
            withCodes ["unknown-service"] (there.findings document))) ∧
      (∀ (circumstances : Circumstances) (failed : Check → Bool),
        (∀ check, failed check = true → ∃ cause,
          (check.run document).run.given circumstances.answers = .error cause) →
        circumstances.findings document =
          (runAll document ((all circumstances.isConnected).filter fun check =>
            !failed check)).given circumstances.answers) ∧
      (∀ job found, .answer job (.findings found) ∈
          (work.step (call.event (Lookup.activity access.isSome))).1 →
        ∃ document served answers,
          Lookup.Asked (calls ++ [call]) job (.findings document) ∧
            (validate access.isSome document).ComesTo served found ∧
            (∀ answer ∈ served, Answers.Holds answers answer) ∧
            found = Circumstances.findings ⟨access.isSome, answers⟩ document) := by
  intro work
  refine ⟨fun circumstances => ?_, fun here there => ⟨?_, fun same => ?_, fun same => ?_⟩, ?_, ?_⟩
  · exact Activity.comesTo_given _ circumstances.answers
  · rw [withCodes_local, withCodes_local]
    exact flatMap_found_local document here.answers there.answers
  · rw [withCodes_entities, withCodes_entities, same]
  · rw [withCodes_services, withCodes_services, same]
  · intro circumstances failed fails
    exact (given_runAll_filter fails (all circumstances.isConnected)).symm
  · intro job found answered
    rcases Lookup.exists_findings_of_answer answered with ⟨document, served, asked, comes⟩
    rcases comes.exists_given (asksOnce_runAll document (nodup_all _)) with ⟨answers, holds, given⟩
    exact ⟨document, served, answers, asked, comes, holds, given.symm⟩

/-- A document with a service, an entity and an include, which stands in a directory without other
files. -/
def threeNames : CheckedDocument :=
  ⟨"service: light.on\nentity_id: light.attic\ndoors: !include doors.yaml".toList,
    some "file:///config/home.yaml", .ofPaths [] []⟩

/-- The states cannot be had, and there are no services. -/
def statesFail : Circumstances :=
  ⟨true, nothingKnown.withList .states (.error .notACollection)⟩

/-- The document is asked about, and the states come in empty, not yet the services. -/
def askedBefore : List (Lookup.Call Nat) :=
  [.asked 1 0 (.findings threeNames),
    .replied 1 1 (.ok ⟨200, some "application/json", "[]"⟩)]

/-- Without the states the service and the include are reported all the same, and when the question
is answered, it is answered with findings of the document. -/
theorem service_and_include_are_reported_without_states :
    let access : Access := ⟨"http://home:8123/api", "token", 10⟩
    let last : Lookup.Call Nat := .replied 1 1 (.ok ⟨200, some "application/json", "[]"⟩)
    let work := (Work.new (some access) 60).after
      (askedBefore.map (Lookup.Call.event (Lookup.activity true)))
    withCodes ["include-not-found", "template-syntax", "yaml-syntax"]
        (statesFail.findings threeNames) =
        [⟨⟨⟨2, 16⟩, ⟨2, 26⟩⟩, .missingFile "doors.yaml"⟩] ∧
      withCodes ["unknown-service"] (statesFail.findings threeNames) =
        [⟨⟨⟨0, 9⟩, ⟨0, 17⟩⟩, .unknownService "light.on"⟩] ∧
      statesFail.findings threeNames =
        (runAll threeNames [.services, includes, templates, yaml]).given statesFail.answers ∧
      ∃ found, .answer 1 (.findings found) ∈
          (work.step (last.event (Lookup.activity true))).1 ∧
        ∃ document answers, Lookup.Asked (askedBefore ++ [last]) 1 (.findings document) ∧
          found = Circumstances.findings ⟨true, answers⟩ document := by
  intro access last work
  rcases checks_do_not_interfere (some access) 60 askedBefore last threeNames with
    ⟨_, apart, leave, answered⟩
  rcases apart statesFail ⟨true, nothingKnown⟩ with ⟨local_, _, services⟩
  refine ⟨?_, ?_, ?_, ?_⟩
  · rw [local_]
    decide +kernel
  · rw [services rfl]
    decide +kernel
  · refine leave statesFail (fun check => check = entities) fun check failed => ?_
    cases of_decide_eq_true failed
    cases outcome : (run threeNames entities).run.given statesFail.answers with
    | error cause => exact ⟨cause, rfl⟩
    | ok found =>
      have missing : ((run threeNames entities).run.given statesFail.answers).toOption.isSome =
          false := by decide +kernel
      rw [outcome] at missing
      cases missing
  · have ends : ((work.step (last.event (Lookup.activity true))).1.findSome? fun
        | .answer 1 (.findings found) => some found
        | _ => none).isSome = true := by decide +kernel
    rcases Option.isSome_iff_exists.mp ends with ⟨found, first⟩
    rcases List.exists_of_findSome?_eq_some first with ⟨effect, member, same⟩
    split at same
    next =>
      cases same
      rcases answered 1 found member with ⟨document, _, answers, asked, _, _, given⟩
      exact ⟨found, member, document, answers, asked, given⟩
    next => cases same

end Check

end HomeConfig
