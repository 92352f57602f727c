import HomeConfig.Proofs.Session.Spelling

/-!
# Findings about present texts

A pass reads its document when it begins, and its findings are published when the last reply to its
check has come in.  By then the document may have been changed, closed and opened again.  Each of
these takes the pass the right to publish, since it gives the document another latest pass or none.
So what a pass publishes is about the text that the document has at that moment.

This rests on one address for each document.  Opened under another spelling of its address, a
document gets another text while its latest pass stays the same, and then findings about the old
text are published for it.
-/

namespace HomeConfig

namespace Session

variable {start : Session} {ticks since : List Tick} {tick : Tick} {number : Nat} {uri : String}
  {text : Text} {found : List Diagnostic}

/-! ## What a desk publishes -/

/-- Only an ended check publishes, and only for the document whose latest pass it belongs to. -/
theorem Desk.of_mem_follow {desk : Desk} {progress : Progress (List Diagnostic)}
    (published : (uri, found) ∈ (desk.follow number progress).1) :
    progress = .finished found ∧ desk.schedule.latest.find? uri = some number ∧
      ∃ pass, desk.schedule.find? number .running = some pass ∧ pass.uri = uri := by
  cases progress with
  | finished result =>
    rcases List.mem_map.mp published with ⟨publication, made, same⟩
    have holds := (Schedule.published?_eq_some_iff _ _ _).mp (Option.mem_toList.mp made)
    rcases holds with ⟨ending, latest, pass, running, address⟩
    injection ending with numbers results
    injection results with results
    injection same with uris founds
    rw [results, founds, ← uris, numbers]
    exact ⟨rfl, latest, pass, numbers ▸ running, address⟩
  | listing _ _ _ _ => cases published
  | reading _ _ _ => cases published

/-- A list is published because a document is closed, or as the result of the latest pass of the
document, whose check the tick brings to its end.  The pass is the latest one before and after. -/
theorem origin_of_mem_published (sharedSecrets : Option Path) (store : Store)
    (published : (uri, found) ∈ ((new sharedSecrets store).after ticks).published tick) :
    (tick.event = .closed uri ∧ found = []) ∨
      ∃ number text since,
        Checked (new sharedSecrets store) (ticks ++ [tick]) number uri text since
          (.finished found) ∧
        ((new sharedSecrets store).after ticks).schedule.latest.find? uri = some number ∧
        ((new sharedSecrets store).after (ticks ++ [tick])).schedule.latest.find? uri =
          some number := by
  have sound := sound_after sharedSecrets store ticks
  have traced := traced_after sharedSecrets store ticks
  have move := ((new sharedSecrets store).after ticks).move_next tick
  rw [after_append, after_cons, after_nil]
  rw [show (((new sharedSecrets store).after ticks).next tick).schedule =
    (((new sharedSecrets store).after ticks).next tick).desk.schedule from rfl]
  generalize ((new sharedSecrets store).after ticks).published tick = lists at published move
  generalize (((new sharedSecrets store).after ticks).next tick).desk = desk at move ⊢
  cases move with
  | closed happens _ =>
    have same := List.mem_singleton.mp published
    injection same with uris founds
    exact Or.inl ⟨uris ▸ happens, founds⟩
  | @begun number pass text progress happens waiting present reaches =>
    right
    rcases Schedule.find?_eq_some waiting with ⟨member, numbered, isWaiting⟩
    rcases Desk.of_mem_follow published with ⟨rfl, latest, running, isRunning, address⟩
    -- The running pass is the one that has just begun, so the text is that of its document.
    have same : running = { pass with phase := .running } := by
      rcases Schedule.find?_eq_some isRunning with ⟨present, numbers, _⟩
      refine (sound.start member isWaiting).eq_of_number_eq present ?_ ?_
      · exact (sound.mem_start member).mpr (Or.inr rfl)
      · rw [numbers, ← numbered]
    rw [same] at address
    obtain rfl : pass.uri = uri := address
    have began := Began.of_waiting happens waiting present
    have checked := began.checked
    rw [reaches] at checked
    rw [Desk.follow_latest]
    exact ⟨number, text, [], checked, latest, latest⟩
  | @resumed number reply before progress happens waits reaches =>
    right
    rcases traced number before waits with ⟨address, text, since, member, checked⟩
    rcases Desk.of_mem_follow published with ⟨rfl, latest, running, isRunning, rfl⟩
    have same : running = ⟨number, address, .running⟩ := by
      rcases Schedule.find?_eq_some isRunning with ⟨present, numbers, _⟩
      exact sound.eq_of_number_eq present member numbers
    rw [same] at latest ⊢
    have later := checked.concat tick
    rw [heed_replied happens, reaches] at later
    rw [Desk.follow_latest]
    exact ⟨number, text, since ++ [tick], later, latest, latest⟩
  | opened _ _ | changed _ _ | gone _ _ _ | stopped _ | idle _ => cases published

/-! ## What the findings are about -/

/-- The text of a document for which a pass publishes is the one that the pass read, unless the
document has been opened under another spelling since. -/
theorem Checked.text?_after {sharedSecrets : Option Path} {store : Store}
    {progress : Progress (List Diagnostic)}
    (checked : Checked (new sharedSecrets store) ticks number uri text since progress)
    (latest : ((new sharedSecrets store).after ticks).schedule.latest.find? uri = some number) :
    ((new sharedSecrets store).after ticks).text? uri = (retold uri since).or (some text) := by
  rcases checked with ⟨before, first, rfl, began, _⟩
  exact began.text?_after latest

theorem Checked.retold_eq_none {sharedSecrets : Option Path} {store : Store}
    {progress : Progress (List Diagnostic)}
    (checked : Checked (new sharedSecrets store) ticks number uri text since progress)
    (latest : ((new sharedSecrets store).after ticks).schedule.latest.find? uri = some number)
    (plain : isRespelled uri ticks = false) : retold uri since = none := by
  rcases checked with ⟨before, first, rfl, began, _⟩
  have sound := sound_after sharedSecrets store before
  have bound := sound.number_le _ (Schedule.find?_eq_some began.waiting).1
  have whole : retold uri (first :: since) = none :=
    retold_of_isRespelled sharedSecrets store bound latest plain
  exact (Option.or_eq_none_iff.mp whole).1

/-- Whenever a list is published for a document that is not being closed, it is what `validate` has
found in the text that a pass for the document read.  The document has then the text that it got
since under another spelling of its address, or else the very text that was read.  So if the
document has not been opened under another spelling since it was last closed, it is open, and its
text is the one that the findings are about. -/
theorem published_findings_are_about_present_texts (sharedSecrets : Option Path) (store : Store)
    (ticks : List Tick) (tick : Tick) (uri : String) (found : List Diagnostic)
    (published : (uri, found) ∈ ((new sharedSecrets store).after ticks).published tick)
    (byPass : tick.event ≠ .closed uri) :
    ∃ number text since,
      Checked (new sharedSecrets store) (ticks ++ [tick]) number uri text since (.finished found) ∧
      ((new sharedSecrets store).after (ticks ++ [tick])).text? uri =
        (retold uri since).or (some text) ∧
      (isRespelled uri (ticks ++ [tick]) = false →
        isOpen uri (ticks ++ [tick]) = true ∧
          ((new sharedSecrets store).after (ticks ++ [tick])).text? uri = some text) := by
  rcases origin_of_mem_published sharedSecrets store published with ⟨closed, _⟩ | traced
  · exact absurd closed byPass
  · rcases traced with ⟨number, text, since, checked, _, latest⟩
    have present := checked.text?_after latest
    refine ⟨number, text, since, checked, present, fun plain => ?_⟩
    have known := (known_of_latest sharedSecrets store (Option.isSome_of_eq_some latest)).2
    rw [checked.retold_eq_none latest plain] at present
    exact ⟨known.resolve_right (by simp [plain]), present⟩

/-- A document is opened that ends before its first value. -/
def openFaulty : List Tick :=
  [.bare (.opened "file:///a.yaml" "a: [".toList)]

/-- The end of the countdown publishes the fault of `openFaulty`, which its text still has. -/
theorem fault_is_published_about_present_text :
    ∃ found, found ≠ [] ∧ ("file:///a.yaml", found) ∈
        (offline.after openFaulty).published (.bare (.expired 1)) ∧
      ∃ number text since,
        Checked offline (openFaulty ++ [.bare (.expired 1)]) number "file:///a.yaml" text since
          (.finished found) ∧
        (offline.after (openFaulty ++ [.bare (.expired 1)])).text? "file:///a.yaml" =
          some text := by
  have published : ("file:///a.yaml", [(⟨⟨⟨0, 4⟩, ⟨0, 5⟩⟩, .yaml ("while parsing a flow node " ++
      "expected the node content, but found '<stream end>'")⟩ : Diagnostic)]) ∈
      (offline.after openFaulty).published (.bare (.expired 1)) := by
    decide +kernel
  rcases published_findings_are_about_present_texts none _ openFaulty (.bare (.expired 1))
      "file:///a.yaml" _ published nofun with ⟨number, text, since, checked, _, plainly⟩
  exact ⟨_, by simp, published, number, text, since, checked, (plainly (by decide +kernel)).2⟩

/-- A document is opened, its pass begins and waits for live data, and then the document gets
another text under another spelling of its address. -/
def reopenRespelled : List Tick :=
  [.bare (.opened "file:///a b.yaml" "entity_id: light.attic\n".toList),
    .bare (.expired 1),
    .bare (.opened "file:///a%20b.yaml" "entity_id: light.kitchen\n".toList)]

/-- Home Assistant replies that it has no entities. -/
def withoutEntities : Tick :=
  .bare (.replied (.pass 1) (.ok ⟨200, some "application/json", "[]"⟩))

/-- The pass of `reopenRespelled` publishes what it has found in the text that it read, though the
document has another text by then. -/
theorem respelled_document_gets_outdated_findings :
    let old : Text := "entity_id: light.attic\n".toList
    let found : List Diagnostic := [⟨⟨⟨0, 11⟩, ⟨0, 22⟩⟩, .unknownEntity "light.attic"⟩]
    (online.after reopenRespelled).published withoutEntities = [("file:///a b.yaml", found)] ∧
      Checked online (reopenRespelled ++ [withoutEntities]) 1 "file:///a b.yaml" old
        [.bare (.opened "file:///a%20b.yaml" "entity_id: light.kitchen\n".toList),
          withoutEntities] (.finished found) ∧
      (online.after (reopenRespelled ++ [withoutEntities])).text? "file:///a b.yaml" ≠
        some old := by
  refine ⟨by decide +kernel, ?_, by decide +kernel⟩
  refine ⟨[.bare (.opened "file:///a b.yaml" "entity_id: light.attic\n".toList)],
    .bare (.expired 1), rfl, ⟨rfl, by decide +kernel, by decide +kernel⟩, ?_⟩
  exact (eq_finished_of_result? (by decide +kernel)).symm

end Session

end HomeConfig
