import HomeConfig.Proofs.Session.Check

/-!
# The text of a document

One document can have several addresses, since a character may be written in encoded form.  A
document that is opened is kept under the decoded form of its address, but it is changed, closed and
looked up, and its passes are counted, under the address as it is given.  So there are two things
that an address can stand for, and both are read off the run here.

As an editor sees it, a document is open from its opening to its closing (`isOpen`).  The server has
a text for an address that decoding leaves as it is from its opening on, and for any address from
the opening of another spelling on that decodes to it (`isRespelled`); closing the address itself
ends both.

While a pass remains the latest one of its document, only the opening of another spelling can change
the text of the document: `retold` is the text that it got in this way.
-/

namespace HomeConfig

theorem Documents.text?_of_isYaml (documents : Documents) {uri : String}
    (isYaml : Uri.isYaml uri = true) : documents.text? uri = documents.find? uri :=
  if_pos isYaml

theorem Documents.find?_change_of_ne (documents : Documents) {uri other : String}
    (different : other ≠ uri) (changes : List Change) :
    (documents.change uri changes).find? other = documents.find? other := by
  unfold Documents.change
  split
  · exact Table.find?_insert_of_ne _ different _
  · rfl

theorem Documents.isSome_find?_change (documents : Documents) (uri other : String)
    (changes : List Change) :
    ((documents.change other changes).find? uri).isSome = (documents.find? uri).isSome := by
  unfold Documents.change
  split
  · rename_i text found
    rw [Table.find?_insert]
    by_cases same : uri = other
    · rw [if_pos same, same, found]
      rfl
    · rw [if_neg same]
  · rfl

namespace Session

variable {session start : Session} {tick : Tick} {published : Lists} {desk : Desk}
  {number : Nat} {uri : String}

/-! ## Open documents -/

/-- Whether a document has its end told by an event. -/
def Event.closes (uri : String) : Event → Bool
  | .closed other => other == uri
  | _ => false

/-- Whether a document is opened by an event, under the very address. -/
def Event.opens (uri : String) : Event → Bool
  | .opened other _ => admits other && other == uri
  | _ => false

/-- The text that a document gets when it is opened under another spelling of its address. -/
def Event.retells? (uri : String) : Event → Option Text
  | .opened other text =>
    if admits other && other != uri && Percent.decodeString other == uri then some text else none
  | _ => none

/-- Whether something has happened since a document was last closed. -/
def sinceClosed (happens : Event → Bool) (uri : String) (ticks : List Tick) : Bool :=
  ticks.foldl (fun known tick => (known || happens tick.event) && !tick.event.closes uri) false

/-- Whether a document has been opened under its address and not closed since. -/
def isOpen (uri : String) (ticks : List Tick) : Bool :=
  sinceClosed (Event.opens uri) uri ticks

/-- Whether a document has been opened under another spelling of its address since it was last
closed. -/
def isRespelled (uri : String) (ticks : List Tick) : Bool :=
  sinceClosed (fun event => (event.retells? uri).isSome) uri ticks

theorem sinceClosed_concat (happens : Event → Bool) (uri : String) (ticks : List Tick)
    (tick : Tick) :
    sinceClosed happens uri (ticks ++ [tick]) =
      ((sinceClosed happens uri ticks || happens tick.event) && !tick.event.closes uri) := by
  rw [sinceClosed, List.foldl_append]
  rfl

theorem Event.admits_of_opens {event : Event} (opens : event.opens uri = true) :
    admits uri = true := by
  cases event with
  | opened other text =>
    rcases Bool.and_eq_true_iff.mp opens with ⟨admitted, same⟩
    exact eq_of_beq same ▸ admitted
  | _ => cases opens

/-! ## Texts -/

/-- The text that a document got last by being opened under another spelling of its address. -/
def retold (uri : String) : List Tick → Option Text
  | [] => none
  | tick :: later => (retold uri later).or (tick.event.retells? uri)

/-- In a tick that leaves a document its latest pass, the document gets another text only by being
opened under another spelling. -/
theorem Move.text? (move : Move session tick published desk) (isYaml : Uri.isYaml uri = true)
    (bound : number ≤ session.schedule.issued)
    (latest : desk.schedule.latest.find? uri = some number) :
    desk.documents.text? uri = (tick.event.retells? uri).or (session.text? uri) := by
  have newer : ∀ other, (session.schedule.schedule other).latest.find? uri = some number →
      uri ≠ other := by
    rintro other latest rfl
    rw [Schedule.schedule_latest, Table.find?_insert_self] at latest
    have fresh := Option.some.inj latest
    omega
  rw [Session.text?, Documents.text?_of_isYaml _ isYaml, Documents.text?_of_isYaml _ isYaml]
  cases move with
  | @opened other text happens admitted =>
    have different := newer other latest
    rw [happens, Event.retells?, Table.find?_insert]
    by_cases decoded : Percent.decodeString other = uri
    · simp [admitted, decoded, Ne.symm different]
    · simp [decoded, Ne.symm decoded]
  | @changed other changes happens exists_ =>
    have different := newer other latest
    rw [happens]
    exact Documents.find?_change_of_ne _ different changes
  | @closed other happens _ =>
    have different : uri ≠ other := by
      rintro rfl
      simp at latest
    rw [happens]
    exact Table.find?_erase_of_ne _ different
  | gone happens _ _ =>
    rw [happens]
    rfl
  | begun happens _ _ _ | resumed happens _ _ =>
    rw [happens, Desk.follow_documents]
    rfl
  | stopped happens => simp at latest
  | idle ignored =>
    cases happens : tick.event with
    | opened other text =>
      rw [happens] at ignored
      have refused : admits other = false := ignored
      simp only [Event.retells?, refused]
      rfl
    | _ => rfl

theorem issued_le_after (session : Session) (later : List Tick) :
    session.schedule.issued ≤ (session.after later).schedule.issued := by
  rcases session.schedule_after later with ⟨events, shape⟩
  rw [shape, Schedule.issued_after]
  exact Nat.le_add_right _ _

/-- A document whose latest pass is still the same has the text that it had, or the one that it got
since under another spelling. -/
theorem text?_after_of_latest (session : Session) (later : List Tick)
    (isYaml : Uri.isYaml uri = true) (bound : number ≤ session.schedule.issued)
    (latest : (session.after later).schedule.latest.find? uri = some number) :
    (session.after later).text? uri = (retold uri later).or (session.text? uri) := by
  induction later generalizing session with
  | nil => rfl
  | cons tick later inductionHypothesis =>
    have grown : number ≤ (session.next tick).schedule.issued :=
      Nat.le_trans bound (session.issued_le_after [tick])
    have latestNext := latest_of_latest_after later grown latest
    have now : (session.next tick).text? uri = (tick.event.retells? uri).or (session.text? uri) :=
      (session.move_next tick).text? isYaml bound latestNext
    rw [after_cons, inductionHypothesis _ grown latest, now, retold, Option.or_assoc]

theorem retold_concat (uri : String) (ticks : List Tick) (tick : Tick) :
    retold uri (ticks ++ [tick]) = (tick.event.retells? uri).or (retold uri ticks) := by
  induction ticks with
  | nil => simp [retold]
  | cons first rest inductionHypothesis =>
    rw [List.cons_append, retold, inductionHypothesis, retold, Option.or_assoc]

/-- An event gives a document of settings a text by opening it, under an address that decodes to
its own, and takes the text away by closing it. -/
theorem Move.isSome_text? (move : Move session tick published desk)
    (isYaml : Uri.isYaml uri = true) :
    (desk.documents.text? uri).isSome =
      (((session.text? uri).isSome || (tick.event.opens uri && Percent.decodeString uri == uri) ||
        (tick.event.retells? uri).isSome) && !tick.event.closes uri) := by
  -- What an event comes to that neither opens nor closes the document.
  have quiet : ∀ known : Bool,
      ((known || (false && Percent.decodeString uri == uri) || (none : Option Text).isSome) &&
        !false) = known := by
    simp
  rw [Session.text?, Documents.text?_of_isYaml _ isYaml, Documents.text?_of_isYaml _ isYaml]
  cases move with
  | @opened other text happens admitted =>
    rw [happens, Table.find?_insert]
    by_cases decoded : uri = Percent.decodeString other
    · by_cases same : other = uri
      · subst same
        simp [Event.opens, Event.closes, admitted, ← decoded]
      · simp [Event.retells?, Event.closes, admitted, same, ← decoded]
    · by_cases same : other = uri
      · subst same
        simp [Event.retells?, Event.closes, decoded, Ne.symm decoded]
      · simp [Event.opens, Event.retells?, Event.closes, decoded, Ne.symm decoded, same]
  | @changed other changes happens _ =>
    rw [happens, Documents.isSome_find?_change]
    exact (quiet _).symm
  | @closed other happens _ =>
    rw [happens, Documents.close, Table.find?_erase]
    by_cases same : uri = other
    · simp [Event.closes, same]
    · rw [if_neg same]
      simp [Event.closes, Event.opens, Event.retells?, Ne.symm same]
  | gone happens _ _ | stopped happens =>
    rw [happens]
    exact (quiet _).symm
  | begun happens _ _ _ | resumed happens _ _ =>
    rw [happens, Desk.follow_documents]
    exact (quiet _).symm
  | idle ignored =>
    cases happens : tick.event with
    | opened other text =>
      rw [happens] at ignored
      have refused : admits other = false := ignored
      simp [Event.opens, Event.retells?, Event.closes, refused]
      rfl
    | closed other =>
      rw [happens] at ignored
      have different : (other == uri) = false := by
        apply beq_false_of_ne
        rintro rfl
        exact absurd (isYaml.symm.trans ignored) (by decide)
      rw [Event.closes, different]
      exact (quiet _).symm
    | _ => exact (quiet _).symm

/-- The server has a text for an address of settings if a document is open under it and it is the
decoded form, or if one has been opened under another spelling since. -/
theorem isSome_text?_after (sharedSecrets : Option Path) (store : Store) (ticks : List Tick)
    (isYaml : Uri.isYaml uri = true) :
    (((new sharedSecrets store).after ticks).text? uri).isSome =
      ((isOpen uri ticks && Percent.decodeString uri == uri) || isRespelled uri ticks) := by
  induction ticks using List.reverseRecOn with
  | nil =>
    rw [after_nil, Session.text?, Documents.text?_of_isYaml _ isYaml]
    rfl
  | append_singleton ticks tick inductionHypothesis =>
    have now := ((new sharedSecrets store).after ticks).move_next tick |>.isSome_text? isYaml
    rw [after_append, after_cons, after_nil]
    rw [inductionHypothesis] at now
    apply now.trans
    rw [isOpen, isRespelled, isOpen, isRespelled, sinceClosed_concat, sinceClosed_concat]
    grind

/-! ## Latest passes -/

theorem isYaml_of_text? (present : (session.text? uri).isSome) : Uri.isYaml uri = true := by
  by_contra other
  rw [Session.text?, Documents.text?, if_neg other] at present
  cases present

/-- Only the end of all checks and the closing of a document take its latest pass away. -/
theorem Move.latest_of_isSome (move : Move session tick published desk)
    (goesOn : ∀ request, tick.event ≠ .asked request .shutDown)
    (kept : tick.event.closes uri = false)
    (known : (session.schedule.latest.find? uri).isSome ∨ tick.event.opens uri = true) :
    (desk.schedule.latest.find? uri).isSome := by
  have newest : ∀ other, (session.schedule.latest.find? uri).isSome ∨ other = uri →
      ((session.schedule.schedule other).latest.find? uri).isSome := by
    intro other either
    rw [Schedule.schedule_latest, Table.find?_insert]
    split
    · rfl
    · exact either.resolve_right (Ne.symm ‹_›)
  have old : tick.event.opens uri = false → (session.schedule.latest.find? uri).isSome :=
    fun closed => known.resolve_right (by simp [closed])
  cases move with
  | @opened other _ happens _ =>
    refine newest other (known.imp_right fun opens => ?_)
    simp only [happens, Event.opens, Bool.and_eq_true, beq_iff_eq] at opens
    exact opens.2
  | @changed other _ happens _ => exact newest other (Or.inl (old (by rw [happens]; rfl)))
  | @closed other happens _ =>
    have different : other ≠ uri := by simpa [happens, Event.closes] using kept
    rw [Schedule.cancel_latest, Table.find?_erase_of_ne _ (Ne.symm different)]
    exact old (by rw [happens]; rfl)
  | gone happens _ _ =>
    rw [(Schedule.change_next _ _).latest]
    exact old (by rw [happens]; rfl)
  | begun happens _ _ _ | resumed happens _ _ =>
    rw [Desk.follow_latest]
    exact old (by rw [happens]; rfl)
  | @stopped request happens => exact absurd happens (goesOn request)
  | idle ignored =>
    apply old
    cases happens : tick.event with
    | opened other text =>
      rw [happens] at ignored
      have refused : admits other = false := ignored
      simp [Event.opens, refused]
    | _ => rfl

theorem latest_of_isOpen (sharedSecrets : Option Path) (store : Store) {ticks : List Tick}
    (goesOn : ∀ tick ∈ ticks, ∀ request, tick.event ≠ .asked request .shutDown)
    (isOpen : isOpen uri ticks = true) :
    (((new sharedSecrets store).after ticks).schedule.latest.find? uri).isSome := by
  induction ticks using List.reverseRecOn with
  | nil => cases isOpen
  | append_singleton ticks tick inductionHypothesis =>
    rw [Session.isOpen, sinceClosed_concat, Bool.and_eq_true, Bool.or_eq_true,
      Bool.not_eq_true'] at isOpen
    have earlier := inductionHypothesis fun tick member => goesOn tick (by simp [member])
    rw [after_append]
    exact (move_next _ tick).latest_of_isSome (goesOn tick (by simp)) isOpen.2
      (isOpen.1.imp_left earlier)

/-- A document gets a latest pass by being opened, or by being changed when it has a text. -/
theorem Move.known_of_latest (move : Move session tick published desk)
    (latest : (desk.schedule.latest.find? uri).isSome) :
    (Uri.isYaml uri = true → tick.event.closes uri = false) ∧
      ((session.schedule.latest.find? uri).isSome ∨ tick.event.opens uri = true ∨
        (session.text? uri).isSome) := by
  have newest : ∀ other, ((session.schedule.schedule other).latest.find? uri).isSome →
      (session.schedule.latest.find? uri).isSome ∨ other = uri := by
    intro other found
    rw [Schedule.schedule_latest, Table.find?_insert] at found
    split at found
    · exact Or.inr (Eq.symm ‹_›)
    · exact Or.inl found
  cases move with
  | @opened other _ happens admitted =>
    refine ⟨fun _ => by rw [happens]; rfl, (newest other latest).imp_right fun same => Or.inl ?_⟩
    subst same
    simp [happens, Event.opens, admitted]
  | @changed other _ happens present =>
    refine ⟨fun _ => by rw [happens]; rfl, (newest other latest).imp_right fun same => Or.inr ?_⟩
    exact same ▸ present
  | @closed other happens _ =>
    rw [Schedule.cancel_latest, Table.find?_erase] at latest
    split at latest
    · cases latest
    · refine ⟨fun _ => ?_, Or.inl latest⟩
      rw [happens]
      exact beq_false_of_ne (Ne.symm ‹_›)
  | gone happens _ _ =>
    rw [(Schedule.change_next _ _).latest] at latest
    exact ⟨fun _ => by rw [happens]; rfl, Or.inl latest⟩
  | begun happens _ _ _ | resumed happens _ _ =>
    rw [Desk.follow_latest] at latest
    exact ⟨fun _ => by rw [happens]; rfl, Or.inl latest⟩
  | stopped happens => simp at latest
  | idle ignored =>
    refine ⟨fun isYaml => ?_, Or.inl latest⟩
    cases happens : tick.event with
    | closed other =>
      rw [happens] at ignored
      apply beq_false_of_ne
      rintro rfl
      exact absurd (isYaml.symm.trans ignored) (by decide)
    | _ => rfl

/-- A document that has a latest pass is one of settings, and it has been opened since it was last
closed, under its address or under another spelling. -/
theorem known_of_latest (sharedSecrets : Option Path) (store : Store) {ticks : List Tick}
    (latest : (((new sharedSecrets store).after ticks).schedule.latest.find? uri).isSome) :
    Uri.isYaml uri = true ∧ (isOpen uri ticks = true ∨ isRespelled uri ticks = true) := by
  induction ticks using List.reverseRecOn with
  | nil => cases latest
  | append_singleton ticks tick inductionHypothesis =>
    rw [after_append] at latest
    rcases (move_next _ tick).known_of_latest latest with ⟨kept, origin⟩
    have holds : Uri.isYaml uri = true ∧
        (isOpen uri ticks = true ∨ isRespelled uri ticks = true ∨ tick.event.opens uri = true) := by
      rcases origin with before | opens | present
      · exact (inductionHypothesis before).imp_right (Or.imp_right Or.inl)
      · refine ⟨?_, Or.inr (Or.inr opens)⟩
        exact (Bool.and_eq_true_iff.mp (Event.admits_of_opens opens)).1
      · have isYaml := isYaml_of_text? present
        rw [isSome_text?_after sharedSecrets store ticks isYaml] at present
        refine ⟨isYaml, ?_⟩
        grind
    rcases holds with ⟨isYaml, either⟩
    have stays := kept isYaml
    refine ⟨isYaml, ?_⟩
    rw [isOpen, isRespelled, sinceClosed_concat, sinceClosed_concat, stays]
    grind [isOpen, isRespelled]

/-- The text of a document whose latest pass has begun is what the pass read, unless the document
has been opened under another spelling since. -/
theorem Began.text?_after {sharedSecrets : Option Path} {store : Store} {before since : List Tick}
    {read : Option Text} (began : Began (new sharedSecrets store) before tick number uri read)
    (latest : ((new sharedSecrets store).after (before ++ tick :: since)).schedule.latest.find? uri =
      some number) :
    ((new sharedSecrets store).after (before ++ tick :: since)).text? uri =
      (retold uri since).or read := by
  have sound := sound_after sharedSecrets store before
  have bound := sound.number_le _ (Schedule.find?_eq_some began.waiting).1
  have isYaml := (known_of_latest sharedSecrets store (Option.isSome_of_eq_some latest)).1
  rw [after_append] at latest ⊢
  rw [text?_after_of_latest _ (tick :: since) isYaml bound latest, retold, began.happens,
    began.reads]
  exact congrArg (Option.or · read) (Option.or_none)

/-- Without another spelling no other text is read. -/
theorem retold_of_isRespelled (sharedSecrets : Option Path) (store : Store)
    {before since : List Tick}
    (bound : number ≤ ((new sharedSecrets store).after before).schedule.issued)
    (latest : ((new sharedSecrets store).after (before ++ since)).schedule.latest.find? uri =
      some number)
    (plain : isRespelled uri (before ++ since) = false) : retold uri since = none := by
  induction since using List.reverseRecOn with
  | nil => rfl
  | append_singleton since tick inductionHypothesis =>
    rw [← List.append_assoc] at latest plain
    have isYaml := (known_of_latest sharedSecrets store (Option.isSome_of_eq_some latest)).1
    rw [after_append] at latest
    have grown : number ≤
        ((new sharedSecrets store).after (before ++ since)).schedule.issued := by
      rw [after_append]
      exact Nat.le_trans bound (issued_le_after _ since)
    have latestNext : ((((new sharedSecrets store).after (before ++ since)).next
        tick).desk.schedule.latest.find? uri).isSome := Option.isSome_of_eq_some latest
    have kept := ((move_next _ tick).known_of_latest latestNext).1 isYaml
    rw [isRespelled, sinceClosed_concat, kept] at plain
    have parts : isRespelled uri (before ++ since) = false ∧ tick.event.retells? uri = none := by
      simpa [isRespelled] using plain
    have earlier := latest_of_latest_after [tick] grown latest
    rw [retold_concat, parts.2, inductionHypothesis earlier parts.1]
    rfl

end Session

end HomeConfig
