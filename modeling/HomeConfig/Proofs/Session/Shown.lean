import HomeConfig.Proofs.Session.Present

/-!
# What an editor shows

The editor shows the list that was published last for a document, for as long as no other comes.
So two things are wanted of a run: that no findings stay behind for a document that is not open, and
that an open document shows the findings of its present text as soon as no pass is left that could
publish others.

For the first, a document without a text shows nothing: it loses its text only by being closed,
which publishes the empty list, and no pass publishes for it before it gets a text again.  For the
second, `Answered` follows the latest pass of each document: it has not ended, or its result is the
list that is shown, or it ended without finding its document.  The last can only happen to a
document whose address is not its own decoded form.
-/

namespace HomeConfig

namespace Session

variable {start : Session} {ticks since : List Tick} {tick : Tick} {number : Nat} {uri : String}
  {text : Text} {found : List Diagnostic}

/-! ## Documents that are not open -/

/-- An editor shows no findings for a document: none were published, or last an empty list. -/
def IsBlank (uri : String) (published : Lists) : Prop :=
  ∀ found, shown? uri published = some found → found = []

theorem mem_of_shown? {published : Lists} (shown : shown? uri published = some found) :
    (uri, found) ∈ published := by
  rcases List.lookup_eq_some_iff.mp shown with ⟨before, later, shape, _⟩
  have member : (uri, found) ∈ published.reverse := by
    rw [shape]
    simp
  exact List.mem_reverse.mp member

/-- The closing of a document of settings publishes the empty list for it. -/
theorem Move.published_of_closes {session : Session} {published : Lists} {desk : Desk}
    (move : Move session tick published desk) (isYaml : Uri.isYaml uri = true)
    (closes : tick.event.closes uri = true) : published = [(uri, [])] := by
  cases happens : tick.event with
  | closed other =>
    rw [happens] at closes
    rcases eq_of_beq closes with rfl
    cases move with
    | closed same _ =>
      injection happens.symm.trans same with same
      rw [same]
    | idle ignored =>
      rw [happens] at ignored
      exact absurd (isYaml.symm.trans ignored) (by decide)
    | opened same _ | changed same _ | gone same _ _ | begun same _ _ _ | resumed same _ _
    | stopped same => cases happens.symm.trans same
  | _ => simp [happens, Event.closes] at closes

/-- A document without a text shows nothing. -/
theorem isBlank_of_text?_eq_none (sharedSecrets : Option Path) (store : Store)
    (missing : ((new sharedSecrets store).after ticks).text? uri = none) :
    IsBlank uri ((new sharedSecrets store).publications ticks) := by
  induction ticks using List.reverseRecOn with
  | nil =>
    intro found shown
    cases shown
  | append_singleton ticks tick inductionHypothesis =>
    intro found shown
    rw [publications_concat, shown?_append] at shown
    cases now : shown? uri (((new sharedSecrets store).after ticks).published tick) with
    | some last =>
      rw [now] at shown
      obtain rfl : last = found := Option.some.inj shown
      rcases origin_of_mem_published sharedSecrets store (mem_of_shown? now) with
        ⟨_, nothing⟩ | ⟨number, text, since, checked, _, latest⟩
      · exact nothing
      · rw [checked.text?_after latest] at missing
        exact absurd (Option.or_eq_none_iff.mp missing).2 nofun
    | none =>
      rw [now] at shown
      refine inductionHypothesis ?_ found shown
      -- Had there been a text before, the document would have been closed just now.
      by_contra present
      have present := Option.isSome_iff_ne_none.mpr present
      have isYaml := isYaml_of_text? present
      have move := ((new sharedSecrets store).after ticks).move_next tick
      have after : ((((new sharedSecrets store).after ticks).next tick).text? uri).isSome = _ :=
        move.isSome_text? isYaml
      rw [after_append, after_cons, after_nil] at missing
      rw [missing, present] at after
      have closes : tick.event.closes uri = true := by simpa using after
      rw [move.published_of_closes isYaml closes, shown?_singleton, if_pos rfl] at now
      cases now

/-- In every run, a document that is not open shows nothing, and no pass publishes for it, not even
one that was under way when it was closed, unless it has been opened under another spelling of its
address since it was last closed. -/
theorem closed_documents_show_nothing (sharedSecrets : Option Path) (store : Store)
    (ticks : List Tick) (uri : String) :
    (isOpen uri ticks = false → isRespelled uri ticks = false →
      IsBlank uri ((new sharedSecrets store).publications ticks)) ∧
    (∀ before tick later found, ticks = before ++ tick :: later →
      (uri, found) ∈ ((new sharedSecrets store).after before).published tick →
        tick.event ≠ .closed uri → isOpen uri before = true ∨ isRespelled uri before = true) := by
  refine ⟨fun closed plain => ?_, ?_⟩
  · refine isBlank_of_text?_eq_none sharedSecrets store ?_
    by_contra present
    have present := Option.isSome_iff_ne_none.mpr present
    rw [isSome_text?_after sharedSecrets store ticks (isYaml_of_text? present), closed, plain]
      at present
    cases present
  · intro before tick later found _ published byPass
    rcases origin_of_mem_published sharedSecrets store published with
      ⟨closed, _⟩ | ⟨number, text, since, _, latest, _⟩
    · exact absurd closed byPass
    · exact (known_of_latest sharedSecrets store (Option.isSome_of_eq_some latest)).2

/-- A document with a fault is opened, checked and closed. -/
def closeFaulty : List Tick :=
  openFaulty ++ [.bare (.expired 1), .bare (.closed "file:///a.yaml")]

/-- The fault of `closeFaulty` has been shown, and is not shown any more. -/
theorem fault_is_taken_back_at_closing :
    (∃ found, found ≠ [] ∧
      ("file:///a.yaml", found) ∈ offline.publications closeFaulty) ∧
      IsBlank "file:///a.yaml" (offline.publications closeFaulty) := by
  have shown : (offline.publications closeFaulty).map (fun entry => (entry.1, entry.2.length)) =
      [("file:///a.yaml", 1), ("file:///a.yaml", 0)] := by
    decide +kernel
  refine ⟨?_, (closed_documents_show_nothing none _ closeFaulty "file:///a.yaml").1
    (by decide +kernel) (by decide +kernel)⟩
  obtain ⟨⟨address, found⟩, member, same⟩ := List.mem_map.mp
    (show ("file:///a.yaml", 1) ∈ (offline.publications closeFaulty).map
      (fun entry => (entry.1, entry.2.length)) by rw [shown]; simp)
  injection same with address length
  refine ⟨found, ?_, address ▸ member⟩
  rintro rfl
  cases length

/-- A document is opened and closed under one spelling of its address and changed under another,
under which it never was opened. -/
def changeRespelled : List Tick :=
  [.bare (.opened "file:///a%20b.yaml" "a: [".toList), .bare (.closed "file:///a%20b.yaml"),
    .bare (.changed "file:///a b.yaml" []), .bare (.expired 2)]

/-- The fault of `changeRespelled` is shown for a document that never was opened. -/
theorem closed_document_shows_a_fault :
    isOpen "file:///a b.yaml" changeRespelled = false ∧
      ¬IsBlank "file:///a b.yaml" (offline.publications changeRespelled) := by
  refine ⟨by decide +kernel, fun blank => ?_⟩
  have shown : ((shown? "file:///a b.yaml" (offline.publications changeRespelled)).map
      List.length) = some 1 := by
    decide +kernel
  rcases Option.map_eq_some_iff.mp shown with ⟨found, last, length⟩
  rw [blank found last] at length
  cases length

/-! ## Documents that are open -/

/-- What has become of the pass with a number, which was asked for last for a document: it has not
ended, or the list that is shown is what it found, or it did not find its document. -/
inductive Answered (start : Session) (ticks : List Tick) (passes : List Pass) (published : Lists)
    (uri : String) (number : Nat) : Prop
  | pending {pass : Pass} (member : pass ∈ passes) (numbered : pass.number = number)
  | answered {text : Text} {since : List Tick} {found : List Diagnostic}
      (checked : Checked start ticks number uri text since (.finished found))
      (shown : shown? uri published = some found)
  | missed {since : List Tick} (missed : Missed start ticks number uri since)
      (blank : IsBlank uri published)

/-- Other passes may come and go. -/
theorem Answered.among {passes later : List Pass} {published : Lists}
    (answered : Answered start ticks passes published uri number)
    (stays : ∀ pass ∈ passes, pass.number = number → ∃ other ∈ later, other.number = number) :
    Answered start ticks later published uri number := by
  cases answered with
  | pending member numbered =>
    rcases stays _ member numbered with ⟨other, member, numbered⟩
    exact .pending member numbered
  | answered checked shown => exact .answered checked shown
  | missed missed blank => exact .missed missed blank

/-- A tick that publishes nothing for a document leaves its latest pass what has become of it. -/
theorem Answered.concat {passes : List Pass} {before now : Lists}
    (answered : Answered start ticks passes before uri number)
    (silent : shown? uri now = none) :
    Answered start (ticks ++ [tick]) passes (before ++ now) uri number := by
  have same : shown? uri (before ++ now) = shown? uri before := by
    rw [shown?_append, silent]
    rfl
  cases answered with
  | pending member numbered => exact .pending member numbered
  | answered checked shown => exact .answered (checked.concat_finished tick) (same.trans shown)
  | missed missed blank =>
    exact .missed (missed.concat tick) fun found shown => blank found (same.symm.trans shown)

/-- The latest passes of a desk are followed. -/
def Followed (start : Session) (ticks : List Tick) (desk : Desk) (published : Lists) : Prop :=
  ∀ uri number, desk.schedule.latest.find? uri = some number →
    Answered start ticks desk.schedule.passes published uri number

/-- The result of the latest pass of a document is published for it. -/
theorem Desk.follow_finished {desk : Desk} (sound : desk.schedule.Sound)
    (running : (⟨number, uri, .running⟩ : Pass) ∈ desk.schedule.passes)
    (latest : desk.schedule.latest.find? uri = some number) (found : List Diagnostic) :
    (desk.follow number (.finished found)).1 = [(uri, found)] := by
  have made : desk.schedule.published? (.complete number (.found found)) =
      some ⟨number, uri, found⟩ :=
    (Schedule.published?_eq_some_iff _ _ _).mpr
      ⟨rfl, latest, _, sound.find?_of_mem running, rfl⟩
  rw [Desk.follow, made]
  rfl

/-- To follow a check keeps the latest passes followed: the one that it belongs to is published when
it has ended, and for no other document is anything published. -/
theorem Followed.follow {desk : Desk} {before : Lists} {address : String}
    {progress : Progress (List Diagnostic)} (sound : desk.schedule.Sound)
    (running : (⟨number, address, .running⟩ : Pass) ∈ desk.schedule.passes)
    (checked : Checked start (ticks ++ [tick]) number address text since progress)
    (others : ∀ uri other, other ≠ number → desk.schedule.latest.find? uri = some other →
      Answered start ticks desk.schedule.passes before uri other) :
    Followed start (ticks ++ [tick]) (desk.follow number progress).2
      (before ++ (desk.follow number progress).1) := by
  intro uri other latest
  rw [Desk.follow_latest] at latest
  by_cases same : other = number
  · subst same
    obtain rfl : address = uri := sound.latest_uri uri _ running latest
    cases progress with
    | finished found =>
      refine .answered checked ?_
      rw [Desk.follow_finished sound running latest, shown?_append, shown?_singleton, if_pos rfl]
      rfl
    | listing _ _ _ _ => exact .pending running rfl
    | reading _ _ _ => exact .pending running rfl
  · have kept := (others uri other same latest).among fun pass member numbered =>
      ⟨pass, desk.mem_follow member (numbered ▸ same) progress, numbered⟩
    apply kept.concat
    cases shown : shown? uri (desk.follow number progress).1 with
    | none => rfl
    | some found =>
      have published := (Desk.of_mem_follow (mem_of_shown? shown)).2.1
      exact absurd (Option.some.inj (latest.symm.trans published)) same

/-- A tick that publishes nothing and keeps the latest passes of all documents but the one that gets
a new pass. -/
theorem Followed.schedule {before : Lists} {address : String}
    (followed : Followed start ticks (start.after ticks).desk before)
    (sound : (start.after ticks).schedule.Sound)
    (latest : ((start.after ticks).schedule.schedule address).latest.find? uri = some number) :
    Answered start (ticks ++ [tick]) ((start.after ticks).schedule.schedule address).passes
      (before ++ []) uri number := by
  rw [Schedule.schedule_latest, Table.find?_insert] at latest
  split at latest
  · refine .pending ((sound.mem_schedule address).mpr (Or.inr rfl)) ?_
    exact Option.some.inj latest
  · rename_i different
    refine Answered.concat (Answered.among (followed uri number latest) ?_) rfl
    intro pass member numbered
    have own := sound.latest_uri uri pass member (numbered ▸ latest)
    refine ⟨pass, (sound.mem_schedule address).mpr (Or.inl ⟨member, ?_⟩), numbered⟩
    exact fun both => different (own.symm.trans both.1)

theorem Followed.move {before published : Lists} {desk : Desk}
    (followed : Followed start ticks (start.after ticks).desk before)
    (sound : (start.after ticks).schedule.Sound)
    (traced : Traced start ticks (start.after ticks).desk)
    (blank : ∀ uri, (start.after ticks).text? uri = none → IsBlank uri before)
    (move : Move (start.after ticks) tick published desk) :
    Followed start (ticks ++ [tick]) desk (before ++ published) := by
  cases move with
  | opened _ _ | changed _ _ => exact fun uri number latest => followed.schedule sound latest
  | @closed address _ _ =>
    intro uri number latest
    rw [Schedule.cancel_latest, Table.find?_erase] at latest
    split at latest
    · cases latest
    · rename_i different
      refine Answered.concat (Answered.among (followed uri number latest) ?_) ?_
      · intro pass member numbered
        have own := sound.latest_uri uri pass member (numbered ▸ latest)
        refine ⟨pass, (sound.mem_cancel address).mpr ⟨member, ?_⟩, numbered⟩
        exact fun both => different (own.symm.trans both.1)
      · rw [shown?_singleton, if_neg different]
  | @gone ended pass happens waiting missing =>
    intro uri number latest
    rcases Schedule.find?_eq_some waiting with ⟨present, numbered, isWaiting⟩
    rw [(Schedule.change_next _ _).latest] at latest
    by_cases same : number = ended
    · subst same
      obtain rfl : pass.uri = uri := sound.latest_uri uri pass present (numbered ▸ latest)
      have missed := (Began.of_waiting happens waiting missing).missed
      rw [List.append_nil]
      exact .missed missed (blank _ missing)
    · refine Answered.concat (Answered.among (followed uri number latest) ?_) rfl
      intro other member numbers
      refine ⟨other, mem_complete ?_ (numbers ▸ same) _, numbers⟩
      refine (sound.mem_start present).mpr (Or.inl ⟨member, ?_⟩)
      rw [numbers, numbered]
      exact same
  | @begun began pass text progress happens waiting present reaches =>
    rcases Schedule.find?_eq_some waiting with ⟨member, numbered, isWaiting⟩
    have checked := (Began.of_waiting happens waiting present).checked
    rw [reaches] at checked
    refine Followed.follow (sound.start member isWaiting) ?_ checked ?_
    · refine (sound.mem_start member).mpr (Or.inr ?_)
      rw [← numbered]
    · intro uri other different latest
      apply Answered.among (followed uri other latest)
      intro old present numbers
      refine ⟨old, (sound.mem_start member).mpr (Or.inl ⟨present, ?_⟩), numbers⟩
      rw [numbers, numbered]
      exact different
  | @resumed resumed reply earlier progress happens waits reaches =>
    rcases traced resumed earlier waits with ⟨uri, text, since, running, checked⟩
    have later := checked.concat tick
    rw [heed_replied happens, reaches] at later
    exact Followed.follow sound running later fun uri other _ latest => followed uri other latest
  | stopped happens =>
    intro uri number latest
    simp at latest
  | idle ignored =>
    intro uri number latest
    exact Answered.concat (followed uri number latest) rfl

/-- In every run, the latest pass of each document is followed. -/
theorem followed_after (sharedSecrets : Option Path) (store : Store) (ticks : List Tick) :
    Followed (new sharedSecrets store) ticks ((new sharedSecrets store).after ticks).desk
      ((new sharedSecrets store).publications ticks) := by
  induction ticks using List.reverseRecOn with
  | nil =>
    intro uri number latest
    cases latest
  | append_singleton ticks tick inductionHypothesis =>
    have sound := sound_after sharedSecrets store ticks
    have traced := traced_after sharedSecrets store ticks
    rw [publications_concat, after_append]
    exact inductionHypothesis.move sound traced
      (fun uri missing => isBlank_of_text?_eq_none sharedSecrets store missing) (move_next _ tick)

/-- A pass for an address that decoding leaves as it is finds its document. -/
theorem Missed.decodeString_ne {sharedSecrets : Option Path} {store : Store}
    (missed : Missed (new sharedSecrets store) ticks number uri since) :
    Percent.decodeString uri ≠ uri := by
  intro plain
  rcases missed with ⟨before, first, rfl, began⟩
  have sound := sound_after sharedSecrets store before
  have member := (Schedule.find?_eq_some began.waiting).1
  have latest := sound.latest_of_waiting _ member rfl
  rcases known_of_latest sharedSecrets store (Option.isSome_of_eq_some latest) with ⟨isYaml, known⟩
  have present := isSome_text?_after sharedSecrets store before isYaml
  rw [began.reads, plain] at present
  rcases known with opened | respelled
  · simp [opened] at present
  · simp [respelled] at present

/-- In every run without a shut-down, once no pass waits or runs, an open document shows what
`validate` has found in the text that the document has, or had before it was opened under another
spelling of its address.  A document is left out only if its address is not its own decoded form,
and then nothing is shown for it. -/
theorem settled_documents_show_their_findings (sharedSecrets : Option Path) (store : Store)
    (ticks : List Tick) (uri : String)
    (goesOn : ∀ tick ∈ ticks, ∀ request, tick.event ≠ .asked request .shutDown)
    (settled : ((new sharedSecrets store).after ticks).schedule.passes = [])
    (opened : isOpen uri ticks = true) :
    (∃ number text since found,
      Checked (new sharedSecrets store) ticks number uri text since (.finished found) ∧
      shown? uri ((new sharedSecrets store).publications ticks) = some found ∧
      ((new sharedSecrets store).after ticks).text? uri = (retold uri since).or (some text) ∧
      (isRespelled uri ticks = false →
        ((new sharedSecrets store).after ticks).text? uri = some text)) ∨
    (Percent.decodeString uri ≠ uri ∧
      IsBlank uri ((new sharedSecrets store).publications ticks)) := by
  have known := latest_of_isOpen sharedSecrets store goesOn opened
  rcases Option.isSome_iff_exists.mp known with ⟨number, latest⟩
  cases followed_after sharedSecrets store ticks uri number latest with
  | pending member _ =>
    have member : _ ∈ ((new sharedSecrets store).after ticks).schedule.passes := member
    rw [settled] at member
    cases member
  | @answered text since found checked shown =>
    have present := checked.text?_after latest
    refine Or.inl ⟨number, text, since, found, checked, shown, present, fun plain => ?_⟩
    rw [present, checked.retold_eq_none latest plain]
    rfl
  | missed missed blank => exact Or.inr ⟨missed.decodeString_ne, blank⟩

/-- A document is changed while its first check waits for live data, and the replies to both checks
come in after that. -/
def changeWhileChecking : List Tick :=
  let reply (number : Nat) : Tick :=
    .bare (.replied (.pass number) (.ok ⟨200, some "application/json", "[]"⟩))
  [.bare (.opened "file:///a.yaml" "entity_id: light.attic\n".toList), .bare (.expired 1),
    .bare (.changed "file:///a.yaml" [.whole "entity_id: light.kitchen\n".toList]),
    .bare (.expired 2), reply 1, reply 2]

/-- What is shown after `changeWhileChecking` is about the text that the document was changed to. -/
theorem changed_document_shows_its_findings :
    ∃ number text since found,
      Checked online changeWhileChecking number "file:///a.yaml" text since (.finished found) ∧
      shown? "file:///a.yaml" (online.publications changeWhileChecking) = some found ∧
      found ≠ [] ∧ (online.after changeWhileChecking).text? "file:///a.yaml" = some text := by
  have goesOn : ∀ tick ∈ changeWhileChecking, ∀ request, tick.event ≠ .asked request .shutDown := by
    simp [changeWhileChecking, Tick.bare]
  rcases settled_documents_show_their_findings none online.store changeWhileChecking
      "file:///a.yaml" goesOn (by decide +kernel) (by decide +kernel) with
    ⟨number, text, since, found, checked, shown, _, plainly⟩ | ⟨encoded, _⟩
  · refine ⟨number, text, since, found, checked, shown, ?_, plainly (by decide +kernel)⟩
    rintro rfl
    exact absurd shown (by decide +kernel)
  · exact absurd (by decide +kernel) encoded

/-- A document is opened whose address has an encoded blank. -/
def openEncoded : List Tick :=
  [.bare (.opened "file:///a%20b.yaml" "a: [".toList), .bare (.expired 1)]

/-- No pass is left after `openEncoded`, and the fault of the open document is not shown. -/
theorem encoded_document_shows_nothing :
    (offline.after openEncoded).schedule.passes = [] ∧
      isOpen "file:///a%20b.yaml" openEncoded = true ∧
      shown? "file:///a%20b.yaml" (offline.publications openEncoded) = none := by
  decide +kernel

end Session

end HomeConfig
