import HomeConfig.Live.Request

/-!
# Orderly replies

A list is asked for, and something comes back: an outage, a status that means failure, a body that
is no JSON, or JSON of any shape.  What is made of it should be a list or a problem of the service,
which every caller knows how to report.

It is one of the two whenever no answer comes, the status is not one of success, or the content as a
whole is not a list.  Inside a list it is not: an entry of another shape than the documented one
ends the reading with a failure of another kind, and so does a body that is declared as JSON and is
none.  `Orderly` says exactly which replies are read without such a failure.
-/

namespace HomeConfig

variable {α β : Type}

/-- An outcome is a value or a problem of the service. -/
def EndsNormally (outcome : Except Failure α) : Prop :=
  (∃ value, outcome = .ok value) ∨
    ∃ problem, outcome = .error (.problem problem) ∧ problem.kind = .service

/-! ## Shapes -/

namespace Json

/-- The value is a text. -/
def IsText (value : Json) : Prop :=
  ∃ text, value = .string text

/-- The value is an object with members of a given shape. -/
def IsObject (shape : List (String × Json) → Prop) (value : Json) : Prop :=
  ∃ members, value = .object members ∧ shape members

/-- A value that is there and counts as present has a given shape. -/
def IfSet (shape : Json → Prop) (value : Option Json) : Prop :=
  ∀ present, value = some present → present.isTruthy = true → shape present

/-- A value that is there is a text or null. -/
def IsTextOrNull (value : Option Json) : Prop :=
  ∀ present, value = some present → present = .null ∨ present.IsText

end Json

/-- A state with an identifier as it is documented. -/
structure Entity.Orderly (members : List (String × Json)) : Prop where
  id : Json.IfSet Json.IsText (Json.lookup "entity_id" members)
  attributes : Json.IfSet (Json.IsObject fun _ => True) (Json.lookup "attributes" members)
  lastChanged : Json.IsTextOrNull (Json.lookup "last_changed" members)
  lastUpdated : Json.IsTextOrNull (Json.lookup "last_updated" members)

/-- An input of a service as it is documented. -/
def ServiceField.Orderly (members : List (String × Json)) : Prop :=
  Json.IfSet Json.IsText (Json.lookup "description" members)

/-- A service as it is documented. -/
structure Service.Orderly (members : List (String × Json)) : Prop where
  fields : Json.IfSet
    (Json.IsObject fun fields => ∀ field ∈ fields,
      Json.IfSet (Json.IsObject ServiceField.Orderly) (some field.2))
    (Json.lookup "fields" members)
  name : Json.IfSet Json.IsText (Json.lookup "name" members)
  description : Json.IfSet Json.IsText (Json.lookup "description" members)

/-- The services of a domain as they are documented.  Only a domain that has services must have a
text for a name. -/
def Service.OrderlyDomain (members : List (String × Json)) : Prop :=
  ∀ domain, Json.lookup "domain" members = some domain → domain.isTruthy = true →
    Json.IfSet
      (Json.IsObject fun services => ∀ service ∈ services,
        domain.IsText ∧ Json.IfSet (Json.IsObject Service.Orderly) (some service.2))
      (Json.lookup "services" members)

/-- An entry of a registry as it is documented. -/
structure Place.Orderly (members : List (String × Json)) : Prop where
  id : Json.IfSet Json.IsText (Json.lookup "id" members)
  name : Json.IfSet Json.IsText (Json.lookup "name" members)

/-- An entry of the registry of devices as it is documented. -/
structure Device.Orderly (members : List (String × Json)) : Prop extends
    Place.Orderly members where
  area : Json.IsTextOrNull (Json.lookup "area" members)

/-- A rendered registry is no JSON list, or has entries of a given shape.  Only a number with too
many digits is worse than other faults of the text. -/
def OrderlyRendering (shape : List (String × Json) → Prop) (content : Json) : Prop :=
  ∀ text, renderedText content = .ok text →
    (∀ digits, Json.read text.toList ≠ .error (.integerTooLong digits)) ∧
      ∀ items, Json.read text.toList = .ok (.array items) →
        ∀ members ∈ namedEntries items, shape members

/-- The content of a reply is no list, or one with entries as they are documented. -/
def Registry.OrderlyContent : Registry → Json → Prop
  | .states, content => ∀ items, content = .array items → ∀ item ∈ items,
      item.IsObject fun members =>
        Service.isSet (Json.lookup "entity_id" members) = true → Entity.Orderly members
  | .services, content => ∀ entries, content = .array entries → ∀ entry ∈ entries,
      entry.IsObject Service.OrderlyDomain
  | .devices, content => OrderlyRendering Device.Orderly content
  | _, content => OrderlyRendering Place.Orderly content

/-- A reply that is read without a failure of another kind: no answer, for any reason but an address
that none can be sent to; a status that is not one of success; or content that can be read and has
the documented shape. -/
def Registry.Orderly (registry : Registry) : Reply → Prop
  | .error outage => outage ≠ .invalidAddress
  | .ok response => response.status = 200 ∨ response.status = 201 →
      ∃ content, response.content = .ok content ∧ registry.OrderlyContent content

/-- The fields have no flaw. -/
def Checked.Fits : Checked α → Prop
  | .ok _ => True
  | .error _ => False

/-! ## Readers without problems of their own -/

/-- An outcome that is no problem, and is a value exactly if a condition holds. -/
structure ReadsIf (outcome : Except Failure α) (condition : Prop) : Prop where
  plain : ∀ problem, outcome ≠ .error (.problem problem)
  iff : (∃ value, outcome = .ok value) ↔ condition

namespace ReadsIf

theorem endsNormally_iff {outcome : Except Failure α} {condition : Prop}
    (reads : ReadsIf outcome condition) : EndsNormally outcome ↔ condition := by
  rw [← reads.iff]
  constructor
  · rintro (value | ⟨problem, shape, _⟩)
    · exact value
    · exact absurd shape (reads.plain problem)
  · exact Or.inl

theorem congr {outcome : Except Failure α} {condition other : Prop}
    (reads : ReadsIf outcome condition) (same : condition ↔ other) : ReadsIf outcome other :=
  ⟨reads.plain, reads.iff.trans same⟩

theorem ok (value : α) : ReadsIf (.ok value : Except Failure α) True :=
  ⟨fun _ => nofun, iff_of_true ⟨value, rfl⟩ trivial⟩

/-- One reader after another. -/
theorem bind {outcome : Except Failure α} {condition : Prop} {next : α → Except Failure β}
    {further : α → Prop} (reads : ReadsIf outcome condition)
    (rest : ∀ value, outcome = .ok value → ReadsIf (next value) (further value)) :
    ReadsIf (outcome >>= next) (condition ∧ ∀ value, outcome = .ok value → further value) := by
  cases outcome with
  | error cause =>
    have fails : ¬condition := fun holds => by
      rcases reads.iff.mpr holds with ⟨value, shape⟩
      cases shape
    refine ⟨fun problem shape => reads.plain problem ?_, iff_of_false ?_ fun both => fails both.1⟩
    · have same : cause = .problem problem := Except.error.inj shape
      rw [same]
    · rintro ⟨value, shape⟩
      cases shape
  | ok value =>
    have holds : condition := reads.iff.mp ⟨value, rfl⟩
    have step := rest value rfl
    refine ⟨step.plain, step.iff.trans ⟨fun fits => ⟨holds, ?_⟩, fun both => both.2 value rfl⟩⟩
    rintro other shape
    rwa [← Except.ok.inj shape]

/-- One reader after another, where what the second one needs is known from the start. -/
theorem andThen {outcome : Except Failure α} {condition further : Prop}
    {next : α → Except Failure β} (reads : ReadsIf outcome condition)
    (rest : ∀ value, ReadsIf (next value) further) :
    ReadsIf (outcome >>= next) (condition ∧ further) := by
  refine (reads.bind fun value _ => rest value).congr (and_congr_right fun holds => ?_)
  rcases reads.iff.mpr holds with ⟨value, shape⟩
  exact ⟨fun fits => fits value shape, fun fits _ _ => fits⟩

/-- What follows always gives a value. -/
theorem map {outcome : Except Failure α} {condition : Prop} (reads : ReadsIf outcome condition)
    (next : α → β) : ReadsIf (outcome >>= fun value => pure (next value)) condition :=
  (reads.andThen fun value => ReadsIf.ok (next value)).congr (and_iff_left trivial)

/-- One reader for all entries of a list. -/
theorem mapM {reader : α → Except Failure β} {condition : α → Prop} {entries : List α}
    (reads : ∀ entry ∈ entries, ReadsIf (reader entry) (condition entry)) :
    ReadsIf (entries.mapM reader) (∀ entry ∈ entries, condition entry) := by
  induction entries with
  | nil => exact (ReadsIf.ok []).congr (by simp)
  | cons entry others inductionHypothesis =>
    rw [List.forall_mem_cons] at reads
    rw [List.mapM_cons, List.forall_mem_cons]
    exact reads.1.andThen fun first => (inductionHypothesis reads.2).map (first :: ·)

theorem ofChecked {checked : Checked α} {condition : Prop} (fits : checked.Fits ↔ condition) :
    ReadsIf (Failure.ofChecked checked) condition := by
  cases checked with
  | ok value => exact (ok value).congr (iff_of_true trivial (fits.mp trivial))
  | error flaws =>
    have fails : ¬condition := fun holds => fits.mpr holds
    exact ⟨fun _ => nofun, iff_of_false (fun ⟨_, shape⟩ => nomatch shape) fails⟩

/-- A reader of the members of a value. -/
theorem members {value : Json} {next : List (String × Json) → Except Failure β}
    {shape : List (String × Json) → Prop}
    (reads : ∀ members, value = .object members → ReadsIf (next members) (shape members)) :
    ReadsIf (value.members >>= next) (value.IsObject shape) := by
  cases value with
  | object members =>
    refine (reads members rfl).congr ⟨fun fits => ⟨members, rfl, fits⟩, ?_⟩
    rintro ⟨other, same, fits⟩
    rwa [Json.object.inj same]
  | _ =>
    refine ⟨fun _ => nofun, iff_of_false ?_ ?_⟩
    · rintro ⟨_, shape⟩
      cases shape
    · rintro ⟨_, shape, _⟩
      cases shape

end ReadsIf

/-! ## Fields -/

namespace Checked

theorem fits_pure (value : α) : (Checked.pure value).Fits :=
  trivial

/-- Two parts are read together if each of them is. -/
theorem fits_seq {function : Checked (α → β)} {argument : Checked α} :
    (function <*> argument).Fits ↔ function.Fits ∧ argument.Fits := by
  have unfolded : (function <*> argument) = Checked.seq function fun _ => argument := rfl
  rw [unfolded]
  cases function <;> cases argument <;> simp [Checked.seq, Fits]

theorem fits_map {function : α → β} {argument : Checked α} :
    (function <$> argument).Fits ↔ argument.Fits :=
  fits_seq.trans (and_iff_right (fits_pure function))

theorem fits_text {field : String} {value : Json} :
    (Checked.text field value).Fits ↔ value.IsText := by
  cases value <;> simp [Checked.text, Checked.pure, Checked.flaw, Fits, Json.IsText]

theorem fits_object {field : String} {value : Json} :
    (Checked.object field value).Fits ↔ value.IsObject fun _ => True := by
  cases value <;> simp [Checked.object, Checked.pure, Checked.flaw, Fits, Json.IsObject]

theorem fits_optionalText {field : String} {value : Option Json} :
    (Checked.optionalText field (value.getD .null)).Fits ↔ Json.IsTextOrNull value := by
  cases value with
  | none => simp [Checked.optionalText, Checked.pure, Fits, Json.IsTextOrNull]
  | some value =>
    cases value <;>
      simp [Checked.optionalText, Checked.pure, Checked.flaw, Fits, Json.IsTextOrNull, Json.IsText]

end Checked

namespace Json

theorem isText_string (text : String) : (Json.string text).IsText :=
  ⟨text, rfl⟩

/-- A member with a text in its place is a text. -/
theorem isText_orElse {value : Option Json} {other : Json} (text : other.IsText) :
    (orElse value other).IsText ↔ IfSet IsText value := by
  cases value with
  | none => simpa [orElse, IfSet] using text
  | some value =>
    by_cases present : value.isTruthy = true
    · simp [orElse, IfSet, present]
    · simpa [orElse, IfSet, present] using text

/-- A member with an empty object in its place is an object. -/
theorem isObject_orEmpty {value : Option Json} {shape : List (String × Json) → Prop}
    (empty : shape []) : (orEmpty value).IsObject shape ↔ IfSet (IsObject shape) value := by
  have nothing : (Json.object []).IsObject shape := ⟨[], rfl, empty⟩
  cases value with
  | none => simpa [orEmpty, IfSet] using nothing
  | some value =>
    by_cases present : value.isTruthy = true
    · simp [orEmpty, IfSet, present]
    · simpa [orEmpty, IfSet, present] using nothing

theorem ifSet_of_isSet {value : Option Json} {shape : Json → Prop}
    (set : Service.isSet value = true) : IfSet shape value ↔ ∃ present, value = some present ∧
      shape present := by
  cases value with
  | none => cases set
  | some value =>
    have present : value.isTruthy = true := set
    simp [IfSet, present]

end Json

/-! ## Entries -/

/-- A set member is a text as it stands if it is one. -/
theorem isText_getD {value : Option Json} {other : Json} (set : Service.isSet value = true) :
    (value.getD other).IsText ↔ Json.IfSet Json.IsText value := by
  rw [Json.ifSet_of_isSet set]
  cases value with
  | none => cases set
  | some value => simp

theorem Entity.readsIf_ofState {members : List (String × Json)}
    (set : Service.isSet (Json.lookup "entity_id" members) = true) :
    ReadsIf (Entity.ofState (.object members)) (Entity.Orderly members) := by
  refine ReadsIf.ofChecked ?_
  rw [Checked.fits_seq, Checked.fits_seq, Checked.fits_seq,
    Checked.fits_seq, Checked.fits_map, Checked.fits_text,
    Checked.fits_object, Checked.fits_optionalText,
    Checked.fits_optionalText, isText_getD set,
    Json.isObject_orEmpty trivial]
  constructor
  · rintro ⟨⟨⟨⟨id, _⟩, attributes⟩, changed⟩, updated⟩
    exact ⟨id, attributes, changed, updated⟩
  · rintro ⟨id, attributes, changed, updated⟩
    exact ⟨⟨⟨⟨id, Checked.fits_pure _⟩, attributes⟩, changed⟩, updated⟩

theorem Place.fits_check {members : List (String × Json)}
    (set : Service.isSet (Json.lookup "id" members) = true) :
    (Place.check members).Fits ↔ Place.Orderly members := by
  unfold Place.check
  rw [Checked.fits_seq, Checked.fits_map, Checked.fits_text,
    Checked.fits_text]
  constructor
  · rintro ⟨id, name⟩
    exact ⟨(isText_getD set).mp id, (Json.isText_orElse id).mp name⟩
  · rintro ⟨id, name⟩
    have text : ((Json.lookup "id" members).getD .null).IsText := (isText_getD set).mpr id
    exact ⟨text, (Json.isText_orElse text).mpr name⟩

theorem Place.readsIf_read {members : List (String × Json)}
    (set : Service.isSet (Json.lookup "id" members) = true) :
    ReadsIf (Place.read members) (Place.Orderly members) :=
  ReadsIf.ofChecked (Place.fits_check set)

theorem Device.readsIf_read {members : List (String × Json)}
    (set : Service.isSet (Json.lookup "id" members) = true) :
    ReadsIf (Device.read members) (Device.Orderly members) := by
  refine ReadsIf.ofChecked ?_
  rw [Checked.fits_seq, Checked.fits_map, Place.fits_check set,
    Checked.fits_optionalText]
  exact ⟨fun both => ⟨both.1, both.2⟩, fun device => ⟨device.toOrderly, device.area⟩⟩

theorem ServiceField.orderly_nil : ServiceField.Orderly [] :=
  fun _ => nofun

theorem ServiceField.readsIf_readField (raw : Json) :
    ReadsIf (Service.readField raw) (Json.IfSet (Json.IsObject ServiceField.Orderly) (some raw)) := by
  refine (ReadsIf.members fun members _ => ReadsIf.ofChecked ?_).congr
    (Json.isObject_orEmpty ServiceField.orderly_nil)
  rw [Checked.fits_seq, Checked.fits_map, Checked.fits_text,
    Json.isText_orElse (Json.isText_string _)]
  exact and_iff_left (Checked.fits_pure _)

theorem Service.orderly_nil : Service.Orderly [] :=
  ⟨fun _ => nofun, fun _ => nofun, fun _ => nofun⟩

/-- The parts of a service are read one after the other, and the domain with them. -/
theorem Service.readsIf_read (domain : Json) (name : String) (raw : Json) :
    ReadsIf (Service.read domain name raw)
      (domain.IsText ∧ Json.IfSet (Json.IsObject Service.Orderly) (some raw)) := by
  unfold Service.read
  refine (ReadsIf.members fun members _ =>
    (?_ : ReadsIf _ (domain.IsText ∧ Service.Orderly members))).congr ?_
  · refine ((ReadsIf.members fun fields _ =>
      (?_ : ReadsIf _ ((∀ field ∈ fields,
          Json.IfSet (Json.IsObject ServiceField.Orderly) (some field.2)) ∧
        domain.IsText ∧ Json.IfSet Json.IsText (Json.lookup "name" members) ∧
          Json.IfSet Json.IsText (Json.lookup "description" members)))).congr ?_)
    · refine (ReadsIf.mapM fun field _ =>
        (ServiceField.readsIf_readField field.2).map _).andThen fun read => ReadsIf.ofChecked ?_
      rw [Checked.fits_seq, Checked.fits_seq, Checked.fits_map, Checked.fits_text,
        Checked.fits_text, Checked.fits_text, Json.isText_orElse (Json.isText_string _),
        Json.isText_orElse (Json.isText_string _), and_assoc]
    · constructor
      · rintro ⟨fields, same, all, text, name, description⟩
        exact ⟨text, (Json.isObject_orEmpty fun _ => nofun).mp ⟨fields, same, all⟩, name, description⟩
      · rintro ⟨text, fields, name, description⟩
        rcases (Json.isObject_orEmpty fun _ => nofun).mpr fields with ⟨fields, same, all⟩
        exact ⟨fields, same, all, text, name, description⟩
  · rw [← Json.isObject_orEmpty Service.orderly_nil]
    exact ⟨fun ⟨members, same, text, fits⟩ => ⟨text, members, same, fits⟩,
      fun ⟨text, members, same, fits⟩ => ⟨members, same, text, fits⟩⟩

/-- A domain is read if its services are. -/
theorem Service.readsIf_readDomain (entry : Json) :
    ReadsIf (Service.readDomain entry) (entry.IsObject Service.OrderlyDomain) := by
  unfold Service.readDomain
  refine ReadsIf.members fun members _ => ?_
  cases found : Json.lookup "domain" members with
  | none =>
    refine (ReadsIf.ok []).congr (iff_of_true trivial fun domain there => ?_)
    rw [found] at there
    cases there
  | some domain =>
    have only {other : Json} (same : Json.lookup "domain" members = some other) : domain = other :=
      Option.some.inj (found.symm.trans same)
    by_cases present : domain.isTruthy = true
    · simp only [Option.getD_some, present, Bool.not_true, Bool.false_eq_true, if_false]
      refine (ReadsIf.members fun services _ => ReadsIf.mapM fun service _ =>
        Service.readsIf_read domain service.1 service.2).congr
          ((Json.isObject_orEmpty fun _ => nofun).trans ⟨?_, ?_⟩)
      · rintro services other there _
        exact only there ▸ services
      · exact fun services => services domain found present
    · simp only [Option.getD_some, Bool.not_eq_true _ ▸ present, Bool.not_false, if_true]
      refine (ReadsIf.ok []).congr (iff_of_true trivial fun other there set => ?_)
      exact absurd (only there ▸ set) present

theorem Service.readsIf_ofCatalogue (entries : List Json) :
    ReadsIf (Service.ofCatalogue entries)
      (∀ entry ∈ entries, entry.IsObject Service.OrderlyDomain) :=
  (ReadsIf.mapM fun entry _ => Service.readsIf_readDomain entry).map List.flatten

/-- States are read if those with an identifier are. -/
theorem readsIf_readStates (items : List Json) :
    ReadsIf (readStates items) (∀ item ∈ items, item.IsObject fun members =>
      Service.isSet (Json.lookup "entity_id" members) = true → Entity.Orderly members) := by
  induction items with
  | nil => exact (ReadsIf.ok []).congr (by simp)
  | cons raw rest inductionHypothesis =>
    rw [List.forall_mem_cons, readStates]
    refine (ReadsIf.members fun members same => (?_ : ReadsIf _
      ((Service.isSet (Json.lookup "entity_id" members) = true → Entity.Orderly members) ∧ _))).congr
        ⟨fun ⟨members, same, first, others⟩ => ⟨⟨members, same, first⟩, others⟩,
          fun ⟨⟨members, same, first⟩, others⟩ => ⟨members, same, first, others⟩⟩
    by_cases set : Service.isSet (Json.lookup "entity_id" members) = true
    · subst same
      rw [if_pos set, forall_prop_of_true set]
      exact (Entity.readsIf_ofState set).andThen fun entity => inductionHypothesis.map (entity :: ·)
    · rw [if_neg set]
      exact inductionHypothesis.congr (and_iff_right fun present => absurd present set).symm

/-! ## Replies -/

/-- The entries of a rendered registry that are read have an identifier. -/
theorem isSet_of_mem_namedEntries {items : List Json} {members : List (String × Json)}
    (member : members ∈ namedEntries items) :
    Service.isSet (Json.lookup "id" members) = true := by
  rcases List.mem_filterMap.mp member with ⟨item, _, found⟩
  cases item with
  | object others =>
    by_cases set : Service.isSet (Json.lookup "id" others) = true
    · simp only [set, if_true, Option.some.injEq] at found
      exact found ▸ set
    · simp [set] at found
  | _ => cases found

theorem endsNormally_ofQuery (tool message : String) :
    EndsNormally (.error (.ofQuery tool message) : Except Failure α) :=
  Or.inr ⟨_, rfl, rfl⟩

/-- A rendered registry that holds a list is read as its entries are. -/
theorem endsNormally_rendered_iff (tool : String) (content : Json)
    {reader : List (String × Json) → Except Failure α} {shape : List (String × Json) → Prop}
    (reads : ∀ members, Service.isSet (Json.lookup "id" members) = true →
      ReadsIf (reader members) (shape members)) :
    EndsNormally (do (← readRendered tool content).mapM reader) ↔
      OrderlyRendering shape content := by
  unfold readRendered OrderlyRendering
  cases rendered : renderedText content with
  | error cause =>
    cases content with
    | null =>
      cases rendered
      exact iff_of_true (endsNormally_ofQuery _ _) fun _ => nofun
    | _ => cases rendered
  | ok text =>
    have only {condition : String → Prop} :
        (∀ other, (.ok text : Except Failure String) = .ok other → condition other) ↔
          condition text :=
      ⟨fun all => all text rfl, fun holds other same => Except.ok.inj same ▸ holds⟩
    rw [only]
    simp only [bind, Except.bind]
    cases Json.read text.toList with
    | error error =>
      cases error with
      | flawed flaw offset =>
        exact iff_of_true (endsNormally_ofQuery _ _) ⟨fun _ => nofun, fun _ => nofun⟩
      | integerTooLong digits =>
        refine iff_of_false ?_ fun both => both.1 digits rfl
        rintro (⟨_, shape⟩ | ⟨_, shape, _⟩) <;> cases shape
    | ok value =>
      cases value with
      | array items =>
        have all := ReadsIf.mapM fun members (member : members ∈ namedEntries items) =>
          reads members (isSet_of_mem_namedEntries member)
        refine all.endsNormally_iff.trans ⟨fun fits => ⟨fun _ => nofun, fun others same => ?_⟩,
          fun both => both.2 items rfl⟩
        cases same
        exact fits
      | _ => exact iff_of_true (endsNormally_ofQuery _ _) ⟨fun _ => nofun, fun _ => nofun⟩

theorem Registry.endsNormally_decode_iff (registry : Registry) (content : Json) :
    EndsNormally (registry.decode content) ↔ registry.OrderlyContent content := by
  cases registry with
  | states =>
    cases content with
    | array items =>
      refine (readsIf_readStates items).endsNormally_iff.trans ⟨fun fits others same => ?_,
        fun all => all items rfl⟩
      exact Json.array.inj same ▸ fits
    | _ => exact iff_of_true (endsNormally_ofQuery _ _) fun _ => nofun
  | services =>
    cases content with
    | array entries =>
      refine (Service.readsIf_ofCatalogue entries).endsNormally_iff.trans
        ⟨fun fits others same => ?_, fun all => all entries rfl⟩
      exact Json.array.inj same ▸ fits
    | _ => exact iff_of_true (endsNormally_ofQuery _ _) fun _ => nofun
  | devices => exact endsNormally_rendered_iff _ content fun _ => Device.readsIf_read
  | areas | floors | labels => exact endsNormally_rendered_iff _ content fun _ => Place.readsIf_read

theorem Response.plain_content (response : Response) (problem : Problem) :
    response.content ≠ .error (.problem problem) := by
  unfold Response.content
  split
  · split
    · nofun
    · unfold readJson
      split <;> nofun
  · nofun

/-- A missing page holds no list of any kind. -/
theorem Registry.endsNormally_missing (registry : Registry) :
    EndsNormally (registry.decode .null) := by
  cases registry <;> exact Or.inr ⟨_, rfl, rfl⟩

/-- What a successful response holds decides. -/
theorem Registry.endsNormally_content_iff (registry : Registry) (response : Response) :
    EndsNormally (do registry.decode (← response.content)) ↔
      ∃ content, response.content = .ok content ∧ registry.OrderlyContent content := by
  cases held : response.content with
  | error cause =>
    refine iff_of_false ?_ fun ⟨_, shape, _⟩ => nomatch shape
    rintro (⟨_, shape⟩ | ⟨problem, shape, _⟩)
    · cases shape
    · have same : cause = .problem problem := Except.error.inj shape
      exact response.plain_content problem (held.trans (congrArg _ same))
  | ok content =>
    refine (registry.endsNormally_decode_iff content).trans
      ⟨fun orderly => ⟨content, rfl, orderly⟩, fun ⟨other, same, orderly⟩ => ?_⟩
    exact Except.ok.inj same ▸ orderly

/-- For each list and every reply, what is made of the reply is a list or a problem of the service
exactly if the reply is orderly. -/
theorem replies_end_normally_iff_orderly (registry : Registry) (url : String) (reply : Reply) :
    EndsNormally (registry.ofReply url reply) ↔ registry.Orderly reply := by
  cases reply with
  | error outage =>
    cases outage with
    | invalidAddress =>
      refine iff_of_false ?_ fun orderly => orderly rfl
      rintro (⟨_, shape⟩ | ⟨_, shape, _⟩) <;> cases shape
    | refused | timedOut | other name => exact iff_of_true (Or.inr ⟨_, rfl, rfl⟩) nofun
  | ok response =>
    unfold Registry.ofReply Reply.content Registry.Orderly
    by_cases success : response.status = 200 ∨ response.status = 201
    · have found : response.status ≠ 404 := by
        rcases success with same | same <;> rw [same] <;> decide
      simp only [if_neg found, if_pos success, forall_prop_of_true success]
      exact registry.endsNormally_content_iff response
    · refine iff_of_true ?_ fun holds => absurd holds success
      by_cases missing : response.status = 404
      · simp only [if_pos missing]
        exact registry.endsNormally_missing
      · simp only [if_neg missing, if_neg success]
        exact Or.inr ⟨_, rfl, rfl⟩

/-- A body that is declared as JSON and is none ends the reading of the states with a failure that
is no problem of the service. -/
theorem unreadable_body_is_not_reported :
    ¬EndsNormally (Registry.states.ofReply "http://ha.test/api/states"
      (.ok ⟨200, some "application/json", "oops"⟩)) := by
  have outcome : Registry.states.ofReply "http://ha.test/api/states"
      (.ok ⟨200, some "application/json", "oops"⟩) =
        .error (.unreadable "oops".toList (.flawed .value 0)) := by
    rfl
  rw [outcome]
  rintro (⟨_, shape⟩ | ⟨_, shape, _⟩) <;> cases shape

end HomeConfig
