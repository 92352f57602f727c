import HomeConfig.Live.Request
import HomeConfig.Proofs.Json.RoundTrip
import Mathlib

/-!
# Rendered lists under every label

Four registries are rendered from a template, and the list comes as text.  If the answer is labelled
as JSON it has been read before anyone asks for its text, and is written out again.  Reading that
text once more gives what was read at first, so the label makes no difference
(`rendered_lists_do_not_depend_on_their_label`): not to the entries that are found, nor to the
failure when an integer of the list is too long to be read.
-/

namespace HomeConfig

/-- A text that is the JSON text of a list, as far as it can be read: nothing is wrong with it, but
an integer in it may be too long. -/
def IsListText (text : Text) : Prop :=
  (∃ items, Json.read text = .ok (.array items)) ∨
    ∃ digits, Json.read text = .error (.integerTooLong digits)

namespace IsListText

variable {text : Text}

theorem ne_nil (isList : IsListText text) : text ≠ [] := by
  rintro rfl
  rcases isList with ⟨_, read⟩ | ⟨_, read⟩ <;> cases read

/-- No mark of an encoding stands in front of a list. -/
theorem dropMark_eq (isList : IsListText text) : dropMark text = text := by
  cases text with
  | nil => rfl
  | cons c rest =>
    rw [dropMark, if_neg]
    rintro rfl
    rcases isList with ⟨_, read⟩ | ⟨_, read⟩ <;> cases read

end IsListText

/-- The text of a decoded list is decoded as the list. -/
theorem exists_renderedText {items : List Json} (proper : (Json.array items).Proper) :
    ∃ text, renderedText (.array items) = .ok text ∧ Json.read text.toList = .ok (.array items) :=
  ⟨_, rfl, Json.read_render Json.legible_spaced proper⟩

theorem readRendered_array {items : List Json} (proper : (Json.array items).Proper)
    (tool : String) : readRendered tool (.array items) = .ok (namedEntries items) := by
  rcases exists_renderedText proper with ⟨text, rendered, read⟩
  rw [readRendered, rendered]
  simp only [bind, Except.bind, read]
  rfl

/-- The entries of a list in an answer, however the answer is labelled. -/
theorem readRendered_content {response : Response} (isList : IsListText response.body.toList)
    (tool : String) :
    (do readRendered tool (← response.content)) = readRendered tool (.string response.body) := by
  unfold Response.content
  split
  next labelled =>
    have filled : response.body ≠ "" := fun empty => isList.ne_nil (by rw [empty]; rfl)
    rw [if_neg filled, isList.dropMark_eq, readJson]
    rcases isList with ⟨items, read⟩ | ⟨digits, read⟩
    · have plain : readRendered tool (.string response.body) = .ok (namedEntries items) := by
        rw [readRendered, renderedText]
        simp only [bind, Except.bind, read]
        rfl
      rw [plain, read]
      exact readRendered_array (Json.proper_of_read read) tool
    · rw [readRendered, renderedText]
      simp only [bind, Except.bind, read]
      rfl
  next => rfl

/-- A list is found in an answer by its entries, and these do not depend on the label. -/
theorem Registry.decode_content {registry : Registry}
    (rendered : registry ∈ [Registry.areas, .devices, .floors, .labels]) (response : Response)
    (isList : IsListText response.body.toList) :
    (do registry.decode (← response.content)) = registry.decode (.string response.body) := by
  have entries (tool : String) := readRendered_content isList tool
  simp only [List.mem_cons, List.not_mem_nil, or_false] at rendered
  rcases rendered with rfl | rfl | rfl | rfl <;>
  · simp only [decode, ← entries]
    cases response.content <;> rfl

/-- Whatever is decoded is proper, a proper list is given back by its own text, and the list of a
registry is the same under every label. -/
theorem rendered_lists_do_not_depend_on_their_label :
    (∀ text value, Json.read text = .ok value → value.Proper) ∧
    (∀ items, (Json.array items).Proper → ∃ text, renderedText (.array items) = .ok text ∧
      Json.read text.toList = .ok (.array items)) ∧
    ∀ registry ∈ [Registry.areas, .devices, .floors, .labels], ∀ (url body : String)
      (label other : Option String), IsListText body.toList →
        registry.ofReply url (.ok ⟨200, label, body⟩) =
          registry.ofReply url (.ok ⟨200, other, body⟩) := by
  refine ⟨fun _ _ => Json.proper_of_read, fun _ => exists_renderedText, ?_⟩
  intro registry rendered url body label other isList
  have under (label : Option String) : registry.ofReply url (.ok ⟨200, label, body⟩) =
      registry.decode (.string body) :=
    registry.decode_content rendered ⟨200, label, body⟩ isList
  rw [under label, under other]

theorem labelled_area_is_read_as_the_plain_one :
    let items : List Json := [.object [("id", .string "attic"), ("floor", .integer 2)]]
    let body := "[\x7b\"id\": \"attic\", \"id\": \"attic\", \"floor\": 2\x7d]"
    Json.read body.toList = .ok (.array items) ∧ (Json.array items).Proper ∧
      (∃ text, renderedText (.array items) = .ok text ∧
        Json.read text.toList = .ok (.array items)) ∧
      Registry.areas.ofReply "areas" (.ok ⟨200, some "text/plain", body⟩) =
        Registry.areas.ofReply "areas" (.ok ⟨200, some "application/json", body⟩) := by
  intro items body
  have read : Json.read body.toList = .ok (.array items) := by cbv
  rcases rendered_lists_do_not_depend_on_their_label with ⟨proper, again, alike⟩
  exact ⟨read, proper _ _ read, again items (proper _ _ read),
    alike .areas (by decide) _ _ _ _ (.inl ⟨items, read⟩)⟩

end HomeConfig
