import HomeConfig.Proofs.Document.Unknown
import HomeConfig.Proofs.Text.Part

/-!
# Names that are found whole

A name behind a key is found only if no character of a word follows it.  A dotted name is read as
far as it goes, so there is one such name at a place at most.

So if a name stands behind a colon, and no character of a word follows it, whatever refers to an
entity or a service either refers to this very name or stands apart from it.  It need not be behind
a key at all, nor need anything refer to it.
-/

namespace HomeConfig

theorem Text.isPlainWord_of_toNat {c : Char}
    (codes : (48 ≤ c.toNat ∧ c.toNat ≤ 57) ∨ (65 ≤ c.toNat ∧ c.toNat ≤ 90) ∨ c.toNat = 95 ∨
      (97 ≤ c.toNat ∧ c.toNat ≤ 122)) : isPlainWord c = true := by
  have underscore : c.toNat = 95 → c = '_' := fun code => Char.toNat_inj.mp code
  simp only [isPlainWord, Bool.or_eq_true, beq_iff_eq, isAlphanum_iff]
  rcases codes with digit | upper | code | lower
  · exact Or.inl (Or.inr (Or.inr digit))
  · exact Or.inl (Or.inl upper)
  · exact Or.inr (underscore code)
  · exact Or.inl (Or.inr (Or.inl lower))

/-- Every character of a name is one of a word. -/
theorem Text.isWord_of_isNameChar {c : Char} (char : isNameChar c = true) : isWord c = true := by
  have beyond : ∀ code ∈ [0x130, 0x131, 0x17f, 0x212a], inRanges code wordRanges = true := by
    decide +kernel
  have codes := toNat_of_isNameChar char
  unfold isWord
  split
  next basic =>
    apply isPlainWord_of_toNat
    simp only [List.mem_cons, List.not_mem_nil, or_false] at codes
    omega
  next far =>
    apply beyond
    rcases codes with codes | codes | codes | codes | codes
    · omega
    · omega
    · omega
    · omega
    · exact codes

/-- Where no word goes on, no name does. -/
theorem Text.not_any_isNameChar {next : Option Char} (ends : next.any isWord = false) :
    next.any isNameChar = false := by
  cases next with
  | none => rfl
  | some c =>
    cases char : isNameChar c with
    | false => exact char
    | true => exact absurd (isWord_of_isNameChar char) (by simpa using ends)

namespace Recogniser

/-- The dotted name at the start of a text, read as far as it goes. -/
def dottedStart (text : Text) : Text :=
  let domain := text.takeWhile Text.isNameLetter
  domain ++ '.' :: (text.drop (domain.length + 1)).takeWhile Text.isNameChar

theorem IsDotted.dottedStart_append {name rest : Text} (dotted : IsDotted name)
    (ends : rest.head?.any Text.isWord = false) : dottedStart (name ++ rest) = name := by
  rcases dotted with ⟨domain, others, rfl, _, _, letters, chars⟩
  have first : (domain ++ '.' :: others ++ rest).takeWhile Text.isNameLetter = domain := by
    rw [List.append_assoc]
    exact Text.takeWhile_append_of_stops letters (by rfl)
  have second : (domain ++ '.' :: others ++ rest).drop (domain.length + 1) = others ++ rest := by
    simp
  simp only [dottedStart, first, second,
    Text.takeWhile_append_of_stops chars (Text.not_any_isNameChar ends)]

end Recogniser

/-! ## What is found where a name stands -/

/-- No character of a word follows an excerpt. -/
def Excerpt.EndsWord (text : Text) (excerpt : Excerpt) : Prop :=
  (text.drop excerpt.stop).head?.any Text.isWord = false

namespace Reference

open Recogniser

variable {text front : Text} {name : Excerpt} {reference : Reference} {kind : Kind}
  {inTemplate : Bool}

theorem exists_of_mem_find_valueOf {keys : List String}
    (member : reference ∈ find kind (valueOf keys) text inTemplate) :
    ∃ excerpt front, reference = ofExcerpt text kind inTemplate excerpt ∧
      excerpt.StandsBehind text front ∧ Introduces ':' (EndsIn keys) front excerpt.text ∧
        excerpt.EndsWord text ∧ EndsWithKey keys front := by
  rcases List.mem_map.mp member with ⟨excerpt, found, rfl⟩
  rcases List.mem_flatten.mp found with ⟨excerpts, scanned, among⟩
  rcases Text.exists_of_mem_scan scanned with ⟨before, cursor, after, stands, read⟩
  rcases valueOf_eq_some read with
    ⟨name, lead, between, rfl, passes, start, moves, introduced, ends, keyed⟩
  rw [List.mem_singleton.mp among]
  have here := stands.move passes
  refine ⟨name, before ++ lead, rfl, here.excerpt start moves, introduced, ?_, keyed⟩
  rw [Excerpt.EndsWord, here.drop_stop start moves]
  exact ends

/-- What is found behind a key either is the name, or stands apart from it. -/
theorem apart_or_eq_of_valueOf {keys : List String}
    (member : reference ∈ find kind (valueOf keys) text inTemplate)
    (stands : name.StandsBehind text front)
    (introduced : Introduces ':' (fun _ => True) front name.text) (ends : name.EndsWord text) :
    Range.Apart text reference.range (name.range text) ∨
      reference.value = String.ofList name.text := by
  rcases exists_of_mem_find_valueOf member with
    ⟨found, behind, rfl, others, introducedOther, endsOther, _⟩
  have notThere := Introduces.not_inside others stands introducedOther introduced (by decide)
  have notHere := Introduces.not_inside stands others introduced introducedOther (by decide)
  rcases Nat.lt_trichotomy found.start name.start with earlier | same | later
  · exact Or.inl (others.apart_range stands (by omega))
  · rcases introduced with ⟨_, _, _, dotted⟩
    rcases introducedOther with ⟨_, _, _, dottedOther⟩
    have read := dotted.dottedStart_append ends
    have readOther := dottedOther.dottedStart_append endsOther
    rw [← stands.drop_start, ← same, others.drop_start, readOther] at read
    exact Or.inr (congrArg String.ofList read)
  · exact Or.inl (stands.apart_range others (by omega)).symm

/-- What is found at another sign stands apart from a name behind a colon. -/
theorem apart_of_other_sign {shape : Option Char → Recogniser (List Excerpt)} {sign : Char}
    {leads : Text → Prop} (finds : Finds (Introduces sign leads) shape)
    (isSign : sign ∈ signs) (other : sign ≠ ':')
    (member : reference ∈ find kind shape text inTemplate) (stands : name.StandsBehind text front)
    (introduced : Introduces ':' (fun _ => True) front name.text) :
    Range.Apart text reference.range (name.range text) := by
  rcases exists_of_mem_find finds member with ⟨found, behind, rfl, others, introducedOther⟩
  have exclusive : Exclusive sign ':' leads fun _ => True :=
    ⟨isSign, by decide, fun same => absurd same other⟩
  exact Introduces.apart exclusive others stands introducedOther introduced

/-- References of some kind that agree with every name behind a colon: each of them is to the name,
or stands apart from it. -/
def Agree (references : Text → List Reference) : Prop :=
  ∀ {text front : Text} {name : Excerpt} {reference : Reference}, reference ∈ references text →
    name.StandsBehind text front → Introduces ':' (fun _ => True) front name.text →
      name.EndsWord text → Range.Apart text reference.range (name.range text) ∨
        reference.value = String.ofList name.text

theorem agree_services : Agree services :=
  apart_or_eq_of_valueOf

theorem agree_entities : Agree entities := by
  intro text front name reference member stands introduced ends
  simp only [entities, List.mem_append] at member
  rcases member with ((key | list) | states) | isState
  · exact apart_or_eq_of_valueOf key stands introduced ends
  · exact Or.inl (apart_of_other_sign (finds_listBelow _) (by decide) (by decide) list stands
      introduced)
  · exact Or.inl (apart_of_other_sign (finds_argumentOf _ _) (by decide) (by decide) states stands
      introduced)
  · exact Or.inl (apart_of_other_sign (finds_argumentOf _ _) (by decide) (by decide) isState stands
      introduced)

end Reference

/-! ## Known names -/

namespace Check

theorem isKnownAmong_of_mem {α : Type} (nameOf : α → String) {items : List α} {item : α}
    (member : item ∈ items) : isKnownAmong nameOf (.ok items) (nameOf item) = true := by
  have named : nameOf item ∈ items.map nameOf := List.mem_map_of_mem member
  simpa [isKnownAmong] using named

/-- Where a known name stands behind a colon, no name is reported unknown. -/
theorem WarnsOf.apart {finding : String → Finding} {isKnown : String → Bool}
    {references : Text → List Reference} {answers : Answers}
    (warns : WarnsOf finding isKnown references answers) (agree : Reference.Agree references)
    {isConnected : Bool} {document : CheckedDocument} {diagnostic : Diagnostic} {value : String}
    (member : diagnostic ∈ (validate isConnected document).given answers)
    (names : diagnostic.finding = finding value) {front : Text} {name : Excerpt}
    (stands : name.StandsBehind document.text front)
    (introduced : Reference.Introduces ':' (fun _ => True) front name.text)
    (ends : name.EndsWord document.text) (known : isKnown (String.ofList name.text) = true) :
    Range.Apart document.text diagnostic.range (name.range document.text) := by
  rcases warns member names with ⟨reference, referred, notKnown, range, _⟩
  rw [range]
  rcases agree referred stands introduced ends with apart | same
  · exact apart
  · rw [same, known] at notKnown
    cases notKnown

end Check

end HomeConfig
