import HomeConfig.Proofs.Document.Reference
import HomeConfig.Template.Issue
import Mathlib

/-!
# Exact ranges

What is said of a part of a document is said with its range, and an editor underlines the range.  So
a range must not be off by a character: cut from the text, it gives back the name that a reference
has found, or the expression that an issue is about.

A name never contains a line feed, nor does an expression, so each of them lies on one line.
-/

namespace HomeConfig

/-- Where a part is found first, it stands. -/
theorem Text.firstIndex?_eq_some {part text : Text} {found : Nat}
    (first : firstIndex? part text = some found) : part <+: text.drop found := by
  induction text generalizing found with
  | nil =>
    rw [firstIndex?] at first
    split at first
    next empty => simp [List.isEmpty_iff.mp empty]
    next => cases first
  | cons c rest inductionHypothesis =>
    rw [firstIndex?] at first
    split at first
    next starts =>
      cases first
      rcases Option.isSome_iff_exists.mp starts with ⟨others, shape⟩
      exact ⟨others, (stripPrefix?_eq_some_iff.mp shape).symm⟩
    next =>
      rcases Option.map_eq_some_iff.mp first with ⟨later, firstLater, rfl⟩
      exact inductionHypothesis firstLater

/-! ## Expressions -/

namespace Document

open Recogniser

/-- An expression between its braces, on one line. -/
def IsExpression (text : Text) : Prop :=
  ∃ inside, text = opening ++ inside ++ closing ∧ '\n' ∉ inside

theorem IsExpression.feed_notMem {text : Text} (isExpression : IsExpression text) :
    '\n' ∉ text := by
  rcases isExpression with ⟨inside, rfl, plain⟩
  simp [opening, closing, plain]

theorem expression_eq_some {before : Option Char} {cursor after : Cursor} {excerpt : Excerpt}
    (read : StateT.run (expression before) cursor = some (excerpt, after)) :
    excerpt.start = cursor.offset ∧ cursor.Moves excerpt.text after ∧
      IsExpression excerpt.text := by
  rcases bind_eq_some read with ⟨start, first, got, read⟩
  cases got
  rcases bind_eq_some read with ⟨_, second, opens, read⟩
  have passes := literal_eq_some opens
  rcases bind_eq_some read with ⟨here, third, got, read⟩
  cases got
  dsimp only at read
  split at read
  · cases read
  next length closed =>
    cases read
    rcases Text.firstIndex?_eq_some closed with ⟨tail, ends⟩
    generalize line : second.rest.takeWhile (· != '\n') = inside at ends
    have plain : '\n' ∉ inside := by
      intro feed
      rw [← line] at feed
      exact absurd (List.mem_takeWhile_imp feed) (by decide)
    -- The closing braces are looked for on the line, but what is cut out is cut from the whole rest.
    have parts : inside = inside.take length ++ closing ++ tail := by
      rw [List.append_assoc, ends, List.take_append_drop]
    have size : (opening ++ inside.take length ++ closing).length = length + 4 := by
      have lengths := congrArg List.length parts
      simp only [List.length_append, List.length_take, closing, List.length_cons,
        List.length_nil] at lengths
      simp only [List.length_append, List.length_take, opening, closing, List.length_cons,
        List.length_nil]
      omega
    have whole : cursor.rest = opening ++ inside.take length ++ closing ++
        (tail ++ second.rest.dropWhile (· != '\n')) := by
      have pieces : second.rest = inside ++ second.rest.dropWhile (· != '\n') := by
        rw [← line, List.takeWhile_append_dropWhile]
      calc cursor.rest
        _ = opening ++ second.rest := passes.rest
        _ = opening ++ ((inside.take length ++ closing ++ tail) ++
              second.rest.dropWhile (· != '\n')) := by rw [← parts, ← pieces]
        _ = _ := by simp only [List.append_assoc]
    have taken : cursor.rest.take (length + 4) = opening ++ inside.take length ++ closing := by
      rw [whole, ← size, List.take_left]
    refine ⟨rfl, ⟨(List.take_append_drop _ _).symm, ?_⟩, inside.take length, taken, ?_⟩
    · rw [taken, size]
      rfl
    · exact fun feed => plain (List.mem_of_mem_take feed)

/-- The expressions of a text stand in it from left to right. -/
theorem expressions_yields (text : Text) :
    ∃ stop, Yields (fun _ => IsExpression) text 0 stop (expressions text) := by
  have finds : Finds (fun _ => IsExpression) fun before => List.singleton <$> expression before := by
    intro text before cursor after excerpts stands read
    rw [StateT.run_map] at read
    rcases Option.map_eq_some_iff.mp read with ⟨⟨excerpt, last⟩, found, same⟩
    cases same
    rcases expression_eq_some found with ⟨start, moves, isExpression⟩
    exact .single stands (.refl _) start moves (.refl _) isExpression
  exact finds.scan_one text

end Document

namespace Template

theorem sublist_of_issuesOf {excerpts : List Excerpt} {issues : List Issue}
    (checked : issuesOf excerpts = .ok issues) : (issues.map Issue.excerpt).Sublist excerpts := by
  induction excerpts generalizing issues with
  | nil =>
    cases checked
    exact .slnil
  | cons excerpt others inductionHypothesis =>
    rw [issuesOf] at checked
    cases found : check excerpt.text with
    | error failure =>
      rw [found] at checked
      cases checked
    | ok message =>
      rw [found] at checked
      cases later : issuesOf others with
      | error failure =>
        rw [later] at checked
        cases checked
      | ok rest =>
        rw [later] at checked
        cases checked
        have sublist := inductionHypothesis later
        cases message with
        | none => exact sublist.cons _
        | some message => exact sublist.cons_cons _

end Template

/-! ## References -/

namespace Reference

open Recogniser

/-- A reference is exact if it is about an excerpt without line feeds. -/
theorem exact_of_excerpt {text front : Text} {reference : Reference} {excerpt : Excerpt}
    (value : reference.value = String.ofList excerpt.text)
    (range : reference.range = excerpt.range text) (stands : excerpt.StandsBehind text front)
    (plain : '\n' ∉ excerpt.text) :
    reference.range.start.line = reference.range.stop.line ∧
      reference.range.slice text = reference.value.toList := by
  rw [range, value, String.toList_ofList]
  exact ⟨stands.line_range plain, stands.slice_range⟩

theorem exact_of_mem_find {introduces : Text → Text → Prop}
    {shape : Option Char → Recogniser (List Excerpt)} {kind : Kind} {inTemplate : Bool} {text : Text}
    (finds : Finds introduces shape) (plain : ∀ front name, introduces front name → '\n' ∉ name) :
    ∀ reference ∈ find kind shape text inTemplate,
      reference.range.start.line = reference.range.stop.line ∧
        reference.range.slice text = reference.value.toList := by
  intro reference member
  rcases exists_of_mem_find finds member with ⟨excerpt, front, rfl, stands, introduced⟩
  exact exact_of_excerpt rfl rfl stands (plain front _ introduced)

end Reference

namespace Document

open Reference

/-- Cut from the text with its range, every reference gives back its name and every issue its
expression; a name stands on one line, and so does an expression, between its braces.  The issues
come from left to right, and none overlaps another. -/
theorem references_and_issues_are_exact (text : Text) :
    (∀ reference ∈ entities text ++ services text ++ includes text ++ secrets text,
      reference.range.start.line = reference.range.stop.line ∧
        reference.range.slice text = reference.value.toList) ∧
      ∀ issues, Template.issues text = .ok issues →
        (∀ issue ∈ issues,
          (text.take issue.excerpt.stop).drop issue.excerpt.start = issue.excerpt.text ∧
            (∃ inside, issue.excerpt.text = opening ++ inside ++ closing) ∧
              '\n' ∉ issue.excerpt.text) ∧
          issues.Pairwise fun first second => first.excerpt.stop ≤ second.excerpt.start := by
  constructor
  · have blankless (_ path : Text) (plain : ∀ c ∈ path, Text.isBlank c = false) : '\n' ∉ path :=
      fun feed => absurd (plain _ feed) (by decide)
    have wordy (_ name : Text) (letters : ∀ c ∈ name, Text.isWord c = true) : '\n' ∉ name :=
      fun feed => absurd (letters _ feed) (by decide)
    rw [List.append_assoc, List.forall_mem_append]
    constructor
    · intro reference member
      rcases exists_excerpt_of_mem text reference member with
        ⟨excerpt, front, value, range, stands, dotted⟩
      exact exact_of_excerpt value range stands dotted.feed_notMem
    · simp only [includes, secrets, List.forall_mem_append]
      refine ⟨⟨?_, ?_⟩, ?_⟩
      · exact exact_of_mem_find (finds_pathBehind _) blankless
      · exact exact_of_mem_find (finds_pathBehind _) blankless
      · exact exact_of_mem_find finds_secretName wordy
  · intro issues checked
    rcases expressions_yields text with ⟨_, yields⟩
    have among := Template.sublist_of_issuesOf checked
    constructor
    · intro issue member
      have found := among.subset (List.mem_map_of_mem member)
      rcases yields.stands _ found with ⟨front, stands, isExpression⟩
      have feedless := isExpression.feed_notMem
      rcases isExpression with ⟨inside, shape, _⟩
      exact ⟨stands.cut_eq, ⟨inside, shape⟩, feedless⟩
    · exact List.pairwise_map.mp (yields.ordered.sublist among)

theorem item_and_empty_expression_are_exact :
    let text := "entity_id:\n  - 'light.attic'\nalias: \x7b\x7b\x7d\x7d".toList
    let attic : Reference := ⟨.entity, "light.attic", ⟨⟨1, 5⟩, ⟨1, 16⟩⟩, false⟩
    let empty : Template.Issue := ⟨⟨36, opening ++ closing⟩,
      "Jinja2 syntax error: Expected an expression, got 'end of print statement'"⟩
    attic ∈ entities text ++ services text ++ includes text ++ secrets text ∧
      Template.issues text = .ok [empty] ∧ attic.range.slice text = attic.value.toList ∧
        (text.take empty.excerpt.stop).drop empty.excerpt.start = empty.excerpt.text := by
  have checked : Template.issues
      "entity_id:\n  - 'light.attic'\nalias: \x7b\x7b\x7d\x7d".toList =
        .ok [⟨⟨36, opening ++ closing⟩,
          "Jinja2 syntax error: Expected an expression, got 'end of print statement'"⟩] := by
    cbv
  intro text attic empty
  have found : attic ∈ entities text ++ services text ++ includes text ++ secrets text := by
    decide +kernel
  rcases references_and_issues_are_exact text with ⟨references, issues⟩
  have cut := (issues [empty] checked).1 empty (List.mem_singleton_self empty)
  exact ⟨found, checked, (references attic found).2, cut.1⟩

end Document

end HomeConfig
