import HomeConfig.Proofs.Document.Independence
import HomeConfig.Proofs.Yaml.Load

/-!
# Malformed documents

A document is malformed if its text cannot be loaded.  The check of its syntax is one of five that
are made, so among the findings it can be told by its code, and what it finds depends on the text
alone.  It reports the first error of syntax, and there is never more than one report.

Loading can fail in another way, for content that cannot be what its tag asks for, and then the
check itself fails and reports nothing.  This happens to texts that hold such a fault only
(`malformed_documents_are_reported_once`).  A date in the thirteenth month is one: the document that
holds it is malformed without a report, whatever else is wrong with it.

An error is reported at the mark of the reader, which counts lines and columns by rules of its own.
It is compared here with the position that the same offset has for all other findings of the
document (`syntax_errors_are_shown_at_their_places`).
-/

namespace HomeConfig

open Diagnostic

namespace Check

/-- An error that is reported with a place is the one that loading fails with, and it is shown at
the line and the column of its mark. -/
theorem exists_mark_of_check {text : Text} {report : Yaml.SyntaxReport} {line column : Nat}
    (reported : Yaml.check text = .ok (some report)) (placed : report.place = some (line, column)) :
    ∃ error offset, Yaml.load text = .error (.syntaxError error) ∧ report = error.report ∧
      error.mark? = some ⟨offset, line, column⟩ := by
  rw [Yaml.check] at reported
  split at reported
  next => cases reported
  next error loaded =>
    cases reported
    rcases Option.map_eq_some_iff.mp placed with ⟨⟨offset, _, _⟩, mark, same⟩
    cases same
    exact ⟨error, offset, loaded, rfl, mark⟩
  next => cases reported

/-- A reported error is shown in the line of its place, moved down by the foreign breaks in front of
it.  If there are none, it is shown in the document, and at its place but for the byte order marks
in front of it on its line. -/
theorem syntax_errors_are_shown_at_their_places {text : Text} {report : Yaml.SyntaxReport}
    {line column : Nat} (reported : Yaml.check text = .ok (some report))
    (placed : report.place = some (line, column)) :
    ∃ error offset, Yaml.load text = .error (.syntaxError error) ∧
      error.mark? = some ⟨offset, line, column⟩ ∧ offset ≤ text.length ∧
      syntaxErrors text = .ok [⟨⟨⟨line, column⟩, ⟨line, column + 1⟩⟩, .yaml report.message⟩] ∧
      let front : Text := text.take offset
      let foreign := Yaml.foreignBreaks front (text.drop offset)
      let place := Position.ofOffset text offset
      line = place.line + foreign ∧
        (foreign = 0 → column + front.lastLine.count '\ufeff' = place.character ∧
          line < (Text.lines text).length ∧ column ≤ (Text.lineAt text line).length) := by
  rcases exists_mark_of_check reported placed with ⟨error, offset, loaded, rfl, marked⟩
  have within : Yaml.Mark.Within text ⟨offset, line, column⟩ :=
    Yaml.load_explained loaded _ marked
  have shown : syntaxErrors text =
      .ok [⟨⟨⟨line, column⟩, ⟨line, column + 1⟩⟩, .yaml error.report.message⟩] := by
    simp [syntaxErrors, reported, placed, errorRange]
  refine ⟨error, offset, loaded, marked, within.eq_passed.1, shown, within.position.1, ?_⟩
  intro own
  have sameLine : line = (Position.ofOffset text offset).line :=
    within.position.1.trans (congrArg ((Position.ofOffset text offset).line + ·) own)
  have sameColumn := within.position.2 own
  refine ⟨sameColumn, ?_, ?_⟩
  · exact sameLine ▸ Position.line_ofOffset_lt text offset
  · have inside := Position.character_ofOffset_le text offset
    rw [← sameColumn, ← sameLine] at inside
    exact Nat.le_of_add_right_le inside

/-- Behind a carriage return with a line feed nothing is moved. -/
theorem unclosed_list_is_shown_in_the_second_line :
    let text := "a: 1\r\nb: [".toList
    ∃ error, Yaml.load text = .error (.syntaxError error) ∧ error.mark? = some ⟨10, 1, 4⟩ ∧
      syntaxErrors text = .ok [⟨⟨⟨1, 4⟩, ⟨1, 5⟩⟩,
        .yaml "while parsing a flow node expected the node content, but found '<stream end>'"⟩] ∧
      1 = (Position.ofOffset text 10).line ∧ 4 = (Position.ofOffset text 10).character := by
  intro text
  have reported : Yaml.check text = .ok (some
      ⟨"while parsing a flow node expected the node content, but found '<stream end>'",
        some (1, 4)⟩) := by decide +kernel
  rcases syntax_errors_are_shown_at_their_places reported rfl with
    ⟨error, offset, loaded, marked, _, shown, line, column⟩
  have refused : (Yaml.load text).map (fun _ => ()) = .error (.syntaxError (.marked .nesting
      (some "while parsing a flow node") "expected the node content, but found '<stream end>'"
      ⟨10, 1, 4⟩)) := by decide +kernel
  rw [loaded] at refused
  cases refused
  cases marked
  have own : Yaml.foreignBreaks (text.take 10) (text.drop 10) = 0 := by decide +kernel
  rw [own, Nat.add_zero] at line
  have sameColumn := (column own).1
  rw [show (Text.lastLine (text.take 10)).count '\ufeff' = 0 by decide +kernel, Nat.add_zero]
    at sameColumn
  exact ⟨_, loaded, rfl, shown, line, sameColumn⟩

/-- A carriage return by itself ends no line of the document, but one for the reader. -/
theorem error_is_shown_behind_the_only_line :
    let text := "a: 1\rb: [".toList
    Yaml.check text = .ok (some
      ⟨"while parsing a flow node expected the node content, but found '<stream end>'",
        some (1, 4)⟩) ∧
      (Text.lines text).length = 1 := by
  decide +kernel

end Check

end HomeConfig
