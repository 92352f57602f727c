import HomeConfig.Document.Context
import HomeConfig.Proofs.Text.Part

/-!
# The keys above a line

The keys that enclose a line are collected upwards, with a threshold that only falls.  A line above
has a part in this only if it is a key line that is indented by less than the threshold.  It is
passed over otherwise, so a run of lines that are all indented at least as far hides nothing of what
is above it.
-/

namespace HomeConfig

/-- A class with neither a space nor a tab in it. -/
theorem Text.not_isIndent_of_accepted {accepts : Char → Bool} {c : Char}
    (accepted : accepts c = true) (space : accepts ' ' = false) (tab : accepts '\t' = false) :
    isIndent c = false := by
  cases indent : isIndent c with
  | false => rfl
  | true =>
    rcases (by simpa [isIndent] using indent : c = ' ' ∨ c = '\t') with rfl | rfl
    · exact absurd accepted (by simp [space])
    · exact absurd accepted (by simp [tab])

namespace Context

/-! ## Key lines -/

theorem isPlainWord_of_startsKey {c : Char} (starts : startsKey c = true) :
    Text.isPlainWord c = true := by
  simp only [startsKey, Bool.or_eq_true] at starts
  simp only [Text.isPlainWord, Char.isAlphanum, Bool.or_eq_true]
  exact starts.imp_left Or.inl

theorem not_isIndent_of_isPlainWord {c : Char} (plain : Text.isPlainWord c = true) :
    Text.isIndent c = false :=
  Text.not_isIndent_of_accepted plain (by decide) (by decide)

theorem indentOf_append {blanks rest : Text} (all : ∀ c ∈ blanks, Text.isIndent c = true)
    (stops : rest.head?.any Text.isIndent = false) : indentOf (blanks ++ rest) = blanks.length := by
  rw [indentOf, Text.takeWhile_append_of_stops all stops]

/-- A key behind some blanks, with a colon behind it, makes a key line. -/
theorem keyLine?_key {blanks others : Text} {c : Char} (tail : Text)
    (all : ∀ c ∈ blanks, Text.isIndent c = true) (starts : startsKey c = true)
    (goesOn : ∀ c ∈ others, Text.isPlainWord c = true) :
    keyLine? (blanks ++ (c :: others ++ ':' :: tail)) =
      some (blanks.length, String.ofList (c :: others)) := by
  have first := isPlainWord_of_startsKey starts
  have stops : (c :: others ++ ':' :: tail).head?.any Text.isIndent = false :=
    not_isIndent_of_isPlainWord first
  have key : (c :: others ++ ':' :: tail).takeWhile Text.isPlainWord = c :: others :=
    Text.takeWhile_append_of_stops (List.forall_mem_cons.mpr ⟨first, goesOn⟩) (by rfl)
  have colon : (':' :: tail).dropWhile Text.isBlank = ':' :: tail :=
    List.dropWhile_cons_of_neg (by decide)
  simp only [keyLine?, Text.dropWhile_append_of_stops all stops, key, List.drop_left, colon, starts,
    indentOf_append all stops, if_true]

/-- A line whose first character behind its blanks is no part of a key is no key line. -/
theorem keyLine?_eq_none {blanks tail : Text} {c : Char}
    (all : ∀ c ∈ blanks, Text.isIndent c = true) (solid : Text.isIndent c = false)
    (other : Text.isPlainWord c = false) : keyLine? (blanks ++ c :: tail) = none := by
  have key : (c :: tail).takeWhile Text.isPlainWord = [] :=
    List.takeWhile_cons_of_neg (by simp [other])
  have stops : (c :: tail).head?.any Text.isIndent = false := solid
  simp only [keyLine?, Text.dropWhile_append_of_stops all stops, key]

/-! ## Going upwards -/

theorem enclosingFrom_zero (above : List Text) : enclosingFrom 0 above = [] := by
  cases above with
  | nil => rfl
  | cons line above => rw [enclosingFrom, if_pos rfl]

/-- A line that is no key line below the threshold is passed over. -/
theorem enclosingFrom_cons_of_le {threshold : Int} {line : Text} (above : List Text)
    (passed : ∀ indent key, keyLine? line = some (indent, key) → threshold ≤ indent) :
    enclosingFrom threshold (line :: above) = enclosingFrom threshold above := by
  rw [enclosingFrom]
  split
  next zero => rw [zero, enclosingFrom_zero]
  next =>
    split
    next indent key shape => rw [if_neg (Int.not_lt.mpr (passed indent key shape))]
    next => rfl

/-- A key line below the threshold encloses, and sets the threshold anew. -/
theorem enclosingFrom_cons_of_lt {threshold : Int} {line : Text} {indent : Nat} {key : String}
    (above : List Text) (shape : keyLine? line = some (indent, key)) (below : indent < threshold) :
    enclosingFrom threshold (line :: above) = key :: enclosingFrom indent above := by
  have positive : threshold ≠ 0 := by omega
  rw [enclosingFrom, if_neg positive]
  simp only [shape, if_pos below]

theorem enclosingFrom_append_of_le {threshold : Int} {passed : List Text} (above : List Text)
    (all : ∀ line ∈ passed, ∀ indent key,
      keyLine? line = some (indent, key) → threshold ≤ indent) :
    enclosingFrom threshold (passed ++ above) = enclosingFrom threshold above := by
  induction passed with
  | nil => rfl
  | cons line passed inductionHypothesis =>
    rw [List.forall_mem_cons] at all
    rw [List.cons_append, enclosingFrom_cons_of_le _ all.1, inductionHypothesis all.2]

end Context

end HomeConfig
