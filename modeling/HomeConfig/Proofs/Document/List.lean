import HomeConfig.Proofs.Document.Item
import HomeConfig.Proofs.Document.Whole

/-!
# Lists that are read to their end

A list of entities below a key is read whole: every item is referred to once, on its own line, and
the list ends at the first line that is no item.

Nothing is assumed of what stands around the list.  What is found earlier ends in front of the key,
since there is one colon only in what a list shape passes, and its end is the end of a line
(`clear_listBelow`).  So nothing that stands above can hide a list or a part of it, not even a key
on the same line.
-/

namespace HomeConfig

open Recogniser

namespace Reference

variable {cursor after : Cursor} {keys : List String} {last : Option Char}

/-! ## What a list passes -/

theorem getLast?_append_feed {passed : Text} (feeds : ∀ c ∈ passed.getLast?, c = '\n')
    (front : Text) : (front ++ '\n' :: passed).getLast? = some '\n' := by
  rw [List.getLast?_append_of_ne_nil _ (List.cons_ne_nil _ _), List.getLast?_cons]
  cases shape : passed.getLast? with
  | none => rfl
  | some c => rw [feeds c shape]; rfl

theorem listItems_passes {bound : Nat} {names : List Excerpt}
    (read : StateT.run (listItems bound) cursor = some (names, after)) :
    ∃ passed, cursor.Moves passed after ∧ ':' ∉ passed ∧
      ((∀ c ∈ passed.getLast?, c = '\n') ∨ after.rest = []) := by
  induction bound generalizing cursor names with
  | zero =>
    rcases pure_eq_some read with ⟨_, rfl⟩
    exact ⟨[], .refl _, List.not_mem_nil, .inl nofun⟩
  | succ bound inductionHypothesis =>
    rcases firstOf_eq_some read with ⟨choice, member, chosen⟩
    rcases List.mem_cons.mp member with rfl | last
    · rcases bind_eq_some chosen with ⟨name, between, first, chosen⟩
      rcases exists_item_of_listItem first with ⟨item, feed, moves, ended⟩
      rcases bind_eq_some chosen with ⟨others, final, later, chosen⟩
      rcases pure_eq_some chosen with ⟨_, rfl⟩
      rcases inductionHypothesis later with ⟨passed, goesOn, noColon, closed⟩
      have rest := goesOn.rest
      refine ⟨_, moves.trans goesOn, ?_, ?_⟩
      · have noFeed : ':' ∉ feed := by
          generalize between.rest = rest at ended
          cases ended <;> simp
        simp [item.colon_notMem_line, noFeed, noColon]
      · generalize between.rest = behind at ended rest
        cases ended with
        | text => exact .inr (List.append_eq_nil_iff.mp rest.symm).2
        | feed behind =>
          refine closed.imp_left fun feeds c last => ?_
          rw [List.append_assoc, List.singleton_append, getLast?_append_feed feeds] at last
          exact (Option.some.inj last).symm
    · rw [List.mem_singleton.mp last] at chosen
      rcases pure_eq_some chosen with ⟨_, rfl⟩
      exact ⟨[], .refl _, List.not_mem_nil, .inl nofun⟩

/-- A shape of a list passes a key, a colon, and no other colon.  It ends at the end of a line. -/
theorem listBelow_passes {excerpts : List Excerpt}
    (read : StateT.run (listBelow keys last) cursor = some (excerpts, after)) :
    ∃ key ∈ keys, ∃ written tail, cursor.Moves (written ++ ':' :: tail) after ∧
      List.Forall₂ (fun letter c => Text.sameLetter letter c = true) key.toList written ∧
        ':' ∉ tail ∧ (tail.getLast? = some '\n' ∨ after.rest = []) := by
  rcases listBelow_eq_some read with
    ⟨written, blanks, below, bound, passes, ⟨key, isKey, same⟩, indents, items⟩
  rcases listItems_passes items with ⟨passed, moves, noColon, closed⟩
  refine ⟨key, isKey, written, blanks ++ '\n' :: passed, ?_, same, ?_, ?_⟩
  · simpa using passes.trans moves
  · have noBlank : ':' ∉ blanks := fun colon => absurd (indents _ colon) (by decide)
    simp [noBlank, noColon]
  · exact closed.imp_left fun feeds => getLast?_append_feed feeds blanks

/-! ## Nothing hides a list -/

theorem eq_underscore_of_foldLetter {c : Char} (folds : Text.foldLetter c = '_') : c = '_' := by
  unfold Text.foldLetter at folds
  split at folds
  next => exact absurd folds (by decide)
  split at folds
  next => exact absurd folds (by decide)
  split at folds
  next => exact absurd folds (by decide)
  by_cases upper : c.val ≥ 'A'.val ∧ c.val ≤ 'Z'.val
  · have lower : c.toLower.val = c.val + ('a'.val - 'A'.val) := congrArg Char.val (dif_pos upper)
    rw [folds] at lower
    have bounds := And.intro (UInt32.le_iff_toNat_le.mp upper.1) (UInt32.le_iff_toNat_le.mp upper.2)
    have codes := congrArg UInt32.toNat lower
    simp [UInt32.toNat_add] at codes bounds
    omega
  · have same : c.toLower = c := dif_neg upper
    exact same ▸ folds

/-- Every character that is read as one of a key is one of a word. -/
theorem isWord_of_mem_entityKey {key : String} (isKey : key ∈ entityKeys) {written : Text}
    (same : List.Forall₂ (fun letter c => Text.sameLetter letter c = true) key.toList written) :
    ∀ c ∈ written, Text.isWord c = true := by
  intro c member
  have letters : ∀ key ∈ entityKeys,
      (key.toList.all fun letter => letter.isLower || letter == '_') = true := by decide
  have folded : Text.foldLetter c ∈ key.toList := by
    rw [eq_map_foldLetter same]
    exact List.mem_map_of_mem member
  apply Text.isWord_of_isNameChar
  have letter := List.all_eq_true.mp (letters key isKey) _ folded
  rw [Bool.or_eq_true, beq_iff_eq] at letter
  rcases letter with lower | underscore
  · simp [Text.isNameChar, Text.isNameLetter, lower]
  · rw [eq_underscore_of_foldLetter underscore]
    rfl

/-- What is found in front of a key does not reach into it.  There is only one colon in it, so it
would have to end within the key, but it ends with a line. -/
theorem clear_listBelow {front written : Text} (starts : Text.wordMayStart front.getLast? = true)
    (letters : ∀ c ∈ written, Text.isWord c = true) (tail : Text) :
    ∀ early late excerpts after, front = early ++ late → late ≠ [] →
      StateT.run (listBelow entityKeys early.getLast?)
        ⟨early.length, late ++ (written ++ ':' :: tail)⟩ = some (excerpts, after) →
          after.offset ≤ front.length := by
  intro early late excerpts after shape some_ read
  rcases listBelow_passes read with ⟨key, isKey, opening, passed, moves, same, noColon, closed⟩
  have openingLetters := isWord_of_mem_entityKey isKey same
  have rest : late ++ (written ++ ':' :: tail) = opening ++ ':' :: passed ++ after.rest :=
    moves.rest
  have offset : after.offset = early.length + (opening ++ ':' :: passed).length := moves.offset
  rw [shape, List.length_append, offset]
  by_contra beyond
  rcases Nat.lt_or_ge opening.length late.length with long | short
  case inr =>
    -- The key that is found would go on where this one starts, so no word would start there.
    have inside : late <+: opening := by
      refine List.prefix_of_prefix_length_le ⟨_, rest⟩ ⟨':' :: passed ++ after.rest, ?_⟩ short
      rw [List.cons_append, List.append_assoc, List.cons_append]
    have ends : front.getLast? = late.getLast? := by
      rw [shape, List.getLast?_append_of_ne_nil _ some_]
    rcases Option.isSome_iff_exists.mp (List.getLast?_isSome.mpr some_) with ⟨c, last⟩
    have letter := openingLetters c (inside.subset (List.mem_of_getLast? last))
    rw [ends, last] at starts
    simp [Text.wordMayStart, letter] at starts
  case inl =>
    -- The colon that is found stands earlier, so what is found would end within this key.
    have starts : opening ++ [':'] <+: late := by
      refine List.prefix_of_prefix_length_le ⟨passed ++ after.rest, ?_⟩ ⟨_, rest⟩ ?_
      · simp
      · rw [List.length_append, List.length_singleton]
        exact long
    rcases starts with ⟨more, rfl⟩
    have behind : more ++ (written ++ ':' :: tail) = passed ++ after.rest := by
      simpa using rest
    rw [← List.append_assoc] at behind
    have inside : passed <+: more ++ written :=
      Text.prefix_of_notMem noColon ⟨after.rest, behind.symm⟩
    have goesOn : after.rest ≠ [] := by
      intro nothing
      rw [nothing, List.append_nil] at behind
      exact noColon (behind ▸ by simp)
    have reaches : more <+: passed := by
      refine List.prefix_of_prefix_length_le (List.prefix_append _ _) inside ?_
      simp only [List.length_append, List.length_cons] at beyond
      omega
    rcases reaches with ⟨part, rfl⟩
    have within : part <+: written := (List.prefix_append_right_inj more).mp inside
    have some_ : part ≠ [] := by
      rintro rfl
      simp at beyond
    have last := closed.resolve_right goesOn
    rw [List.getLast?_append_of_ne_nil _ some_] at last
    exact absurd (letters _ (within.subset (List.mem_of_getLast? last))) (by decide)

/-! ## Where a list stands -/

/-- The names of a list stand below the line of its key.  If the list does not end with the text,
they stand above the line where it ends. -/
theorem line_of_mem_listBelow {place rest : Text} {excerpts : List Excerpt}
    (read : StateT.run (listBelow keys last) ⟨place.length, rest⟩ = some (excerpts, after)) :
    ∃ passed, passed ≠ [] ∧ Cursor.Moves ⟨place.length, rest⟩ passed after ∧
      ∀ excerpt ∈ excerpts, place.count '\n' < (excerpt.range (place ++ rest)).start.line ∧
        (after.rest ≠ [] →
          (excerpt.range (place ++ rest)).start.line < (place ++ passed).count '\n') := by
  rcases listBelow_passes read with ⟨_, _, written, tail, moves, _, _, closed⟩
  rcases listBelow_eq_some read with ⟨opening, blanks, below, bound, passes, _, _, items⟩
  have stands : Cursor.StandsBehind (place ++ rest) place ⟨place.length, rest⟩ := ⟨rfl, rfl⟩
  have here := stands.move passes
  have there := stands.move moves
  rcases listItems_eq_some here items with ⟨_, yields, _⟩
  refine ⟨_, by simp, moves, fun excerpt member => ?_⟩
  rcases yields.stands excerpt member with ⟨front, behind, _, _, _, dotted⟩
  have bounds := yields.bounds excerpt member
  have line : (excerpt.range (place ++ rest)).start.line = front.count '\n' := by
    rw [behind.range_eq]
    rfl
  have starts : front <+: place ++ rest := (List.prefix_append _ _).trans behind.2
  rw [line]
  constructor
  · have reaches : place ++ (opening ++ ':' :: (blanks ++ ['\n'])) <+: front := by
      refine List.prefix_of_prefix_length_le ⟨below.rest, here.rest.symm⟩ starts ?_
      rw [← here.offset, behind.1]
      exact bounds.1
    have feeds := reaches.sublist.count_le '\n'
    simp only [List.count_append, List.count_cons, List.count_nil] at feeds
    simp at feeds
    omega
  · intro goesOn
    have last : (place ++ (written ++ ':' :: tail)).getLast? = some '\n' := by
      rw [← List.append_assoc, List.getLast?_append_of_ne_nil _ (List.cons_ne_nil _ _),
        List.getLast?_cons, closed.resolve_right goesOn]
      rfl
    rcases List.getLast?_eq_some_iff.mp last with ⟨init, whole⟩
    have within : front ++ excerpt.text <+: init ++ ['\n'] := by
      refine List.prefix_of_prefix_length_le behind.2 ⟨after.rest, whole ▸ there.rest.symm⟩ ?_
      rw [← whole, ← there.offset, List.length_append, behind.1]
      exact bounds.2
    have inside : front ++ excerpt.text <+: init := by
      refine (List.prefix_concat_iff.mp within).resolve_left fun same => ?_
      have feed : (front ++ excerpt.text).getLast? = some '\n' := by
        rw [same, List.getLast?_concat]
      rw [List.getLast?_append_of_ne_nil _ dotted.ne_nil] at feed
      exact dotted.feed_notMem (List.mem_of_getLast? feed)
    have feeds := ((List.prefix_append front excerpt.text).trans inside).sublist.count_le '\n'
    rw [whole, List.count_append]
    simp only [List.count_singleton_self]
    omega

/-- What is found in front of a place, and does not reach beyond it, stands above the line of the
place. -/
theorem line_lt_of_stop_le {front early late rest : Text} {excerpts : List Excerpt}
    (some_ : rest ≠ []) (shape : front = early ++ late)
    (read : StateT.run (listBelow keys last) ⟨early.length, late ++ rest⟩ = some (excerpts, after))
    (short : after.offset ≤ front.length) :
    ∀ excerpt ∈ excerpts, (excerpt.range (front ++ rest)).start.line < front.count '\n' := by
  intro excerpt member
  rcases line_of_mem_listBelow read with ⟨passed, _, moves, lines⟩
  have split : late ++ rest = passed ++ after.rest := moves.rest
  have offset : after.offset = early.length + passed.length := moves.offset
  rw [shape, List.length_append] at short
  have within : passed <+: late := by
    refine List.prefix_of_prefix_length_le ⟨after.rest, split.symm⟩ (List.prefix_append _ _) ?_
    omega
  have goesOn : after.rest ≠ [] := by
    intro nothing
    have lengths := congrArg List.length split
    have positive := List.length_pos_iff.mpr some_
    rw [nothing, List.append_nil, List.length_append] at lengths
    omega
  have above := (lines excerpt member).2 goesOn
  have feeds := ((List.prefix_append_right_inj early).mpr within).sublist.count_le '\n'
  rw [shape, List.append_assoc]
  exact Nat.lt_of_lt_of_le above feeds

/-- What a scan finds behind a place stands below the line of the place. -/
theorem line_gt_of_mem_scanFrom {place rest : Text} {excerpts : List Excerpt}
    (found : excerpts ∈ Text.scanFrom (listBelow keys) place.getLast? place.length 0 rest) :
    ∀ excerpt ∈ excerpts, place.count '\n' < (excerpt.range (place ++ rest)).start.line := by
  intro excerpt member
  have goesOn : ∀ last cursor excerpts after,
      StateT.run (listBelow keys last) cursor = some (excerpts, after) →
        ∃ passed, cursor.Moves passed after := by
    intro last cursor excerpts after read
    rcases listBelow_passes read with ⟨_, _, written, tail, moves, _⟩
    exact ⟨_, moves⟩
  rcases Text.exists_place_of_mem_scanFrom goesOn found with ⟨early, late, after, shape, read⟩
  rcases line_of_mem_listBelow read with ⟨passed, _, _, lines⟩
  have below := (lines excerpt member).1
  rw [List.count_append, List.append_assoc, ← shape] at below
  exact Nat.lt_of_le_of_lt (Nat.le_add_right _ _) below

/-- The names of a list are referred to on their lines. -/
theorem map_ofExcerpt_excerptsFrom {above : List Text} (items : List ListItem) (below : List Text)
    (plain : ∀ line ∈ above, '\n' ∉ line) :
    (excerptsFrom (Text.ended above).length items).map (ofExcerpt
        (['\n'].intercalate (above ++ (items.map ListItem.line ++ below))) .entity false) =
      items.mapIdx fun number item => item.reference (above.length + number) := by
  induction items generalizing above with
  | nil => rfl
  | cons item items inductionHypothesis =>
    have longer : ∀ line ∈ above ++ [item.line], '\n' ∉ line := by
      intro line member
      rcases List.mem_append.mp member with higher | here
      · exact plain line higher
      · exact List.mem_singleton.mp here ▸ item.feed_notMem_line
    have later := inductionHypothesis longer
    have offset : (Text.ended (above ++ [item.line])).length =
        (Text.ended above).length + (item.line.length + 1) := by
      simp [Text.ended]
    have number (index : Nat) : (above ++ [item.line]).length + index =
        above.length + (index + 1) := by
      rw [List.length_append, List.length_singleton]
      omega
    rw [List.append_assoc, List.singleton_append, offset] at later
    simp only [number] at later
    rw [excerptsFrom, List.map_cons, List.map_cons, List.mapIdx_cons, List.cons_append, later]
    congr 1
    -- The name stands behind the lines above and what is in front of it on its own line.
    have stands : Excerpt.StandsBehind
        (['\n'].intercalate (above ++ item.line :: (items.map ListItem.line ++ below)))
        (Text.ended above ++ item.lead)
        ⟨(Text.ended above).length + item.lead.length, item.name⟩ := by
      rcases Text.intercalate_cons item.line (items.map ListItem.line ++ below) with
        ⟨feed, shape, _⟩
      refine ⟨List.length_append, ?_⟩
      rw [Text.intercalate_append (List.cons_ne_nil _ _), shape, ListItem.line, List.append_assoc,
        List.append_assoc, List.append_assoc, List.append_assoc]
      exact (List.prefix_append_right_inj _).mpr
        ((List.prefix_append_right_inj _).mpr (List.prefix_append _ _))
    have plainName : '\n' ∉ item.lead ++ item.name := by
      simp [item.feed_notMem_lead, item.dotted.feed_notMem]
    have range := stands.range_eq
    rw [List.append_assoc, Text.behind_ended_append plain item.feed_notMem_lead,
      Text.behind_ended_append plain plainName, List.length_append] at range
    exact congrArg (Reference.mk .entity (String.ofList item.name) · false) range

end Reference

/-- A list of entities below its key, in the lines of a text. -/
structure EntityList where
  above : List Text
  lead : Text
  key : String
  written : Text
  blanks : Margin
  items : List ListItem
  below : List Text
  isKey : key ∈ Reference.entityKeys
  same : List.Forall₂ (fun letter c => Text.sameLetter letter c = true) key.toList written
  starts : Text.wordMayStart lead.getLast? = true
  someItem : items ≠ []
  ends : ∀ line ∈ below.head?, ∀ item : ListItem, item.line ≠ line

namespace EntityList

open Reference

/-- The line of the key. -/
def keyLine (list : EntityList) : Text :=
  list.lead ++ (list.written ++ ':' :: list.blanks.text)

/-- All lines of the text. -/
def lines (list : EntityList) : List Text :=
  list.above ++ list.keyLine :: (list.items.map ListItem.line ++ list.below)

/-- One reference for each item, on the lines below the key. -/
def references (list : EntityList) : List Reference :=
  list.items.mapIdx fun number item => item.reference (list.above.length + 1 + number)

/-- The text in front of the key. -/
def front (list : EntityList) : Text :=
  Text.ended list.above ++ list.lead

/-- The text from the key on. -/
def rest (list : EntityList) : Text :=
  list.written ++ ':' :: (list.blanks.text ++
    '\n' :: ['\n'].intercalate (list.items.map ListItem.line ++ list.below))

/-- The names of the items. -/
def excerpts (list : EntityList) : List Excerpt :=
  excerptsFrom (Text.ended (list.above ++ [list.keyLine])).length list.items

variable (list : EntityList) {text : Text}

theorem text_eq (shape : Text.lines text = list.lines) : text = list.front ++ list.rest := by
  rcases Text.intercalate_cons list.keyLine (list.items.map ListItem.line ++ list.below) with
    ⟨feed, below, _, goesOn⟩
  have fed : feed = ['\n'] := by
    refine goesOn fun none_ => list.someItem ?_
    exact List.map_eq_nil_iff.mp (List.append_eq_nil_iff.mp none_).1
  rw [← Text.intercalate_lines text, shape, lines,
    Text.intercalate_append (List.cons_ne_nil _ _), below, fed, keyLine, front, rest]
  simp

theorem feed_notMem_of_mem_lines (shape : Text.lines text = list.lines) :
    ∀ line ∈ list.lines, '\n' ∉ line :=
  fun _ member => Text.feed_notMem_of_mem_lines (shape ▸ member)

theorem wordMayStart_front : Text.wordMayStart list.front.getLast? = true := by
  by_cases none_ : list.lead = []
  · rw [front, none_, List.append_nil]
    rcases List.eq_nil_or_concat' list.above with nothing | ⟨others, line, shape⟩
    · rw [nothing]
      rfl
    · have last : (Text.ended list.above).getLast? = some '\n' := by
        rw [shape, Text.ended_append]
        simp [Text.ended]
      rw [last]
      rfl
  · rw [front, List.getLast?_append_of_ne_nil _ none_]
    exact list.starts

theorem count_front (shape : Text.lines text = list.lines) :
    list.front.count '\n' = list.above.length := by
  have plain := List.forall_mem_append.mp (list.feed_notMem_of_mem_lines shape)
  have key := (List.forall_mem_cons.mp plain.2).1
  have lead : '\n' ∉ list.lead := fun feed => key (List.mem_append_left _ feed)
  exact congrArg Position.line (Text.behind_ended_append plain.1 lead)

/-- What stands in front of the line where the list ends are the lines above, the line of the key,
and the items. -/
theorem count_behind {place : Text} (shape : Text.lines text = list.lines)
    (whole : text = place ++ ['\n'].intercalate list.below) (some_ : list.below ≠ []) :
    place.count '\n' = list.above.length + list.items.length + 1 := by
  have plain := list.feed_notMem_of_mem_lines shape
  have split : list.lines =
      (list.above ++ list.keyLine :: list.items.map ListItem.line) ++ list.below := by
    rw [lines, List.append_assoc, List.cons_append]
  have front : place = Text.ended (list.above ++ list.keyLine :: list.items.map ListItem.line) := by
    apply List.append_cancel_right
    rw [← whole, ← Text.intercalate_append some_, ← split, ← shape, Text.intercalate_lines]
  rw [split, List.forall_mem_append] at plain
  have behind := Text.behind_ended_append plain.1 List.not_mem_nil
  have line : (Position.behind place).line =
      (list.above ++ list.keyLine :: list.items.map ListItem.line).length := by
    rw [front, ← List.append_nil (Text.ended _), behind]
  calc place.count '\n'
    _ = (list.above ++ list.keyLine :: list.items.map ListItem.line).length := line
    _ = list.above.length + list.items.length + 1 := by
      rw [List.length_append, List.length_cons, List.length_map, Nat.add_assoc]

/-- The list is read where it stands, up to the line where it ends. -/
theorem exists_read (shape : Text.lines text = list.lines) :
    ∃ after, StateT.run (listBelow entityKeys list.front.getLast?)
        ⟨list.front.length, list.rest⟩ = some (list.excerpts, after) ∧
      after.rest = ['\n'].intercalate list.below := by
  have plain := list.feed_notMem_of_mem_lines shape
  have start : list.front.length +
      (list.written ++ ':' :: (list.blanks.text ++ ['\n'])).length =
        (Text.ended (list.above ++ [list.keyLine])).length := by
    rw [front, Text.ended_append]
    simp [Text.ended, keyLine, Nat.add_assoc]
  have read := run_listBelow (by decide) (by decide) list.isKey list.same list.wordMayStart_front
    list.blanks list.someItem list.ends (fun line member => plain line (by simp [lines, member]))
    list.front.length
  rwa [start] at read

theorem map_excerpts (shape : Text.lines text = list.lines) :
    list.excerpts.map (ofExcerpt text .entity false) = list.references := by
  have plain := list.feed_notMem_of_mem_lines shape
  have split : list.lines =
      (list.above ++ [list.keyLine]) ++ (list.items.map ListItem.line ++ list.below) := by
    rw [lines, List.append_assoc, List.singleton_append]
  rw [split] at plain
  have references := map_ofExcerpt_excerptsFrom list.items list.below
    (List.forall_mem_append.mp plain).1
  rw [← split, ← shape, Text.intercalate_lines, List.length_append] at references
  exact references

/-- A list of entities is read whole, and nothing else on its lines.  Whatever is found earlier
stands above the line of its key, and whatever is found later stands below the line at which the
list ends. -/
theorem lists_are_read_to_their_end (list : EntityList) {text : Text}
    (shape : Text.lines text = list.lines) :
    ∃ earlier later, find .entity (listBelow entityKeys) text =
        earlier ++ list.references ++ later ∧
      (∀ reference ∈ earlier, reference.range.start.line < list.above.length) ∧
      ∀ reference ∈ later,
        list.above.length + list.items.length + 1 < reference.range.start.line := by
  have whole := list.text_eq shape
  have letters := isWord_of_mem_entityKey list.isKey list.same
  have clear := clear_listBelow list.wordMayStart_front letters (list.blanks.text ++
    '\n' :: ['\n'].intercalate (list.items.map ListItem.line ++ list.below))
  have someRest : list.rest ≠ [] := by simp [rest]
  rcases list.exists_read shape with ⟨after, read, below⟩
  rcases line_of_mem_listBelow read with ⟨passed, somePassed, moves, _⟩
  have split : ∃ founds, Text.scan (listBelow entityKeys) (list.front ++ list.rest) = founds ++
      Text.scanFrom (listBelow entityKeys) list.front.getLast? list.front.length 0 list.rest ∧
        ∀ found ∈ founds, ∃ early late after, list.front = early ++ late ∧ late ≠ [] ∧
          StateT.run (listBelow entityKeys early.getLast?) ⟨early.length, late ++ list.rest⟩ =
            some (found, after) := Text.scan_of_clear clear
  rcases split with ⟨founds, split, earlier⟩
  rw [Text.scanFrom_of_some somePassed read moves] at split
  have behind : text = (list.front ++ passed) ++ after.rest := by
    rw [whole, List.append_assoc]
    exact congrArg (list.front ++ ·) moves.rest
  refine ⟨founds.flatten.map (ofExcerpt text .entity false),
    (Text.scanFrom (listBelow entityKeys) (list.front ++ passed).getLast?
      (list.front ++ passed).length 0 after.rest).flatten.map (ofExcerpt text .entity false),
    ?_, ?_, ?_⟩
  · rw [find, whole, split, ← whole, List.flatten_append, List.flatten_cons, List.map_append,
      List.map_append, list.map_excerpts shape, List.append_assoc]
  · intro reference member
    rcases List.mem_map.mp member with ⟨excerpt, among, rfl⟩
    rcases List.mem_flatten.mp among with ⟨found, place, inside⟩
    rcases earlier found place with ⟨early, late, ends, start, someLate, here⟩
    have above := line_lt_of_stop_le someRest start here (clear early late found ends start
      someLate here) excerpt inside
    rw [← whole, list.count_front shape] at above
    exact above
  · intro reference member
    rcases List.mem_map.mp member with ⟨excerpt, among, rfl⟩
    rcases List.mem_flatten.mp among with ⟨found, place, inside⟩
    have lower := line_gt_of_mem_scanFrom place excerpt inside
    have someBelow : list.below ≠ [] := by
      intro none_
      rw [below, none_] at place
      cases place
    rw [← behind, list.count_behind shape (below ▸ behind) someBelow] at lower
    exact lower

/-- Two items behind a key that is not the first on its line.  One name has a mark of each kind
around it. -/
def indoors : EntityList where
  above := ["entity_id:", "- light.attic"].map String.toList
  lead := "entity: ".toList
  key := "entities"
  written := "Entities".toList
  blanks := .spaces 1
  items := [
    ⟨.spaces 1, .spaces 1, none, "sensor.hall".toList, none, .spaces 2, by decide, nofun,
      ⟨"sensor".toList, "hall".toList, rfl, nofun, nofun, List.all_eq_true.mp rfl,
        List.all_eq_true.mp rfl⟩, nofun⟩,
    ⟨.spaces 0, .spaces 2, some '"', "light.desk".toList, some '\'', .spaces 0, by decide,
      by simp [Text.isQuote],
      ⟨"light".toList, "desk".toList, rfl, nofun, nofun, List.all_eq_true.mp rfl,
        List.all_eq_true.mp rfl⟩, by simp [Text.isQuote]⟩]
  below := ["mode: single", ""].map String.toList
  isKey := by decide
  same := by decide
  starts := by decide
  someItem := List.cons_ne_nil _ _
  ends := by
    rintro line ⟨⟩ item same
    exact absurd (same ▸ item.dash_mem_line) (by decide)

theorem hall_and_desk_are_referred_to :
    let text := ("entity_id:\n- light.attic\nentity: Entities: \n - sensor.hall  \n" ++
      "-  \"light.desk'\nmode: single\n").toList
    Text.lines text = indoors.lines ∧
      ∃ earlier later, find .entity (listBelow entityKeys) text =
          earlier ++ indoors.references ++ later ∧
        (∀ reference ∈ earlier, reference.range.start.line < 2) ∧
        ∀ reference ∈ later, 5 < reference.range.start.line := by
  intro text
  have shape : Text.lines text = indoors.lines := by decide +kernel
  exact ⟨shape, lists_are_read_to_their_end indoors shape⟩

/-- A long s is a letter of a name when case is ignored, so a line with one goes on with a list,
though it is no item with a name of basic letters.  A dash without a blank behind it makes no
item. -/
theorem long_s_goes_on_with_a_list :
    let text := "entity_id:\n- light.a\n- light.\u017f".toList
    Text.lines text = ["entity_id:", "- light.a", "- light.\u017f"].map String.toList ∧
      (∃ item : ListItem, item.IsBasic ∧ item.line = "- light.a".toList) ∧
      (∀ item : ListItem, item.IsBasic → item.line ≠ "- light.\u017f".toList) ∧
      (find .entity (listBelow entityKeys) text).map Reference.value =
        ["light.a", "light.\u017f"] ∧
      find .entity (listBelow entityKeys) "entity_id:\n-light.a".toList = [] := by
  refine ⟨by decide +kernel, ?_, ?_, by decide +kernel, by decide +kernel⟩
  · refine ⟨⟨.spaces 0, .spaces 1, none, "light.a".toList, none, .spaces 0, by decide, nofun,
      ⟨"light".toList, "a".toList, rfl, nofun, nofun, List.all_eq_true.mp rfl,
        List.all_eq_true.mp rfl⟩, nofun⟩, ?_, by decide⟩
    exact List.all_eq_true.mp rfl
  · intro item basic same
    have member : '\u017f' ∈ item.line := by
      rw [same]
      decide
    have named := item.mem_name_of_mem_line (by decide) (by decide) (by decide) member
    exact absurd (basic _ named) (by decide)

end EntityList

end HomeConfig