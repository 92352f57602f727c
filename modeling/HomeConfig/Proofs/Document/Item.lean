import HomeConfig.Proofs.Document.Outline
import HomeConfig.Proofs.Document.Reference
import HomeConfig.Proofs.Text.Ended
import HomeConfig.Proofs.Text.Written

/-!
# Items of a list

Below a key, entities may be listed, one on a line.  An item has a dash, at least one blank, and a
dotted name.  The name may stand in quotation marks, of which each may be of either kind or left
out.

Such a line is read as an item, and nothing else is: whatever is read as an item is one
(`exists_item_of_listItem`), so a list ends at the first line that is none.
-/

namespace HomeConfig

open Recogniser

/-! ## Characters that are not confused -/

/-- No blank and no quotation mark goes on with a name. -/
theorem Text.not_isNameChar_of_isIndent {c : Char} (indent : Text.isIndent c = true) :
    Text.isNameChar c = false := by
  rcases (by simpa [Text.isIndent] using indent : c = ' ' ∨ c = '\t') with rfl | rfl <;> rfl

theorem Text.not_isNameChar_of_isQuote {c : Char} (quote : Text.isQuote c = true) :
    Text.isNameChar c = false := by
  rcases (by simpa [Text.isQuote] using quote : c = '\'' ∨ c = '"') with rfl | rfl <;> rfl

theorem Text.not_isIndent_of_isQuote {c : Char} (quote : Text.isQuote c = true) :
    Text.isIndent c = false :=
  Text.not_isIndent_of_accepted quote (by decide) (by decide)

theorem Recogniser.IsDotted.not_isIndent {name : Text} (dotted : IsDotted name) {c : Char}
    (member : c ∈ name) : Text.isIndent c = false := by
  cases indent : Text.isIndent c with
  | false => rfl
  | true => exact absurd (Text.isBlank_of_isIndent indent) (by simp [dotted.not_isBlank member])

/-! ## What an item is -/

/-- A line of a list: a dash, some blanks, and a dotted name, with blanks around and perhaps with
quotation marks. -/
structure ListItem where
  margin : Margin
  gap : Margin
  opening : Option Char
  name : Text
  closing : Option Char
  trail : Margin
  someGap : gap.text ≠ []
  opens : ∀ c ∈ opening, Text.isQuote c = true
  dotted : IsDotted name
  closes : ∀ c ∈ closing, Text.isQuote c = true

namespace ListItem

/-- What stands in front of the name. -/
def lead (item : ListItem) : Text :=
  item.margin.text ++ '-' :: (item.gap.text ++ item.opening.toList)

def line (item : ListItem) : Text :=
  item.lead ++ (item.name ++ (item.closing.toList ++ item.trail.text))

/-- The entity that an item refers to, if it stands on the line with the given number. -/
def reference (item : ListItem) (number : Nat) : Reference where
  kind := .entity
  value := String.ofList item.name
  range := ⟨⟨number, item.lead.length⟩, ⟨number, item.lead.length + item.name.length⟩⟩
  inTemplate := false

/-- No letter of the name is outside the basic block. -/
def IsBasic (item : ListItem) : Prop :=
  ∀ c ∈ item.name, Text.isTokenChar c = true

variable (item : ListItem)

theorem dash_mem_line : '-' ∈ item.line := by
  simp [line, lead]

theorem line_ne_nil : item.line ≠ [] :=
  List.ne_nil_of_mem item.dash_mem_line

/-- A sign that is no blank, no quotation mark and no dash stands on an item only in its name. -/
theorem mem_name_of_mem_line {c : Char} (solid : Text.isIndent c = false)
    (noQuote : Text.isQuote c = false) (noDash : c ≠ '-') (member : c ∈ item.line) :
    c ∈ item.name := by
  have notBlank (margin : Margin) : c ∉ margin.text :=
    fun blank => absurd (margin.blank c blank) (by simp [solid])
  have notOpening : c ∉ item.opening.toList :=
    fun mark => absurd (item.opens c (Option.mem_toList.mp mark)) (by simp [noQuote])
  have notClosing : c ∉ item.closing.toList :=
    fun mark => absurd (item.closes c (Option.mem_toList.mp mark)) (by simp [noQuote])
  simp only [line, lead, List.mem_append, List.mem_cons] at member
  simpa only [notBlank, notOpening, notClosing, noDash, false_or, or_false] using member

theorem feed_notMem_line : '\n' ∉ item.line :=
  fun feed => item.dotted.feed_notMem (item.mem_name_of_mem_line rfl rfl (by decide) feed)

theorem colon_notMem_line : ':' ∉ item.line := by
  intro colon
  have named := item.mem_name_of_mem_line rfl rfl (by decide) colon
  exact item.dotted.ne_sign named (by decide) rfl

theorem feed_notMem_lead : '\n' ∉ item.lead :=
  fun feed => item.feed_notMem_line (List.mem_append_left _ feed)

end ListItem

namespace Reference

variable {cursor after : Cursor} {item : ListItem} {feed rest : Text}

/-! ## Reading an item -/

theorem run_endOfLine (ends : Text.EndedBy feed rest) (offset : Nat) :
    StateT.run (firstOf [literal ['\n'], ahead Option.isNone]) ⟨offset, feed ++ rest⟩ =
      some ((), ⟨offset + feed.length, rest⟩) := by
  cases ends with
  | feed rest => exact run_firstOf_of_some (run_sign '\n' rest offset)
  | text => rfl

/-- An item is read where it is written, with the end of its line. -/
theorem run_listItem (item : ListItem) (ends : Text.EndedBy feed rest) (offset : Nat) :
    StateT.run listItem ⟨offset, item.line ++ (feed ++ rest)⟩ =
      some (⟨offset + item.lead.length, item.name⟩,
        ⟨offset + (item.line ++ feed).length, rest⟩) := by
  -- Each run ends where the next part of the item starts.
  have behindTrail : (feed ++ rest).head?.any Text.isIndent = false := ends.stops rfl
  have behindClosing : (item.trail.text ++ (feed ++ rest)).head?.any Text.isQuote = false := by
    refine Text.stops_append (fun c blank => ?_) (ends.stops rfl)
    exact not_isQuote_of_isBlank (Text.isBlank_of_isIndent (item.trail.blank c blank))
  have behindName : (item.closing.toList ++ (item.trail.text ++ (feed ++ rest))).head?.any
      Text.isNameChar = false := by
    refine Text.stops_append (fun c mark => ?_)
      (Text.stops_append (fun c blank => ?_) (ends.stops rfl))
    · exact Text.not_isNameChar_of_isQuote (item.closes c (Option.mem_toList.mp mark))
    · exact Text.not_isNameChar_of_isIndent (item.trail.blank c blank)
  have behindOpening : (item.name ++ (item.closing.toList ++
      (item.trail.text ++ (feed ++ rest)))).head?.any Text.isQuote = false :=
    Text.stops_append_of_ne_nil item.dotted.ne_nil (fun _ => item.dotted.not_isQuote) _
  have behindGap : (item.opening.toList ++ (item.name ++ (item.closing.toList ++
      (item.trail.text ++ (feed ++ rest))))).head?.any Text.isIndent = false := by
    refine Text.stops_append (fun c mark => ?_) (Text.stops_append_of_ne_nil item.dotted.ne_nil
      (fun _ => item.dotted.not_isIndent) _)
    exact Text.not_isIndent_of_isQuote (item.opens c (Option.mem_toList.mp mark))
  have whole : item.line ++ (feed ++ rest) = item.margin.text ++ '-' :: (item.gap.text ++
      (item.opening.toList ++ (item.name ++ (item.closing.toList ++
        (item.trail.text ++ (feed ++ rest)))))) := by
    simp [ListItem.line, ListItem.lead]
  have start : offset + item.margin.text.length + 1 + item.gap.text.length +
      item.opening.toList.length = offset + item.lead.length := by
    simp only [ListItem.lead, List.length_append, List.length_cons]
    omega
  have stop : offset + item.lead.length + item.name.length + item.closing.toList.length +
      item.trail.text.length + feed.length = offset + (item.line ++ feed).length := by
    simp only [ListItem.line, List.length_append]
    omega
  rw [listItem, whole,
    run_bind_of_some (run_skip_append item.margin.blank (by rfl) offset),
    run_bind_of_some (run_sign '-' _ _),
    run_bind_of_some (run_run1_append item.someGap item.gap.blank behindGap _),
    run_bind_of_some (run_skipOne_append item.opens behindOpening _),
    run_bind_of_some (run_dottedName_append item.dotted behindName _),
    run_bind_of_some (run_skipOne_append item.closes behindClosing _),
    run_bind_of_some (run_skip_append item.trail.blank behindTrail _),
    run_bind_of_some (run_endOfLine ends _), start, stop]
  rfl

/-- Whatever is read as an item is one. -/
theorem exists_item_of_listItem {name : Excerpt}
    (read : StateT.run listItem cursor = some (name, after)) :
    ∃ (item : ListItem) (feed : Text), cursor.Moves (item.line ++ feed) after ∧
      Text.EndedBy feed after.rest := by
  rcases bind_eq_some read with ⟨_, first, indent, read⟩
  rcases skip_eq_some indent with ⟨margin, passesMargin, blankMargin⟩
  rcases bind_eq_some read with ⟨_, second, dash, read⟩
  rcases bind_eq_some read with ⟨gap, third, blank, read⟩
  rcases run1_eq_some blank with ⟨_, passesGap, someGap, blankGap, _⟩
  rcases bind_eq_some read with ⟨_, fourth, opens, read⟩
  rcases skipOne_eq_some opens with ⟨opening, passesOpening, opened⟩
  rcases bind_eq_some read with ⟨found, fifth, named, read⟩
  rcases dottedName_eq_some named with ⟨_, passesName, dotted, _⟩
  rcases bind_eq_some read with ⟨_, sixth, closes, read⟩
  rcases skipOne_eq_some closes with ⟨closing, passesClosing, closed⟩
  rcases bind_eq_some read with ⟨_, seventh, blank, read⟩
  rcases skip_eq_some blank with ⟨trail, passesTrail, blankTrail⟩
  rcases bind_eq_some read with ⟨_, eighth, ends, read⟩
  rcases pure_eq_some read with ⟨_, rfl⟩
  have mark {passed : Text} (marks : passed = [] ∨ ∃ c, passed = [c] ∧ Text.isQuote c = true) :
      ∃ mark : Option Char, mark.toList = passed ∧ ∀ c ∈ mark, Text.isQuote c = true := by
    rcases marks with rfl | ⟨c, rfl, quote⟩
    · exact ⟨none, rfl, nofun⟩
    · exact ⟨some c, rfl, fun _ same => Option.some.inj same ▸ quote⟩
  have ended : ∃ feed, seventh.Moves feed eighth ∧ Text.EndedBy feed eighth.rest := by
    rcases firstOf_eq_some ends with ⟨choice, member, chosen⟩
    rcases (by simpa using member : choice = literal ['\n'] ∨ choice = ahead Option.isNone) with
      rfl | rfl
    · exact ⟨_, literal_eq_some chosen, .feed _⟩
    · rcases ahead_eq_some chosen with ⟨rfl, none_⟩
      have nothing : seventh.rest = [] := by simpa using none_
      exact ⟨[], .refl _, nothing ▸ .text⟩
  rcases mark opened with ⟨opening, rfl, opens⟩
  rcases mark closed with ⟨closing, rfl, closes⟩
  rcases ended with ⟨feed, passesFeed, ends⟩
  refine ⟨⟨⟨margin, blankMargin⟩, ⟨gap.text, blankGap⟩, opening, found.text, closing,
    ⟨trail, blankTrail⟩, someGap, opens, dotted, closes⟩, feed, ?_, ends⟩
  have passes := passesMargin.trans ((literal_eq_some dash).trans (passesGap.trans
    (passesOpening.trans (passesName.trans (passesClosing.trans (passesTrail.trans passesFeed))))))
  simpa [ListItem.line, ListItem.lead] using passes

/-- No item is read where the next line is none. -/
theorem run_listItem_eq_none {below : List Text}
    (ends : ∀ line ∈ below.head?, ∀ item : ListItem, item.line ≠ line)
    (plain : ∀ line ∈ below, '\n' ∉ line) (offset : Nat) :
    StateT.run listItem ⟨offset, ['\n'].intercalate below⟩ = none := by
  cases read : StateT.run listItem ⟨offset, ['\n'].intercalate below⟩ with
  | none => rfl
  | some result =>
    rcases exists_item_of_listItem read with ⟨item, feed, moves, ended⟩
    have shape : ['\n'].intercalate below = item.line ++ feed ++ result.2.rest := moves.rest
    cases below with
    | nil =>
      have nothing : item.line = [] := by
        rw [List.intercalate_nil, eq_comm, List.append_assoc] at shape
        exact (List.append_eq_nil_iff.mp shape).1
      exact absurd nothing item.line_ne_nil
    | cons line more =>
      have lines := congrArg Text.lines shape
      rw [Text.lines_intercalate plain] at lines
      have first : ∃ others, Text.lines (item.line ++ feed ++ result.2.rest) =
          item.line :: others := by
        generalize result.2.rest = rest at ended
        cases ended with
        | feed rest =>
          rw [List.append_assoc, List.singleton_append, Text.lines_append_feed,
            Text.lines_of_plain item.feed_notMem_line]
          exact ⟨_, rfl⟩
        | text =>
          rw [List.append_nil, List.append_nil, Text.lines_of_plain item.feed_notMem_line]
          exact ⟨_, rfl⟩
      rcases first with ⟨others, first⟩
      exact absurd (List.cons.inj (lines.trans first)).1.symm (ends line rfl item)

/-! ## Reading a list -/

/-- Where the names of some items stand that begin at an offset. -/
def excerptsFrom (offset : Nat) : List ListItem → List Excerpt
  | [] => []
  | item :: items =>
    ⟨offset + item.lead.length, item.name⟩ :: excerptsFrom (offset + (item.line.length + 1)) items

/-- The items are read up to the first line that is none. -/
theorem run_listItems {items : List ListItem} {below : List Text}
    (ends : ∀ line ∈ below.head?, ∀ item : ListItem, item.line ≠ line)
    (plain : ∀ line ∈ below, '\n' ∉ line) {bound : Nat} (enough : items.length ≤ bound)
    (offset : Nat) :
    ∃ after, StateT.run (listItems bound)
        ⟨offset, ['\n'].intercalate (items.map ListItem.line ++ below)⟩ =
          some (excerptsFrom offset items, after) ∧ after.rest = ['\n'].intercalate below := by
  induction items generalizing bound offset with
  | nil =>
    refine ⟨⟨offset, ['\n'].intercalate below⟩, ?_, rfl⟩
    cases bound with
    | zero => rfl
    | succ bound =>
      rw [List.map_nil, List.nil_append, listItems,
        run_firstOf_of_none (run_bind_of_none (run_listItem_eq_none ends plain offset))]
      rfl
  | cons item items inductionHypothesis =>
    cases bound with
    | zero => cases enough
    | succ bound =>
      rcases Text.intercalate_cons item.line (items.map ListItem.line ++ below) with
        ⟨feed, shape, ended, goesOn⟩
      rcases inductionHypothesis (Nat.le_of_succ_le_succ enough)
        (offset + (item.line ++ feed).length) with ⟨after, read, rest⟩
      -- Only behind the last item of a text is there no line feed, and then nothing follows.
      have places : excerptsFrom (offset + (item.line ++ feed).length) items =
          excerptsFrom (offset + (item.line.length + 1)) items := by
        cases items with
        | nil => rfl
        | cons second items =>
          rw [goesOn (List.cons_ne_nil _ _), List.length_append]
          rfl
      rw [places] at read
      refine ⟨after, ?_, rest⟩
      rw [List.map_cons, List.cons_append, shape, listItems]
      refine run_firstOf_of_some ?_
      rw [run_bind_of_some (run_listItem item ended offset), run_bind_of_some read]
      rfl

variable {keys : List String} {last : Option Char}

/-- A list is read below its key. -/
theorem run_listBelow {key : String} {written : Text}
    (apart : keys.Pairwise fun first later => ¬ first.toList <+: later.toList)
    (plainKeys : ∀ key ∈ keys, ':' ∉ key.toList) (isKey : key ∈ keys)
    (same : List.Forall₂ (fun letter c => Text.sameLetter letter c = true) key.toList written)
    (starts : Text.wordMayStart last = true) (blanks : Margin) {items : List ListItem}
    (some_ : items ≠ []) {below : List Text}
    (ends : ∀ line ∈ below.head?, ∀ item : ListItem, item.line ≠ line)
    (plain : ∀ line ∈ below, '\n' ∉ line) (offset : Nat) :
    ∃ after, StateT.run (listBelow keys last) ⟨offset, written ++ ':' :: (blanks.text ++
        '\n' :: ['\n'].intercalate (items.map ListItem.line ++ below))⟩ =
          some (excerptsFrom (offset + (written ++ ':' :: (blanks.text ++ ['\n'])).length) items,
            after) ∧ after.rest = ['\n'].intercalate below := by
  have enough : items.length ≤
      (['\n'].intercalate (items.map ListItem.line ++ below)).length := by
    have solid : ∀ line ∈ items.map ListItem.line, line ≠ [] := by
      intro line member
      rcases List.mem_map.mp member with ⟨item, _, rfl⟩
      exact item.line_ne_nil
    have bound := Text.length_le_intercalate solid below
    rwa [List.length_map] at bound
  have place : offset + written.length + 1 + blanks.text.length + 1 =
      offset + (written ++ ':' :: (blanks.text ++ ['\n'])).length := by
    simp only [List.length_append, List.length_cons, List.length_nil]
    omega
  rcases run_listItems ends plain enough
    (offset + (written ++ ':' :: (blanks.text ++ ['\n'])).length) with ⟨after, read, rest⟩
  have names : (!(excerptsFrom (offset + (written ++ ':' :: (blanks.text ++ ['\n'])).length)
      items).isEmpty) = true := by
    cases items with
    | nil => exact absurd rfl some_
    | cons item items => rfl
  have got (cursor : Cursor) :
      StateT.run (get : Recogniser Cursor) cursor = some (cursor, cursor) := rfl
  refine ⟨after, ?_, rest⟩
  rw [listBelow, run_bind_of_some (run_require starts),
    run_bind_of_some (run_anyKeyword_append apart plainKeys isKey same _ offset),
    run_bind_of_some (run_sign ':' _ _),
    run_bind_of_some (run_skip_append blanks.blank (by rfl) _),
    run_bind_of_some (run_sign '\n' _ _), place,
    run_bind_of_some (got _),
    run_bind_of_some read, run_bind_of_some (run_require names)]
  rfl

end Reference

end HomeConfig
