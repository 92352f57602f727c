import HomeConfig.Proofs.Text.Part
import HomeConfig.Proofs.Text.Scan

/-!
# What is written is read

A recogniser takes the longest run it can and gives nothing back.  So it reads a part of a text as
it was meant if each run in it ends where the next one starts.  For each way to build a recogniser
there is one statement of what it does in front of a part that is written for it.

A scan finds a shape where it is written, unless an earlier find reaches into it.  If no find that
starts in front of a place reaches beyond the place, the scan of the whole text is that of the front
and that of the rest (`Text.scanFrom_of_clear`).
-/

namespace HomeConfig

/-! ## Where a run ends -/

namespace Text

variable {part : Text} {accepts : Char → Bool}

theorem stops_append {rest : Text} (refused : ∀ c ∈ part, accepts c = false)
    (stops : rest.head?.any accepts = false) : (part ++ rest).head?.any accepts = false := by
  cases part with
  | nil => exact stops
  | cons c part => exact refused c (List.mem_cons_self ..)

theorem stops_append_of_ne_nil (some_ : part ≠ []) (refused : ∀ c ∈ part, accepts c = false)
    (rest : Text) : (part ++ rest).head?.any accepts = false := by
  cases part with
  | nil => exact absurd rfl some_
  | cons c part => exact refused c (List.mem_cons_self ..)

/-- What has no colon, or no other sign, and stands in front, ends before the first one. -/
theorem prefix_of_notMem {front rest : Text} {sign : Char} (none_ : sign ∉ part)
    (starts : part <+: front ++ sign :: rest) : part <+: front := by
  rcases Nat.lt_or_ge front.length part.length with long | short
  · have reaches : front ++ [sign] <+: part := by
      refine List.prefix_of_prefix_length_le ⟨rest, by simp⟩ starts ?_
      rw [List.length_append, List.length_singleton]
      exact long
    exact absurd (reaches.subset (by simp)) none_
  · exact List.prefix_of_prefix_length_le starts (List.prefix_append _ _) short

end Text

/-! ## Reading -/

namespace Recogniser

variable {α β : Type} {cursor between : Cursor} {part rest : Text} {accepts : Char → Bool}

theorem run_bind_of_some {first : Recogniser α} {next : α → Recogniser β} {found : α}
    (read : StateT.run first cursor = some (found, between)) :
    StateT.run (first >>= next) cursor = StateT.run (next found) between := by
  rw [StateT.run_bind, read]
  rfl

theorem run_bind_of_none {first : Recogniser α} {next : α → Recogniser β}
    (fails : StateT.run first cursor = none) : StateT.run (first >>= next) cursor = none := by
  rw [StateT.run_bind, fails]
  rfl

theorem run_firstOf_of_some {choice : Recogniser α} {others : List (Recogniser α)} {found : α}
    (read : StateT.run choice cursor = some (found, between)) :
    StateT.run (firstOf (choice :: others)) cursor = some (found, between) := by
  rw [firstOf]
  dsimp only [StateT.run] at read ⊢
  rw [read]

theorem run_firstOf_of_none {choice : Recogniser α} {others : List (Recogniser α)}
    (fails : StateT.run choice cursor = none) :
    StateT.run (firstOf (choice :: others)) cursor = StateT.run (firstOf others) cursor := by
  rw [firstOf]
  dsimp only [StateT.run] at fails ⊢
  rw [fails]

theorem run_require {condition : Bool} (holds : condition = true) :
    StateT.run (require condition) cursor = some ((), cursor) := by
  rw [require, if_pos holds]
  rfl

theorem run_run_append (all : ∀ c ∈ part, accepts c = true)
    (stops : rest.head?.any accepts = false) (offset : Nat) :
    StateT.run (run accepts) ⟨offset, part ++ rest⟩ =
      some (⟨offset, part⟩, ⟨offset + part.length, rest⟩) := by
  have taken := Text.takeWhile_append_of_stops all stops
  have dropped := Text.dropWhile_append_of_stops all stops
  simp only [StateT.run, run, taken, dropped]

theorem run_run1_append (some_ : part ≠ []) (all : ∀ c ∈ part, accepts c = true)
    (stops : rest.head?.any accepts = false) (offset : Nat) :
    StateT.run (run1 accepts) ⟨offset, part ++ rest⟩ =
      some (⟨offset, part⟩, ⟨offset + part.length, rest⟩) := by
  have notEmpty : ¬ part.isEmpty = true := by simpa using some_
  rw [run1, run_bind_of_some (run_run_append all stops offset), if_neg notEmpty]
  rfl

theorem run_skip_append (all : ∀ c ∈ part, accepts c = true)
    (stops : rest.head?.any accepts = false) (offset : Nat) :
    StateT.run (skip accepts) ⟨offset, part ++ rest⟩ =
      some ((), ⟨offset + part.length, rest⟩) := by
  rw [skip, run_bind_of_some (run_run_append all stops offset)]
  rfl

/-- A mark that may be left out is passed if it is there. -/
theorem run_skipOne_append {mark : Option Char} (accepted : ∀ c ∈ mark, accepts c = true)
    (stops : rest.head?.any accepts = false) (offset : Nat) :
    StateT.run (skipOne accepts) ⟨offset, mark.toList ++ rest⟩ =
      some ((), ⟨offset + mark.toList.length, rest⟩) := by
  cases mark with
  | some c => exact if_pos (accepted c rfl)
  | none =>
    cases rest with
    | nil => rfl
    | cons c rest =>
      have other : accepts c = false := stops
      exact if_neg (by simp [other])

theorem run_literalBy_append {same : Char → Char → Bool} {expected written : Text}
    (alike : List.Forall₂ (fun wanted c => same wanted c = true) expected written) (rest : Text)
    (offset : Nat) :
    StateT.run (literalBy same expected) ⟨offset, written ++ rest⟩ =
      some ((), ⟨offset + written.length, rest⟩) := by
  induction alike generalizing offset with
  | nil => rfl
  | @cons wanted c expected written accepted _ inductionHypothesis =>
    have passes : StateT.run (one (same wanted)) ⟨offset, c :: (written ++ rest)⟩ =
        some (c, ⟨offset + 1, written ++ rest⟩) := if_pos accepted
    rw [literalBy, List.cons_append, run_bind_of_some passes, inductionHypothesis, List.length_cons,
      Nat.add_assoc, Nat.add_comm 1]

theorem run_sign (sign : Char) (rest : Text) (offset : Nat) :
    StateT.run (literal [sign]) ⟨offset, sign :: rest⟩ = some ((), ⟨offset + 1, rest⟩) :=
  run_literal_append [sign] rest offset

/-- A dotted name is read to its end if no character of a name follows it. -/
theorem run_dottedName_append {name : Text} (dotted : IsDotted name)
    (ends : rest.head?.any Text.isNameChar = false) (offset : Nat) :
    StateT.run dottedName ⟨offset, name ++ rest⟩ =
      some (⟨offset, name⟩, ⟨offset + name.length, rest⟩) := by
  rcases dotted with ⟨domain, others, rfl, someDomain, someOthers, letters, chars⟩
  have dot : ('.' :: (others ++ rest)).head?.any Text.isNameLetter = false := rfl
  have whole : domain ++ '.' :: others ++ rest = domain ++ '.' :: (others ++ rest) := by simp
  have length : offset + domain.length + 1 + others.length =
      offset + (domain ++ '.' :: others).length := by
    rw [List.length_append, List.length_cons]
    omega
  rw [dottedName, whole, run_bind_of_some (run_run1_append someDomain letters dot offset),
    run_bind_of_some (run_sign '.' _ _),
    run_bind_of_some (run_run1_append someOthers chars ends _), length]
  rfl

/-! ## Keywords -/

theorem eq_map_foldLetter {word written : Text}
    (same : List.Forall₂ (fun letter c => Text.sameLetter letter c = true) word written) :
    word = written.map Text.foldLetter := by
  have equal : List.Forall₂ (fun letter c => letter = Text.foldLetter c) word written :=
    same.imp fun _ _ => eq_of_beq
  rw [← List.forall₂_eq_eq_eq, List.forall₂_map_right_iff]
  exact equal

/-- A keyword that reads a colon somewhere does not stand in front of one. -/
theorem prefix_of_keyword {word : String} {key written : Text} {after : Cursor} {offset : Nat}
    (plain : ':' ∉ word.toList)
    (same : List.Forall₂ (fun letter c => Text.sameLetter letter c = true) key written)
    (read : StateT.run (keyword word) ⟨offset, written ++ ':' :: rest⟩ = some ((), after)) :
    word.toList <+: key := by
  rcases literalBy_eq_some read with ⟨passed, moves, alike⟩
  have folded := eq_map_foldLetter alike
  have noColon : ':' ∉ passed := by
    intro colon
    have member : Text.foldLetter ':' ∈ passed.map Text.foldLetter := List.mem_map_of_mem colon
    rw [← folded] at member
    exact plain member
  have inside : passed <+: written :=
    Text.prefix_of_notMem noColon ⟨after.rest, moves.rest.symm⟩
  rw [folded, eq_map_foldLetter same]
  exact inside.map _

/-- A keyword in front of a colon is read if no keyword that is tried before it is a part of it. -/
theorem run_anyKeyword_append {words : List String} {key : String} {written : Text}
    (apart : words.Pairwise fun first later => ¬ first.toList <+: later.toList)
    (plain : ∀ word ∈ words, ':' ∉ word.toList) (member : key ∈ words)
    (same : List.Forall₂ (fun letter c => Text.sameLetter letter c = true) key.toList written)
    (rest : Text) (offset : Nat) :
    StateT.run (anyKeyword words) ⟨offset, written ++ ':' :: rest⟩ =
      some ((), ⟨offset + written.length, ':' :: rest⟩) := by
  unfold anyKeyword
  induction words with
  | nil => cases member
  | cons word words inductionHypothesis =>
    rw [List.forall_mem_cons] at plain
    rw [List.pairwise_cons] at apart
    rw [List.map_cons]
    rcases List.mem_cons.mp member with rfl | later
    · exact run_firstOf_of_some (run_literalBy_append same _ offset)
    · have fails : StateT.run (keyword word) ⟨offset, written ++ ':' :: rest⟩ = none := by
        cases read : StateT.run (keyword word) ⟨offset, written ++ ':' :: rest⟩ with
        | none => rfl
        | some result => exact absurd (prefix_of_keyword plain.1 same read) (apart.1 key later)
      rw [run_firstOf_of_none fails]
      exact inductionHypothesis apart.2 plain.2 later

end Recogniser

/-! ## Scanning -/

namespace Text

variable {α : Type} {find : Option Char → Recogniser α} {before front rest : Text}

/-- Something that is found, and is no longer passed at the place where it was found. -/
theorem scanFrom_skip (find : Option Char → Recogniser α) (passed before rest : Text) :
    scanFrom find before.getLast? before.length passed.length (passed ++ rest) =
      scanFrom find (before ++ passed).getLast? (before ++ passed).length 0 rest := by
  induction passed generalizing before with
  | nil => rw [List.append_nil]; rfl
  | cons c passed inductionHypothesis =>
    have later := inductionHypothesis (before ++ [c])
    simpa [scanFrom] using later

/-- Behind a find the scan goes on where the find ended. -/
theorem scanFrom_of_some {found : α} {passed : Text} {after : Cursor} (some_ : passed ≠ [])
    (read : StateT.run (find before.getLast?) ⟨before.length, rest⟩ = some (found, after))
    (moves : Cursor.Moves ⟨before.length, rest⟩ passed after) :
    scanFrom find before.getLast? before.length 0 rest = found ::
      scanFrom find (before ++ passed).getLast? (before ++ passed).length 0 after.rest := by
  cases passed with
  | nil => exact absurd rfl some_
  | cons c passed =>
    have shape : rest = c :: (passed ++ after.rest) := moves.rest
    have ended : after.offset = before.length + (passed.length + 1) := moves.offset
    have skipped : after.offset - (before.length + 1) = passed.length := by omega
    have later := scanFrom_skip find passed (before ++ [c]) after.rest
    subst shape
    rw [scanFrom, read]
    simpa [skipped] using later

/-- If what is found in front of a place does not reach beyond it, the scan finds what there is in
front, and then starts anew. -/
theorem scanFrom_of_clear {skip : Nat} (within : skip ≤ front.length)
    (clear : ∀ early late found after, front = early ++ late → late ≠ [] →
      StateT.run (find (before ++ early).getLast?) ⟨(before ++ early).length, late ++ rest⟩ =
        some (found, after) → after.offset ≤ (before ++ front).length) :
    ∃ founds, scanFrom find before.getLast? before.length skip (front ++ rest) =
        founds ++ scanFrom find (before ++ front).getLast? (before ++ front).length 0 rest ∧
      ∀ found ∈ founds, ∃ early late after, front = early ++ late ∧ late ≠ [] ∧
        StateT.run (find (before ++ early).getLast?) ⟨(before ++ early).length, late ++ rest⟩ =
          some (found, after) := by
  induction front generalizing before skip with
  | nil =>
    have none_ : skip = 0 := Nat.le_zero.mp within
    subst none_
    exact ⟨[], by simp, nofun⟩
  | cons c front inductionHypothesis =>
    -- Whether something is found here or not, the scan goes on behind the next character.
    have goesOn {skip : Nat} (within : skip ≤ front.length) :
        ∃ founds, scanFrom find (some c) (before.length + 1) skip (front ++ rest) =
            founds ++ scanFrom find (before ++ c :: front).getLast? (before ++ c :: front).length 0
              rest ∧
          ∀ found ∈ founds, ∃ early late after, c :: front = early ++ late ∧ late ≠ [] ∧
            StateT.run (find (before ++ early).getLast?)
              ⟨(before ++ early).length, late ++ rest⟩ = some (found, after) := by
      have next := @inductionHypothesis (before ++ [c]) skip within (by
        intro early late found after shape some_ read
        have later := clear (c :: early) late found after (by rw [shape]; rfl) some_
          (by simpa using read)
        simpa using later)
      rcases next with ⟨founds, shape, all⟩
      refine ⟨founds, by simpa using shape, ?_⟩
      intro found member
      rcases all found member with ⟨early, late, after, shape, some_, read⟩
      exact ⟨c :: early, late, after, by rw [shape]; rfl, some_, by simpa using read⟩
    cases skip with
    | succ skip => exact goesOn (Nat.le_of_succ_le_succ within)
    | zero =>
      rw [List.cons_append, scanFrom]
      split
      next => exact goesOn (Nat.zero_le _)
      next found after read =>
        have here : StateT.run (find (before ++ []).getLast?)
            ⟨(before ++ []).length, c :: front ++ rest⟩ = some (found, after) := by
          simpa using read
        have short := clear [] (c :: front) found after rfl (List.cons_ne_nil _ _) here
        rw [List.length_append, List.length_cons] at short
        have within : after.offset - (before.length + 1) ≤ front.length := by omega
        rcases goesOn within with ⟨founds, shape, all⟩
        refine ⟨found :: founds, by rw [shape]; rfl, ?_⟩
        refine List.forall_mem_cons.mpr ⟨?_, all⟩
        exact ⟨[], c :: front, after, rfl, List.cons_ne_nil _ _, here⟩

theorem scan_of_clear
    (clear : ∀ early late found after, front = early ++ late → late ≠ [] →
      StateT.run (find early.getLast?) ⟨early.length, late ++ rest⟩ = some (found, after) →
        after.offset ≤ front.length) :
    ∃ founds, scan find (front ++ rest) =
        founds ++ scanFrom find front.getLast? front.length 0 rest ∧
      ∀ found ∈ founds, ∃ early late after, front = early ++ late ∧ late ≠ [] ∧
        StateT.run (find early.getLast?) ⟨early.length, late ++ rest⟩ = some (found, after) :=
  @scanFrom_of_clear α find [] front rest 0 (Nat.zero_le _) clear

/-- Of a shape that only goes on, everything that a scan finds is found at some place behind which
the scan starts. -/
theorem exists_place_of_mem_scanFrom
    (goesOn : ∀ last cursor found after, StateT.run (find last) cursor = some (found, after) →
      ∃ passed, cursor.Moves passed after)
    {found : α} (member : found ∈ scanFrom find before.getLast? before.length 0 rest) :
    ∃ early late after, rest = early ++ late ∧
      StateT.run (find (before ++ early).getLast?) ⟨(before ++ early).length, late⟩ =
        some (found, after) := by
  have clear : ∀ early late found after, rest = early ++ late → late ≠ [] →
      StateT.run (find (before ++ early).getLast?) ⟨(before ++ early).length, late ++ []⟩ =
        some (found, after) → after.offset ≤ (before ++ rest).length := by
    intro early late found after shape _ read
    rcases goesOn _ _ _ _ read with ⟨passed, moves⟩
    have whole := congrArg List.length moves.rest
    rw [moves.offset, shape]
    simp only [List.length_append, List.length_nil] at whole ⊢
    omega
  rcases scanFrom_of_clear (Nat.zero_le _) clear with ⟨founds, split, all⟩
  rw [List.append_nil] at split
  rw [split] at member
  have among : found ∈ founds := by simpa [scanFrom] using member
  rcases all found among with ⟨early, late, after, shape, _, read⟩
  exact ⟨early, late, after, shape, by simpa using read⟩

end Text

end HomeConfig
