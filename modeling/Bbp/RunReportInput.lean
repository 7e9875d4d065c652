import Mathlib

/-!
# Reading the input of a run report

A report reads its JSONL files while they are written.  Each call goes on at the offset of its
cursor and stops at the first line that has no newline yet, which is left for a later call.
-/

namespace Bbp

open List

/-- All that is ever appended to a file; a look at it finds the bytes up to some size. -/
structure InputFile where
  path : String
  content : List UInt8
  bounded : content.length < 2 ^ 63

def newline : UInt8 := 10

structure FileObservation where
  device : Nat := 0
  inode : Nat := 0
  size : Nat := 0

structure InputCursor where
  offset : Nat := 0
  lineNumber : Nat := 0
  observation : FileObservation := {}
  observedExists : Bool := false

/-- The cursor of a file, and the lines that the callback has received. -/
structure LineReader where
  cursor : InputCursor := {}
  received : List (List UInt8) := []

/-- What one call finds: the observations, the size at which each line is read, and what is thrown
before the first observation, at each line and behind the last: a cancellation, or a call that
fails. -/
structure ConsumeAnswers where
  initial : Option FileObservation
  sizes : Nat → Nat
  thrown : Nat → Option String
  final : Except String (Option FileObservation)

variable (file : InputFile) (answers : ConsumeAnswers)

def LineReader.take (r : LineReader) (line : List UInt8) : LineReader where
  received := if line = [] then r.received else r.received ++ [line]
  cursor :=
    { r.cursor with
      offset := r.cursor.offset + (line.length + 1)
      lineNumber := (r.cursor.lineNumber + 1) % 2 ^ 64 }

/-- The loop, from the number of lines it may still consume. -/
def consumeLines : Nat → Nat → LineReader → LineReader × Option String
  | 0, index, r => (r, answers.thrown index)
  | remaining + 1, index, r =>
    let rest := (file.content.take (answers.sizes index)).drop r.cursor.offset
    if (answers.thrown index).isSome then (r, answers.thrown index)
    else if newline ∈ rest then
      consumeLines remaining (index + 1) (r.take (rest.takeWhile (· ≠ newline)))
    -- nothing is left, or a line without a newline: the offset is kept
    else (r, answers.thrown (index + 1))

def consumeFile (maximumRecords : Nat) (r : LineReader) : LineReader × Except String Bool :=
  match answers.thrown 0, answers.initial with
  | some e, _ => (r, .error e)
  | none, none =>
    ({ r with cursor := { r.cursor with observedExists := false, observation := {} } }, .ok false)
  | none, some initial =>
    if 2 ^ 63 - 1 < r.cursor.offset then
      (r, .error ("JSONL offset exceeds stream range for " ++ file.path))
    else
      match consumeLines file answers maximumRecords 1 r with
      | (r, some e) => (r, .error e)
      | (r, none) =>
        let seen (observation : FileObservation) : LineReader :=
          { r with cursor := { r.cursor with observedExists := true, observation } }
        match answers.final with
        | .error e => (seen r.cursor.observation, .error e)
        | .ok none => (seen initial, .ok true)
        | .ok (some final) =>
          if initial.device = final.device ∧ initial.inode = final.inode then
            (seen final, .ok (decide (r.cursor.offset < final.size)))
          else (seen initial, .ok true)

/-- The reader after a number of calls. -/
def consumeCalls (r : LineReader) (calls : List (ConsumeAnswers × Nat)) : LineReader :=
  calls.foldl (fun r call => (consumeFile file call.1 call.2 r).1) r

/-- The lines of a text that have their newline, and what stands behind the last of them, where
the text goes on from the beginning of a line. -/
def splitLines (line : List UInt8) : List UInt8 → List (List UInt8) × List UInt8
  | [] => ([], line)
  | byte :: rest =>
    if byte = newline then
      let (lines, last) := splitLines [] rest
      (line :: lines, last)
    else splitLines (line ++ [byte]) rest

/-- The complete lines of the file when it has some size. -/
def InputFile.lines (size : Nat) : List (List UInt8) :=
  (splitLines [] (file.content.take size)).1

/-- The offset is the start of a line, and all the lines before it are counted and, unless empty,
received. -/
structure LineReader.HasRead (r : LineReader) : Prop where
  inside : r.cursor.offset ≤ file.content.length
  lineStart : (splitLines [] (file.content.take r.cursor.offset)).2 = []
  counted : r.cursor.lineNumber = (file.lines r.cursor.offset).length
  received : r.received = (file.lines r.cursor.offset).filter (· ≠ [])

/-- Behind `start` lines a call consumes `consumed` more: it goes on while the size that it sees
has another complete line, up to its limit. -/
structure Consumes (limit index start consumed : Nat) : Prop where
  within : consumed ≤ limit
  found : ∀ k, k < consumed → start + k < (file.lines (answers.sizes (index + k))).length
  stopped : consumed < limit →
    (file.lines (answers.sizes (index + consumed))).length ≤ start + consumed

/-- What a call does, and what it answers: it fails only with what was thrown, consumes the lines
that it sees, and returns false only when all that is there has been received. -/
structure ReceivesOnce (maximumRecords : Nat) (r : LineReader)
    (outcome : LineReader × Except String Bool) : Prop where
  read : outcome.1.HasRead file
  failed : ∀ e, outcome.2 = .error e →
    answers.final = .error e ∨ ∃ k, answers.thrown k = some e
  consumed : ∀ more, outcome.2 = .ok more → answers.initial ≠ none →
    ∃ consumed, outcome.1.cursor.lineNumber = r.cursor.lineNumber + consumed ∧
      Consumes file answers maximumRecords 1 r.cursor.lineNumber consumed
  ended : outcome.2 = .ok false → answers.initial = none ∨
    ∃ final, answers.final = .ok (some final) ∧
      (file.content.take final.size).drop outcome.1.cursor.offset = [] ∧
      (file.lines final.size).filter (· ≠ []) <+: outcome.1.received

variable {file answers} {r : LineReader}

section Lines

theorem splitLines_append (line before behind : List UInt8) :
    splitLines line (before ++ behind) =
      ((splitLines line before).1 ++ (splitLines (splitLines line before).2 behind).1,
        (splitLines (splitLines line before).2 behind).2) := by
  induction before generalizing line with
  | nil => rfl
  | cons byte before ih =>
    rw [cons_append, splitLines, splitLines]
    split
    · rw [ih]
      rfl
    · exact ih _

theorem splitLines_of_notMem {text : List UInt8} (h : newline ∉ text) (line : List UInt8) :
    splitLines line text = ([], line ++ text) := by
  induction text generalizing line with
  | nil => rw [splitLines, append_nil]
  | cons byte text ih =>
    obtain ⟨hbyte, htext⟩ := not_or.mp (mem_cons.not.mp h)
    rw [splitLines, if_neg (Ne.symm hbyte), ih htext, append_assoc]
    rfl

theorem splitLines_line {text : List UInt8} (h : newline ∉ text) (line : List UInt8) :
    splitLines line (text ++ [newline]) = ([line ++ text], []) := by
  rw [splitLines_append, splitLines_of_notMem h, splitLines, if_pos rfl]
  rfl

theorem length_splitLines_le (line text : List UInt8) :
    (splitLines line text).1.length ≤ text.length := by
  induction text generalizing line with
  | nil => exact Nat.le_refl _
  | cons byte text ih =>
    rw [splitLines]
    split
    · exact Nat.succ_le_succ (ih [])
    · exact Nat.le_succ_of_le (ih _)

theorem takeWhile_newline {rest : List UInt8} (h : newline ∈ rest) :
    newline ∉ rest.takeWhile (· ≠ newline) ∧
      rest.takeWhile (· ≠ newline) ++ [newline] <+: rest := by
  obtain ⟨line, after, rfl, hline⟩ := eq_append_cons_of_mem h
  have hpos : ∀ byte ∈ line, decide (byte ≠ newline) = true :=
    fun byte hbyte => decide_eq_true (ne_of_mem_of_not_mem hbyte hline)
  have htake : (line ++ newline :: after).takeWhile (· ≠ newline) = line := by
    rw [takeWhile_append_of_pos hpos]
    simp
  rw [htake]
  exact ⟨hline, after, by simp⟩

theorem InputFile.lines_mono {size later : Nat} (h : size ≤ later) :
    file.lines size <+: file.lines later := by
  obtain ⟨behind, hbehind⟩ := take_prefix_take_left (l := file.content) h
  unfold InputFile.lines
  rw [← hbehind, splitLines_append]
  exact prefix_append _ _

end Lines

section Reading

/-- The next line of the reader is there as soon as the file has more lines than were counted. -/
theorem LineReader.HasRead.newline_mem_iff (h : r.HasRead file) (size : Nat) :
    newline ∈ (file.content.take size).drop r.cursor.offset ↔
      r.cursor.lineNumber < (file.lines size).length := by
  rw [h.counted]
  rcases Nat.le_total r.cursor.offset size with hle | hle
  · have hsplit := (take_append_drop r.cursor.offset (file.content.take size)).symm
    rw [take_take, Nat.min_eq_left hle] at hsplit
    have hlines : file.lines size = file.lines r.cursor.offset ++
        (splitLines [] ((file.content.take size).drop r.cursor.offset)).1 := by
      unfold InputFile.lines
      rw [hsplit, splitLines_append, h.lineStart, ← hsplit]
    rw [hlines, length_append, Nat.lt_add_right_iff_pos, length_pos_iff]
    constructor
    · intro hmem
      obtain ⟨hline, behind, hbehind⟩ := takeWhile_newline hmem
      rw [← hbehind, splitLines_append, splitLines_line hline]
      exact cons_ne_nil _ _
    · intro hne
      by_contra hmem
      exact hne (congrArg Prod.fst (splitLines_of_notMem hmem []))
  · rw [drop_eq_nil_of_le (Nat.le_trans (length_take_le ..) hle)]
    have hprefix := (file.lines_mono hle).length_le
    exact ⟨fun hmem => absurd hmem not_mem_nil, fun hlt => absurd hlt (Nat.not_lt.mpr hprefix)⟩

theorem LineReader.HasRead.take (h : r.HasRead file) {line : List UInt8} (hline : newline ∉ line)
    (hnext : line ++ [newline] <+: file.content.drop r.cursor.offset) :
    (r.take line).HasRead file ∧ (r.take line).cursor.lineNumber = r.cursor.lineNumber + 1 := by
  have hcontent : file.content.take (r.take line).cursor.offset =
      file.content.take r.cursor.offset ++ (line ++ [newline]) := by
    change file.content.take (r.cursor.offset + (line.length + 1)) = _
    rw [take_add, prefix_iff_eq_take.mp hnext]
    simp
  have hsplit : splitLines [] (file.content.take (r.take line).cursor.offset) =
      (file.lines r.cursor.offset ++ [line], []) := by
    rw [hcontent, splitLines_append, h.lineStart, splitLines_line hline]
    rfl
  have hlines : file.lines (r.take line).cursor.offset = file.lines r.cursor.offset ++ [line] :=
    congrArg Prod.fst hsplit
  have hnumber : (r.take line).cursor.lineNumber = r.cursor.lineNumber + 1 := by
    have hcount : r.cursor.lineNumber ≤ (file.content.take r.cursor.offset).length :=
      h.counted ▸ length_splitLines_le [] _
    have hbounded := file.bounded
    rw [length_take] at hcount
    exact Nat.mod_eq_of_lt (by omega)
  have hbound := hnext.length_le
  rw [length_append, length_drop, length_singleton] at hbound
  refine ⟨⟨?_, congrArg Prod.snd hsplit, ?_, ?_⟩, hnumber⟩
  · change r.cursor.offset + (line.length + 1) ≤ _
    have hinside := h.inside
    omega
  · rw [hnumber, hlines, h.counted, length_append, length_singleton]
  · rw [hlines, filter_append, ← h.received]
    by_cases hempty : line = []
    · simp [LineReader.take, hempty]
    · simp [LineReader.take, hempty]

/-- The loop ends between two lines, and without an exception only where no line is left. -/
theorem consumeLines_spec {remaining index : Nat} (h : r.HasRead file) :
    (consumeLines file answers remaining index r).1.HasRead file ∧
      (∀ e, (consumeLines file answers remaining index r).2 = some e →
        ∃ k, answers.thrown k = some e) ∧
      ((consumeLines file answers remaining index r).2 = none → ∃ consumed,
        (consumeLines file answers remaining index r).1.cursor.lineNumber =
          r.cursor.lineNumber + consumed ∧
        Consumes file answers remaining index r.cursor.lineNumber consumed) := by
  induction remaining generalizing index r with
  | zero =>
    refine ⟨h, fun e he => ⟨index, he⟩, fun _ => ⟨0, rfl, Nat.le_refl 0, ?_, ?_⟩⟩
    · intro k hk
      exact absurd hk (Nat.not_lt_zero k)
    · intro hlt
      exact absurd hlt (Nat.lt_irrefl 0)
  | succ remaining ih =>
    unfold consumeLines
    by_cases hthrown : (answers.thrown index).isSome
    · rw [if_pos hthrown]
      refine ⟨h, fun e he => ⟨index, he⟩, fun hnone => ?_⟩
      have hnone : answers.thrown index = none := hnone
      rw [hnone] at hthrown
      cases hthrown
    rw [if_neg hthrown]
    have hmore := h.newline_mem_iff (answers.sizes index)
    split
    · rename_i hnewline
      obtain ⟨hline, hnext⟩ := takeWhile_newline hnewline
      obtain ⟨htaken, hnumber⟩ := h.take hline (hnext.trans (drop_take ▸ take_prefix ..))
      obtain ⟨hread, herror, hcount⟩ := @ih _ (index + 1) htaken
      refine ⟨hread, herror, fun hnone => ?_⟩
      obtain ⟨consumed, hfinal, hwithin, hfound, hstopped⟩ := hcount hnone
      refine ⟨consumed + 1, by rw [hfinal, hnumber]; omega, by omega, ?_, ?_⟩
      · rintro (_ | k) hk
        · exact hmore.mp hnewline
        · have hk' := hfound k (by omega)
          rw [hnumber, Nat.add_assoc, Nat.add_comm 1 k, Nat.add_assoc, Nat.add_comm 1 k] at hk'
          exact hk'
      · intro hlt
        have hstop := hstopped (by omega)
        rw [hnumber, Nat.add_assoc, Nat.add_comm 1, Nat.add_assoc, Nat.add_comm 1] at hstop
        exact hstop
    · rename_i hnewline
      refine ⟨h, fun e he => ⟨index + 1, he⟩, fun _ => ⟨0, rfl, Nat.zero_le _, ?_, ?_⟩⟩
      · intro k hk
        exact absurd hk (Nat.not_lt_zero k)
      · intro _
        exact Nat.not_lt.mp (hmore.not.mp hnewline)

/-- A call keeps what was read, and does as its answers say. -/
theorem consumeFile_received (maximumRecords : Nat) (h : r.HasRead file) :
    ReceivesOnce file answers maximumRecords r (consumeFile file answers maximumRecords r) := by
  obtain ⟨hread, hthrown, hcount⟩ :=
    @consumeLines_spec file answers r maximumRecords 1 h
  unfold consumeFile
  generalize consumeLines file answers maximumRecords 1 r = looped at hread hthrown hcount ⊢
  obtain ⟨next, thrown⟩ := looped
  cases hfirst : answers.thrown 0 with
  | some e =>
    exact ⟨h, fun e' he => .inr ⟨0, by cases he; exact hfirst⟩, nofun, nofun⟩
  | none =>
  cases hinitial : answers.initial with
  | none =>
    exact ⟨{ h with }, nofun, fun _ _ hfound => absurd hinitial hfound, fun _ => .inl hinitial⟩
  | some initial =>
  have hrange : ¬ 2 ^ 63 - 1 < r.cursor.offset := by
    have hinside := h.inside
    have hbounded := file.bounded
    omega
  dsimp only
  rw [if_neg hrange]
  cases thrown with
  | some e =>
    exact ⟨hread, fun e' he => .inr (hthrown e' (by cases he; rfl)), nofun, nofun⟩
  | none =>
  cases hfinal : answers.final with
  | error e =>
    exact ⟨{ hread with }, fun e' he => .inl (by cases he; exact hfinal), nofun, nofun⟩
  | ok final =>
  cases final with
  | none => exact ⟨{ hread with }, nofun, fun _ _ _ => hcount rfl, nofun⟩
  | some final =>
    dsimp only
    split
    · refine ⟨{ hread with }, nofun, fun _ _ _ => hcount rfl, fun hfalse => ?_⟩
      have hsize : final.size ≤ next.cursor.offset := by
        simpa using hfalse
      refine .inr ⟨final, hfinal,
        drop_eq_nil_of_le (Nat.le_trans (length_take_le ..) hsize), ?_⟩
      change _ <+: next.received
      rw [hread.received]
      exact (file.lines_mono hsize).filter _
    · exact ⟨{ hread with }, nofun, fun _ _ _ => hcount rfl, nofun⟩

theorem consumeCalls_hasRead (calls : List (ConsumeAnswers × Nat)) (h : r.HasRead file) :
    (consumeCalls file r calls).HasRead file := by
  induction calls generalizing r with
  | nil => exact h
  | cons call calls ih => exact ih (consumeFile_received call.2 h).read

end Reading

/-- After any calls the cursor stands behind whole lines, each of which was received once, and the
next call receives the lines that it finds. -/
theorem lines_are_received_once (file : InputFile) (calls : List (ConsumeAnswers × Nat))
    (answers : ConsumeAnswers) (maximumRecords : Nat) :
    (consumeCalls file {} calls).HasRead file ∧
      ReceivesOnce file answers maximumRecords (consumeCalls file {} calls)
        (consumeFile file answers maximumRecords (consumeCalls file {} calls)) := by
  have hread : (consumeCalls file {} calls).HasRead file :=
    consumeCalls_hasRead calls ⟨Nat.zero_le _, rfl, rfl, rfl⟩
  exact ⟨hread, consumeFile_received maximumRecords hread⟩

/-- Two lines with an empty one between them. -/
def smallInput : InputFile := ⟨"events.jsonl", [97, 98, 10, 10, 99, 10], by decide⟩

/-- A call that finds the file at one size. -/
def steadyAnswers (size : Nat) : ConsumeAnswers :=
  ⟨some ⟨1, 1, size⟩, fun _ => size, fun _ => none, .ok (some ⟨1, 1, size⟩)⟩

/-- The first call finds an unfinished line, the second may take only one, and the last one has
read all. -/
theorem small_input_is_received :
    let r := consumeCalls smallInput {} [(steadyAnswers 2, 5), (steadyAnswers 5, 1)]
    let (next, more) := consumeFile smallInput (steadyAnswers 6) 5 r
    ReceivesOnce smallInput (steadyAnswers 6) 5 r (next, more) ∧
      r.received = [[97, 98]] ∧ r.cursor.offset = 3 ∧
      next.received = [[97, 98], [99]] ∧ next.cursor.lineNumber = 3 ∧ more = .ok false :=
  ⟨(lines_are_received_once smallInput [(steadyAnswers 2, 5), (steadyAnswers 5, 1)]
    (steadyAnswers 6) 5).2, by decide, by decide, by decide, by decide, by decide⟩

end Bbp
