import Bbp.Library.Transition

/-!
# Tailing the logs of the nodes

A log is read in chunks.  A cursor remembers the file, the offset behind the last chunk and
the bytes just before it; a poll of the collector reads each log of each node from its cursor
on and hands the chunk to a handler.  The run report folds the chunks of a log into its tail.

The file may change between any two system calls.  So a poll is given what each call sees:
the attributes, and for every read its contents and how many bytes it grants.
-/

namespace Bbp

open List

abbrev Bytes := List UInt8

section Reading

/-- The reads of one `ReadAt`: each sees its own contents and may be short by its own limit. -/
structure Reads where
  short : List (Bytes × Nat)
  last : Bytes

def readLoop : List (Bytes × Nat) → Bytes → Nat → Nat → Bytes
  | [], last, offset, count => (last.drop offset).take count
  | (content, limit) :: short, last, offset, count =>
    let read := ((content.drop offset).take count).take (limit + 1)
    if read = [] then []
    else read ++ readLoop short last (offset + read.length) (count - read.length)

def readAt (r : Reads) (offset count : Nat) : Bytes := readLoop r.short r.last offset count

def boundaryBytes : Nat := 64

def readBoundary (r : Reads) (offset : Nat) : Bytes :=
  readAt r (offset - min offset boundaryBytes) (min offset boundaryBytes)

structure LogTailCursor where
  offset : Nat := 0
  device : Nat := 0
  inode : Nat := 0
  boundary : Bytes := []
  initialized : Bool := false
  deriving DecidableEq

structure LogTailChunk where
  startOffset : Nat
  nextOffset : Nat
  truncated : Bool
  offsetReset : Bool
  text : Bytes
  nextCursor : LogTailCursor

/-- What the system calls of one `TailLogFile` see. -/
structure Look where
  device : Nat
  inode : Nat
  size : Nat
  fits : size < 2 ^ 63
  before : Reads
  text : Reads
  after : Reads

/-- The cursor was used and does not fit the file any more. -/
def LogTailCursor.stale (cursor : LogTailCursor) (look : Look) : Bool :=
  cursor.initialized && (cursor.device ≠ look.device || cursor.inode ≠ look.inode ||
    cursor.offset > look.size ||
    (cursor.boundary ≠ [] && readBoundary look.before cursor.offset ≠ cursor.boundary))

def tailLogFile (look : Look) (cursor : LogTailCursor) (maxBytes : Nat) :
    Except String LogTailChunk :=
  if maxBytes = 0 then .error "max log tail bytes must be greater than zero"
  else
    let start := if cursor.stale look then 0 else cursor.offset
    let text := readAt look.text start (min (look.size - start) maxBytes)
    let next := start + text.length
    .ok
      { startOffset := start, nextOffset := next, truncated := next < look.size
        offsetReset := cursor.stale look, text
        nextCursor := ⟨next, look.device, look.inode, readBoundary look.after next, true⟩ }

/-- A chunk as the parts of the call make it. -/
structure Tailed (look : Look) (cursor : LogTailCursor) (maxBytes : Nat)
    (chunk : LogTailChunk) : Prop where
  reset : chunk.offsetReset = cursor.stale look
  start : chunk.startOffset = if chunk.offsetReset then 0 else cursor.offset
  text : chunk.text =
    readAt look.text chunk.startOffset (min (look.size - chunk.startOffset) maxBytes)
  next : chunk.nextOffset = chunk.startOffset + chunk.text.length
  truncated : chunk.truncated = decide (chunk.nextOffset < look.size)
  cursor : chunk.nextCursor =
    ⟨chunk.nextOffset, look.device, look.inode, readBoundary look.after chunk.nextOffset, true⟩

theorem tailLogFile_tailed
    {look : Look} {cursor : LogTailCursor} {maxBytes : Nat} {chunk : LogTailChunk}
    (h : tailLogFile look cursor maxBytes = .ok chunk) : Tailed look cursor maxBytes chunk := by
  unfold tailLogFile at h
  split at h
  · exact nomatch h
  · cases h
    exact ⟨rfl, rfl, rfl, rfl, rfl, rfl⟩

end Reading

section Collector

inductive ChainLogSource where
  | daemon | stdout | stderr
  deriving DecidableEq

abbrev LogKey := String × ChainLogSource

/-- How the read of one log ends, and whether the handler throws at its chunk. -/
inductive LogAnswer where
  | failed
  | absent
  | read (look : Look) (handlerThrows : Bool)

structure LogPoll where
  nodes : List String
  answer : LogKey → LogAnswer

/-- An erased entry of `cursors_` is the unused cursor; `handled` lists the handler's calls. -/
structure NodeLogCollector where
  maximumChunkBytes : Nat
  cursors : LogKey → LogTailCursor := fun _ => {}
  stopped : Bool := false
  handled : List (LogKey × LogTailChunk) := []

namespace NodeLogCollector

def pollSource (p : LogPoll) (key : LogKey) (s : NodeLogCollector) : NodeLogCollector :=
  if s.stopped then s
  else
    match p.answer key with
    | .failed | .absent => s
    | .read look throws =>
      match tailLogFile look (s.cursors key) s.maximumChunkBytes with
      | .error _ => s
      | .ok chunk =>
        let s := { s with cursors := Function.update s.cursors key chunk.nextCursor }
        if chunk.text = [] ∧ chunk.truncated = false ∧ chunk.offsetReset = false then s
        else { s with handled := s.handled ++ [(key, chunk)], stopped := throws }

/-- The nodes of the snapshot in order.  An empty or repeated id ends the collector. -/
def pollNodes (p : LogPoll) : List String → List String → NodeLogCollector → NodeLogCollector
  | _, [], s => s
  | seen, node :: nodes, s =>
    if s.stopped then s
    else if node = "" ∨ node ∈ seen then { s with stopped := true }
    else
      pollNodes p (node :: seen) nodes (pollSource p (node, .stderr) (pollSource p (node, .stdout)
          (pollSource p (node, .daemon) s)))

def pollOnce (s : NodeLogCollector) (p : LogPoll) : NodeLogCollector :=
  let t := pollNodes p [] p.nodes s
  if t.stopped then t
  else { t with cursors := fun key => if key.1 ∈ p.nodes then t.cursors key else {} }

/-- The chunks of one log. -/
def chunks (s : NodeLogCollector) (key : LogKey) : List LogTailChunk :=
  (s.handled.filter (·.1 = key)).map (·.2)

/-- The bytes of one log that the handler was given. -/
def text (s : NodeLogCollector) (key : LogKey) : Bytes := (s.chunks key).flatMap (·.text)

end NodeLogCollector

end Collector

section Report

/-- The tail of a log in the run report. -/
structure LogTail where
  startOffset : Nat
  nextOffset : Nat
  text : Bytes

def maximumNodeLogTailBytes : Nat := 256 * 1024

/-- How many bytes go: up to the first newline in the allowed part, or just the excess. -/
def removedBytes (text : Bytes) : Nat :=
  if text.length > maximumNodeLogTailBytes then
    let excess := text.length - maximumNodeLogTailBytes
    match (text.drop excess).idxOf? 10 with
    | none => excess
    | some i => excess + i + 1
  else 0

def rememberLogTail (previous : Option LogTail) (chunk : LogTailChunk) : LogTail :=
  let joined := previous.filter fun tail =>
    !chunk.offsetReset && chunk.startOffset = tail.nextOffset
  let text := joined.elim [] (·.text) ++ chunk.text
  let start := joined.elim chunk.startOffset (·.startOffset)
  let removed := removedBytes text
  { startOffset := if start ≤ 2 ^ 64 - 1 - removed then start + removed else chunk.startOffset
    nextOffset := chunk.nextOffset
    text := text.drop removed }

/-- The fold over the chunks of a log. -/
def logTail (chunks : List LogTailChunk) : Option LogTail :=
  chunks.foldl (fun previous chunk => some (rememberLogTail previous chunk)) none

/-- The bytes of the file as read since the last reset. -/
def sinceReset (chunks : List LogTailChunk) : Bytes :=
  chunks.foldl (fun read chunk => if chunk.offsetReset then chunk.text else read ++ chunk.text) []

end Report

section Effects

variable {p : LogPoll} {key : LogKey} {s t : NodeLogCollector}

/-- A chunk that says nothing is not handed on. -/
def added (chunk : LogTailChunk) : List LogTailChunk :=
  if chunk.text = [] ∧ chunk.truncated = false ∧ chunk.offsetReset = false then [] else [chunk]

/-- The ids of the snapshot are in order, and the handler throws at no chunk. -/
structure LogPoll.Quiet (p : LogPoll) : Prop where
  named : "" ∉ p.nodes
  distinct : p.nodes.Nodup
  handled : ∀ key look throws, p.answer key = .read look throws → throws = false

/-- The poll goes on to read the log. -/
structure NodeLogCollector.Reaches (s : NodeLogCollector) (key : LogKey) (p : LogPoll)
    (look : Look) : Prop where
  running : s.stopped = false
  chunk : 0 < s.maximumChunkBytes
  node : key.1 ∈ p.nodes
  quiet : p.Quiet
  answer : ∃ throws, p.answer key = .read look throws

/-- The chunk size stays, and only a poll that is not quiet stops the collector. -/
structure Kept (p : LogPoll) (s t : NodeLogCollector) : Prop where
  maximum : t.maximumChunkBytes = s.maximumChunkBytes
  running : p.Quiet → s.stopped = false → t.stopped = false

theorem Kept.trans (h : Kept p s t) {u : NodeLogCollector} (hnext : Kept p t u) : Kept p s u :=
  ⟨hnext.maximum.trans h.maximum, fun hquiet hs => hnext.running hquiet (h.running hquiet hs)⟩

/-- What a poll can do to one log: nothing, if it does not reach it, or one read. -/
structure Polled (p : LogPoll) (key : LogKey) (s t : NodeLogCollector) : Prop extends
    Kept p s t where
  effect : ((∀ look, ¬ s.Reaches key p look) ∧ t.cursors key = s.cursors key ∧
      t.chunks key = s.chunks key) ∨
    ∃ look throws chunk, p.answer key = .read look throws ∧
      tailLogFile look (s.cursors key) s.maximumChunkBytes = .ok chunk ∧
      t.cursors key = chunk.nextCursor ∧ t.chunks key = s.chunks key ++ added chunk

/-- A poll leaves one log alone. -/
structure Untouched (p : LogPoll) (key : LogKey) (s t : NodeLogCollector) : Prop extends
    Kept p s t where
  cursor : t.cursors key = s.cursors key
  chunks : t.chunks key = s.chunks key

theorem Polled.skipped (h : ∀ look, ¬ s.Reaches key p look) : Polled p key s s :=
  ⟨⟨rfl, fun _ => id⟩, .inl ⟨h, rfl, rfl⟩⟩

theorem Untouched.refl : Untouched p key s s :=
  ⟨⟨rfl, fun _ => id⟩, rfl, rfl⟩

variable {u : NodeLogCollector}

theorem Untouched.trans (h : Untouched p key s t) (hnext : Untouched p key t u) :
    Untouched p key s u :=
  ⟨h.toKept.trans hnext.toKept, hnext.cursor.trans h.cursor, hnext.chunks.trans h.chunks⟩

theorem Untouched.polled (h : Untouched p key s t) (hnext : Polled p key t u) :
    Polled p key s u := by
  refine ⟨h.toKept.trans hnext.toKept, ?_⟩
  have heffect := hnext.effect
  rw [h.cursor, h.chunks, h.maximum] at heffect
  refine heffect.imp_left fun ⟨hskipped, hsame⟩ => ⟨fun look hreaches => ?_, hsame⟩
  exact hskipped look { hreaches with
    running := h.running hreaches.quiet hreaches.running
    chunk := h.maximum ▸ hreaches.chunk }

theorem Polled.untouched (h : Polled p key s t) (hnext : Untouched p key t u) :
    Polled p key s u := by
  refine ⟨h.toKept.trans hnext.toKept, ?_⟩
  rw [hnext.cursor, hnext.chunks]
  exact h.effect

namespace NodeLogCollector

theorem pollSource_other {other : LogKey} (h : other ≠ key) (s : NodeLogCollector) :
    Untouched p key s (pollSource p other s) := by
  unfold pollSource
  split
  · exact .refl
  split
  · exact .refl
  · exact .refl
  next look throws hanswer =>
    split
    · exact .refl
    next chunk _ =>
      have hcursor := Function.update_of_ne h.symm chunk.nextCursor s.cursors
      split
      · exact ⟨⟨rfl, fun _ => id⟩, hcursor, rfl⟩
      · exact ⟨⟨rfl, fun hquiet _ => hquiet.handled _ _ _ hanswer⟩, hcursor, by simp [chunks, h]⟩

theorem pollSource_self (s : NodeLogCollector) : Polled p key s (pollSource p key s) := by
  unfold pollSource
  split
  next hstopped => exact .skipped fun _ h => Bool.false_ne_true (h.running.symm.trans hstopped)
  split
  next hanswer => exact .skipped fun _ h => by obtain ⟨_, h⟩ := h.answer; cases hanswer.symm.trans h
  next hanswer => exact .skipped fun _ h => by obtain ⟨_, h⟩ := h.answer; cases hanswer.symm.trans h
  next look throws hanswer =>
    split
    next hfailed =>
      refine .skipped fun _ h => ?_
      rw [tailLogFile, if_neg (Nat.ne_of_gt h.chunk)] at hfailed
      cases hfailed
    rename_i chunk hchunk
    have hcursor := Function.update_self key chunk.nextCursor s.cursors
    dsimp only
    split
    next hskip =>
      refine ⟨⟨rfl, fun _ => id⟩, .inr ⟨look, throws, chunk, hanswer, hchunk, hcursor, ?_⟩⟩
      rw [added, if_pos hskip, append_nil]
      rfl
    next hskip =>
      refine ⟨⟨rfl, fun hquiet _ => hquiet.handled _ _ _ hanswer⟩,
        .inr ⟨look, throws, chunk, hanswer, hchunk, hcursor, ?_⟩⟩
      rw [added, if_neg hskip]
      simp [chunks]

/-- A quiet poll does not end at a node. -/
theorem LogPoll.Quiet.fresh {seen nodes : List String} {node : String}
    (hsplit : seen.reverse ++ node :: nodes = p.nodes) (h : p.Quiet) :
    ¬ (node = "" ∨ node ∈ seen) := by
  have hdistinct := h.distinct
  have hnamed := h.named
  rw [← hsplit] at hdistinct hnamed
  rintro (rfl | hseen)
  · exact hnamed (mem_append_right _ mem_cons_self)
  · exact (nodup_append.mp hdistinct).2.2 node (mem_reverse.mpr hseen) node mem_cons_self rfl

theorem pollNodes_seen {nodes seen : List String} (hsplit : seen.reverse ++ nodes = p.nodes)
    (h : key.1 ∈ seen) : Untouched p key s (pollNodes p seen nodes s) := by
  induction nodes generalizing seen s with
  | nil => exact .refl
  | cons node nodes ih =>
    unfold pollNodes
    split
    · exact .refl
    split
    next hnode =>
      exact ⟨⟨rfl, fun hquiet => absurd hnode (LogPoll.Quiet.fresh hsplit hquiet)⟩, rfl, rfl⟩
    next hnode =>
      have hother : ∀ source, (node, source) ≠ key := by
        rintro source rfl
        exact hnode (.inr h)
      exact (((pollSource_other (hother _) _).trans (pollSource_other (hother _) _)).trans
        (pollSource_other (hother _) _)).trans (ih (by simpa using hsplit) (mem_cons_of_mem node h))

theorem pollNodes_polled {seen nodes : List String} (hsplit : seen.reverse ++ nodes = p.nodes)
    (hmem : key.1 ∈ nodes) : Polled p key s (pollNodes p seen nodes s) := by
  induction nodes generalizing seen s with
  | nil => exact nomatch hmem
  | cons node nodes ih =>
    have hnext : (node :: seen).reverse ++ nodes = p.nodes := by simpa using hsplit
    unfold pollNodes
    split
    next hstopped => exact .skipped fun _ h => Bool.false_ne_true (h.running.symm.trans hstopped)
    split
    next hnode =>
      exact ⟨⟨rfl, fun hquiet => absurd hnode (LogPoll.Quiet.fresh hsplit hquiet)⟩,
        .inl ⟨fun _ h => LogPoll.Quiet.fresh hsplit h.quiet hnode, rfl, rfl⟩⟩
    obtain ⟨name, source⟩ := key
    by_cases hnode : node = name
    · subst hnode
      have hother : ∀ {a b : ChainLogSource}, a ≠ b → (node, a) ≠ (node, b) :=
        fun hne heq => hne (Prod.mk.inj heq).2
      refine Polled.untouched ?_ (pollNodes_seen hnext mem_cons_self)
      cases source with
      | daemon =>
        exact ((pollSource_self s).untouched (pollSource_other (hother (by decide)) _)).untouched
          (pollSource_other (hother (by decide)) _)
      | stdout =>
        exact ((pollSource_other (hother (by decide)) s).polled (pollSource_self _)).untouched
          (pollSource_other (hother (by decide)) _)
      | stderr =>
        exact ((pollSource_other (hother (by decide)) s).trans
          (pollSource_other (hother (by decide)) _)).polled (pollSource_self _)
    · have hother : ∀ source', (node, source') ≠ (name, source) :=
        fun _ heq => hnode (Prod.mk.inj heq).1
      exact (((pollSource_other (hother _) s).trans (pollSource_other (hother _) _)).trans
        (pollSource_other (hother _) _)).polled
          (ih hnext ((mem_cons.mp hmem).resolve_left (Ne.symm hnode)))

theorem pollOnce_polled (h : key.1 ∈ p.nodes) (s : NodeLogCollector) :
    Polled p key s (pollOnce s p) := by
  refine (@pollNodes_polled p key s [] p.nodes rfl h).untouched ?_
  unfold pollOnce
  dsimp only
  split
  · exact .refl
  · exact ⟨⟨rfl, fun _ => id⟩, if_pos h, rfl⟩

end NodeLogCollector

end Effects

section Tail

variable {chunks : List LogTailChunk} {chunk : LogTailChunk}

theorem sinceReset_concat (chunks : List LogTailChunk) (chunk : LogTailChunk) :
    sinceReset (chunks ++ [chunk]) =
      if chunk.offsetReset then chunk.text else sinceReset chunks ++ chunk.text :=
  foldl_concat ..

theorem sinceReset_added (chunks : List LogTailChunk) (chunk : LogTailChunk) :
    sinceReset (chunks ++ added chunk) =
      if chunk.offsetReset then chunk.text else sinceReset chunks ++ chunk.text := by
  unfold added
  split
  next hskip => simp [hskip]
  next => exact sinceReset_concat chunks chunk

theorem text_added (chunks : List LogTailChunk) (chunk : LogTailChunk) :
    (chunks ++ added chunk).flatMap (·.text) = chunks.flatMap (·.text) ++ chunk.text := by
  unfold added
  grind

theorem removedBytes_bounds (text : Bytes) :
    removedBytes text ≤ text.length ∧
      text.length - removedBytes text ≤ maximumNodeLogTailBytes := by
  unfold removedBytes
  split
  · dsimp only
    split
    · omega
    next i hi =>
      have hlt := (idxOf?_eq_some_iff.mp hi).1
      rw [length_drop] at hlt
      omega
  · omega

/-- The tail is the end of what was read since the last reset. -/
def Reported (chunks : List LogTailChunk) : Prop :=
  (logTail chunks).elim (sinceReset chunks = []) fun tail =>
    tail.nextOffset = (sinceReset chunks).length ∧ tail.startOffset ≤ tail.nextOffset ∧
      tail.text = (sinceReset chunks).drop tail.startOffset ∧
      tail.text.length ≤ maximumNodeLogTailBytes

/-- The chunk goes on where the last one ended, or starts again. -/
structure Continues (chunks : List LogTailChunk) (chunk : LogTailChunk) : Prop where
  start : chunk.startOffset = if chunk.offsetReset then 0 else (sinceReset chunks).length
  next : chunk.nextOffset = chunk.startOffset + chunk.text.length
  fits : chunk.nextOffset < 2 ^ 63

/-- What is kept of a text that ends what was read. -/
theorem rememberLogTail_reported (joined : Option LogTail)
    (hjoined : (logTail chunks).filter (fun tail =>
      !chunk.offsetReset && chunk.startOffset = tail.nextOffset) = joined)
    (htext : joined.elim [] (·.text) ++ chunk.text =
      (sinceReset (chunks ++ [chunk])).drop (joined.elim chunk.startOffset (·.startOffset)))
    (hstart : joined.elim chunk.startOffset (·.startOffset) ≤ chunk.nextOffset)
    (hlength : chunk.nextOffset = (sinceReset (chunks ++ [chunk])).length)
    (hfits : chunk.nextOffset < 2 ^ 63) : Reported (chunks ++ [chunk]) := by
  have htail : logTail (chunks ++ [chunk]) = some (rememberLogTail (logTail chunks) chunk) :=
    foldl_concat ..
  unfold Reported
  rw [htail, rememberLogTail, hjoined]
  dsimp only [Option.elim_some]
  have hbounds := removedBytes_bounds (joined.elim [] (·.text) ++ chunk.text)
  have hkept := congrArg length htext
  rw [length_drop] at hkept
  rw [if_pos (by omega), length_drop]
  refine ⟨hlength, by omega, ?_, hbounds.2⟩
  exact (congrArg _ htext).trans drop_drop

theorem Reported.added (h : Reported chunks) (hc : Continues chunks chunk) :
    Reported (chunks ++ added chunk) := by
  unfold Bbp.added
  split
  · rwa [append_nil]
  have hread := sinceReset_concat chunks chunk
  have hnext := hc.next
  have hstart := hc.start
  unfold Reported at h
  cases hreset : chunk.offsetReset with
  | true =>
    rw [hreset, if_pos rfl] at hread hstart
    refine rememberLogTail_reported none ?_ ?_ ?_ ?_ hc.fits
    · cases logTail chunks <;> simp [hreset]
    · simp [hread, hstart]
    · simp [hstart]
    · rw [hread, hnext, hstart, Nat.zero_add]
  | false =>
    rw [hreset, if_neg Bool.false_ne_true] at hread hstart
    cases hlast : logTail chunks with
    | none =>
      rw [hlast] at h
      have hempty : sinceReset chunks = [] := h
      rw [hempty] at hread hstart
      refine rememberLogTail_reported none ?_ ?_ ?_ ?_ hc.fits
      · simp [hlast]
      · simp [hread, hstart]
      · simp [hstart]
      · simp [hread, hnext, hstart]
    | some tail =>
      rw [hlast] at h
      obtain ⟨hlength, hfrom, htext, _⟩ := h
      refine rememberLogTail_reported (some tail) ?_ ?_ ?_ ?_ hc.fits
      · simp [hlast, hreset, hstart, hlength]
      · rw [hread, drop_append_of_le_length (hlength ▸ hfrom)]
        exact congrArg (· ++ chunk.text) htext
      · simp only [Option.elim_some]
        omega
      · rw [hread, length_append, hnext, hstart]

end Tail

section Runs

open NodeLogCollector

variable {file : Bytes} {device inode : Nat} {key : LogKey}

/-- The contents that the reads see extend the beginning of the file. -/
def Reads.extend (r : Reads) (head : Bytes) : Prop :=
  (∀ read, read ∈ r.short → head <+: read.1) ∧ head <+: r.last

theorem take_drop_of_extends {head content : Bytes} {offset count : Nat} (h : head <+: content)
    (hin : offset + count ≤ head.length) :
    (content.drop offset).take count = (head.drop offset).take count := by
  obtain ⟨rest, rfl⟩ := h
  rw [drop_append_of_le_length (by omega), take_append_of_le_length (by rw [length_drop]; omega)]

/-- Short reads of a file that grows add up to the part that was asked for. -/
theorem readAt_of_extend {r : Reads} {head : Bytes} {offset count : Nat} (h : r.extend head)
    (hin : offset + count ≤ head.length) :
    readAt r offset count = (head.drop offset).take count := by
  obtain ⟨short, last⟩ := r
  obtain ⟨hshort, hlast⟩ := h
  unfold readAt
  dsimp only at hshort hlast ⊢
  induction short generalizing offset count with
  | nil => exact take_drop_of_extends hlast hin
  | cons read short ih =>
    have hread := take_drop_of_extends (hshort read mem_cons_self) hin
    have hlength : (((head.drop offset).take count).take (read.2 + 1)).length =
        min (read.2 + 1) count := by
      rw [length_take, length_take, length_drop]
      omega
    rw [readLoop, hread]
    split
    next hnone =>
      rw [hnone, length_nil] at hlength
      rw [show count = 0 by omega, take_zero]
    next =>
      rw [hlength, ih (by omega) (fun x hx => hshort x (mem_cons_of_mem read hx)), take_take]
      have hsplit := take_add (l := head.drop offset) (i := min (read.2 + 1) count)
        (j := count - min (read.2 + 1) count)
      rw [Nat.add_sub_cancel' (Nat.min_le_right _ _), drop_drop] at hsplit
      exact hsplit.symm

/-- A look at a log that is only appended to, and the file later on. -/
structure Look.Appended (look : Look) (file : Bytes) (device inode : Nat) : Prop where
  device : look.device = device
  inode : look.inode = inode
  size : look.size ≤ file.length
  before : look.before.extend (file.take look.size)
  text : look.text.extend (file.take look.size)
  after : look.after.extend (file.take look.size)

/-- Every look sees at least what was there before, `size` at first. -/
def Appending (file : Bytes) (device inode : Nat) (key : LogKey) : Nat → List LogPoll → Prop
  | _, [] => True
  | size, p :: polls =>
    match p.answer key with
    | .read look _ =>
      look.Appended file device inode ∧ size ≤ look.size ∧
        Appending file device inode key look.size polls
    | _ => Appending file device inode key size polls

/-- The cursor is behind the bytes that the handler was given. -/
structure Tracks (file : Bytes) (device inode size : Nat) (key : LogKey)
    (s : NodeLogCollector) : Prop where
  behind : (s.cursors key).offset ≤ size ∧ size ≤ file.length
  handled : s.text key = file.take (s.cursors key).offset
  unused : (s.cursors key).initialized = false → (s.cursors key).offset = 0
  known : (s.cursors key).initialized = true →
    (s.cursors key).device = device ∧ (s.cursors key).inode = inode ∧
      (s.cursors key).boundary = readBoundary ⟨[], file⟩ (s.cursors key).offset

theorem readBoundary_of_extend {r : Reads} {size offset : Nat} (h : r.extend (file.take size))
    (hin : offset ≤ size ∧ size ≤ file.length) :
    readBoundary r offset = readBoundary ⟨[], file⟩ offset := by
  have hsize : (file.take size).length = size := by rw [length_take]; omega
  unfold readBoundary
  rw [readAt_of_extend h (by omega)]
  exact (take_drop_of_extends (List.take_prefix size file) (by omega)).symm

variable {s : NodeLogCollector}

theorem Tracks.read {t : NodeLogCollector} {size : Nat} {look : Look} {chunk : LogTailChunk}
    (h : Tracks file device inode size key s) (hlook : look.Appended file device inode)
    (hsize : size ≤ look.size)
    (hchunk : tailLogFile look (s.cursors key) s.maximumChunkBytes = .ok chunk)
    (hcursor : t.cursors key = chunk.nextCursor)
    (hchunks : t.chunks key = s.chunks key ++ added chunk) :
    Tracks file device inode look.size key t ∧ (t.cursors key).offset =
      min look.size ((s.cursors key).offset + s.maximumChunkBytes) := by
  have hlength : (file.take look.size).length = look.size := by
    rw [length_take]
    have hle := hlook.size
    omega
  have hbehind := h.behind
  have hfresh : (s.cursors key).stale look = false := by
    unfold LogTailCursor.stale
    cases hused : (s.cursors key).initialized with
    | false => rfl
    | true =>
      obtain ⟨hdevice, hinode, hboundary⟩ := h.known hused
      have hsame : readBoundary look.before (s.cursors key).offset = _ :=
        readBoundary_of_extend hlook.before ⟨by omega, hlook.size⟩
      simp only [hdevice, hinode, hboundary, hlook.device, hlook.inode, hsame]
      simp
      omega
  have htailed := tailLogFile_tailed hchunk
  have hstart := htailed.start
  rw [htailed.reset, hfresh, if_neg Bool.false_ne_true] at hstart
  have hin := hlook.size
  have htext : chunk.text = (file.drop (s.cursors key).offset).take
      (min (look.size - (s.cursors key).offset) s.maximumChunkBytes) := by
    rw [htailed.text, hstart, readAt_of_extend hlook.text (by omega)]
    exact (take_drop_of_extends (List.take_prefix look.size file) (by omega)).symm
  have htextLength := congrArg length htext
  rw [length_take, length_drop] at htextLength
  have hnext := htailed.next
  rw [htailed.cursor] at hcursor
  refine ⟨⟨?_, ?_, ?_, ?_⟩, by rw [hcursor]; dsimp only; omega⟩
  · rw [hcursor]
    exact ⟨by dsimp only; omega, hin⟩
  · have hhandled := h.handled
    unfold NodeLogCollector.text at hhandled ⊢
    rw [hcursor, hchunks, text_added, hhandled]
    dsimp only
    rw [hnext, hstart, take_add, htextLength, htext]
    exact congrArg _ (take_eq_take_iff.mpr (by rw [length_drop]; omega))
  · rw [hcursor]
    exact nofun
  · rw [hcursor]
    exact fun _ => ⟨hlook.device, hlook.inode, readBoundary_of_extend hlook.after ⟨by omega, hin⟩⟩

/-- Reading a log that is only appended to, and that may go on growing. -/
theorem Appending.tracks {polls later : List LogPoll} {size : Nat}
    (hstays : ∀ p ∈ polls, key.1 ∈ p.nodes)
    (hgrows : Appending file device inode key size (polls ++ later))
    (h : Tracks file device inode size key s) :
    ∃ size', Tracks file device inode size' key (polls.foldl pollOnce s) ∧
      Appending file device inode key size' later := by
  induction polls generalizing s size with
  | nil => exact ⟨size, h, hgrows⟩
  | cons p polls ih =>
    have hpolled := (pollOnce_polled (hstays p mem_cons_self) s).effect
    have hrest : ∀ q ∈ polls, key.1 ∈ q.nodes := fun q hq => hstays q (mem_cons_of_mem p hq)
    rw [cons_append, Appending] at hgrows
    rcases hpolled with ⟨-, hcursor, hchunks⟩ | ⟨look, throws, chunk, hanswer, hread⟩
    · have hsame : ∀ size', size ≤ size' → size' ≤ file.length →
          Tracks file device inode size' key (pollOnce s p) := by
        intro size' hmore hin
        exact ⟨⟨by rw [hcursor]; exact h.behind.1.trans hmore, hin⟩,
          by rw [NodeLogCollector.text, hcursor, hchunks]; exact h.handled,
          by rw [hcursor]; exact h.unused, by rw [hcursor]; exact h.known⟩
      split at hgrows
      · exact ih hrest hgrows.2.2 (hsame _ hgrows.2.1 hgrows.1.size)
      · exact ih hrest hgrows (hsame size (Nat.le_refl _) h.behind.2)
    · rw [hanswer] at hgrows
      exact ih hrest hgrows.2.2 (h.read hgrows.1 hgrows.2.1 hread.1 hread.2.1 hread.2.2).1

theorem readAt_length_le (r : Reads) (offset count : Nat) :
    (readAt r offset count).length ≤ count := by
  obtain ⟨short, last⟩ := r
  unfold readAt
  dsimp only
  induction short generalizing offset count with
  | nil => exact length_take_le _ _
  | cons read short ih =>
    unfold readLoop
    dsimp only
    split
    · exact Nat.zero_le _
    have hrest := ih (offset + (((read.1.drop offset).take count).take (read.2 + 1)).length)
      (count - (((read.1.drop offset).take count).take (read.2 + 1)).length)
    have hread : (((read.1.drop offset).take count).take (read.2 + 1)).length ≤ count :=
      (length_take_le' _ _).trans (length_take_le _ _)
    rw [length_append]
    omega

/-- The cursor is behind what was read since the last reset. -/
structure Follows (key : LogKey) (s : NodeLogCollector) : Prop where
  offset : (s.cursors key).offset = (sinceReset (s.chunks key)).length
  unused : (s.cursors key).initialized = false → (s.cursors key).offset = 0
  reported : Reported (s.chunks key)

theorem Follows.poll {p : LogPoll} (h : Follows key s) (hstays : key.1 ∈ p.nodes) :
    Follows key (pollOnce s p) := by
  rcases (pollOnce_polled hstays s).effect with
    ⟨-, hcursor, hchunks⟩ | ⟨look, throws, chunk, _, hread, hcursor, hchunks⟩
  · refine ⟨?_, ?_, ?_⟩
    · rw [hcursor, hchunks]
      exact h.offset
    · rw [hcursor]
      exact h.unused
    · rw [hchunks]
      exact h.reported
  have htailed := tailLogFile_tailed hread
  have hoffset := h.offset
  have hnext := htailed.next
  have hstart := htailed.start
  have hbelow : chunk.startOffset ≤ look.size := by
    have hunused := h.unused
    have hreset := htailed.reset
    unfold LogTailCursor.stale at hreset
    grind
  have htext := readAt_length_le look.text chunk.startOffset
    (min (look.size - chunk.startOffset) s.maximumChunkBytes)
  rw [← htailed.text] at htext
  have hfits := look.fits
  rw [htailed.cursor] at hcursor
  refine ⟨?_, ?_, ?_⟩
  · rw [hcursor, hchunks, sinceReset_added]
    dsimp only
    rw [hnext, hstart]
    split
    · rw [Nat.zero_add]
    · rw [length_append, hoffset]
  · rw [hcursor]
    exact nofun
  · rw [hchunks]
    exact h.reported.added ⟨hoffset ▸ hstart, hnext, by omega⟩

theorem Follows.run {polls : List LogPoll} (hstays : ∀ p ∈ polls, key.1 ∈ p.nodes)
    (h : Follows key s) : Follows key (polls.foldl pollOnce s) := by
  induction polls generalizing s with
  | nil => exact h
  | cons p polls ih =>
    exact ih (fun q hq => hstays q (mem_cons_of_mem p hq)) (h.poll (hstays p mem_cons_self))

/-- The part of the chunk that says where it was read: again from the start exactly if the cursor
was used and the file is another one, shorter, or has other bytes before the offset. -/
structure Located (cursor : LogTailCursor) (look : Look) (chunk : LogTailChunk) : Prop where
  reset : chunk.offsetReset = true ↔ cursor.initialized = true ∧
    ((cursor.device ≠ look.device ∨ cursor.inode ≠ look.inode) ∨ look.size < cursor.offset ∨
      cursor.boundary ≠ [] ∧ readBoundary look.before cursor.offset ≠ cursor.boundary)
  start : chunk.startOffset = if chunk.offsetReset then 0 else cursor.offset

/-- A poll that reaches the log hands on what it reads. -/
theorem NodeLogCollector.Reaches.reads {p : LogPoll} {look : Look}
    (h : s.Reaches key p look) :
    (pollOnce s p).stopped = false ∧ ∃ chunk,
      tailLogFile look (s.cursors key) s.maximumChunkBytes = .ok chunk ∧
      (pollOnce s p).cursors key = chunk.nextCursor ∧
      (pollOnce s p).chunks key = s.chunks key ++ added chunk := by
  have hpolled := pollOnce_polled h.node s
  refine ⟨hpolled.running h.quiet h.running, ?_⟩
  obtain ⟨throws, hanswer⟩ := h.answer
  rcases hpolled.effect with ⟨hskipped, -⟩ | ⟨seen, throws', chunk, hseen, hread⟩
  · exact absurd h (hskipped look)
  · cases hanswer.symm.trans hseen
    exact ⟨chunk, hread⟩

theorem maximumChunkBytes_run {polls : List LogPoll} (hstays : ∀ p ∈ polls, key.1 ∈ p.nodes) :
    (polls.foldl pollOnce s).maximumChunkBytes = s.maximumChunkBytes := by
  induction polls generalizing s with
  | nil => rfl
  | cons p polls ih =>
    exact (ih fun q hq => hstays q (mem_cons_of_mem p hq)).trans
      (pollOnce_polled (hstays p mem_cons_self) s).maximum

/--
A log of a node that stays is followed.  If it is only appended to, the bytes handed on are a
prefix of it, and a poll that reaches it adds a chunk; once that is not truncated, all that the
poll has seen is there.  Whatever happens to the file, a chunk starts again exactly when the
cursor is stale, and the reported tail is the end of what was read since.
-/
theorem log_is_followed (maximumChunkBytes : Nat) {polls : List LogPoll}
    (hstays : ∀ p, p ∈ polls → key.1 ∈ p.nodes) {s : NodeLogCollector}
    (hs : s = polls.foldl pollOnce { maximumChunkBytes }) :
    (∀ file device inode, Appending file device inode key 0 polls → s.text key <+: file) ∧
    (∀ p look, s.Reaches key p look → (pollOnce s p).stopped = false ∧ ∃ chunk,
      (pollOnce s p).chunks key = s.chunks key ++ added chunk ∧
      Located (s.cursors key) look chunk ∧
      ∀ file device inode, Appending file device inode key 0 (polls ++ [p]) →
        (pollOnce s p).text key =
          file.take (min look.size ((s.text key).length + maximumChunkBytes)) ∧
        (look.size = file.length → chunk.truncated = false → (pollOnce s p).text key = file)) ∧
    Reported (s.chunks key) := by
  subst hs
  have hmaximum := maximumChunkBytes_run (s := { maximumChunkBytes }) hstays
  have htracks : ∀ {file device inode later}, Appending file device inode key 0 (polls ++ later) →
      ∃ size, Tracks file device inode size key (polls.foldl pollOnce { maximumChunkBytes }) ∧
        Appending file device inode key size later := fun hgrows =>
    hgrows.tracks hstays ⟨⟨Nat.le_refl 0, Nat.zero_le _⟩, rfl, fun _ => rfl, nofun⟩
  refine ⟨?_, ?_, (Follows.run (s := { maximumChunkBytes }) hstays
    ⟨rfl, fun _ => rfl, rfl⟩).reported⟩
  · intro file device inode hgrows
    rw [← append_nil polls] at hgrows
    obtain ⟨size, htracks, -⟩ := htracks hgrows
    rw [htracks.handled]
    exact List.take_prefix _ _
  · intro p look hreaches
    generalize polls.foldl pollOnce { maximumChunkBytes } = s at hmaximum htracks hreaches ⊢
    obtain ⟨hrunning, chunk, hread, hcursor, hchunks⟩ := hreaches.reads
    have htailed := tailLogFile_tailed hread
    refine ⟨hrunning, chunk, hchunks, ⟨?_, htailed.start⟩, fun file device inode hgrows => ?_⟩
    · rw [htailed.reset, LogTailCursor.stale]
      simp only [Bool.and_eq_true, Bool.or_eq_true, decide_eq_true_eq, or_assoc, gt_iff_lt]
    obtain ⟨size, hbefore, hlast⟩ := htracks hgrows
    obtain ⟨throws, hanswer⟩ := hreaches.answer
    rw [Appending, hanswer] at hlast
    obtain ⟨hafter, hoffset⟩ := hbefore.read hlast.1 hlast.2.1 hread hcursor hchunks
    have hlength : (s.text key).length = (s.cursors key).offset := by
      rw [hbefore.handled, length_take]
      have hbehind := hbefore.behind
      omega
    rw [hafter.handled]
    refine ⟨by rw [hoffset, hlength, hmaximum], fun hsize hwhole => ?_⟩
    apply List.take_of_length_le
    rw [htailed.truncated] at hwhole
    rw [hcursor, ← hsize, htailed.cursor]
    exact Nat.le_of_not_lt (of_decide_eq_false hwhole)

/-- A look at a file whose contents do not change during the call. -/
def steadyLook (content : Bytes) (h : content.length < 2 ^ 63) : Look :=
  ⟨1, 1, content.length, h, ⟨[], content⟩, ⟨[(content, 0)], content⟩, ⟨[], content⟩⟩

def pollOf (node : String) (look : Look) : LogPoll := ⟨[node], fun _ => .read look false⟩

theorem steadyLook_appended (content rest : Bytes) (h : content.length < 2 ^ 63) :
    (steadyLook content h).Appended (content ++ rest) 1 1 := by
  have hhead : (content ++ rest).take content.length = content := List.take_left
  refine ⟨rfl, rfl, by rw [length_append]; exact Nat.le_add_right _ _, ?_, ?_, ?_⟩
  all_goals
    refine ⟨?_, ?_⟩
    all_goals simp [steadyLook, hhead]

/-- Two polls of a log that grows, at most two bytes at a time; the second one has all of it. -/
theorem growing_log_is_followed :
    let s := [pollOf "n" (steadyLook [7, 8, 9] (by decide))].foldl pollOnce
      { maximumChunkBytes := 2 }
    let t := pollOnce s (pollOf "n" (steadyLook [7, 8, 9, 6] (by decide)))
    s.text ("n", .daemon) = [7, 8] ∧ t.stopped = false ∧ t.text ("n", .daemon) = [7, 8, 9, 6] := by
  have hstays : ∀ p ∈ [pollOf "n" (steadyLook [7, 8, 9] (by decide))],
      (("n", .daemon) : LogKey).1 ∈ p.nodes := by
    simp [pollOf]
  obtain ⟨-, hreads, -⟩ := log_is_followed 2 hstays rfl
  obtain ⟨hrunning, chunk, -, -, hall⟩ := hreads
    (pollOf "n" (steadyLook [7, 8, 9, 6] (by decide))) (steadyLook [7, 8, 9, 6] (by decide))
    ⟨by decide +kernel, by decide, mem_singleton_self _, ⟨by decide, by decide, by simp [pollOf]⟩,
      false, rfl⟩
  have hgrows := hall [7, 8, 9, 6] 1 1 ⟨steadyLook_appended _ [6] _, Nat.zero_le _,
    steadyLook_appended _ [] _, by decide, trivial⟩
  exact ⟨by decide +kernel, hrunning, hgrows.1⟩

/--
The log of a node that was gone for one poll is read again from its start.  And where a file is
cut while it is read, nothing is remembered of it, so that other contents are not noticed.
-/
theorem log_is_read_again_or_rewritten_unseen :
    (([pollOf "n" (steadyLook [7] (by decide)), pollOf "m" (steadyLook [7] (by decide)),
        pollOf "n" (steadyLook [7] (by decide))].foldl pollOnce
          { maximumChunkBytes := 2 }).chunks ("n", .daemon)).flatMap (·.text) = [7, 7] ∧
    ∃ cut : Look, ∃ chunk, tailLogFile cut {} 2 = .ok chunk ∧ chunk.nextCursor.offset = 1 ∧
      tailLogFile (steadyLook [5, 5] (by decide)) chunk.nextCursor 2 = .ok
        ⟨1, 2, false, false, [5], ⟨2, 1, 1, [5, 5], true⟩⟩ ∧
      readBoundary ⟨[], [5, 5]⟩ 1 ≠ chunk.nextCursor.boundary :=
  ⟨by decide +kernel, ⟨1, 1, 1, by decide, ⟨[], [7]⟩, ⟨[], [7]⟩, ⟨[], []⟩⟩,
    ⟨0, 1, false, false, [7], ⟨1, 1, 1, [], true⟩⟩, rfl, rfl, rfl, by decide⟩

end Runs

end Bbp
