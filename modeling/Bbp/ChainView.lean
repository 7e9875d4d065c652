import Bbp.Library.Transition
import Bbp.Library.Stores
import Bbp.Library.BlockTree

/-!
# The cached view of a source chain

A query asks the source node for its tip, brings the cache in line with it, fetches
the rows of a page, and asks for the tip once more: if the chain was reorganised in
between, the page is thrown away.  The cache outlives the query.

Every call of the reader is a step of its own, answered from the chain the source
has at that moment; the source may switch to any other chain between two calls, and
a call may fail or be cancelled.

Rows that a query caches after a switch stay in the cache even though the page is
thrown away.  When the tip is brought in line with the new chain they are found to
be canonical and taken for an anchor, and the blocks below them are kept although
they belong to the old chain: a later query against a chain that does not change at
all returns them (`mixed_cache_is_served`).

If every block that is read belongs to the chain of the tip that the query has read
last, then all cached blocks belong to the chain of the cached tip, and every page
that is read from an unchanging chain is canonical (`rows_are_canonical`).
-/

namespace Bbp

open Library List

section Model

variable (H : Type)

structure ChainBlockSummary where
  height : Nat
  hash : H
  confirmations : Option Int := none
  nextHash : Option H := none
deriving DecidableEq

structure ChainViewEntry where
  summary : ChainBlockSummary H
  used : Nat
deriving DecidableEq

structure ChainViewRequest where
  firstHeight : Option Nat := none
  selectedHeight : Option Nat := none
  limit : Nat := 16
deriving DecidableEq

structure ChainViewRow where
  height : Nat
  summary : Option (ChainBlockSummary H)
  error : String := ""
deriving DecidableEq

/-- A returned page, with the log of the chains it was read from. -/
structure ChainViewPage where
  rows : List (ChainViewRow H)
  error : String := ""
  chains : List H
deriving DecidableEq

/-- A block to be fetched, for a row or only for the cache. -/
structure FetchTarget where
  height : Nat
  isRow : Bool
deriving DecidableEq

/-- Why the tip is updated. -/
inductive TipPhase where
  | opening (request : ChainViewRequest)
  | closing
deriving DecidableEq

/-- The reader call a query is waiting for. -/
inductive ChainViewPc where
  | idle
  | tip (request : ChainViewRequest)
  | extending (next : ChainBlockSummary H) (phase : TipPhase)
  | anchoring (next : ChainBlockSummary H) (candidates : List (Nat × H))
      (phase : TipPhase)
  | fetching (targets : List FetchTarget) (rows : List (ChainViewRow H))
  | finalTip (rows : List (ChainViewRow H))
  | finalCheck (final : ChainBlockSummary H) (rows : List (ChainViewRow H))
deriving DecidableEq

structure ChainViewService where
  entries : List (Nat × ChainViewEntry H) := []
  tip : Option (ChainBlockSummary H) := none
  notice : String := ""
  used : Nat := 0
  pc : ChainViewPc H := .idle
  chains : List H := []
  pages : List (ChainViewPage H) := []

/-- An answer of the reader, or what else can happen to a query. -/
inductive ChainViewAction where
  | query (request : ChainViewRequest)
  | tip (chain : H)
  | summary (chain : H) (confirmations : Option Int)
  | fail (message : String)
  | cached
  | cancel

variable {H}

namespace ChainViewService

def maximumEntries : Nat := 64

section Cache

/-- Drop the entry that was not used for the longest time. -/
def dropOldest (entries : List (Nat × ChainViewEntry H)) : List (Nat × ChainViewEntry H) :=
  match entries.argmin fun e => e.2.used with
  | none => entries
  | some oldest => eraseKey oldest.1 entries

/-- One entry is dropped for each that is too many. -/
def trim (entries : List (Nat × ChainViewEntry H)) : List (Nat × ChainViewEntry H) :=
  dropOldest^[entries.length - maximumEntries] entries

/-- Put an entry at its place in the order of heights. -/
def insertEntry (entry : ChainViewEntry H) (entries : List (Nat × ChainViewEntry H)) :
    List (Nat × ChainViewEntry H) :=
  let below := fun e : Nat × ChainViewEntry H => decide (e.1 < entry.summary.height)
  entries.takeWhile below ++ (entry.summary.height, entry) :: entries.dropWhile below

/-- Cache a block that was read. -/
def capture (s : ChainViewService H) (summary : ChainBlockSummary H) : ChainViewService H :=
  { s with
    used := s.used + 1
    entries := trim (insertEntry { summary, used := s.used + 1 } s.entries) }

/-- The confirmations of a block below a tip. -/
def confirmationsBelow (tip : ChainBlockSummary H) (height : Nat) : Option Int :=
  if tip.height - height < 2 ^ 63 - 1 then some (tip.height - height + 1 : Nat)
  else none

/-- A cached block, with what depends on the tip brought up to date. -/
def refreshed (s : ChainViewService H) (tip : ChainBlockSummary H) (entry : ChainViewEntry H)
    (height : Nat) : ChainViewEntry H :=
  { used := s.used + 1
    summary :=
      { entry.summary with
        confirmations := confirmationsBelow tip height
        nextHash :=
          if height < tip.height then
            (s.entries.lookup (height + 1)).map fun next => next.summary.hash
          else none } }

/-- Use a cached block. -/
def touch (s : ChainViewService H) (height : Nat) :
    ChainViewService H × Option (ChainBlockSummary H) :=
  match s.tip, s.entries.lookup height with
  | some tip, some entry =>
    let entry := s.refreshed tip entry height
    ({ s with
        used := s.used + 1
        entries := s.entries.map fun e =>
          if e.1 = height then (height, entry) else e },
      some entry.summary)
  | _, _ => (s, none)

end Cache

section Page

def selectedHeight (request : ChainViewRequest) (tip : Nat) : Nat :=
  min (request.selectedHeight.getD tip) tip

def firstHeight (request : ChainViewRequest) (tip : Nat) : Nat :=
  let selected := selectedHeight request tip
  min (request.firstHeight.getD
    (if selected ≥ request.limit - 1 then selected - (request.limit - 1) else 0)) tip

def lastHeight (request : ChainViewRequest) (tip : Nat) : Nat :=
  firstHeight request tip + min (request.limit - 1) (tip - firstHeight request tip)

/-- The heights a query fetches: its rows, the selected block and two neighbours. -/
def targets (request : ChainViewRequest) (tip : Nat) : List FetchTarget :=
  let first := firstHeight request tip
  let last := lastHeight request tip
  (range' first (last - first + 1)).map (fun height => ⟨height, true⟩) ++
    [⟨selectedHeight request tip, false⟩, ⟨if first > 0 then first - 1 else first, false⟩,
      ⟨if last < tip then last + 1 else last, false⟩]

/-- Return a page. -/
def finish (s : ChainViewService H) (rows : List (ChainViewRow H)) (error : String) :
    ChainViewService H :=
  { s with
    pc := .idle
    entries := trim s.entries
    pages := s.pages ++ [{ rows, error, chains := s.chains }] }

/-- Return a page without rows because there is no source. -/
def giveUp (s : ChainViewService H) (error : String) : ChainViewService H :=
  { s with
    pc := .idle
    pages := s.pages ++ [{ rows := [], error, chains := s.chains }] }

/-- The target at hand is done. -/
def nextTarget (s : ChainViewService H) (target : FetchTarget) (rest : List FetchTarget)
    (rows : List (ChainViewRow H)) (summary : Option (ChainBlockSummary H))
    (error : String) : ChainViewService H :=
  { s with
    pc := .fetching rest (if target.isRow then rows ++ [{ height := target.height, summary, error }]
      else rows) }

end Page

section Tip

/-- `UpdateTip` is done. -/
def applyTip (s : ChainViewService H) (next : ChainBlockSummary H) : TipPhase → ChainViewService H
  | .opening request =>
    { s with tip := some next, pc := .fetching (targets request next.height) [] }
  | .closing =>
    finish { s with tip := some next } [] "Chain reorganized during read; refresh pending"

/-- Keep the cached blocks up to the anchor. -/
def applyAnchor (s : ChainViewService H) (anchor : Option Nat) (next : ChainBlockSummary H)
    (phase : TipPhase) : ChainViewService H :=
  match anchor with
  | some height =>
    applyTip
      { s with
        entries := s.entries.filter fun e => e.1 ≤ height
        notice := "Reorg: invalidated cached blocks above verified shared " ++
          "height " ++ toString height }
      next phase
  | none =>
    applyTip
      { s with
        entries := []
        notice := "Reorg: invalidated all uncertain cached blocks" }
      next phase

/-- Look for the highest cached block that is on the new chain. -/
def searchAnchor (s : ChainViewService H) (candidates : List (Nat × H))
    (next : ChainBlockSummary H) (phase : TipPhase) : ChainViewService H :=
  match candidates with
  | [] => s.applyAnchor none next phase
  | _ :: _ => { s with pc := .anchoring next candidates phase }

/-- The cached blocks that can be on the new chain, the highest one first. -/
def candidates (s : ChainViewService H) (next : ChainBlockSummary H) : List (Nat × H) :=
  (s.entries.reverse.filter fun e => e.1 ≤ next.height).map fun e => (e.1, e.2.summary.hash)

variable [DecidableEq H]

def updateTip (s : ChainViewService H) (next : ChainBlockSummary H) (phase : TipPhase) :
    ChainViewService H :=
  match s.tip with
  | none => s.applyTip next phase
  | some tip =>
    if tip.hash = next.hash then s.applyTip next phase
    else if tip.height < next.height then { s with pc := .extending next phase }
    else s.searchAnchor (s.candidates next) next phase

end Tip

section Steps

variable [DecidableEq H] (T : BlockTree H)

def summaryOf (block : H) (confirmations : Option Int) : ChainBlockSummary H :=
  { height := T.height block, hash := block, confirmations }

/-- The tip call is answered. -/
def tipStep (s : ChainViewService H) (chain : H) : Option (ChainViewService H) :=
  let s := { s with chains := s.chains ++ [chain] }
  match s.pc with
  | .tip request => some (s.updateTip (summaryOf T chain none) (.opening request))
  | .finalTip rows =>
    match s.tip with
    | none => none
    | some tip =>
      let final := summaryOf T chain none
      if final.hash = tip.hash then some (s.finish rows "")
      else if final.height < tip.height then some (s.updateTip final .closing)
      else some { s with pc := .finalCheck final rows }
  | _ => none

/-- The height a summary call asks for. -/
def awaited (s : ChainViewService H) : Option Nat :=
  match s.pc with
  | .extending _ _ => s.tip.map (·.height)
  | .anchoring _ ((height, _) :: _) _ => some height
  | .fetching (target :: _) _ =>
    if (s.entries.lookup target.height).isSome then none else some target.height
  | .finalCheck _ _ => s.tip.map (·.height)
  | _ => none

/-- The summary call is answered with a block of the source's chain. -/
def answerStep (s : ChainViewService H) (block : ChainBlockSummary H) :
    Option (ChainViewService H) :=
  match s.pc with
  | .extending next phase =>
    if s.tip.map (·.hash) = some block.hash then some (s.applyTip next phase)
    else some (s.searchAnchor (s.candidates next) next phase)
  | .anchoring next ((height, hash) :: rest) phase =>
    if block.hash = hash then some (s.applyAnchor (some height) next phase)
    else some (s.searchAnchor rest next phase)
  | .fetching (target :: rest) rows =>
    if block.height ≠ target.height ∨ block.confirmations.getD 1 < 0 then
      some (s.nextTarget target rest rows none "block is not on source canonical chain")
    else
      let (s, summary) := (s.capture block).touch target.height
      some (s.nextTarget target rest rows summary "")
  | .finalCheck final rows =>
    if s.tip.map (·.hash) = some block.hash then some (s.finish rows "")
    else some (s.updateTip final .closing)
  | _ => none

def summaryStep (s : ChainViewService H) (chain : H) (confirmations : Option Int) :
    Option (ChainViewService H) :=
  match s.awaited with
  | none => none
  | some height =>
    if T.height chain < height then none
    else
      answerStep { s with chains := s.chains ++ [chain] }
        (summaryOf T (T.blockAt chain height) confirmations)

/-- A reader call throws: a query has no source, a row an error, or no page. -/
def failStep (s : ChainViewService H) (message : String) : Option (ChainViewService H) :=
  match s.pc with
  | .tip _ => some (s.giveUp message)
  | .extending _ (.opening _) => some (s.giveUp message)
  | .anchoring _ _ (.opening _) => some (s.giveUp message)
  | .fetching (target :: rest) rows =>
    if s.awaited.isSome then some (s.nextTarget target rest rows none message)
    else none
  | .extending _ .closing => some { s with pc := .idle }
  | .anchoring _ _ .closing => some { s with pc := .idle }
  | .finalTip _ => some { s with pc := .idle }
  | .finalCheck _ _ => some { s with pc := .idle }
  | _ => none

/-- No reader call is needed. -/
def cachedStep (s : ChainViewService H) : Option (ChainViewService H) :=
  match s.pc with
  | .fetching (target :: rest) rows =>
    if s.awaited.isSome then none
    else
      let (s, summary) := s.touch target.height
      some (s.nextTarget target rest rows summary "")
  | .fetching [] rows => some { s with pc := .finalTip rows }
  | _ => none

def step (s : ChainViewService H) : ChainViewAction H → Option (ChainViewService H)
  | .query request =>
    match s.pc with
    | .idle =>
      if request.limit = 0 ∨ request.limit > 32 then some s
      else some { s with pc := .tip request, chains := [] }
    | _ => none
  | .tip chain => s.tipStep T chain
  | .summary chain confirmations => s.summaryStep T chain confirmations
  | .fail message => s.failStep message
  | .cached => s.cachedStep
  | .cancel => some { s with pc := .idle }

end Steps

end ChainViewService

/-- Queries against one source whose chain may switch at any time. -/
def chainViewMachine [DecidableEq H] (T : BlockTree H) :
    Machine (ChainViewService H) (ChainViewAction H) where
  step := ChainViewService.step T

end Model

namespace ChainViewService

section Failing

/-- Two chains over one genesis block. -/
def forkTree : BlockTree (Bool × Nat) where
  height b := b.2
  parent b := (b.1 && decide (1 < b.2), b.2 - 1)
  height_parent := fun _ => rfl

/--
The first query caches blocks of the first chain, the second one is overtaken by a
switch to the other chain, and the last one reads only that chain.
-/
def mixedQueries : List (ChainViewAction (Bool × Nat)) :=
  [.query { firstHeight := some 1, selectedHeight := some 1, limit := 1 },
    .tip (false, 3), .summary (false, 3) none, .cached, .summary (false, 3) none,
    .summary (false, 3) none, .cached, .tip (false, 3),
    .query { firstHeight := some 3, limit := 1 },
    .tip (false, 3), .summary (true, 3) none, .cached, .cached, .cached, .cached,
    .tip (true, 3), .summary (true, 3) none, .summary (true, 3) none,
    .query { firstHeight := some 1, limit := 2 },
    .tip (true, 3), .cached, .cached, .cached, .cached, .cached, .cached,
    .tip (true, 3)]

/-- A page read from one chain only shows blocks of another one. -/
theorem mixed_cache_is_served :
    ∃ t page,
      (chainViewMachine forkTree).run {} mixedQueries = some t ∧
      page ∈ t.pages ∧
      page.chains = [(true, 3), (true, 3)] ∧
      (∃ row summary, row ∈ page.rows ∧ row.summary = some summary ∧
        row.height = 1 ∧ summary.hash = (false, 1)) ∧
      forkTree.blockAt (true, 3) 1 = (true, 1) := by
  refine ⟨_, _, rfl, by right; right; left, rfl, ?_, rfl⟩
  exact ⟨_, _, by left, rfl, rfl, rfl⟩

end Failing

section Canonical

variable {H : Type} {T : BlockTree H} {entries : List (Nat × ChainViewEntry H)}
  {e : Nat × ChainViewEntry H} {s t : ChainViewService H} {tip : ChainBlockSummary H}
  {rows : List (ChainViewRow H)} {next : ChainBlockSummary H} {phase : TipPhase}

/-- A block that is read belongs to the chain of the tip that was read last. -/
def coherent [DecidableEq H] (T : BlockTree H) (s : ChainViewService H) : ChainViewAction H → Bool
  | .summary chain _ =>
    match s.awaited, s.pc with
    | some height, .extending next _ => T.blockAt chain height = T.blockAt next.hash height
    | some height, .anchoring next _ _ => T.blockAt chain height = T.blockAt next.hash height
    | some height, .fetching _ _ =>
      s.tip.all fun tip => T.blockAt chain height = T.blockAt tip.hash height
    | _, _ => true
  | _ => true

/-- The block with this hash is at this height of the chain of a tip. -/
def On (T : BlockTree H) (tip : ChainBlockSummary H) (height : Nat) (hash : H) : Prop :=
  height ≤ tip.height ∧ hash = T.blockAt tip.hash height

/-- All cached blocks are on the chain of the cached tip. -/
def EntriesOn (T : BlockTree H) (tip : Option (ChainBlockSummary H))
    (entries : List (Nat × ChainViewEntry H)) : Prop :=
  ∀ e, e ∈ entries → ∃ t, tip = some t ∧ On T t e.1 e.2.summary.hash

/-- All rows that carry a block are on the chain of a tip. -/
def RowsOn (T : BlockTree H) (tip : ChainBlockSummary H) (rows : List (ChainViewRow H)) : Prop :=
  ∀ row, row ∈ rows → ∀ summary, row.summary = some summary → On T tip row.height summary.hash

/-- A page that was read from one chain only shows blocks of this chain. -/
def PageCanonical (T : BlockTree H) (page : ChainViewPage H) : Prop :=
  ∀ chain, (∀ c, c ∈ page.chains → c = chain) →
    ∀ row, row ∈ page.rows → ∀ summary, row.summary = some summary → row.height ≤ T.height chain ∧
        summary.hash = T.blockAt chain row.height

/-- The summary is one that the source can have given. -/
def Genuine (T : BlockTree H) (summary : ChainBlockSummary H) : Prop :=
  summary.height = T.height summary.hash

/-- What holds while a query waits for a reader call. -/
def PcOn (T : BlockTree H) (s : ChainViewService H) : ChainViewPc H → Prop
  | .extending next _ =>
    Genuine T next ∧ next.hash ∈ s.chains ∧ ∃ tip, s.tip = some tip ∧ tip.height < next.height
  | .anchoring next candidates _ =>
    Genuine T next ∧ next.hash ∈ s.chains ∧
      ∀ c, c ∈ candidates → c.1 ≤ next.height ∧ ∃ tip, s.tip = some tip ∧ On T tip c.1 c.2
  | .fetching targets rows =>
    ∃ tip, s.tip = some tip ∧ tip.hash ∈ s.chains ∧
      (∀ target, target ∈ targets → target.height ≤ tip.height) ∧
      RowsOn T tip rows
  | .finalTip rows => ∃ tip, s.tip = some tip ∧ tip.hash ∈ s.chains ∧ RowsOn T tip rows
  | .finalCheck final rows =>
    Genuine T final ∧ final.hash ∈ s.chains ∧
      ∃ tip, s.tip = some tip ∧ tip.hash ∈ s.chains ∧ RowsOn T tip rows
  | _ => True

/-- What every state of a coherent run satisfies. -/
structure Inv (T : BlockTree H) (s : ChainViewService H) : Prop where
  tip : ∀ tip, s.tip = some tip → Genuine T tip
  entries : EntriesOn T s.tip s.entries
  pc : s.PcOn T s.pc
  pages : ∀ page, page ∈ s.pages → PageCanonical T page

/-- What the cache and the pages keep, wherever a query is. -/
structure Served (T : BlockTree H) (s : ChainViewService H) : Prop where
  tip : ∀ tip, s.tip = some tip → Genuine T tip
  entries : EntriesOn T s.tip s.entries
  pages : ∀ page, page ∈ s.pages → PageCanonical T page

theorem mem_of_mem_trim (h : e ∈ trim entries) : e ∈ entries := by
  have hdrop : ∀ (n : Nat) (xs : List (Nat × ChainViewEntry H)),
      e ∈ dropOldest^[n] xs → e ∈ xs := by
    intro n
    induction n with
    | zero => exact fun _ hxs => hxs
    | succ n ih =>
      intro xs hxs
      rw [Function.iterate_succ_apply] at hxs
      have hdropped := ih _ hxs
      unfold dropOldest at hdropped
      split at hdropped
      · exact hdropped
      · exact mem_of_mem_filter hdropped
  exact hdrop _ _ h

theorem mem_insertEntry {entry : ChainViewEntry H} (h : e ∈ insertEntry entry entries) :
    e = (entry.summary.height, entry) ∨ e ∈ entries := by
  simp only [insertEntry, mem_append, mem_cons] at h
  rcases h with hbelow | hnew | habove
  · exact .inr ((List.takeWhile_prefix _).subset hbelow)
  · exact .inl hnew
  · exact .inr ((dropWhile_suffix _).subset habove)

theorem Inv.abort (h : s.Inv T) : Inv T { s with pc := .idle } := { h with pc := trivial }

theorem giveUp_inv (h : s.Inv T) (error : String) : Inv T (s.giveUp error) := by
  refine { h with pc := trivial, pages := ?_ }
  intro page hpage
  rcases mem_append.mp hpage with hpage | hpage
  · exact h.pages page hpage
  · rw [mem_singleton] at hpage
    subst hpage
    intro chain _ row hrow
    simp at hrow

theorem Inv.served (h : s.Inv T) : s.Served T := { h with }

/-- A page whose rows are on the chain of a tip that was read for it. -/
theorem finish_inv {error : String} (h : s.Served T) (hgenuine : Genuine T tip)
    (hread : tip.hash ∈ s.chains) (hrows : RowsOn T tip rows) : Inv T (s.finish rows error) := by
  refine ⟨h.tip, fun e he => h.entries e (mem_of_mem_trim he), trivial, ?_⟩
  intro page hpage
  rcases mem_append.mp hpage with hpage | hpage
  · exact h.pages page hpage
  · rw [mem_singleton] at hpage
    subst hpage
    intro chain hchain row hrow summary hsummary
    have hsame := hchain tip.hash hread
    obtain ⟨hle, hhash⟩ := hrows row hrow summary hsummary
    rw [hgenuine, hsame] at hle
    rw [hsame] at hhash
    exact ⟨hle, hhash⟩

theorem targets_le (request : ChainViewRequest) (tip : Nat) :
    ∀ target ∈ targets request tip, target.height ≤ tip := by
  have hselected : selectedHeight request tip ≤ tip := Nat.min_le_right _ _
  have hfirst : firstHeight request tip ≤ tip := Nat.min_le_right _ _
  have hlast : lastHeight request tip ≤ tip := by
    unfold lastHeight
    omega
  intro target htarget
  simp only [targets, mem_append, mem_map, mem_range'_1, mem_cons, not_mem_nil, or_false] at htarget
  rcases htarget with ⟨height, hheight, rfl⟩ | rfl | rfl | rfl
  · simp only
    omega
  · exact hselected
  all_goals
    simp only
    split <;> omega

/-- The tip is set after the cached blocks were checked against it. -/
theorem applyTip_inv (hpages : ∀ page ∈ s.pages, PageCanonical T page)
    (hgenuine : Genuine T next) (hread : next.hash ∈ s.chains)
    (hentries : EntriesOn T (some next) s.entries) : Inv T (s.applyTip next phase) := by
  have htip : ∀ tip, some next = some tip → Genuine T tip := by
    rintro tip ⟨⟩
    exact hgenuine
  cases phase with
  | opening request =>
    refine ⟨htip, hentries, ⟨next, rfl, hread, targets_le request _, ?_⟩, hpages⟩
    intro row hrow
    simp at hrow
  | closing =>
    refine finish_inv ⟨htip, hentries, hpages⟩ hgenuine hread ?_
    intro row hrow
    simp at hrow

/-- A block below a height at which two chains agree is on both of them. -/
theorem On.transfer {height h : Nat} {hash : H} (hon : On T tip height hash) (htip : Genuine T tip)
    (hnext : Genuine T next) (hbelow : height ≤ h) (hle : h ≤ tip.height) (hle' : h ≤ next.height)
    (hagree : T.blockAt tip.hash h = T.blockAt next.hash h) : On T next height hash := by
  refine ⟨by omega, hon.2.trans ?_⟩
  exact BlockTree.blockAt_eq_of_agree hbelow (htip ▸ hle) (hnext ▸ hle') hagree

/-- Up to a block that the old and the new chain share the cache is kept. -/
theorem applyAnchor_inv {anchor : Option Nat} (hs : s.Served T)
    (hnext : Genuine T next) (hread : next.hash ∈ s.chains)
    (hanchor : ∀ h, anchor = some h → h ≤ next.height ∧
      ∃ tip, s.tip = some tip ∧ On T tip h (T.blockAt next.hash h)) :
    Inv T (s.applyAnchor anchor next phase) := by
  cases anchor with
  | none =>
    refine applyTip_inv hs.pages hnext hread ?_
    intro e he
    simp at he
  | some h =>
    obtain ⟨hle', tip, htip, hle, hagree⟩ := hanchor h rfl
    refine applyTip_inv hs.pages hnext hread ?_
    intro e he
    obtain ⟨hmem, hbelow⟩ := mem_filter.mp he
    obtain ⟨tip', htip', hon⟩ := hs.entries e hmem
    rw [htip] at htip'
    cases htip'
    exact ⟨next, rfl, hon.transfer (hs.tip tip htip) hnext
      (of_decide_eq_true hbelow) hle hle' hagree.symm⟩

theorem searchAnchor_inv {candidates : List (Nat × H)}
    (hs : s.Served T) (hnext : Genuine T next) (hread : next.hash ∈ s.chains)
    (hcandidates : ∀ c ∈ candidates, c.1 ≤ next.height ∧
      ∃ tip, s.tip = some tip ∧ On T tip c.1 c.2) :
    Inv T (s.searchAnchor candidates next phase) := by
  cases candidates with
  | nil =>
    simp only [searchAnchor]
    refine applyAnchor_inv hs hnext hread ?_
    rintro h ⟨⟩
  | cons c rest => exact { hs with pc := ⟨hnext, hread, hcandidates⟩ }

theorem candidates_on (hentries : EntriesOn T s.tip s.entries) :
    ∀ c ∈ s.candidates next, c.1 ≤ next.height ∧
      ∃ tip, s.tip = some tip ∧ On T tip c.1 c.2 := by
  intro c hc
  obtain ⟨e, he, rfl⟩ := mem_map.mp hc
  obtain ⟨hmem, hle⟩ := mem_filter.mp he
  exact ⟨of_decide_eq_true hle, hentries e (mem_reverse.mp hmem)⟩

theorem updateTip_inv [DecidableEq H] (hs : s.Served T) (hnext : Genuine T next)
    (hread : next.hash ∈ s.chains) : Inv T (s.updateTip next phase) := by
  unfold updateTip
  cases htip : s.tip with
  | none =>
    refine applyTip_inv hs.pages hnext hread ?_
    intro e he
    obtain ⟨tip, hsome, _⟩ := hs.entries e he
    rw [htip] at hsome
    cases hsome
  | some tip =>
    simp only
    split
    · rename_i hsame
      refine applyTip_inv hs.pages hnext hread ?_
      intro e he
      obtain ⟨tip', htip', hle, hhash⟩ := hs.entries e he
      rw [htip] at htip'
      cases htip'
      refine ⟨next, rfl, ?_, by rw [← hsame]; exact hhash⟩
      rw [hnext, ← hsame, ← hs.tip tip htip]
      exact hle
    · split
      · rename_i hlt
        obtain ⟨htips, hentries, hpages⟩ := hs
        rw [htip] at htips hentries
        exact ⟨htips, hentries, ⟨hnext, hread, tip, rfl, hlt⟩, hpages⟩
      · exact searchAnchor_inv hs hnext hread (candidates_on hs.entries)

theorem capture_entries {tip summary : ChainBlockSummary H}
    (htip : s.tip = some tip) (hon : On T tip summary.height summary.hash)
    (hentries : EntriesOn T s.tip s.entries) : EntriesOn T s.tip (s.capture summary).entries := by
  intro e he
  rcases mem_insertEntry (mem_of_mem_trim he) with rfl | hmem
  · exact ⟨tip, htip, hon⟩
  · exact hentries e hmem

/-- Using a cached block changes no hash, and shows a block of the tip's chain. -/
theorem touch_spec (height : Nat) (hentries : EntriesOn T s.tip s.entries) :
    ∃ entries used,
      (s.touch height).1 = { s with entries, used } ∧
      EntriesOn T s.tip entries ∧
      ∀ summary, (s.touch height).2 = some summary →
        ∃ tip, s.tip = some tip ∧ On T tip height summary.hash := by
  unfold touch
  split
  · rename_i tip entry htip hlookup
    obtain ⟨tip', htip', hon⟩ := hentries _ (mem_of_lookup hlookup)
    refine ⟨_, _, rfl, ?_, ?_⟩
    · intro e he
      obtain ⟨e', he', rfl⟩ := mem_map.mp he
      split
      · exact ⟨tip', htip', hon⟩
      · exact hentries e' he'
    · rintro summary ⟨⟩
      exact ⟨tip', htip', hon⟩
  · exact ⟨s.entries, s.used, rfl, hentries, by rintro summary ⟨⟩⟩

/-- A row is added, or not. -/
theorem nextTarget_inv {target : FetchTarget} {rest : List FetchTarget}
    {summary : Option (ChainBlockSummary H)} {error : String}
    (hs : s.Served T) (htip : s.tip = some tip) (hread : tip.hash ∈ s.chains)
    (htargets : ∀ target' ∈ target :: rest, target'.height ≤ tip.height) (hrows : RowsOn T tip rows)
    (hsummary : ∀ block, summary = some block → On T tip target.height block.hash) :
    Inv T (s.nextTarget target rest rows summary error) := by
  refine { hs with pc := ⟨tip, htip, hread, ?_, ?_⟩ }
  · intro target' htarget'
    exact htargets target' (mem_cons_of_mem target htarget')
  · split
    · intro row hrow block hblock
      rcases mem_append.mp hrow with hrow | hrow
      · exact hrows row hrow block hblock
      · rw [mem_singleton] at hrow
        subst hrow
        exact hsummary block hblock
    · exact hrows

/-- A reader call is logged before its answer is used. -/
theorem PcOn.log {pc : ChainViewPc H} (chain : H) (h : s.PcOn T pc) :
    PcOn T { s with chains := s.chains ++ [chain] } pc := by
  have hlog : ∀ c ∈ s.chains, c ∈ s.chains ++ [chain] := fun c hc => mem_append_left _ hc
  cases pc with
  | extending | anchoring => exact ⟨h.1, hlog _ h.2.1, h.2.2⟩
  | fetching | finalTip =>
    obtain ⟨tip, htip, hread, hrest⟩ := h
    exact ⟨tip, htip, hlog _ hread, hrest⟩
  | finalCheck final rows =>
    obtain ⟨hfinal, hread, tip, htip, hread', hrest⟩ := h
    exact ⟨hfinal, hlog _ hread, tip, htip, hlog _ hread', hrest⟩
  | _ => trivial

theorem Inv.log (chain : H) (h : s.Inv T) : Inv T { s with chains := s.chains ++ [chain] } :=
  { h with pc := h.pc.log chain }

end Canonical

section Runs

variable {H : Type} [DecidableEq H] {T : BlockTree H} {s t : ChainViewService H}

theorem tipStep_inv {chain : H} (h : s.Inv T) (hstep : s.tipStep T chain = some t) : t.Inv T := by
  have hlogged := h.log chain
  have hpc := hlogged.pc
  have hread : chain ∈ s.chains ++ [chain] := by
    simp
  simp only [tipStep] at hstep
  split at hstep
  · cases hstep
    exact updateTip_inv hlogged.served rfl hread
  · rename_i rows heq
    simp only [heq, PcOn] at hpc
    obtain ⟨tip, htip, hread', hrows⟩ := hpc
    split at hstep
    · cases hstep
    rename_i tip' htip'
    rw [htip] at htip'
    cases htip'
    split at hstep
    · cases hstep
      exact finish_inv hlogged.served (h.tip tip htip) hread' hrows
    split at hstep
    · cases hstep
      exact updateTip_inv hlogged.served rfl hread
    · cases hstep
      exact { hlogged with pc := ⟨rfl, hread, tip, htip, hread', hrows⟩ }
  · cases hstep

theorem answerStep_inv {block : ChainBlockSummary H} (height : Nat) (h : s.Inv T)
    (hawaited : s.awaited = some height) (hheight : block.height = height)
    (hcoherent : match s.pc with
      | .extending next _ => block.hash = T.blockAt next.hash height
      | .anchoring next _ _ => block.hash = T.blockAt next.hash height
      | .fetching _ _ => ∀ tip, s.tip = some tip → block.hash = T.blockAt tip.hash height
      | _ => True)
    (hstep : s.answerStep block = some t) : t.Inv T := by
  have hpc := h.pc
  cases hcase : s.pc with
  | extending next phase =>
    simp only [hcase, PcOn] at hpc hcoherent
    obtain ⟨hnext, hread, tip, htip, hlt⟩ := hpc
    simp only [awaited, hcase, htip, Option.map_some, Option.some.injEq] at hawaited
    simp only [answerStep, hcase, htip, Option.map_some, Option.some.injEq] at hstep
    split at hstep
    · rename_i hsame
      cases hstep
      refine applyTip_inv h.pages hnext hread ?_
      intro e he
      obtain ⟨tip', htip', hon⟩ := h.entries e he
      rw [htip] at htip'
      cases htip'
      refine ⟨next, rfl, hon.transfer (h.tip tip htip) hnext hon.1
        (Nat.le_refl _) (Nat.le_of_lt hlt) ?_⟩
      rw [hawaited, ← hcoherent, ← hsame, ← hawaited, h.tip tip htip, T.blockAt_height]
    · cases hstep
      exact searchAnchor_inv h.served hnext hread (candidates_on h.entries)
  | anchoring next candidates phase =>
    simp only [hcase, PcOn] at hpc hcoherent
    obtain ⟨hnext, hread, hcandidates⟩ := hpc
    cases candidates with
    | nil => simp [answerStep, hcase] at hstep
    | cons candidate rest =>
      obtain ⟨anchor, hash⟩ := candidate
      simp only [awaited, hcase, Option.some.injEq] at hawaited
      simp only [answerStep, hcase] at hstep
      split at hstep
      · rename_i hsame
        cases hstep
        refine applyAnchor_inv h.served hnext hread ?_
        rintro _ ⟨⟩
        obtain ⟨hle, tip, htip, hon⟩ := hcandidates (anchor, hash) mem_cons_self
        refine ⟨hle, tip, htip, ?_⟩
        rw [hawaited, ← hcoherent, hsame, ← hawaited]
        exact hon
      · cases hstep
        refine searchAnchor_inv h.served hnext hread ?_
        intro c hc
        exact hcandidates c (mem_cons_of_mem _ hc)
  | fetching targets rows =>
    simp only [hcase, PcOn] at hpc hcoherent
    obtain ⟨tip, htip, hread, htargets, hrows⟩ := hpc
    cases targets with
    | nil => simp [answerStep, hcase] at hstep
    | cons target rest =>
      simp only [awaited, hcase] at hawaited
      split at hawaited <;> cases hawaited
      simp only [answerStep, hcase] at hstep
      split at hstep
      · cases hstep
        refine nextTarget_inv h.served htip hread htargets hrows ?_
        rintro block' ⟨⟩
      cases hstep
      have hon : On T tip block.height block.hash := by
        rw [hheight]
        exact ⟨htargets target mem_cons_self, hcoherent tip htip⟩
      have hcaptured := capture_entries htip hon h.entries
      obtain ⟨entries, used, htouch, hentries, hsummary⟩ :=
        touch_spec (s := s.capture block) target.height hcaptured
      rw [htouch]
      refine nextTarget_inv ⟨h.tip, hentries, h.pages⟩ htip hread htargets hrows ?_
      intro block' hblock'
      obtain ⟨tip', htip', hon'⟩ := hsummary block' hblock'
      rw [show (s.capture block).tip = s.tip from rfl, htip] at htip'
      cases htip'
      exact hon'
  | finalCheck final rows =>
    simp only [hcase, PcOn] at hpc
    obtain ⟨hfinal, hreadFinal, tip, htip, hread, hrows⟩ := hpc
    simp only [answerStep, hcase] at hstep
    split at hstep
    · cases hstep
      exact finish_inv h.served (h.tip tip htip) hread hrows
    · cases hstep
      exact updateTip_inv h.served hfinal hreadFinal
  | _ => simp [answerStep, hcase] at hstep

theorem summaryStep_inv {chain : H} {confirmations : Option Int} (h : s.Inv T)
    (hcoherent : s.coherent T (.summary chain confirmations) = true)
    (hstep : s.summaryStep T chain confirmations = some t) : t.Inv T := by
  simp only [summaryStep] at hstep
  split at hstep
  · cases hstep
  rename_i height hawaited
  split at hstep
  · cases hstep
  rename_i hhigh
  have hblock : T.height (T.blockAt chain height) = height := BlockTree.height_blockAt (by omega)
  refine answerStep_inv height (h.log chain) ?_ hblock ?_ hstep
  · exact hawaited
  · simp only [coherent, hawaited] at hcoherent
    cases hcase : s.pc with
    | extending | anchoring => simpa [hcase, summaryOf] using hcoherent
    | fetching targets rows =>
      intro tip htip
      simp only at htip
      simpa [hcase, htip, summaryOf] using hcoherent
    | _ => trivial

omit [DecidableEq H] in
theorem failStep_inv {message : String} (h : s.Inv T) (hstep : s.failStep message = some t) :
    t.Inv T := by
  have hpc := h.pc
  simp only [failStep] at hstep
  split at hstep
  iterate 3
    · cases hstep
      exact giveUp_inv h message
  · rename_i target rest rows hcase
    simp only [hcase, PcOn] at hpc
    obtain ⟨tip, htip, hread, htargets, hrows⟩ := hpc
    split at hstep <;> cases hstep
    refine nextTarget_inv h.served htip hread htargets hrows ?_
    rintro block ⟨⟩
  iterate 4
    · cases hstep
      exact h.abort
  · cases hstep

omit [DecidableEq H] in
theorem cachedStep_inv (h : s.Inv T) (hstep : s.cachedStep = some t) : t.Inv T := by
  have hpc := h.pc
  simp only [cachedStep] at hstep
  split at hstep
  · rename_i target rest rows hcase
    simp only [hcase, PcOn] at hpc
    obtain ⟨tip, htip, hread, htargets, hrows⟩ := hpc
    split at hstep <;> cases hstep
    obtain ⟨entries, used, htouch, hentries, hsummary⟩ := touch_spec target.height h.entries
    rw [htouch]
    refine nextTarget_inv ⟨h.tip, hentries, h.pages⟩ htip hread htargets hrows ?_
    intro block hblock
    obtain ⟨tip', htip', hon⟩ := hsummary block hblock
    rw [htip] at htip'
    cases htip'
    exact hon
  · rename_i rows hcase
    simp only [hcase, PcOn] at hpc
    obtain ⟨tip, htip, hread, _, hrows⟩ := hpc
    cases hstep
    exact { h with pc := ⟨tip, htip, hread, hrows⟩ }
  · cases hstep

theorem step_inv {a : ChainViewAction H} (h : s.Inv T) (hcoherent : s.coherent T a = true)
    (hstep : s.step T a = some t) : t.Inv T := by
  cases a with
  | query request =>
    simp only [step] at hstep
    split at hstep
    · split at hstep
      · cases hstep
        exact h
      · cases hstep
        exact { h with pc := trivial }
    · cases hstep
  | tip chain => exact tipStep_inv h hstep
  | summary chain confirmations => exact summaryStep_inv h hcoherent hstep
  | fail message => exact failStep_inv h hstep
  | cached => exact cachedStep_inv h hstep
  | cancel =>
    cases hstep
    exact h.abort

omit [DecidableEq H] in
theorem start_inv : Inv T ({} : ChainViewService H) := by
  refine ⟨nofun, ?_, trivial, ?_⟩
  · intro e he
    simp at he
  · intro page hpage
    simp at hpage

/--
Starting from an empty cache, if every block that is read belongs to the chain of
the tip that the query has read last, then every page that was read from one chain
shows on each row the block of this chain.
-/
theorem rows_are_canonical {actions : List (ChainViewAction H)}
    (hmeets : (chainViewMachine T).Meets (fun s a => s.coherent T a = true) {}
      actions)
    (hrun : (chainViewMachine T).run {} actions = some t) :
    ∀ page, page ∈ t.pages →
      ∀ chain, (∀ c, c ∈ page.chains → c = chain) →
        ∀ row, row ∈ page.rows → ∀ summary, row.summary = some summary →
          row.height ≤ T.height chain ∧
            summary.hash = T.blockAt chain row.height := by
  have h : t.Inv T := (chainViewMachine T).meets_preserves
    (fun s a u hstep hcoherent hs => step_inv hs hcoherent hstep) hmeets hrun
    start_inv
  exact h.pages

/-- The chain is reorganised between two queries. -/
def separateQueries : List (ChainViewAction (Bool × Nat)) :=
  [.query { firstHeight := some 1, selectedHeight := some 1, limit := 1 },
    .tip (false, 3), .summary (false, 3) none, .cached, .summary (false, 3) none,
    .summary (false, 3) none, .cached, .tip (false, 3),
    .query { firstHeight := some 1, limit := 2 },
    .tip (true, 3), .summary (true, 3) none, .summary (true, 3) none,
    .summary (true, 3) none, .summary (true, 3) none, .summary (true, 3) none,
    .summary (true, 3) none, .cached, .cached, .cached, .tip (true, 3)]

theorem separate_queries_are_canonical :
    ∃ t page row,
      (chainViewMachine forkTree).run {} separateQueries = some t ∧
      page ∈ t.pages ∧ row ∈ page.rows ∧ row.height = 1 ∧
      ∃ summary, row.summary = some summary ∧
        summary.hash = forkTree.blockAt (true, 3) 1 := by
  have h := @rows_are_canonical _ _ forkTree _ separateQueries (by decide) rfl
  refine ⟨_, _, _, rfl, by right; left, by left, rfl, _, rfl, ?_⟩
  exact (h _ (by right; left) (true, 3) (by decide) _ (by left) _ rfl).2

end Runs

end ChainViewService

end Bbp
