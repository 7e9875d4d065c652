import Bbp.Library.Intervals

/-!
# Links of two addresses out of a pool

Every node of an isolated network gets a link of two addresses, a slot of the pool.  A
slot is taken if a route of the kernel reaches into it, if one of its addresses is
assigned, or if the plan has it already.  What is taken is a list of address ranges; it is
rounded to slots, sorted and merged, and a plan grows by going through the gaps from some
slot on, and then from the first slot to that one.

`expansion_is_exact` says that a plan can grow to a size if and only if there are enough
free slots, and that it then has exactly that many links, the old ones first.
-/

namespace Bbp

open Library Library.Intervals List

section Plans

/-- An address and the number of its bits that name the network. -/
structure Cidr where
  address : Fin (2 ^ 32)
  prefixLength : Nat

structure RouteInfo where
  destination : Fin (2 ^ 32)
  prefixLen : Nat

structure AddressInfo where
  address : Fin (2 ^ 32)

inductive AddressPlanError where
  | noLinks
  | notAligned
  | shrinks
  | exhausted (requested available : Nat)
  | exceedsPool
  | invalidLink
  | slotOutOfRange
  | slotTaken (slot : Nat)
deriving DecidableEq

def nodePrefixLength : Nat := 31

def addressesPerNode : Nat := 2

def addressCount (prefixLength : Nat) : Nat := 2 ^ (32 - prefixLength)

/-- The first address of the network. -/
def Cidr.network (cidr : Cidr) : Nat :=
  cidr.address.val / addressCount cidr.prefixLength * addressCount cidr.prefixLength

structure SimulationNetworkAddressPlan where
  poolBase : Nat
  poolPrefixLength : Nat
  linkBases : List Nat := []

namespace SimulationNetworkAddressPlan

def capacity (plan : SimulationNetworkAddressPlan) : Nat := plan.linkBases.length

def slotCount (plan : SimulationNetworkAddressPlan) : Nat :=
  addressCount plan.poolPrefixLength / addressesPerNode

def poolEnd (plan : SimulationNetworkAddressPlan) : Nat :=
  plan.poolBase + addressCount plan.poolPrefixLength

/-- The first address of a slot. -/
def linkBase (plan : SimulationNetworkAddressPlan) (slot : Nat) : Nat :=
  (plan.poolBase + slot * addressesPerNode) % 2 ^ 32

end SimulationNetworkAddressPlan

end Plans

section Blocked

/-- An address range, rounded to the slots of the pool that it reaches into. -/
def blockedRange (poolFirst poolEnd : Nat) (range : Interval) : Option Interval :=
  let first := max range.1 poolFirst
  let stop := min range.2 poolEnd
  if first < stop then
    some ((first - poolFirst) / addressesPerNode,
      (stop - poolFirst + addressesPerNode - 1) / addressesPerNode)
  else none

/-- The addresses of a route; a default route reserves none. -/
def RouteInfo.range (route : RouteInfo) : Option Interval :=
  if route.prefixLen = 0 ∨ route.prefixLen > 32 then none
  else
    let size := addressCount route.prefixLen
    let first := route.destination.val / size * size
    some (first, first + size)

def reservedRanges (routes : List RouteInfo) (addresses : List AddressInfo)
    (reserved : List Nat) : List Interval :=
  routes.filterMap RouteInfo.range ++ addresses.map (fun a => (a.address.val, a.address.val + 1)) ++
    reserved.map (fun first => (first, first + addressesPerNode))

/-- The slots that are taken, as separated intervals. -/
def blockedLinks (plan : SimulationNetworkAddressPlan) (routes : List RouteInfo)
    (addresses : List AddressInfo) (reserved : List Nat) : List Interval :=
  mergeIntervals [] (((reservedRanges routes addresses reserved).filterMap
      (blockedRange plan.poolBase plan.poolEnd)).insertionSort intervalLe)

/-- The last interval that begins at the slot or before it has the slot. -/
def isBlocked (slot : Nat) (blocked : List Interval) : Bool :=
  match (blocked.takeWhile fun i => i.1 ≤ slot).getLast? with
  | none => false
  | some i => slot < i.2

end Blocked

namespace SimulationNetworkAddressPlan

section Growing

variable (plan : SimulationNetworkAddressPlan) (newCapacity : Nat)

/-- Slots in a row become links, until there are enough. -/
def pushSlots : Nat → Nat → List Nat → List Nat × Nat
  | 0, first, links => (links, first)
  | count + 1, first, links =>
    if links.length < newCapacity then pushSlots count (first + 1) (links ++ [plan.linkBase first])
    else (links, first)

/-- Go through the intervals and make links of the slots between them. -/
def scanLinks (stop : Nat) : List Interval → Nat → List Nat → List Nat
  | [], first, links => (plan.pushSlots newCapacity (stop - first) first links).1
  | i :: rest, first, links =>
    if first < stop ∧ links.length < newCapacity then
      if i.1 ≤ first then scanLinks stop rest i.2 links
      else
        let (links, first) := plan.pushSlots newCapacity (min stop i.1 - first) first links
        if first < stop ∧ links.length < newCapacity then scanLinks stop rest i.2 links
        else links
    else links

def appendAvailable (blocked : List Interval) (first stop : Nat) (links : List Nat) : List Nat :=
  plan.scanLinks newCapacity stop (blocked.dropWhile fun i => i.2 ≤ first) first links

def expandedFrom (routes : List RouteInfo) (addresses : List AddressInfo)
    (firstSlot : Nat) : Except AddressPlanError SimulationNetworkAddressPlan :=
  if newCapacity < plan.capacity then .error .shrinks
  else if newCapacity = plan.capacity then .ok plan
  else
    let blocked := blockedLinks plan routes addresses plan.linkBases
    let available := blocked.foldl (fun available i => available - (i.2 - i.1)) plan.slotCount
    let requested := newCapacity - plan.capacity
    if requested > available then .error (.exhausted requested available)
    else
      let links := plan.appendAvailable newCapacity blocked firstSlot plan.slotCount plan.linkBases
      let links := plan.appendAvailable newCapacity blocked 0 firstSlot links
      .ok { plan with linkBases := links }

/-- A plan goes on after its last link. -/
def expanded (routes : List RouteInfo) (addresses : List AddressInfo) :
    Except AddressPlanError SimulationNetworkAddressPlan :=
  let firstSlot :=
    match plan.linkBases.getLast? with
    | none => 0
    | some last => ((last - plan.poolBase) / addressesPerNode + 1) % plan.slotCount
  plan.expandedFrom newCapacity routes addresses firstSlot

end Growing

section Making

def stableRunHash (runId : String) : Nat :=
  (runId.toList.flatMap String.utf8EncodeChar).foldl
    (fun hash character => (hash ^^^ character.toNat) * 16777619 % 2 ^ 32) 2166136261

def parsePool (pool : Cidr) : Except AddressPlanError SimulationNetworkAddressPlan :=
  if pool.prefixLength > nodePrefixLength then .error .noLinks
  else .ok { poolBase := pool.network, poolPrefixLength := pool.prefixLength }

def allocate (runId : String) (nodeCount : Nat) (routes : List RouteInfo)
    (addresses : List AddressInfo) (pool : Cidr) :
    Except AddressPlanError SimulationNetworkAddressPlan :=
  match parsePool pool with
  | .error e => .error e
  | .ok empty =>
    empty.expandedFrom nodeCount routes addresses (stableRunHash runId % empty.slotCount)

def fromCidr (pool : Cidr) (nodeCount : Nat) :
    Except AddressPlanError SimulationNetworkAddressPlan :=
  match parsePool pool with
  | .error e => .error e
  | .ok empty => empty.expandedFrom nodeCount [] [] 0

/-- The links of a plan that was written down, one after the other. -/
def readLinks (plan : SimulationNetworkAddressPlan) :
    List Nat → List Cidr → Except AddressPlanError (List Nat)
  | links, [] => .ok links
  | links, link :: rest =>
    if link.address.val ≠ link.network then .error .notAligned
    else if link.prefixLength ≠ nodePrefixLength ∨ link.network < plan.poolBase ∨
        link.network + addressesPerNode > plan.poolEnd ∨ link.network ∈ links then
      .error .invalidLink
    else readLinks plan (links ++ [link.network]) rest

def fromSerialized (pool : Cidr) (links : List Cidr) :
    Except AddressPlanError SimulationNetworkAddressPlan :=
  match fromCidr pool 0 with
  | .error e => .error e
  | .ok plan =>
    if links.length > plan.slotCount then .error .exceedsPool
    else
      match plan.readLinks [] links with
      | .error e => .error e
      | .ok linkBases => .ok { plan with linkBases }

/-- None of the slots of the nodes is taken by a route or an address. -/
def requireNodeSlotsAvailable (plan : SimulationNetworkAddressPlan)
    (routes : List RouteInfo) (addresses : List AddressInfo) :
    List Nat → Except AddressPlanError Unit
  | [] => .ok ()
  | slot :: rest =>
    match plan.linkBases[slot]? with
    | none => .error .slotOutOfRange
    | some base =>
      if isBlocked ((base - plan.poolBase) / addressesPerNode)
          (blockedLinks plan routes addresses []) then
        .error (.slotTaken slot)
      else requireNodeSlotsAvailable plan routes addresses rest

end Making

section Scanning

variable {plan : SimulationNetworkAddressPlan} {newCapacity stop : Nat}

theorem pushSlots_eq (count first : Nat) (links : List Nat) :
    plan.pushSlots newCapacity count first links =
      (links ++ ((range' first count).take (newCapacity - links.length)).map
          plan.linkBase,
        first + min count (newCapacity - links.length)) := by
  induction count generalizing first links with
  | zero => simp [pushSlots]
  | succ count ih =>
    unfold pushSlots
    split
    · rename_i hroom
      obtain ⟨k, hk⟩ : ∃ k, newCapacity - links.length = k + 1 :=
        ⟨newCapacity - links.length - 1, by omega⟩
      have hleft : newCapacity - (links ++ [plan.linkBase first]).length = k := by
        rw [length_append, length_singleton]
        omega
      rw [ih, hleft, hk, range'_succ, take_succ_cons, map_cons, append_assoc, singleton_append]
      congr 1
      omega
    · rename_i hfull
      have hnone : newCapacity - links.length = 0 := by omega
      rw [hnone, take_zero, map_nil, append_nil, Nat.min_zero, Nat.add_zero]

/-- The links that a scan makes: the free slots in order, as many as are wanted. -/
theorem scanLinks_eq {xs : List Interval} {first : Nat} {links : List Nat} (hsep : Separated xs)
    (hahead : ∀ i ∈ xs, first < i.2) :
    plan.scanLinks newCapacity stop xs first links =
      links ++ ((free xs first stop).take (newCapacity - links.length)).map
        plan.linkBase := by
  induction xs generalizing first links with
  | nil =>
    unfold scanLinks
    rw [pushSlots_eq, free_of_uncovered (fun n _ _ => rfl)]
  | cons i rest ih =>
    have hi := hsep.nonempty i mem_cons_self
    have hrest : ∀ j ∈ rest, i.2 < j.2 := by
      intro j hj
      exact lt_trans (hsep.head_lt j hj) (hsep.nonempty j (mem_cons_of_mem _ hj))
    unfold scanLinks
    split
    · rename_i hmore
      split
      · rename_i hinside
        rw [ih hsep.tail hrest, free_cons_of_le hinside (hahead i mem_cons_self)]
      rename_i hbefore
      rw [pushSlots_eq]
      dsimp only
      by_cases hstop : stop ≤ i.1
      · have hfree : free (i :: rest) first stop = range' first (stop - first) :=
          free_of_uncovered (fun n _ hn => hsep.uncovered_before (by omega))
        rw [Nat.min_eq_left hstop, hfree, if_neg]
        rw [length_append, length_map, length_take, length_range']
        omega
      · have hfree := free_cons hsep (Nat.le_of_not_le hbefore) (Nat.le_of_not_le hstop)
        rw [Nat.min_eq_right (Nat.le_of_not_le hstop), hfree, take_append,
          length_range', map_append, ← append_assoc]
        split
        · rename_i hagain
          rw [ih hsep.tail hrest]
          rw [length_append, length_map, length_take, length_range'] at hagain ⊢
          congr 3
          omega
        rename_i hdone
        rw [length_append, length_map, length_take, length_range'] at hdone
        have hnone : newCapacity - links.length - (i.1 - first) = 0 := by omega
        rw [hnone, take_zero, map_nil, append_nil]
    · rename_i hnone
      by_cases hstop : first < stop
      · have hfull : newCapacity - links.length = 0 := by omega
        rw [hfull, take_zero, map_nil, append_nil]
      · rw [free_of_le (Nat.le_of_not_lt hstop), take_nil, map_nil, append_nil]

/-- The intervals that end before a place do not matter from there on. -/
theorem dropWhile_spec {xs : List Interval} (first stop : Nat) (hsep : Separated xs) :
    Separated (xs.dropWhile fun i => i.2 ≤ first) ∧
      (∀ i ∈ xs.dropWhile (fun i => i.2 ≤ first), first < i.2) ∧
      free (xs.dropWhile fun i => i.2 ≤ first) first stop = free xs first stop := by
  induction xs with
  | nil => exact ⟨hsep, nofun, rfl⟩
  | cons i rest ih =>
    by_cases hend : i.2 ≤ first
    · rw [dropWhile_cons_of_pos (by simpa using hend)]
      obtain ⟨hrest, hahead, hfree⟩ := ih hsep.tail
      refine ⟨hrest, hahead, hfree.trans ?_⟩
      exact free_congr (fun n hn _ => (covers_cons_of_le (hend.trans hn)).symm)
    rw [dropWhile_cons_of_neg (by simpa using hend)]
    refine ⟨hsep, ?_, rfl⟩
    intro j hj
    rcases mem_cons.mp hj with rfl | hj
    · omega
    · have hgap := hsep.head_lt j hj
      have hnonempty := hsep.nonempty j (mem_cons_of_mem _ hj)
      omega

theorem appendAvailable_eq {blocked : List Interval} {first : Nat} {links : List Nat}
    (hsep : Separated blocked) :
    plan.appendAvailable newCapacity blocked first stop links =
      links ++ ((free blocked first stop).take (newCapacity - links.length)).map
        plan.linkBase := by
  obtain ⟨hrest, hahead, hfree⟩ := dropWhile_spec first stop hsep
  unfold appendAvailable
  rw [scanLinks_eq hrest hahead, hfree]

end Scanning

section WellFormed

/-- What every plan keeps: the pool is aligned, and the links are different slots of it. -/
structure WellFormed (plan : SimulationNetworkAddressPlan) : Prop where
  hasLinks : plan.poolPrefixLength ≤ nodePrefixLength
  aligned : addressCount plan.poolPrefixLength ∣ plan.poolBase
  inRange : plan.poolEnd ≤ 2 ^ 32
  distinct : plan.linkBases.Nodup
  links : ∀ base, base ∈ plan.linkBases →
    base % 2 = 0 ∧ plan.poolBase ≤ base ∧ base + 2 ≤ plan.poolEnd

variable {plan : SimulationNetworkAddressPlan}

/-- A pool with links has an even number of addresses. -/
theorem addressCount_eq {prefixLength : Nat} (h : prefixLength ≤ nodePrefixLength) :
    addressCount prefixLength = 2 * 2 ^ (31 - prefixLength) := by
  unfold addressCount nodePrefixLength at *
  have hexponent : 32 - prefixLength = (31 - prefixLength) + 1 := by omega
  rw [hexponent, Nat.pow_succ, Nat.mul_comm]

theorem WellFormed.poolEnd_eq (h : plan.WellFormed) :
    plan.poolEnd = plan.poolBase + 2 * plan.slotCount ∧ 0 < plan.slotCount := by
  have hcount := addressCount_eq h.hasLinks
  have hpos : 0 < 2 ^ (31 - plan.poolPrefixLength) := Nat.two_pow_pos _
  unfold poolEnd slotCount addressesPerNode
  omega

theorem WellFormed.base_even (h : plan.WellFormed) : plan.poolBase % 2 = 0 := by
  have hcount := addressCount_eq h.hasLinks
  have hdvd : 2 ∣ plan.poolBase := Nat.dvd_trans ⟨_, hcount⟩ h.aligned
  exact Nat.mod_eq_zero_of_dvd hdvd

/-- The first address of a slot of the pool. -/
theorem WellFormed.linkBase_eq {slot : Nat} (h : plan.WellFormed) (hslot : slot < plan.slotCount) :
    plan.linkBase slot = plan.poolBase + 2 * slot := by
  have hrange := h.inRange
  have hend := h.poolEnd_eq.1
  unfold linkBase addressesPerNode
  rw [Nat.mod_eq_of_lt (by omega), Nat.mul_comm]

/-- The block of a power of two that an address lies in ends in range. -/
theorem network_end (prefixLength : Nat) {address : Nat} (h : address < 2 ^ 32) :
    address / addressCount prefixLength * addressCount prefixLength +
      addressCount prefixLength ≤ 2 ^ 32 := by
  have hpos : 0 < addressCount prefixLength := Nat.two_pow_pos _
  have hdvd : addressCount prefixLength ∣ 2 ^ 32 := Nat.pow_dvd_pow 2 (Nat.sub_le _ _)
  obtain ⟨blocks, hblocks⟩ := hdvd
  have hlt : address / addressCount prefixLength < blocks := by
    rw [Nat.div_lt_iff_lt_mul hpos, Nat.mul_comm, ← hblocks]
    exact h
  calc address / addressCount prefixLength * addressCount prefixLength + addressCount prefixLength
      = (address / addressCount prefixLength + 1) * addressCount prefixLength := by
        rw [Nat.add_mul, Nat.one_mul]
    _ ≤ blocks * addressCount prefixLength := Nat.mul_le_mul_right _ hlt
    _ = 2 ^ 32 := by rw [hblocks, Nat.mul_comm]

theorem parsePool_wellFormed {pool : Cidr} (h : parsePool pool = .ok plan) :
    plan.WellFormed ∧ plan.linkBases = [] := by
  unfold parsePool at h
  split_ifs at h with hbits
  cases h
  refine ⟨⟨Nat.le_of_not_lt hbits, Nat.dvd_mul_left _ _, ?_, nodup_nil, nofun⟩, rfl⟩
  exact network_end pool.prefixLength pool.address.isLt

end WellFormed

section Taken

variable {plan : SimulationNetworkAddressPlan}

/-- A range of addresses reaches into a slot. -/
def meetsSlot (plan : SimulationNetworkAddressPlan) (range : Interval) (slot : Nat) : Bool :=
  range.1 < plan.poolBase + 2 * slot + 2 && plan.poolBase + 2 * slot < range.2

/-- A slot that no range reaches into. -/
def slotFree (plan : SimulationNetworkAddressPlan) (ranges : List Interval) (slot : Nat) : Bool :=
  ranges.all fun range => !plan.meetsSlot range slot

/-- The slots of the pool that are free. -/
def freeSlots (plan : SimulationNetworkAddressPlan) (routes : List RouteInfo)
    (addresses : List AddressInfo) : List Nat :=
  (range plan.slotCount).filter (plan.slotFree (reservedRanges routes addresses plan.linkBases))

variable {range : Interval}

variable (h : plan.WellFormed)

include h

/-- Rounding a range keeps exactly the slots that it reaches into. -/
theorem blockedRange_iff {slot : Nat} (hrange : range.1 < range.2) (hslot : slot < plan.slotCount) :
    (∃ i, blockedRange plan.poolBase plan.poolEnd range = some i ∧ i.1 ≤ slot ∧ slot < i.2)
      ↔ plan.meetsSlot range slot = true := by
  have hend := h.poolEnd_eq.1
  unfold blockedRange meetsSlot addressesPerNode
  simp only [Bool.and_eq_true, decide_eq_true_eq]
  constructor
  · rintro ⟨i, hi, hfirst, hstop⟩
    split at hi <;> cases hi
    dsimp only at hfirst hstop
    omega
  · intro hmeets
    rw [if_pos (by omega)]
    refine ⟨_, rfl, ?_, ?_⟩
    · dsimp only
      omega
    · dsimp only
      omega

theorem blockedRange_some {i : Interval}
    (hi : blockedRange plan.poolBase plan.poolEnd range = some i) :
    i.1 < i.2 ∧ i.2 ≤ plan.slotCount := by
  have hend := h.poolEnd_eq.1
  unfold blockedRange addressesPerNode at hi
  dsimp only at hi
  split at hi <;> cases hi
  dsimp only
  omega

omit h in
theorem reservedRanges_nonempty
    {routes : List RouteInfo} {addresses : List AddressInfo} {reserved : List Nat}
    (h : range ∈ reservedRanges routes addresses reserved) : range.1 < range.2 := by
  unfold reservedRanges at h
  rcases mem_append.mp h with h | h
  · rcases mem_append.mp h with h | h
    · obtain ⟨route, -, hroute⟩ := mem_filterMap.mp h
      unfold RouteInfo.range at hroute
      split_ifs at hroute
      cases hroute
      exact Nat.lt_add_of_pos_right (Nat.two_pow_pos _)
    · obtain ⟨address, -, rfl⟩ := mem_map.mp h
      exact Nat.lt_succ_self _
  · obtain ⟨first, -, rfl⟩ := mem_map.mp h
    exact Nat.lt_add_of_pos_right (by decide)

variable {routes : List RouteInfo} {addresses : List AddressInfo} {reserved : List Nat}

theorem blockedLinks_merging :
    Merging [] (((reservedRanges routes addresses reserved).filterMap
      (blockedRange plan.poolBase plan.poolEnd)).insertionSort intervalLe) := by
  refine ⟨List.Pairwise.nil, ?_, ?_, nofun⟩
  · intro i hi
    rw [nil_append, mem_insertionSort] at hi
    obtain ⟨range, -, hrange⟩ := mem_filterMap.mp hi
    exact (blockedRange_some h hrange).1
  · refine (pairwise_insertionSort intervalLe _).imp ?_
    intro i j hij
    unfold intervalLe at hij
    omega

/-- The merged intervals have exactly the slots that are not free. -/
theorem covers_blockedLinks {slot : Nat} (hslot : slot < plan.slotCount) :
    covers (blockedLinks plan routes addresses reserved) slot =
      !plan.slotFree (reservedRanges routes addresses reserved) slot := by
  unfold blockedLinks
  rw [mergeIntervals_covers (blockedLinks_merging h), Bool.eq_iff_iff]
  simp only [Bool.or_eq_true, covers_iff, not_mem_nil, false_and, exists_false,
    false_or, mem_insertionSort, mem_filterMap, slotFree, Bool.not_eq_true',
    all_eq_false, Bool.not_eq_false]
  constructor
  · rintro ⟨i, ⟨range, hmem, hrange⟩, hfirst, hstop⟩
    exact ⟨range, hmem, (blockedRange_iff h (reservedRanges_nonempty hmem) hslot).mp
      ⟨i, hrange, hfirst, hstop⟩⟩
  · rintro ⟨range, hmem, hmeets⟩
    obtain ⟨i, hrange, hfirst, hstop⟩ :=
      (blockedRange_iff h (reservedRanges_nonempty hmem) hslot).mpr hmeets
    exact ⟨i, ⟨range, hmem, hrange⟩, hfirst, hstop⟩

theorem blockedLinks_separated :
    Separated (blockedLinks plan routes addresses reserved) :=
  mergeIntervals_separated (blockedLinks_merging h)

/-- The merged intervals stay inside of the pool. -/
theorem blockedLinks_end :
    ∀ i ∈ blockedLinks plan routes addresses reserved, i.2 ≤ plan.slotCount := by
  intro i hi
  have hnonempty := (blockedLinks_separated h).nonempty i hi
  have hcovered : covers (blockedLinks plan routes addresses reserved) (i.2 - 1) = true :=
    covers_iff.mpr ⟨i, hi, by omega, by omega⟩
  unfold blockedLinks at hcovered
  rw [mergeIntervals_covers (blockedLinks_merging h)] at hcovered
  simp only [Bool.or_eq_true, covers_iff, not_mem_nil, false_and, exists_false,
    false_or, mem_insertionSort, mem_filterMap] at hcovered
  obtain ⟨j, ⟨range, -, hrange⟩, hfirst, hstop⟩ := hcovered
  have hend := (blockedRange_some h hrange).2
  omega

theorem free_blockedLinks :
    free (blockedLinks plan routes addresses plan.linkBases) 0 plan.slotCount =
      plan.freeSlots routes addresses := by
  unfold free freeSlots
  rw [Nat.sub_zero, range_eq_range']
  apply filter_congr
  intro slot hslot
  rw [mem_range'_1] at hslot
  rw [covers_blockedLinks h (by omega), Bool.not_not]

omit h in
/-- What is left of a number after the sizes of the intervals are taken away. -/
theorem foldl_sub_size (xs : List Interval) (total : Nat) :
    xs.foldl (fun available i => available - (i.2 - i.1)) total = total - size xs := by
  induction xs generalizing total with
  | nil => rfl
  | cons i rest ih =>
    rw [foldl_cons, ih]
    simp only [size, map_cons, sum_cons]
    omega

/-- The number of slots that the code takes for available is the number of free ones. -/
theorem available_eq :
    (blockedLinks plan routes addresses plan.linkBases).foldl
        (fun available i => available - (i.2 - i.1)) plan.slotCount =
      (plan.freeSlots routes addresses).length := by
  rw [foldl_sub_size]
  have hseparated : Separated (blockedLinks plan routes addresses plan.linkBases) :=
    blockedLinks_separated h
  have hcount := length_free_add_size hseparated (fun i _ => Nat.zero_le i.1) (blockedLinks_end h)
  rw [free_blockedLinks h] at hcount
  omega

end Taken

section Exactness

variable {plan result : SimulationNetworkAddressPlan} {newCapacity firstSlot : Nat}
  {routes : List RouteInfo} {addresses : List AddressInfo}

/-- The free slots in the order in which they are taken. -/
def slotOrder (plan : SimulationNetworkAddressPlan) (routes : List RouteInfo)
    (addresses : List AddressInfo) (firstSlot : Nat) : List Nat :=
  free (blockedLinks plan routes addresses plan.linkBases) firstSlot plan.slotCount ++
    free (blockedLinks plan routes addresses plan.linkBases) 0 firstSlot

theorem slotOrder_perm (h : plan.WellFormed) (hfirst : firstSlot ≤ plan.slotCount) :
    (plan.slotOrder routes addresses firstSlot).Perm (plan.freeSlots routes addresses) := by
  unfold slotOrder
  rw [← free_blockedLinks h, free_split (Nat.zero_le firstSlot) hfirst]
  exact perm_append_comm

variable {slot : Nat}

theorem mem_freeSlots :
    slot ∈ plan.freeSlots routes addresses ↔
      slot < plan.slotCount ∧
        plan.slotFree (reservedRanges routes addresses plan.linkBases) slot = true := by
  unfold freeSlots
  rw [mem_filter, mem_range]

/-- How a plan grows: enough free slots, in order. -/
theorem expandedFrom_cases (h : plan.WellFormed) (hgrows : plan.capacity ≤ newCapacity)
    (routes : List RouteInfo) (addresses : List AddressInfo) (firstSlot : Nat) :
    ((plan.freeSlots routes addresses).length < newCapacity - plan.capacity ∧
      ∃ e, plan.expandedFrom newCapacity routes addresses firstSlot = .error e) ∨
    (newCapacity - plan.capacity ≤ (plan.freeSlots routes addresses).length ∧
      plan.expandedFrom newCapacity routes addresses firstSlot =
        .ok { plan with
          linkBases := plan.linkBases ++ ((plan.slotOrder routes addresses firstSlot).take
              (newCapacity - plan.capacity)).map plan.linkBase }) := by
  unfold expandedFrom
  rw [if_neg (Nat.not_lt.mpr hgrows)]
  split
  · rename_i hsame
    refine .inr ⟨by omega, ?_⟩
    rw [hsame, Nat.sub_self, take_zero, map_nil, append_nil]
  rename_i hmore
  dsimp only
  rw [available_eq h]
  split
  · rename_i hexhausted
    exact .inl ⟨hexhausted, _, rfl⟩
  rename_i henough
  refine .inr ⟨Nat.le_of_not_lt henough, ?_⟩
  rw [appendAvailable_eq (blockedLinks_separated h),
    appendAvailable_eq (blockedLinks_separated h), append_assoc,
    ← map_append]
  congr 4
  unfold slotOrder
  rw [take_append, length_append, length_map, length_take]
  congr 2
  unfold capacity
  omega

/-- A link that was made of a slot. -/
theorem mem_newLinks {base : Nat} (h : plan.WellFormed) (hfirst : firstSlot ≤ plan.slotCount)
    (hbase : base ∈ ((plan.slotOrder routes addresses firstSlot).take
      (newCapacity - plan.capacity)).map plan.linkBase) :
    ∃ slot ∈ plan.freeSlots routes addresses, base = plan.poolBase + 2 * slot := by
  obtain ⟨slot, hslot, rfl⟩ := mem_map.mp hbase
  have hfree : slot ∈ plan.freeSlots routes addresses :=
    (slotOrder_perm h hfirst).mem_iff.mp (mem_of_mem_take hslot)
  exact ⟨slot, hfree, h.linkBase_eq (mem_freeSlots.mp hfree).1⟩

/-- A free slot is none of the plan's own. -/
theorem freeSlot_new (hslot : slot ∈ plan.freeSlots routes addresses) :
    plan.poolBase + 2 * slot ∉ plan.linkBases := by
  intro hmem
  have hfree := (mem_freeSlots.mp hslot).2
  rw [slotFree, all_eq_true] at hfree
  have hmeets := hfree (plan.poolBase + 2 * slot, plan.poolBase + 2 * slot + 2)
    (mem_append_right _ (mem_map.mpr ⟨_, hmem, rfl⟩))
  simp [meetsSlot] at hmeets

/-- What it means that a plan was grown to a size correctly, or could not be. -/
structure Exact (plan : SimulationNetworkAddressPlan) (newCapacity : Nat)
    (routes : List RouteInfo) (addresses : List AddressInfo)
    (answer : Except AddressPlanError SimulationNetworkAddressPlan) : Prop where
  throws : (∃ e, answer = .error e) ↔
    (plan.freeSlots routes addresses).length < newCapacity - plan.capacity
  pool : ∀ result, answer = .ok result →
    result.poolBase = plan.poolBase ∧ result.poolPrefixLength = plan.poolPrefixLength
  length : ∀ result, answer = .ok result → result.linkBases.length = newCapacity
  keeps : ∀ result, answer = .ok result → plan.linkBases <+: result.linkBases
  distinct : ∀ result, answer = .ok result → result.linkBases.Nodup
  inside : ∀ result, answer = .ok result → ∀ base, base ∈ result.linkBases →
    base % 2 = 0 ∧ plan.poolBase ≤ base ∧ base + 2 ≤ plan.poolEnd
  disjoint : ∀ result, answer = .ok result → ∀ base, base ∈ result.linkBases.drop plan.capacity →
      (∀ route, route ∈ routes → ∀ range, route.range = some range →
        base + 2 ≤ range.1 ∨ range.2 ≤ base) ∧
      ∀ address, address ∈ addresses → address.address.val < base ∨ base + 2 ≤ address.address.val
  accepted : ∀ result, answer = .ok result → ∀ slots : List Nat,
    (∀ slot, slot ∈ slots → plan.capacity ≤ slot ∧ slot < newCapacity) →
      result.requireNodeSlotsAvailable routes addresses slots = .ok ()

/-- A slot that no interval has is not blocked. -/
theorem isBlocked_covers {blocked : List Interval} (h : isBlocked slot blocked = true) :
    covers blocked slot = true := by
  unfold isBlocked at h
  split at h
  · cases h
  rename_i i hlast
  have hmem := mem_of_getLast? hlast
  have hfirst := all_eq_true.mp all_takeWhile i hmem
  exact covers_iff.mpr ⟨i, (takeWhile_sublist _).subset hmem,
    of_decide_eq_true hfirst, of_decide_eq_true h⟩

/-- A slot that is free for a plan is free without the plan's own links, too. -/
theorem slotFree_reserved {ranges : List Interval} (hfree : plan.slotFree ranges slot = true)
    {fewer : List Interval} (hfewer : ∀ range ∈ fewer, range ∈ ranges) :
    plan.slotFree fewer slot = true := by
  rw [slotFree, all_eq_true] at hfree ⊢
  exact fun range hrange => hfree range (hfewer range hrange)

theorem requireNodeSlotsAvailable_ok {slots : List Nat} (h : plan.WellFormed)
    (hslots : ∀ slot ∈ slots, ∃ link, plan.linkBases[slot]? =
        some (plan.poolBase + 2 * link) ∧ link < plan.slotCount ∧
      plan.slotFree (reservedRanges routes addresses []) link = true) :
    plan.requireNodeSlotsAvailable routes addresses slots = .ok () := by
  induction slots with
  | nil => rfl
  | cons slot rest ih =>
    obtain ⟨link, hbase, hlink, hfree⟩ := hslots slot mem_cons_self
    unfold requireNodeSlotsAvailable
    rw [hbase]
    dsimp only
    have hback : (plan.poolBase + 2 * link - plan.poolBase) / addressesPerNode = link := by
      unfold addressesPerNode
      omega
    rw [hback, if_neg]
    · exact ih (fun other hother => hslots other (mem_cons_of_mem _ hother))
    · intro hblocked
      have hcovered := isBlocked_covers hblocked
      rw [covers_blockedLinks h hlink, hfree] at hcovered
      cases hcovered

/-- What a plan has after it has grown. -/
theorem grown_wellFormed (h : plan.WellFormed) (hfirst : firstSlot ≤ plan.slotCount)
    (newCapacity : Nat) (routes : List RouteInfo) (addresses : List AddressInfo) :
    WellFormed { plan with
      linkBases := plan.linkBases ++ ((plan.slotOrder routes addresses firstSlot).take
          (newCapacity - plan.capacity)).map plan.linkBase } := by
  have hend := h.poolEnd_eq.1
  have heven := h.base_even
  refine ⟨h.hasLinks, h.aligned, h.inRange, ?_, ?_⟩
  · refine List.Nodup.append h.distinct ?_ ?_
    · have hnodup : ((plan.slotOrder routes addresses firstSlot).take
          (newCapacity - plan.capacity)).Nodup := by
        refine List.Nodup.sublist (take_sublist _ _) ?_
        refine (slotOrder_perm h hfirst).nodup_iff.mpr ?_
        exact List.Nodup.sublist filter_sublist nodup_range
      refine List.Nodup.map_on ?_ hnodup
      intro slot hslot slot' hslot' hsame
      have hfree := mem_freeSlots.mp ((slotOrder_perm h hfirst).mem_iff.mp (mem_of_mem_take hslot))
      have hfree' := mem_freeSlots.mp
        ((slotOrder_perm h hfirst).mem_iff.mp (mem_of_mem_take hslot'))
      rw [h.linkBase_eq hfree.1, h.linkBase_eq hfree'.1] at hsame
      omega
    · intro base hold hnew
      obtain ⟨slot, hslot, rfl⟩ := mem_newLinks h hfirst hnew
      exact freeSlot_new hslot hold
  · intro base hbase
    rcases mem_append.mp hbase with hold | hnew
    · exact h.links base hold
    · obtain ⟨slot, hslot, rfl⟩ := mem_newLinks h hfirst hnew
      have hcount := (mem_freeSlots.mp hslot).1
      refine ⟨by omega, Nat.le_add_right _ _, ?_⟩
      show plan.poolBase + 2 * slot + 2 ≤ plan.poolEnd
      omega

/-- A new link keeps clear of the routes and of the addresses. -/
theorem newLink_disjoint (hslot : slot ∈ plan.freeSlots routes addresses) :
    (∀ route ∈ routes, ∀ range, route.range = some range →
      plan.poolBase + 2 * slot + 2 ≤ range.1 ∨ range.2 ≤ plan.poolBase + 2 * slot) ∧
    ∀ address ∈ addresses,
      address.address.val < plan.poolBase + 2 * slot ∨
        plan.poolBase + 2 * slot + 2 ≤ address.address.val := by
  have hfree := (mem_freeSlots.mp hslot).2
  rw [slotFree, all_eq_true] at hfree
  refine ⟨?_, ?_⟩
  · intro route hroute range hrange
    have hmeets := hfree range (mem_append_left _ (mem_append_left _
      (mem_filterMap.mpr ⟨route, hroute, hrange⟩)))
    simp only [meetsSlot, Bool.not_eq_true', Bool.and_eq_false_iff,
      decide_eq_false_iff_not] at hmeets
    omega
  · intro address haddress
    have hmeets := hfree (address.address.val, address.address.val + 1)
      (mem_append_left _ (mem_append_right _ (mem_map.mpr ⟨address, haddress, rfl⟩)))
    simp only [meetsSlot, Bool.not_eq_true', Bool.and_eq_false_iff,
      decide_eq_false_iff_not] at hmeets
    omega

theorem expandedFrom_exact (h : plan.WellFormed) (hfirst : firstSlot < plan.slotCount)
    (hgrows : plan.capacity ≤ newCapacity) :
    Exact plan newCapacity routes addresses
      (plan.expandedFrom newCapacity routes addresses firstSlot) := by
  rcases expandedFrom_cases h hgrows routes addresses firstSlot with
    ⟨hfew, e, hanswer⟩ | ⟨henough, hanswer⟩
  · rw [hanswer]
    refine ⟨⟨fun _ => hfew, fun _ => ⟨e, rfl⟩⟩, ?_, ?_, ?_, ?_, ?_, ?_, ?_⟩ <;>
      exact fun _ hresult => nomatch hresult
  · rw [hanswer]
    have hle := le_of_lt hfirst
    have hgrown := grown_wellFormed h hle newCapacity routes addresses
    have hlength : (plan.slotOrder routes addresses firstSlot).length =
        (plan.freeSlots routes addresses).length :=
      (slotOrder_perm h hle).length_eq
    refine ⟨⟨fun ⟨e, herror⟩ => (nomatch herror), fun hfew => ?_⟩, ?_, ?_, ?_, ?_, ?_, ?_, ?_⟩
    · omega
    · rintro result ⟨⟩
      exact ⟨rfl, rfl⟩
    · rintro result ⟨⟩
      dsimp only
      rw [length_append, length_map, length_take, hlength]
      unfold capacity at *
      omega
    · rintro result ⟨⟩
      exact prefix_append _ _
    · rintro result ⟨⟩
      exact hgrown.distinct
    · rintro result ⟨⟩
      exact hgrown.links
    · rintro result ⟨⟩
      intro base hbase
      dsimp only at hbase
      rw [show plan.capacity = plan.linkBases.length from rfl, drop_left] at hbase
      obtain ⟨slot, hslot, rfl⟩ := mem_newLinks h hle hbase
      exact newLink_disjoint hslot
    · rintro result ⟨⟩
      intro slots hslots
      refine requireNodeSlotsAvailable_ok hgrown ?_
      intro slot hslot
      obtain ⟨hlow, hhigh⟩ := hslots slot hslot
      have hindex : slot - plan.linkBases.length <
          (((plan.slotOrder routes addresses firstSlot).take
            (newCapacity - plan.capacity)).map plan.linkBase).length := by
        rw [length_map, length_take, hlength]
        unfold capacity at *
        omega
      have hnew := getElem_mem hindex
      obtain ⟨link, hlink, hbase⟩ := mem_newLinks h hle hnew
      refine ⟨link, ?_, (mem_freeSlots.mp hlink).1, ?_⟩
      · rw [getElem?_append_right hlow, getElem?_eq_getElem hindex, hbase]
      · refine slotFree_reserved (mem_freeSlots.mp hlink).2 ?_
        intro range hrange
        unfold reservedRanges at hrange ⊢
        rw [map_nil, append_nil] at hrange
        exact mem_append_left _ hrange

end Exactness

section Results

variable {plan : SimulationNetworkAddressPlan}

/-- The slot after the last link, or the first one. -/
theorem firstSlot_lt (h : plan.WellFormed) :
    (match plan.linkBases.getLast? with
      | none => 0
      | some last => ((last - plan.poolBase) / addressesPerNode + 1) % plan.slotCount) <
      plan.slotCount := by
  have hpos := h.poolEnd_eq.2
  split
  · exact hpos
  · exact Nat.mod_lt _ hpos

/-- The ways to come by a plan. -/
inductive Obtained : SimulationNetworkAddressPlan → Prop where
  | allocate {runId : String} {nodeCount : Nat} {routes : List RouteInfo}
      {addresses : List AddressInfo} {pool : Cidr} {plan : SimulationNetworkAddressPlan}
      (h : allocate runId nodeCount routes addresses pool = .ok plan) : Obtained plan
  | fromCidr {pool : Cidr} {nodeCount : Nat} {plan : SimulationNetworkAddressPlan}
      (h : fromCidr pool nodeCount = .ok plan) : Obtained plan
  | fromSerialized {pool : Cidr} {links : List Cidr} {plan : SimulationNetworkAddressPlan}
      (h : fromSerialized pool links = .ok plan) : Obtained plan
  | expanded {plan result : SimulationNetworkAddressPlan} {newCapacity : Nat}
      {routes : List RouteInfo} {addresses : List AddressInfo} (hplan : Obtained plan)
      (h : plan.expanded newCapacity routes addresses = .ok result) : Obtained result

/-- A plan that has grown from a well-formed one. -/
theorem expandedFrom_wellFormed
    {result : SimulationNetworkAddressPlan} {newCapacity firstSlot : Nat}
    {routes : List RouteInfo} {addresses : List AddressInfo} (h : plan.WellFormed)
    (hfirst : firstSlot < plan.slotCount)
    (hresult : plan.expandedFrom newCapacity routes addresses firstSlot = .ok result) :
    result.WellFormed := by
  by_cases hgrows : plan.capacity ≤ newCapacity
  · rcases expandedFrom_cases h hgrows routes addresses firstSlot with
      ⟨-, e, hanswer⟩ | ⟨-, hanswer⟩
    · rw [hanswer] at hresult
      cases hresult
    · rw [hanswer] at hresult
      cases hresult
      exact grown_wellFormed h (Nat.le_of_lt hfirst) newCapacity routes addresses
  · unfold expandedFrom at hresult
    rw [if_pos (Nat.lt_of_not_le hgrows)] at hresult
    cases hresult

theorem readLinks_wellFormed {links result : List Nat} {rest : List Cidr} (h : plan.WellFormed)
    (hlinks : WellFormed { plan with linkBases := links })
    (hresult : plan.readLinks links rest = .ok result) :
    WellFormed { plan with linkBases := result } := by
  induction rest generalizing links with
  | nil =>
    cases hresult
    exact hlinks
  | cons link rest ih =>
    unfold readLinks at hresult
    split_ifs at hresult with _ hvalid
    simp only [not_or, not_not, not_lt] at hvalid
    obtain ⟨hbits, hfirst, hend, hnew⟩ := hvalid
    refine ih ?_ hresult
    refine ⟨h.hasLinks, h.aligned, h.inRange, ?_, ?_⟩
    · refine List.Nodup.append hlinks.distinct (nodup_singleton _) ?_
      intro base hold hlast
      rw [mem_singleton] at hlast
      subst hlast
      exact hnew hold
    · intro base hbase
      rcases mem_append.mp hbase with hold | hlast
      · exact hlinks.links base hold
      · rw [mem_singleton] at hlast
        subst hlast
        refine ⟨?_, hfirst, hend⟩
        unfold Cidr.network addressCount
        rw [hbits]
        exact Nat.mul_mod_left _ 2

theorem Obtained.wellFormed (h : Obtained plan) : plan.WellFormed := by
  induction h with
  | @allocate runId nodeCount routes addresses pool plan h =>
    unfold SimulationNetworkAddressPlan.allocate at h
    split at h
    · cases h
    · rename_i empty hpool
      have hempty := (parsePool_wellFormed hpool).1
      exact expandedFrom_wellFormed hempty (Nat.mod_lt _ hempty.poolEnd_eq.2) h
  | @fromCidr pool nodeCount plan h =>
    unfold SimulationNetworkAddressPlan.fromCidr at h
    split at h
    · cases h
    · rename_i empty hpool
      have hempty := (parsePool_wellFormed hpool).1
      exact expandedFrom_wellFormed hempty hempty.poolEnd_eq.2 h
  | @fromSerialized pool links plan h =>
    unfold SimulationNetworkAddressPlan.fromSerialized at h
    split at h
    · cases h
    rename_i empty hpool
    unfold SimulationNetworkAddressPlan.fromCidr at hpool
    split at hpool
    · cases hpool
    rename_i pool hparsed
    have hfirst := (parsePool_wellFormed hparsed).1
    have hempty := expandedFrom_wellFormed hfirst hfirst.poolEnd_eq.2 hpool
    split at h
    · cases h
    split at h <;> cases h
    rename_i linkBases hread
    refine readLinks_wellFormed hempty ?_ hread
    exact { hempty with distinct := nodup_nil, links := nofun }
  | expanded hplan h ih => exact expandedFrom_wellFormed ih (firstSlot_lt ih) h

/--
A plan grows exactly when there are enough free slots, and to exactly the size it was
asked for; so does the empty plan of a pool.
-/
theorem expansion_is_exact
    {newCapacity : Nat} {routes : List RouteInfo} {addresses : List AddressInfo} (h : Obtained plan)
    (hgrows : plan.capacity ≤ newCapacity) :
    Exact plan newCapacity routes addresses
      (plan.expanded newCapacity routes addresses) ∧
    ∀ runId nodeCount (pool : Cidr), pool.prefixLength ≤ nodePrefixLength →
      Exact { poolBase := pool.network, poolPrefixLength := pool.prefixLength } nodeCount
        routes addresses (allocate runId nodeCount routes addresses pool) := by
  refine ⟨?_, ?_⟩
  · have hplan := h.wellFormed
    exact expandedFrom_exact hplan (firstSlot_lt hplan) hgrows
  · intro runId nodeCount pool hbits
    have hpool : parsePool pool =
        .ok { poolBase := pool.network, poolPrefixLength := pool.prefixLength } :=
      if_neg (Nat.not_lt.mpr hbits)
    have hempty := (parsePool_wellFormed hpool).1
    unfold allocate
    rw [hpool]
    exact expandedFrom_exact hempty (Nat.mod_lt _ hempty.poolEnd_eq.2) (Nat.zero_le _)

/-- A pool of four slots, one of which is on a route. -/
theorem small_pool_grows_exactly :
    ∃ plan, fromCidr ⟨167772160, 29⟩ 1 = .ok plan ∧
      Exact plan 3 [⟨167772162, 32⟩] []
        (plan.expanded 3 [⟨167772162, 32⟩] []) := by
  have hmade : fromCidr ⟨167772160, 29⟩ 1 =
      .ok { poolBase := 167772160, poolPrefixLength := 29, linkBases := [167772160] } := rfl
  exact ⟨_, hmade, (expansion_is_exact (.fromCidr hmade) (by decide)).1⟩

end Results

end SimulationNetworkAddressPlan

end Bbp
