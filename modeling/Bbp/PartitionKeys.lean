import Bbp.Library.Json

/-!
# The keys of partitions in a run report

A report knows a partition by a text that lists the nodes of its two groups.  Equal texts list
equal sets of nodes, whichever group an event names first.
-/

namespace Bbp.RunReport

open Library List

section Keys

def partitionNode : Json → Option Nat
  | .number node => if 0 < node ∧ node < 2 ^ 64 then some node.toNat else none
  | _ => none

/-- The nodes of a group in ascending order, each of them once. -/
def partitionGroup (detail : List (String × Json)) (field : String) : Option (List Nat) :=
  match detail.lookup field with
  | some (.array values) =>
    if values.isEmpty then none
    else (values.mapM partitionNode).map fun nodes =>
      (nodes.insertionSort (· ≤ ·)).destutter (· ≠ ·)
  | _ => none

/-- A comma stands before every number but the first, as no number is an empty text. -/
def partitionGroupKey (nodes : List Nat) : String := String.intercalate "," (nodes.map toString)

def partitionKey (detail : List (String × Json)) : Option String := do
  let left := partitionGroupKey (← partitionGroup detail "group_a")
  let right := partitionGroupKey (← partitionGroup detail "group_b")
  if right < left then return right ++ "|" ++ left
  return left ++ "|" ++ right

/-- The nodes that a detail names in one of its groups. -/
def namedNodes (detail : List (String × Json)) (field : String) : Set Nat :=
  {node | ∃ values, detail.lookup field = some (.array values) ∧ .number node ∈ values}

end Keys

section Groups

variable {detail detail' : List (String × Json)} {field field' : String} {nodes nodes' : List Nat}

theorem partitionNode_eq_some {value : Json} {node : Nat} (h : partitionNode value = some node) :
    value = .number node := by
  cases value with
  | number value =>
    simp only [partitionNode, Option.ite_none_right_eq_some, Option.some.injEq] at h
    rw [← h.2, Int.toNat_of_nonneg h.1.1.le]
  | _ => cases h

theorem mapM_partitionNode {values : List Json} (h : values.mapM partitionNode = some nodes) :
    values = nodes.map fun node => .number node := by
  induction values generalizing nodes with
  | nil =>
    cases h
    rfl
  | cons value values ih =>
    simp only [mapM_cons, bind, Option.bind_eq_some_iff] at h
    obtain ⟨node, hnode, rest, hrest, ⟨⟩⟩ := h
    rw [partitionNode_eq_some hnode, ih hrest]
    rfl

theorem partitionGroup_spec (h : partitionGroup detail field = some nodes) :
    nodes ≠ [] ∧ nodes.SortedLT ∧ ∀ node, node ∈ nodes ↔ node ∈ namedNodes detail field := by
  unfold partitionGroup at h
  split at h
  next values hvalues =>
    simp only [Option.ite_none_left_eq_some, Option.map_eq_some_iff] at h
    obtain ⟨hvalue, named, hnamed, rfl⟩ := h
    have hsorted := named.pairwise_insertionSort (· ≤ ·)
    rw [hsorted.destutter_eq_dedup]
    obtain rfl := mapM_partitionNode hnamed
    refine ⟨?_, ?_, fun node => ?_⟩
    · simpa [eq_nil_iff_forall_not_mem] using hvalue
    · exact (hsorted.sublist (dedup_sublist _)).sortedLE.sortedLT_of_nodup (nodup_dedup _)
    · simp [namedNodes, hvalues]
  next => cases h

theorem toList_partitionGroupKey (nodes : List Nat) :
    (partitionGroupKey nodes).toList = [','].intercalate (nodes.map (Nat.toDigits 10)) := by
  simp [partitionGroupKey, String.toList_intercalate, Function.comp_def]

theorem bar_notMem (nodes : List Nat) : '|' ∉ (partitionGroupKey nodes).toList := by
  have hdigits : ∀ node, '|' ∉ Nat.toDigits 10 node := Json.notMem_toDigits rfl
  rw [toList_partitionGroupKey]
  induction nodes with
  | nil => simp
  | cons node nodes ih =>
    cases nodes with
    | nil => simp [hdigits]
    | cons next nodes =>
      rw [map_cons, map_cons, intercalate_cons_cons]
      simpa [hdigits] using ih

/-- The digits between the commas give the nodes back. -/
theorem partitionGroupKey_inj (hnodes : nodes ≠ []) (hnodes' : nodes' ≠ [])
    (h : partitionGroupKey nodes = partitionGroupKey nodes') : nodes = nodes' := by
  have hsplit : ∀ {nodes : List Nat}, nodes ≠ [] →
      (splitOn ',' (partitionGroupKey nodes).toList).map (Nat.ofDigitChars 10 · 0) = nodes := by
    intro nodes hnodes
    rw [toList_partitionGroupKey, splitOn_intercalate]
    · simp [Function.comp_def, Nat.ofDigitChars_ten_toDigits]
    · simpa using fun node _ => Json.notMem_toDigits rfl node
    · simpa using hnodes
  rw [← hsplit hnodes, h, hsplit hnodes']

theorem partitionGroupKey_eq_iff (h : partitionGroup detail field = some nodes)
    (h' : partitionGroup detail' field' = some nodes') :
    partitionGroupKey nodes = partitionGroupKey nodes' ↔
      namedNodes detail field = namedNodes detail' field' := by
  obtain ⟨hsome, hsorted, hmem⟩ := partitionGroup_spec h
  obtain ⟨hsome', hsorted', hmem'⟩ := partitionGroup_spec h'
  constructor
  · intro hkey
    ext node
    rw [← hmem, ← hmem', partitionGroupKey_inj hsome hsome' hkey]
  · intro hnamed
    rw [hsorted.eq_of_mem_iff hsorted' fun node => by rw [hmem, hmem', hnamed]]

theorem joined_eq_iff {left right left' right' : String} (hleft : '|' ∉ left.toList)
    (hright : '|' ∉ right.toList) (hleft' : '|' ∉ left'.toList) (hright' : '|' ∉ right'.toList) :
    left ++ "|" ++ right = left' ++ "|" ++ right' ↔ left = left' ∧ right = right' := by
  have hsplit : ∀ {left right : String}, '|' ∉ left.toList → '|' ∉ right.toList →
      splitOn '|' (left ++ "|" ++ right).toList = [left.toList, right.toList] := by
    intro left right hleft hright
    have hparts : ∀ part ∈ [left.toList, right.toList], '|' ∉ part := by simp [hleft, hright]
    simpa [intercalate_cons_cons] using splitOn_intercalate '|' hparts (by simp)
  constructor
  · intro h
    have hparts := hsplit hleft hright
    rw [h, hsplit hleft' hright'] at hparts
    simpa [String.toList_inj, eq_comm] using hparts
  · rintro ⟨rfl, rfl⟩
    rfl

/-- The key of an event lists its two groups in the order of their texts. -/
theorem partitionKey_eq_some {key : String} (h : partitionKey detail = some key) :
    ∃ groupA groupB, partitionGroup detail "group_a" = some groupA ∧
      partitionGroup detail "group_b" = some groupB ∧
      key = min (partitionGroupKey groupA) (partitionGroupKey groupB) ++ "|" ++
        max (partitionGroupKey groupA) (partitionGroupKey groupB) := by
  simp only [partitionKey, bind, Option.bind_eq_some_iff] at h
  obtain ⟨groupA, ha, groupB, hb, h⟩ := h
  refine ⟨groupA, groupB, ha, hb, ?_⟩
  split at h
  next hless =>
    cases h
    rw [min_eq_right hless.le, max_eq_left hless.le]
  next hless =>
    cases h
    rw [min_eq_left (not_lt.mp hless), max_eq_right (not_lt.mp hless)]

/-- Two events have one key exactly if they name the same two sets of nodes. -/
theorem partition_keys_canonical {key key' : String} (h : partitionKey detail = some key)
    (h' : partitionKey detail' = some key') :
    key = key' ↔
      s(namedNodes detail "group_a", namedNodes detail "group_b") =
        s(namedNodes detail' "group_a", namedNodes detail' "group_b") := by
  obtain ⟨groupA, groupB, ha, hb, rfl⟩ := partitionKey_eq_some h
  obtain ⟨groupA', groupB', ha', hb', rfl⟩ := partitionKey_eq_some h'
  have hmin : ∀ group group',
      '|' ∉ (min (partitionGroupKey group) (partitionGroupKey group')).toList := fun _ _ =>
    min_rec' (fun key : String => '|' ∉ key.toList) (bar_notMem _) (bar_notMem _)
  have hmax : ∀ group group',
      '|' ∉ (max (partitionGroupKey group) (partitionGroupKey group')).toList := fun _ _ =>
    max_rec' (fun key : String => '|' ∉ key.toList) (bar_notMem _) (bar_notMem _)
  calc
    _ ↔ s(partitionGroupKey groupA, partitionGroupKey groupB) =
        s(partitionGroupKey groupA', partitionGroupKey groupB') := by
      rw [joined_eq_iff (hmin _ _) (hmax _ _) (hmin _ _) (hmax _ _)]
      exact @Sym2.inf_eq_inf_and_sup_eq_sup String _ s(_, _) s(_, _)
    _ ↔ _ := by
      rw [Sym2.eq_iff, Sym2.eq_iff, partitionGroupKey_eq_iff ha ha',
        partitionGroupKey_eq_iff hb hb', partitionGroupKey_eq_iff ha hb',
        partitionGroupKey_eq_iff hb ha']

theorem partition_keys_canonical_swapped :
    let first : List (String × Json) :=
      [("group_a", .array [.number 10, .number 2, .number 10]), ("group_b", .array [.number 3])]
    let second : List (String × Json) :=
      [("group_a", .array [.number 3]), ("group_b", .array [.number 2, .number 10])]
    s(namedNodes first "group_a", namedNodes first "group_b") =
      s(namedNodes second "group_a", namedNodes second "group_b") :=
  (@partition_keys_canonical _ _ "2,10|3" "2,10|3" (by decide +kernel) (by decide +kernel)).mp rfl

end Groups

end Bbp.RunReport
