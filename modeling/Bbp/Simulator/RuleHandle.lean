import Bbp.Library.Json
import Bbp.Simulator.NetworkPartition

/-!
# The bytes behind the handle of a rule

A handle is a hash of the node, the addresses and the ports of a block rule.  The bytes that go
into the hash determine the rule when a source port stands between the addresses; without one only
the two addresses together are determined.
-/

namespace Bbp.Simulator

open List Library

section Bytes

def uint32Bytes (value : Nat) : List Nat := [0, 8, 16, 24].map fun shift => value >>> shift % 256

def portBytes (port : Nat) : List Nat := if port ≠ 0 then 255 :: uint32Bytes port else []

/-- What `StableRuleHandle` mixes into its hash, byte by byte. -/
def ruleBytes (rule : NetworkBlockRule) : List Nat :=
  uint32Bytes ((rule.nodeIndex + 1) % 2 ^ 32) ++ (stringBytes rule.srcAddress ++
    (portBytes rule.srcPort ++ stringBytes rule.dstAddress) ++ uint32Bytes rule.dstPort)

theorem mixUint32_eq (hash value : Nat) :
    mixUint32 hash value = (uint32Bytes value).foldl mixByte hash := by
  rw [uint32Bytes, foldl_map]
  rfl

theorem stableRuleHandle_eq (rule : NetworkBlockRule) :
    stableRuleHandle rule =
      let hash := (ruleBytes rule).foldl mixByte 2166136261 % 2 ^ 24
      if hash = 0 then 1 else hash := by
  have hport : ∀ hash, (portBytes rule.srcPort).foldl mixByte hash =
      if rule.srcPort ≠ 0 then mixUint32 (mixByte hash 255) rule.srcPort else hash := by
    intro hash
    unfold portBytes
    split
    · rw [mixUint32_eq, foldl_cons]
    · rw [foldl_nil]
  simp only [stableRuleHandle, ruleBytes, foldl_append, hport, mixUint32_eq, mixString]

theorem uint32Bytes_inj {value value' : Nat} (hvalue : value < 2 ^ 32) (hvalue' : value' < 2 ^ 32)
    (h : uint32Bytes value = uint32Bytes value') : value = value' := by
  simp only [uint32Bytes, map_cons, map_nil, cons.injEq, Nat.shiftRight_eq_div_pow] at h
  omega

theorem stringBytes_inj {text text' : String} (h : stringBytes text = stringBytes text') :
    text = text' := by
  have hbytes := map_injective_iff.mpr (fun _ _ => UInt8.toNat_inj.mp) h
  rw [← String.toByteArray_inj, ← String.utf8Encode_toList, ← String.utf8Encode_toList]
  exact congrArg List.toByteArray hbytes

theorem stringBytes_append (text text' : String) :
    stringBytes (text ++ text') = stringBytes text ++ stringBytes text' := by
  simp [stringBytes]

/-- The byte 255 begins no character and continues none. -/
theorem marker_notMem (text : String) : 255 ∉ stringBytes text := by
  intro hmem
  obtain ⟨byte, hbyte, hmarker⟩ := mem_map.mp hmem
  obtain ⟨c, -, hc⟩ := mem_flatMap.mp hbyte
  have hsmall : byte.toNat < 248 := by
    unfold String.utf8EncodeChar at hc
    dsimp only at hc
    split_ifs at hc <;>
      simp only [mem_cons, not_mem_nil, or_false] at hc <;>
      rcases hc with rfl | rfl | rfl | rfl <;>
      rw [UInt8.toNat_ofNat'] <;> omega
  omega

theorem split_at_marker {xs ys us vs : List Nat} (hx : 255 ∉ xs) (hy : 255 ∉ ys)
    (h : xs ++ 255 :: us = ys ++ 255 :: vs) : xs = ys ∧ us = vs := by
  have hbefore : ∀ {zs : List Nat} (ws), 255 ∉ zs →
      (zs ++ 255 :: ws).takeWhile (· != 255) = zs := by
    intro zs ws hz
    rw [takeWhile_append_of_pos fun z hmem => bne_iff_ne.mpr (ne_of_mem_of_not_mem hmem hz)]
    simp
  obtain rfl : xs = ys := by rw [← hbefore us hx, h, hbefore vs hy]
  exact ⟨rfl, (cons.inj (append_cancel_left h)).2⟩

end Bytes

section Addresses

/-- Four octets in decimal, between dots. -/
def IsDottedQuad (address : String) : Prop :=
  ∃ a < 256, ∃ b < 256, ∃ c < 256, ∃ d < 256, address.toList =
    Nat.toDigits 10 a ++ '.' :: (Nat.toDigits 10 b ++ '.' :: (Nat.toDigits 10 c ++ '.' ::
      Nat.toDigits 10 d))

structure NetworkBlockRule.Addressed (rule : NetworkBlockRule) : Prop where
  nodeIndex : rule.nodeIndex < 2 ^ 32 - 1
  srcAddress : rule.srcAddress = "" ∨ IsDottedQuad rule.srcAddress
  srcPort : rule.srcPort < 2 ^ 16
  dstAddress : IsDottedQuad rule.dstAddress
  dstPort : rule.dstPort < 2 ^ 16

variable {address : String}

/-- An address has one byte for each of its characters. -/
theorem length_stringBytes (h : address = "" ∨ IsDottedQuad address) :
    (stringBytes address).length = address.length := by
  have hascii : ∀ c ∈ address.toList, (String.utf8EncodeChar c).length = 1 := by
    intro c hc
    have hdigit : ∀ n, c ∈ Nat.toDigits 10 n → c.val ≤ 127 := by
      intro n hmem
      have hrange := Nat.isDigit_of_mem_toDigits (by decide) le_rfl hmem
      rw [Char.isDigit, Bool.and_eq_true, decide_eq_true_eq, decide_eq_true_eq] at hrange
      exact UInt32.le_trans hrange.2 (by decide)
    rw [String.length_utf8EncodeChar, Char.utf8Size_eq_one_iff]
    rcases h with rfl | ⟨_, -, _, -, _, -, _, -, haddress⟩
    · cases hc
    · simp only [haddress, mem_append, mem_cons] at hc
      rcases hc with hc | rfl | hc | rfl | hc | rfl | hc
      all_goals first | exact hdigit _ hc | decide
  rw [stringBytes, length_map, length_flatMap, map_congr_left hascii, map_const', sum_replicate,
    smul_eq_mul, mul_one, String.length_toList]

theorem count_dot (h : IsDottedQuad address) : address.toList.count '.' = 3 := by
  have hdigits : ∀ n, (Nat.toDigits 10 n).count '.' = 0 := fun n =>
    count_eq_zero.mpr (Json.notMem_toDigits rfl n)
  obtain ⟨a, -, b, -, c, -, d, -, haddress⟩ := h
  simp [haddress, hdigits]

variable {rule rule' : NetworkBlockRule}

theorem marker_mem (rule : NetworkBlockRule) :
    255 ∈ stringBytes rule.srcAddress ++ (portBytes rule.srcPort ++ stringBytes rule.dstAddress) ↔
      rule.srcPort ≠ 0 := by
  simp [portBytes, marker_notMem]

/-- The dots of two addresses tell whether there is a first one. -/
theorem empty_of_concat (h : rule.Addressed) (h' : rule'.Addressed) (hempty : rule.srcAddress = "")
    (hconcat : rule.srcAddress ++ rule.dstAddress = rule'.srcAddress ++ rule'.dstAddress) :
    rule'.srcAddress = "" := by
  have hdots := congrArg (fun text => text.toList.count '.') hconcat
  simp only [String.toList_append, count_append, hempty, count_dot h.dstAddress,
    count_dot h'.dstAddress] at hdots
  rcases h'.srcAddress with hsource | hsource
  · exact hsource
  · rw [count_dot hsource] at hdots
    cases hdots

/-- Equal bytes leave open at most where the first address ends. -/
theorem equal_bytes_agree (h : rule.Addressed) (h' : rule'.Addressed)
    (hbytes : ruleBytes rule = ruleBytes rule') :
    rule.nodeIndex = rule'.nodeIndex ∧ rule.srcPort = rule'.srcPort ∧
      rule.dstPort = rule'.dstPort ∧
      rule.srcAddress ++ rule.dstAddress = rule'.srcAddress ++ rule'.dstAddress ∧
      (rule.srcPort ≠ 0 ∨ rule.srcAddress = "" ∨
          rule.srcAddress.length = rule'.srcAddress.length →
        rule.srcAddress = rule'.srcAddress ∧ rule.dstAddress = rule'.dstAddress) := by
  obtain ⟨hnode, hrest⟩ := append_inj hbytes rfl
  obtain ⟨hfront, hdstPort⟩ := append_inj' hrest rfl
  have hnode := uint32Bytes_inj (Nat.mod_lt _ (by decide)) (Nat.mod_lt _ (by decide)) hnode
  have hdstPort := uint32Bytes_inj (h.dstPort.trans (by decide)) (h'.dstPort.trans (by decide))
    hdstPort
  have hnodes := h.nodeIndex
  have hnodes' := h'.nodeIndex
  have hmarker : rule.srcPort ≠ 0 ↔ rule'.srcPort ≠ 0 := by
    rw [← marker_mem rule, hfront, marker_mem rule']
  by_cases hport : rule.srcPort = 0
  · have hport' : rule'.srcPort = 0 := by
      by_contra hport'
      exact hmarker.mpr hport' hport
    simp only [portBytes, hport, hport', ne_eq, not_true, if_false, nil_append] at hfront
    have hconcat : rule.srcAddress ++ rule.dstAddress = rule'.srcAddress ++ rule'.dstAddress := by
      refine stringBytes_inj ?_
      rw [stringBytes_append, stringBytes_append]
      exact hfront
    refine ⟨by omega, hport.trans hport'.symm, hdstPort, hconcat, fun hplace => ?_⟩
    have hlength :
        (stringBytes rule.srcAddress).length = (stringBytes rule'.srcAddress).length := by
      rw [length_stringBytes h.srcAddress, length_stringBytes h'.srcAddress]
      rcases hplace with hplace | hempty | hlength
      · exact absurd hport hplace
      · rw [hempty, empty_of_concat h h' hempty hconcat]
      · exact hlength
    obtain ⟨hsource, htarget⟩ := append_inj hfront hlength
    exact ⟨stringBytes_inj hsource, stringBytes_inj htarget⟩
  · have hport' := hmarker.mp hport
    simp only [portBytes, if_pos hport, if_pos hport', cons_append] at hfront
    obtain ⟨hsource, hrest⟩ := split_at_marker (marker_notMem _) (marker_notMem _) hfront
    obtain ⟨hsrcPort, htarget⟩ := append_inj hrest rfl
    have hsource := stringBytes_inj hsource
    have htarget := stringBytes_inj htarget
    have hsrcPort := uint32Bytes_inj (h.srcPort.trans (by decide)) (h'.srcPort.trans (by decide))
      hsrcPort
    exact ⟨by omega, hsrcPort, hdstPort, by rw [hsource, htarget], fun _ => ⟨hsource, htarget⟩⟩

def shortSource : NetworkBlockRule := { srcAddress := "1.1.1.1", dstAddress := "12.2.2.2" }

def longSource : NetworkBlockRule := { srcAddress := "1.1.1.11", dstAddress := "2.2.2.2" }

theorem shortSource_addressed : shortSource.Addressed :=
  ⟨by decide, .inr ⟨1, by decide, 1, by decide, 1, by decide, 1, by decide, by decide +kernel⟩,
    by decide, ⟨12, by decide, 2, by decide, 2, by decide, 2, by decide, by decide +kernel⟩,
    by decide⟩

theorem longSource_addressed : longSource.Addressed :=
  ⟨by decide, .inr ⟨1, by decide, 1, by decide, 1, by decide, 11, by decide, by decide +kernel⟩,
    by decide, ⟨2, by decide, 2, by decide, 2, by decide, 2, by decide, by decide +kernel⟩,
    by decide⟩

theorem ruleBytes_shortSource : ruleBytes shortSource = ruleBytes longSource := by decide +kernel

theorem equal_bytes_agree_ambiguous :
    shortSource.srcAddress ++ shortSource.dstAddress =
      longSource.srcAddress ++ longSource.dstAddress :=
  (equal_bytes_agree shortSource_addressed longSource_addressed ruleBytes_shortSource).2.2.2.1

/-- Without a source port, the first address may end at two places. -/
theorem rule_bytes_are_ambiguous :
    shortSource.Addressed ∧ longSource.Addressed ∧ ruleBytes shortSource = ruleBytes longSource ∧
      stableRuleHandle shortSource = stableRuleHandle longSource ∧
      shortSource.srcAddress ≠ longSource.srcAddress := by
  refine ⟨shortSource_addressed, longSource_addressed, ruleBytes_shortSource, ?_, by decide +kernel⟩
  rw [stableRuleHandle_eq, stableRuleHandle_eq, ruleBytes_shortSource]

end Addresses

end Bbp.Simulator
