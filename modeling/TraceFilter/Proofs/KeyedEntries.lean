/-
Module: TraceFilter.Proofs.KeyedEntries
Purpose: Mappings as what stands under each key: no two keys of a mapping are equal, putting a value
  under a key changes what stands under that key only, and two mappings are equal exactly when the
  same keys have equal values.
Main exports: Entries.WellKeyed, Entries.get?, Entries.get?_put, Entries.WellKeyed.put,
  Entries.Agrees, Entries.same_iff_agrees, Entries.Agrees.put, Entries.exists_matching,
  Entries.exists_arrangement
-/
import TraceFilter.Proofs.ValueEquivalence

namespace TraceFilter

theorem samePair_iff {entry other : Value × Value} : samePair entry other = true ↔
    entry.1.same other.1 = true ∧ entry.2.same other.2 = true :=
  Bool.and_eq_true_iff

theorem samePair_symm {entry other : Value × Value} (equal : samePair entry other = true) :
    samePair other entry = true := by
  rw [samePair_iff] at equal ⊢
  exact equal.imp Value.same_symm Value.same_symm

namespace Entries

/-- Every key of a mapping can be one, and no two of them are equal. -/
structure WellKeyed (entries : Entries) : Prop where
  hashable : ∀ key ∈ entries.map Prod.fst, key.isHashable = true
  distinct : (entries.map Prod.fst).Pairwise fun key later => key.same later = false

/-- The value under a key. -/
def get? (entries : Entries) (key : Value) : Option Value :=
  (entries.find? (·.1.same key)).map Prod.snd

/-- Two mappings agree when they have the same keys with equal values. -/
def Agrees (left right : Entries) : Prop :=
  ∀ key, Option.Rel (fun value other => value.same other = true) (left.get? key) (right.get? key)

variable {entries left right : Entries} {key value : Value}

/-! ### What stands under a key -/

theorem get?_cons (entry : Value × Value) (rest : Entries) (key : Value) :
    get? (entry :: rest) key = if entry.1.same key then some entry.2 else rest.get? key := by
  unfold get?
  cases found : entry.1.same key <;> simp [found]

/-- Putting a value under a key changes what stands under that key, and nothing else. -/
theorem get?_put (entries : Entries) (key value other : Value) :
    (entries.put key value).get? other =
      if key.same other then some value else entries.get? other := by
  induction entries with
  | nil => rw [put, putWith, get?_cons]
  | cons entry rest ih =>
    obtain ⟨present, old⟩ := entry
    rw [put, putWith]
    cases here : present.same key with
    | true =>
      rw [if_pos rfl, get?_cons, get?_cons, Value.same_congr here other]
      cases key.same other <;> rfl
    | false =>
      rw [if_neg Bool.false_ne_true, get?_cons, get?_cons]
      cases there : present.same other with
      -- The entry that is asked for stands before the place where the value is put.
      | true =>
        have apart : key.same other = false := by
          rw [← Value.same_congr_right there, Value.same_comm]
          exact here
        rw [apart]
        rfl
      | false => exact ih

/-- What holds of all keys and values of a mapping, and of a key and a value that are put into it,
holds of all keys and values afterwards. -/
theorem forall_mem_put {ofKey ofValue : Value → Prop}
    (before : ∀ entry ∈ entries, ofKey entry.1 ∧ ofValue entry.2) (keyHolds : ofKey key)
    (valueHolds : ofValue value) :
    ∀ entry ∈ entries.put key value, ofKey entry.1 ∧ ofValue entry.2 := by
  induction entries with
  | nil =>
    rw [put, putWith, List.forall_mem_singleton]
    exact ⟨keyHolds, valueHolds⟩
  | cons first rest ih =>
    rw [List.forall_mem_cons] at before
    rw [put, putWith]
    split
    · exact List.forall_mem_cons.2 ⟨⟨before.1.1, valueHolds⟩, before.2⟩
    · exact List.forall_mem_cons.2 ⟨before.1, ih before.2⟩

/-- What stands under a key stands in an entry with an equal key. -/
theorem exists_of_get? (found : entries.get? key = some value) :
    ∃ entry ∈ entries, entry.1.same key = true ∧ entry.2 = value := by
  obtain ⟨entry, first, rfl⟩ := Option.map_eq_some_iff.1 found
  have equal := List.find?_some first
  exact ⟨entry, List.mem_of_find?_eq_some first, equal, rfl⟩

/-! ### Well-chosen keys -/

theorem wellKeyed_cons_iff {entry : Value × Value} {rest : Entries} :
    WellKeyed (entry :: rest) ↔ entry.1.isHashable = true ∧
      (∀ later ∈ rest, entry.1.same later.1 = false) ∧ WellKeyed rest := by
  constructor
  · intro keyed
    obtain ⟨first, hashable⟩ := List.forall_mem_cons.1 keyed.hashable
    obtain ⟨apart, distinct⟩ := List.pairwise_cons.1 keyed.distinct
    exact ⟨first, List.forall_mem_map.1 apart, hashable, distinct⟩
  · intro ⟨first, apart, keyed⟩
    exact ⟨List.forall_mem_cons.2 ⟨first, keyed.hashable⟩,
      List.pairwise_cons.2 ⟨List.forall_mem_map.2 apart, keyed.distinct⟩⟩

/-- A value that is put under a key that can be one leaves the keys well chosen. -/
theorem WellKeyed.put (keyed : entries.WellKeyed) (hashable : key.isHashable = true)
    (value : Value) : (entries.put key value).WellKeyed := by
  by_cases present : ∃ entry ∈ entries, entry.1.same key = true
  · have kept := keys_putWith_of_present Value.same entries key value present
    exact ⟨kept ▸ keyed.hashable, kept ▸ keyed.distinct⟩
  · have absent : ∀ entry ∈ entries, entry.1.same key = false := by
      intro entry member
      rw [Bool.eq_false_iff]
      exact fun equal => present ⟨entry, member, equal⟩
    rw [Entries.put, putWith_of_absent Value.same entries key value absent]
    constructor
    · rw [List.map_append, List.forall_mem_append]
      exact ⟨keyed.hashable, List.forall_mem_singleton.2 hashable⟩
    · rw [List.map_append, List.pairwise_append]
      refine ⟨keyed.distinct, List.pairwise_singleton _ _, ?_⟩
      intro earlier member last only
      rw [List.mem_singleton.1 only]
      obtain ⟨entry, own, rfl⟩ := List.mem_map.1 member
      exact absent entry own

/-- With well-chosen keys each entry is what stands under every key that equals its own. -/
theorem WellKeyed.get?_of_mem (keyed : entries.WellKeyed) {entry : Value × Value}
    (member : entry ∈ entries) (equal : entry.1.same key = true) :
    entries.get? key = some entry.2 := by
  induction entries with
  | nil => cases member
  | cons first rest ih =>
    obtain ⟨_, apart, later⟩ := wellKeyed_cons_iff.1 keyed
    rw [get?_cons]
    rcases List.mem_cons.1 member with rfl | further
    · rw [if_pos equal]
    · have other : first.1.same key = false := by
        rw [← Value.same_congr_right equal]
        exact apart entry further
      rw [other, if_neg Bool.false_ne_true]
      exact ih later further

/-! ### Equal mappings -/

/-- Equal mappings have equal values under every key. -/
theorem agrees_of_same (keyedLeft : left.WellKeyed) (keyedRight : right.WellKeyed)
    (equal : left.same right = true) : left.Agrees right := by
  obtain ⟨found, covered⟩ := Value.same_mapping_iff.1 equal
  intro key
  cases first : left.get? key with
  | some value =>
    obtain ⟨entry, own, same, rfl⟩ := exists_of_get? first
    obtain ⟨other, member, keys, values⟩ := found entry own
    rw [keyedRight.get?_of_mem member (Value.same_trans (Value.same_symm keys) same)]
    exact .some values
  | none =>
    cases second : right.get? key with
    | none => exact .none
    | some value =>
      obtain ⟨other, member, same, rfl⟩ := exists_of_get? second
      obtain ⟨entry, own, keys, _⟩ := covered other member
      rw [keyedLeft.get?_of_mem own (Value.same_trans keys same)] at first
      cases first

/-- An entry of a mapping with well-chosen keys has an equal one in every mapping that agrees. -/
theorem Agrees.exists_of_mem (agree : left.Agrees right) (keyed : left.WellKeyed)
    {entry : Value × Value} (member : entry ∈ left) :
    ∃ other ∈ right, entry.1.same other.1 = true ∧ entry.2.same other.2 = true := by
  have related := agree entry.1
  rw [keyed.get?_of_mem member (Value.same_self entry.1)] at related
  cases second : right.get? entry.1 with
  | none =>
    rw [second] at related
    cases related
  | some value =>
    rw [second] at related
    cases related with
    | some values =>
      obtain ⟨other, own, keys, rfl⟩ := exists_of_get? second
      exact ⟨other, own, Value.same_symm keys, values⟩

theorem Agrees.symm (agree : left.Agrees right) : right.Agrees left := by
  intro key
  have related := agree key
  cases first : left.get? key <;> cases second : right.get? key <;> rw [first, second] at related
  · exact .none
  · cases related
  · cases related
  · cases related with
    | some values => exact .some (Value.same_symm values)

/-- Two mappings with well-chosen keys are equal exactly when they agree. -/
theorem same_iff_agrees (keyedLeft : left.WellKeyed) (keyedRight : right.WellKeyed) :
    left.same right = true ↔ left.Agrees right := by
  constructor
  · exact agrees_of_same keyedLeft keyedRight
  · intro agree
    apply Value.same_mapping_iff.2
    constructor
    · intro entry member
      exact agree.exists_of_mem keyedLeft member
    · intro other member
      obtain ⟨entry, own, keys, values⟩ := agree.symm.exists_of_mem keyedRight member
      exact ⟨entry, own, Value.same_symm keys, Value.same_symm values⟩

/-- Mappings that agree still do when the same value is put under the same key of both. -/
theorem Agrees.put (agree : left.Agrees right) (key value : Value) :
    (left.put key value).Agrees (right.put key value) := by
  intro other
  rw [get?_put, get?_put]
  split
  · exact .some (Value.same_self value)
  · exact agree other

/-! ### Matching the entries of two mappings -/

theorem same_iff_found : left.same right = true ↔
    (∀ entry ∈ left, ∃ other ∈ right, samePair entry other = true) ∧
      ∀ other ∈ right, ∃ entry ∈ left, samePair entry other = true := by
  simp only [samePair_iff]
  exact Value.same_mapping_iff

/-- If each entry of a mapping is found in another, then they are matched with as many entries of
that one, each with one of its own. -/
theorem exists_matching (keyed : left.WellKeyed)
    (found : ∀ entry ∈ left, ∃ other ∈ right, samePair entry other = true) :
    ∃ matched spare, right.Perm (matched ++ spare) ∧
      List.Forall₂ (fun entry other => samePair entry other = true) left matched := by
  induction left generalizing right with
  | nil => exact ⟨[], right, .refl right, .nil⟩
  | cons entry rest ih =>
    obtain ⟨other, member, partner⟩ := found entry List.mem_cons_self
    obtain ⟨before, after, rfl⟩ := List.append_of_mem member
    obtain ⟨_, apart, keyedRest⟩ := wellKeyed_cons_iff.1 keyed
    have foundRest : ∀ later ∈ rest, ∃ further ∈ before ++ after,
        samePair later further = true := by
      intro later own
      obtain ⟨further, inRight, partnerOfLater⟩ := found later (List.mem_cons_of_mem entry own)
      rcases List.mem_cons.1 (List.perm_middle.mem_iff.1 inRight) with rfl | remaining
      -- Two entries with one partner would have equal keys.
      · have clash := apart later own
        rw [Value.same_trans (samePair_iff.1 partner).1
          (Value.same_symm (samePair_iff.1 partnerOfLater).1)] at clash
        cases clash
      · exact ⟨further, remaining, partnerOfLater⟩
    obtain ⟨matched, spare, rearranged, pairwise⟩ := ih keyedRest foundRest
    exact ⟨other :: matched, spare, List.perm_middle.trans (rearranged.cons other),
      .cons partner pairwise⟩

theorem length_le_of_found (keyed : left.WellKeyed)
    (found : ∀ entry ∈ left, ∃ other ∈ right, samePair entry other = true) :
    left.length ≤ right.length := by
  obtain ⟨matched, spare, rearranged, pairwise⟩ := exists_matching keyed found
  rw [rearranged.length_eq, List.length_append, pairwise.length_eq]
  exact Nat.le_add_right _ _

/-- The entries of a mapping of the same size can be arranged in the same order. -/
theorem exists_arrangement (keyed : left.WellKeyed) (sizes : left.length = right.length)
    (found : ∀ entry ∈ left, ∃ other ∈ right, samePair entry other = true) :
    ∃ arranged, right.Perm arranged ∧
      List.Forall₂ (fun entry other => samePair entry other = true) left arranged := by
  obtain ⟨matched, spare, rearranged, pairwise⟩ := exists_matching keyed found
  have none : spare = [] := by
    apply List.eq_nil_of_length_eq_zero
    have total := rearranged.length_eq
    rw [List.length_append, ← pairwise.length_eq] at total
    omega
  rw [none, List.append_nil] at rearranged
  exact ⟨matched, rearranged, pairwise⟩

end Entries

end TraceFilter
