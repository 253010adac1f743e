/-
Module: TraceFilter.Proofs.ValueEquivalence
Purpose: Equality of values is symmetric and transitive at any depth, and equal values agree in all
  that is asked of them: whether they are absent, given, usable as keys, and how they are hashed.
Main exports: Value.nestedInduction, Value.EqualAs, Value.same_iff_equalAs, Value.same_symm,
  Value.same_trans, Value.truthy_eq_of_same, Value.isHashable_eq_of_same, Value.hashCode_eq_of_same
-/
import Mathlib.Data.List.Forall2
import TraceFilter.Proofs.ValueEquality
import TraceFilter.Proofs.WritableValues
import TraceFilter.Request.Identity

namespace TraceFilter

/-! ### Places on the extended line -/

/-- Only what is at the same place compares as equal. -/
theorem Quantity.compare?_eq_iff {left right : Quantity} :
    left.compare? right = some .eq ↔ left = right ∧ left ≠ .undefined := by
  cases left <;> cases right <;> simp [Quantity.compare?]

/-- Only one integer is at a place of the extended line. -/
theorem Quantity.ofInt_inj {number other : Int} :
    Quantity.ofInt number = Quantity.ofInt other ↔ number = other := by
  have nonzero : (Binary64.unitsPerOne : Int) ≠ 0 :=
    Int.natCast_ne_zero.2 (Nat.pos_iff_ne_zero.1 Binary64.unitsPerOne_pos)
  rw [ofInt, ofInt, Quantity.exactly.injEq, Int.mul_eq_mul_right_iff nonzero]

/-- Only zero is at the place of zero. -/
theorem Quantity.ofInt_eq_zero_iff {number : Int} :
    Quantity.ofInt number = .exactly 0 ↔ number = 0 := by
  have zero : Quantity.ofInt 0 = .exactly 0 := by rw [ofInt, Int.zero_mul]
  rw [← zero, ofInt_inj]

theorem Binary64.units_eq_zero_iff {number : Binary64} :
    number.units = 0 ↔ number.significand = 0 := by
  have nonzero : powerOfTwo number.scale ≠ 0 :=
    Nat.pos_iff_ne_zero.1 (powerOfTwo_pos number.scale)
  have scaled : ((number.significand * powerOfTwo number.scale : Nat) : Int) = 0 ↔
      number.significand = 0 := by
    rw [Int.natCast_eq_zero, Nat.mul_eq_zero]
    exact or_iff_left nonzero
  unfold units
  cases number.negative with
  | false => exact scaled
  | true => exact Int.neg_eq_zero.trans scaled

/-- Of two lists that are related item by item, each item of the second has a partner. -/
theorem exists_of_forall₂ {α β : Type} {related : α → β → Prop} {items : List α} {others : List β}
    (pairwise : List.Forall₂ related items others) {other : β} (member : other ∈ others) :
    ∃ item ∈ items, related item other := by
  induction pairwise with
  | nil => cases member
  | cons first _ ih =>
    rcases List.mem_cons.1 member with rfl | later
    · exact ⟨_, List.mem_cons_self, first⟩
    · obtain ⟨item, own, partner⟩ := ih later
      exact ⟨item, List.mem_cons_of_mem _ own, partner⟩

namespace Value

/-! ### Induction over nested values -/

/-- What holds of every plain value, of a list when it holds of its items, and of a mapping when it
holds of its keys and values, holds of every value. -/
@[elab_as_elim]
theorem nestedInduction {motive : Value → Prop}
    (plain : ∀ value, value.isHashable = true → motive value)
    (list : ∀ items, (∀ item ∈ items, motive item) → motive (.list items))
    (mapping : ∀ entries : Entries, (∀ entry ∈ entries, motive entry.1 ∧ motive entry.2) →
      motive (.mapping entries)) (value : Value) : motive value := by
  refine @Value.rec motive (fun items => ∀ item ∈ items, motive item)
    (fun entries => ∀ entry ∈ entries, motive entry.1 ∧ motive entry.2)
    (fun entry => motive entry.1 ∧ motive entry.2)
    (plain .null rfl) ?_ ?_ ?_ ?_ list mapping ?_ ?_ ?_ ?_ ?_ value
  · exact fun truth => plain (.bool truth) rfl
  · exact fun number => plain (.int number) rfl
  · exact fun number identity => plain (.float number identity) rfl
  · exact fun characters => plain (.text characters) rfl
  · simp
  · exact fun item rest first later => List.forall_mem_cons.2 ⟨first, later⟩
  · simp
  · exact fun entry rest first later => List.forall_mem_cons.2 ⟨first, later⟩
  · exact fun key value first second => ⟨first, second⟩

/-! ### The ways in which two values are equal -/

/-- Lists are equal when their items are, in order and one by one. -/
theorem sameItems_iff {left right : List Value} : sameItems left right = true ↔
    List.Forall₂ (fun item other => item.same other = true) left right := by
  induction left generalizing right with
  | nil => cases right <;> simp [sameItems]
  | cons item rest ih =>
    cases right with
    | nil => simp [sameItems]
    | cons other others => rw [sameItems, Bool.and_eq_true, ih, List.forall₂_cons]

/-- Two values are equal as absent ones, as texts, as one and the same double, as numbers at the
same place of the extended line, as lists or as mappings. -/
inductive EqualAs : Value → Value → Prop where
  | null : EqualAs .null .null
  | text (characters : String) : EqualAs (.text characters) (.text characters)
  | double (number : Binary64) (identity : Nat) :
      EqualAs (.float number identity) (.float number identity)
  | number {left right : Value} (place : Quantity) (defined : place ≠ .undefined)
      (first : left.quantity? = some place) (second : right.quantity? = some place) :
      EqualAs left right
  | list {left right : List Value} (items : sameItems left right = true) :
      EqualAs (.list left) (.list right)
  | mapping {left right : Entries} (entries : left.same right = true) :
      EqualAs (.mapping left) (.mapping right)

theorem isSameDouble_iff {left right : Value} : left.isSameDouble right = true ↔
    ∃ number identity, left = .float number identity ∧ right = .float number identity := by
  cases left <;> cases right <;> simp [isSameDouble]

theorem same_iff_equalAs {left right : Value} : left.same right = true ↔ left.EqualAs right := by
  constructor
  · intro equal
    unfold same at equal
    split at equal
    · exact .null
    · next left right =>
      rw [eq_of_beq equal]
      exact .text right
    · exact .list equal
    · exact .mapping equal
    · rcases Bool.or_eq_true _ _ ▸ equal with one | compared
      · obtain ⟨number, identity, rfl, rfl⟩ := isSameDouble_iff.1 one
        exact .double number identity
      · split at compared
        · next first second one two =>
          obtain ⟨rfl, defined⟩ := Quantity.compare?_eq_iff.1 (eq_of_beq compared)
          exact .number first defined one two
        · cases compared
  · intro equal
    cases equal with
    | null => rfl
    | text characters => exact beq_self_eq_true characters
    | double number identity => exact same_self _
    | number place defined first second => exact same_of_quantity defined first second
    | list items => exact items
    | mapping entries => exact entries

/-! ### Symmetry and transitivity -/

/-- If a value equals another, then that one equals it. -/
theorem same_symm {left right : Value} (equal : left.same right = true) :
    right.same left = true := by
  induction left using nestedInduction generalizing right with
  | plain left hashable =>
    rw [same_iff_equalAs] at equal ⊢
    cases equal with
    | null => exact .null
    | text characters => exact .text characters
    | double number identity => exact .double number identity
    | number place defined first second => exact .number place defined second first
    | list => cases hashable
    | mapping => cases hashable
  | list items ih =>
    rw [same_iff_equalAs] at equal
    cases equal with
    | number _ _ first _ => cases first
    | list others =>
      have turned := (List.forall₂_and_left items _).2
        ⟨fun item member other => @ih item member other, sameItems_iff.1 others⟩
      apply sameItems_iff.2
      exact (turned.imp fun item other both => both.1 other both.2).flip
  | mapping entries ih =>
    rw [same_iff_equalAs] at equal
    cases equal with
    | number _ _ first _ => cases first
    | mapping others =>
      obtain ⟨found, covered⟩ := same_mapping_iff.1 others
      apply same_mapping_iff.2
      constructor
      · intro other member
        obtain ⟨entry, own, keys, values⟩ := covered other member
        exact ⟨entry, own, (ih entry own).1 keys, (ih entry own).2 values⟩
      · intro entry own
        obtain ⟨other, member, keys, values⟩ := found entry own
        exact ⟨other, member, (ih entry own).1 keys, (ih entry own).2 values⟩

theorem same_comm (left right : Value) : left.same right = right.same left := by
  rw [Bool.eq_iff_iff]
  exact ⟨same_symm, same_symm⟩

/-- The items of a list equal those of a third one if they equal those of a second one. -/
theorem sameItems_trans_of {items middle right : List Value}
    (trans : ∀ item ∈ items, ∀ {other further}, item.same other = true →
      other.same further = true → item.same further = true)
    (first : sameItems items middle = true) (second : sameItems middle right = true) :
    sameItems items right = true := by
  rw [sameItems_iff] at first second ⊢
  induction first generalizing right with
  | nil => exact second
  | cons equal rest ih =>
    cases second with
    | cons further later =>
      rw [List.forall_mem_cons] at trans
      exact .cons (trans.1 equal further) (ih trans.2 later)

/-- Two values that equal a third one in turn are equal. -/
theorem same_trans {left middle right : Value} (first : left.same middle = true)
    (second : middle.same right = true) : left.same right = true := by
  induction left using nestedInduction generalizing middle right with
  | plain left hashable =>
    rw [same_iff_equalAs] at first second
    cases first with
    | null => exact same_iff_equalAs.2 second
    | text characters => exact same_iff_equalAs.2 second
    | double => exact same_iff_equalAs.2 second
    | number place defined one two =>
      cases second with
      -- The value in the middle is at one place only.
      | number other _ three four =>
        rw [two] at three
        cases three
        exact same_of_quantity defined one four
      | double => exact same_of_quantity defined one two
      | null | text | list | mapping => cases two
    | list => cases hashable
    | mapping => cases hashable
  | list items ih =>
    rw [same_iff_equalAs] at first second
    cases first with
    | number _ _ one _ => cases one
    | list others =>
      cases second with
      | number _ _ three _ => cases three
      | list further => exact sameItems_trans_of (fun item member => ih item member) others further
  | mapping entries ih =>
    rw [same_iff_equalAs] at first second
    cases first with
    | number _ _ one _ => cases one
    | mapping others =>
      cases second with
      | number _ _ three _ => cases three
      | mapping further =>
        obtain ⟨found, covered⟩ := same_mapping_iff.1 others
        obtain ⟨foundNext, coveredNext⟩ := same_mapping_iff.1 further
        apply same_mapping_iff.2
        constructor
        · intro entry own
          obtain ⟨between, inMiddle, keys, values⟩ := found entry own
          obtain ⟨other, member, keysNext, valuesNext⟩ := foundNext between inMiddle
          exact ⟨other, member, (ih entry own).1 keys keysNext, (ih entry own).2 values valuesNext⟩
        · intro other member
          obtain ⟨between, inMiddle, keysNext, valuesNext⟩ := coveredNext other member
          obtain ⟨entry, own, keys, values⟩ := covered between inMiddle
          exact ⟨entry, own, (ih entry own).1 keys keysNext, (ih entry own).2 values valuesNext⟩

/-- A value that equals one of two equal ones equals the other as well. -/
theorem same_congr {left right : Value} (equal : left.same right = true) (other : Value) :
    left.same other = right.same other := by
  rw [Bool.eq_iff_iff]
  exact ⟨same_trans (same_symm equal), same_trans equal⟩

theorem same_congr_right {left right : Value} (equal : left.same right = true) (other : Value) :
    other.same left = other.same right := by
  rw [same_comm other left, same_comm other right, same_congr equal]

/-! ### What equal values have in common -/

/-- A number counts as given unless its place is that of zero. -/
theorem truthy_iff_of_quantity {value : Value} {place : Quantity}
    (placed : value.quantity? = some place) : value.truthy = true ↔ place ≠ .exactly 0 := by
  cases value with
  | bool truth =>
    cases placed
    rw [ne_eq, Quantity.ofInt_eq_zero_iff]
    cases truth <;> simp [truthy]
  | int number =>
    cases placed
    rw [ne_eq, Quantity.ofInt_eq_zero_iff]
    exact bne_iff_ne
  | float number identity =>
    cases placed
    show (number.isSpecial || number.significand != 0) = true ↔ number.quantity ≠ .exactly 0
    unfold Binary64.quantity
    cases number.isSpecial with
    | true =>
      simp only [Bool.true_or, if_true, true_iff]
      split
      · nofun
      · split <;> nofun
    | false => simp [Binary64.units_eq_zero_iff]
  | null | text | list | mapping => cases placed

/-- A number is there, and it can be a key. -/
theorem plain_of_quantity {value : Value} {place : Quantity}
    (placed : value.quantity? = some place) : value.isNull = false ∧ value.isHashable = true := by
  cases value with
  | bool | int | float => exact ⟨rfl, rfl⟩
  | null | text | list | mapping => cases placed

/-- Equal values are both absent or both there. -/
theorem isNull_eq_of_same {left right : Value} (equal : left.same right = true) :
    left.isNull = right.isNull := by
  rw [same_iff_equalAs] at equal
  cases equal with
  | number place _ first second => rw [(plain_of_quantity first).1, (plain_of_quantity second).1]
  | null | text | double | list | mapping => rfl

/-- A number can be written unless it amounts to an integer that cannot. -/
theorem isWritable_iff_of_quantity {value : Value} {place : Quantity}
    (placed : value.quantity? = some place) :
    value.isWritable = true ↔
      ∀ number, place = .ofInt number → Numeral.isWritable number = true := by
  cases value with
  | bool truth =>
    cases placed
    refine iff_of_true rfl fun number same => ?_
    rw [← Quantity.ofInt_inj.1 same]
    cases truth <;> exact Numeral.isWritable_of_lt (by decide : _ < powerOfTwo 1) (by decide)
  | int number =>
    cases placed
    simp [Quantity.ofInt_inj]
  | float number identity =>
    cases placed
    refine iff_of_true rfl fun whole same => ?_
    exact Numeral.isWritable_of_lt (number.natAbs_lt_of_quantity same) (by decide)
  | null | text | list | mapping => cases placed

theorem isWritable_of_same {left right : Value} (equal : left.same right = true)
    (writable : left.isWritable = true) : right.isWritable = true := by
  induction left using nestedInduction generalizing right with
  | plain left hashable =>
    rw [same_iff_equalAs] at equal
    cases equal with
    | number place _ first second =>
      rw [isWritable_iff_of_quantity second, ← isWritable_iff_of_quantity first]
      exact writable
    | list | mapping => cases hashable
    | null | text | double => exact writable
  | list items ih =>
    rw [same_iff_equalAs] at equal
    cases equal with
    | number place _ first _ => cases first
    | list same =>
      rw [isWritable_list_iff] at writable ⊢
      intro other member
      obtain ⟨item, own, equal⟩ := exists_of_forall₂ (sameItems_iff.1 same) member
      exact ih item own equal (writable item own)
  | mapping entries ih =>
    rw [same_iff_equalAs] at equal
    cases equal with
    | number place _ first _ => cases first
    | mapping same =>
      rw [isWritable_mapping_iff] at writable ⊢
      intro other member
      obtain ⟨entry, own, keys, values⟩ := (same_mapping_iff.1 same).2 other member
      exact ⟨(ih entry own).1 keys (writable entry own).1,
        (ih entry own).2 values (writable entry own).2⟩

/-- Of two equal values either both can be written or neither. -/
theorem isWritable_eq_of_same {left right : Value} (equal : left.same right = true) :
    left.isWritable = right.isWritable := by
  rw [Bool.eq_iff_iff]
  exact ⟨isWritable_of_same equal, isWritable_of_same (same_symm equal)⟩

/-- Of two equal values either both count as given or neither. -/
theorem truthy_eq_of_same {left right : Value} (equal : left.same right = true) :
    left.truthy = right.truthy := by
  rw [same_iff_equalAs] at equal
  cases equal with
  | null | text | double => rfl
  | number place _ first second =>
    rw [Bool.eq_iff_iff, truthy_iff_of_quantity first, truthy_iff_of_quantity second]
  | list items =>
    rw [sameItems_iff] at items
    cases items <;> rfl
  | @mapping left right entries =>
    obtain ⟨found, covered⟩ := same_mapping_iff.1 entries
    cases left with
    | nil =>
      cases right with
      | nil => rfl
      | cons first rest => simpa using covered first List.mem_cons_self
    | cons first rest =>
      cases right with
      | nil => simpa using found first List.mem_cons_self
      | cons => rfl

end Value

end TraceFilter
