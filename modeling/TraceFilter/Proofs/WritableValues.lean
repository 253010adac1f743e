/-
Module: TraceFilter.Proofs.WritableValues
Purpose: Which integers can be written: all that a configuration writes and all that the clock
  gives. So the settings of an environment can always be recorded, and a default never has too many
  digits.
Main exports: Numeral.Denotes.isWritable, Numeral.isWritable_of_lt, Binary64.natAbs_lt_of_quantity,
  Settings.result_load, Settings.isWritable_defaultLimit, Surroundings.isWritable_endTs
-/
import TraceFilter.Proofs.Clamp
import TraceFilter.Proofs.WrittenIntegers

namespace TraceFilter

/-- What is looked up under a name is listed with that name. -/
theorem mem_of_lookup {β : Type} {pairs : List (String × β)} {name : String} {value : β}
    (found : pairs.lookup name = some value) : (name, value) ∈ pairs := by
  obtain ⟨before, after, rfl, _⟩ := List.lookup_eq_some_iff.1 found
  exact List.mem_append_right before List.mem_cons_self

/-! ### Integers that were written -/

namespace Numeral

theorem digitValue?_lt {c : Char} {value : Nat} (digit : Text.digitValue? c = some value) :
    value < 10 := by
  obtain ⟨range, _, rfl⟩ := Option.map_eq_some_iff.1 digit
  exact Nat.mod_lt _ (by decide)

theorem DigitsWritten.forall_lt {body : List Char} {digits : List Nat}
    (written : DigitsWritten body digits) : ∀ digit ∈ digits, digit < 10 := by
  induction written with
  | last digit => exact List.forall_mem_singleton.2 (digitValue?_lt digit)
  | next digit later ih => exact List.forall_mem_cons.2 ⟨digitValue?_lt digit, ih⟩
  | grouped digit later ih => exact List.forall_mem_cons.2 ⟨digitValue?_lt digit, ih⟩

theorem natAbs_apply (sign : Sign) (magnitude : Nat) :
    (sign.apply magnitude).natAbs = magnitude := by
  cases sign with
  | plus => exact Int.natAbs_natCast magnitude
  | minus => exact (Int.natAbs_neg _).trans (Int.natAbs_natCast magnitude)

/-- An integer that a text denotes can be written. -/
theorem Denotes.isWritable {text : String} {number : Int} (denotes : Denotes text number) :
    isWritable number = true := by
  cases denotes with
  | @intro _ _ _ _ sign digits _ _ written short _ =>
    have small : ∀ digit ∈ digits.reverse, digit < 10 := fun digit member =>
      written.forall_lt digit (List.mem_reverse.1 member)
    have counted : Nat.ofDigits 10 digits.reverse < powerOfTen digits.reverse.length :=
      Nat.ofDigits_lt_base_pow_length (by decide) small
    rw [List.length_reverse] at counted
    rw [isWritable_iff, natAbs_apply]
    exact Nat.lt_of_lt_of_le counted (powerOfTen_le short)

/-- The least integer that has too many digits. -/
theorem isWritable_leastLong : isWritable (10 ^ 4300) = false := by decide +kernel

/-- No integer needs more digits than one that is as far from zero. -/
theorem isWritable_of_natAbs_le {number other : Int} (nearer : number.natAbs ≤ other.natAbs)
    (writable : isWritable other = true) : isWritable number = true := by
  rw [isWritable_iff] at writable ⊢
  exact Nat.lt_of_le_of_lt nearer writable

/-- Far fewer than the most digits suffice for what doubles amount to. -/
theorem isWritable_of_lt {number : Int} {exponent : Nat}
    (small : number.natAbs < powerOfTwo exponent) (short : exponent ≤ 10000) :
    isWritable number = true := by
  have room : powerOfTwo 10000 ≤ powerOfTen maxDigits := by decide +kernel
  rw [isWritable_iff]
  calc number.natAbs < powerOfTwo exponent := small
    _ ≤ powerOfTwo 10000 := powerOfTwo_le short
    _ ≤ powerOfTen maxDigits := room

end Numeral

/-! ### Integers that doubles amount to -/

namespace Binary64

theorem significand_lt (x : Binary64) : x.significand < powerOfTwo 53 := by
  have fraction := x.fraction.isLt
  have room : powerOfTwo 53 = 2 * fractionLimit := by decide
  rw [significand, room]
  split <;> omega

theorem natAbs_units_lt (x : Binary64) : x.units.natAbs < powerOfTwo 2099 := by
  have magnitude : x.units.natAbs = x.significand * powerOfTwo x.scale := by
    rw [units]
    split
    · exact (Int.natAbs_neg _).trans (Int.natAbs_natCast _)
    · exact Int.natAbs_natCast _
  have scaled : powerOfTwo x.scale ≤ powerOfTwo 2046 :=
    powerOfTwo_le (Nat.sub_le_sub_right (Nat.le_of_lt_succ x.exponent.isLt) 1)
  have product : powerOfTwo 53 * powerOfTwo 2046 = powerOfTwo 2099 :=
    (powerOfTwo_add 53 2046).symm
  rw [magnitude, ← product]
  exact Nat.mul_lt_mul_of_lt_of_le x.significand_lt scaled (powerOfTwo_pos 2046)

/-- Only a finite double is somewhere on the line. -/
theorem units_of_quantity {x : Binary64} {units : Int} (placed : x.quantity = .exactly units) :
    units = x.units := by
  unfold quantity at placed
  split at placed
  · split at placed
    · cases placed
    · split at placed <;> cases placed
  · cases placed
    rfl

/-- The whole number that a double amounts to is bounded. -/
theorem natAbs_lt_of_quantity {x : Binary64} {number : Int} (placed : x.quantity = .ofInt number) :
    number.natAbs < powerOfTwo 2099 := by
  have same : number * unitsPerOne = x.units := units_of_quantity placed
  have bounded := x.natAbs_units_lt
  rw [← same, Int.natAbs_mul, Int.natAbs_natCast] at bounded
  exact Nat.lt_of_le_of_lt (Nat.le_mul_of_pos_right _ unitsPerOne_pos) bounded

end Binary64

/-- What the clock says is what some double amounts to. -/
theorem Surroundings.natAbs_lt_of_currentMillis {surroundings : Surroundings} {current : Int}
    (reads : surroundings.currentMillis = .ok current) : current.natAbs < powerOfTwo 2099 := by
  unfold currentMillis at reads
  split at reads
  · cases reads
  · next units placed =>
    cases reads
    rw [Binary64.units_of_quantity placed, Binary64.truncateUnits, Int.natAbs_tdiv]
    exact Nat.lt_of_le_of_lt (Nat.div_le_self _ _) (Binary64.natAbs_units_lt _)
  · cases reads

/-- The end of the time range that a policy derives from the clock can be written. -/
theorem Surroundings.isWritable_endTs {surroundings : Surroundings} {current : Int}
    (reads : surroundings.currentMillis = .ok current) (policy : EndTsPolicy) :
    Numeral.isWritable (policy.endTs current) = true := by
  have bounded := natAbs_lt_of_currentMillis reads
  cases policy with
  | legacyMicros =>
    have product : powerOfTwo 2099 * powerOfTwo 10 = powerOfTwo 2109 :=
      (powerOfTwo_add 2099 10).symm
    have scaled : (current * 1000).natAbs < powerOfTwo 2109 := by
      rw [Int.natAbs_mul, ← product]
      exact Nat.mul_lt_mul_of_lt_of_le bounded (by decide) (powerOfTwo_pos 10)
    exact Numeral.isWritable_of_lt scaled (by decide)
  | millis => exact Numeral.isWritable_of_lt bounded (by decide)

/-! ### Settings -/

namespace Settings

theorem isWritable_standardLimit : Numeral.isWritable standardLimit = true :=
  Numeral.isWritable_of_lt (by decide : _ < powerOfTwo 4) (by decide)

/-- A limit that is read from a text can be written. -/
theorem isWritable_of_readLimit_text {content : String} {limit : Int}
    (read : readLimit (.text content) = .ok (.ok limit)) : Numeral.isWritable limit = true := by
  simp only [readLimit] at read
  cases number? : Numeral.readAnyScript content with
  | error refusal => cases refusal <;> simp [number?] at read
  | ok number =>
    simp only [number?, Except.ok.injEq, positiveLimit] at read
    split at read
    · cases read
    · cases read
      exact (Numeral.readAnyScript_eq_ok_iff.1 number?).isWritable

theorem isWritable_of_limitOf {given : List (String × Value)} {limit : Int}
    (texts : ∀ field ∈ given, ∃ content, field.2 = .text content)
    (read : limitOf given = .ok (.ok limit)) : Numeral.isWritable limit = true := by
  unfold limitOf at read
  cases found : given.lookup "default_limit" with
  | none =>
    rw [found] at read
    cases read
    exact isWritable_standardLimit
  | some value =>
    obtain ⟨content, rfl⟩ : ∃ content, value = .text content := texts _ (mem_of_lookup found)
    rw [found] at read
    cases outcome : readLimit (.text content) with
    | error fault => simp [outcome, Except.map] at read
    | ok reading =>
      simp only [outcome, Except.map, Except.ok.injEq, mapError_eq_ok_iff] at read
      rw [read] at outcome
      exact isWritable_of_readLimit_text outcome

/-- The limit among settings that are made of texts can be written. -/
theorem isWritable_of_ofFields {given : List (String × Value)} {settings : Settings}
    (texts : ∀ field ∈ given, ∃ content, field.2 = .text content)
    (made : ofFields given = .ok settings) : Numeral.isWritable settings.defaultLimit = true := by
  simp only [ofFields, bind_eq_ok_iff] at made
  obtain ⟨limit, read, made⟩ := made
  split at made
  · cases made
    exact isWritable_of_limitOf texts read
  · cases made

/-- Settings can be written when their limit can. -/
theorem exists_plain {settings : Settings}
    (writable : Numeral.isWritable settings.defaultLimit = true) :
    ∃ text, settings.plain = .ok text := by
  have limit : (Value.int settings.defaultLimit).isWritable = true := writable
  have written := Value.ifWritable_of_writable limit (Value.int settings.defaultLimit).spelled
  exact ⟨_, by rw [plain, displayFields, Value.display, written]; rfl⟩

end Settings

/-- An environment gives texts. -/
theorem Environment.text_of_mem_given {environment : Environment} {given : String × Value}
    (member : given ∈ environment.given) : ∃ content, given.2 = .text content := by
  have text {name : String} {setting : Option String} (among : given ∈ field name setting) :
      ∃ content, given.2 = .text content := by
    unfold field at among
    split at among
    · cases among
    · split at among
      · cases among
      · exact ⟨_, congrArg Prod.snd (List.mem_singleton.1 among)⟩
  exact (List.mem_append.1 member).elim text text

namespace Settings

/-- Settings that an environment gives can be written, so recording them does not change what is
loaded. -/
theorem result_load (environment : Environment) (threshold : Level) :
    (load environment threshold).result = ofFields environment.given := by
  unfold load
  cases outcome : ofFields environment.given with
  | error fault => simp [outcome]
  | ok settings =>
    obtain ⟨text, written⟩ := exists_plain
      (isWritable_of_ofFields (fun _ => Environment.text_of_mem_given) outcome)
    rw [Observed.result_bind, Observed.result_ofExcept, outcome, ok_bind]
    split
    · rfl
    · simp [written]

/-- The limit of loaded settings can be written. -/
theorem isWritable_defaultLimit {environment : Environment} {threshold : Level}
    {settings : Settings} (loaded : (load environment threshold).result = .ok settings) :
    Numeral.isWritable settings.defaultLimit = true := by
  rw [result_load] at loaded
  exact isWritable_of_ofFields (fun _ => Environment.text_of_mem_given) loaded

end Settings

end TraceFilter
