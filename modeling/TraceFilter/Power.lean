/-
Module: TraceFilter.Power
Purpose: The powers of two and of ten, the bases of stored and of written numbers.
Main exports: powerOfTwo, powerOfTen, wordLimit
-/

namespace TraceFilter

/-- The powers of two. -/
def powerOfTwo (exponent : Nat) : Nat := Nat.pow 2 exponent

/-- The powers of ten. -/
def powerOfTen (exponent : Nat) : Nat := Nat.pow 10 exponent

/-- The first integer that 64 bits with a sign cannot hold. -/
def wordLimit : Int := 9223372036854775808

theorem powerOfTwo_pos (exponent : Nat) : 0 < powerOfTwo exponent :=
  Nat.pow_pos (by decide)

theorem powerOfTwo_add (first second : Nat) :
    powerOfTwo (first + second) = powerOfTwo first * powerOfTwo second :=
  Nat.pow_add 2 first second

theorem powerOfTwo_le {first second : Nat} (atMost : first ≤ second) :
    powerOfTwo first ≤ powerOfTwo second :=
  Nat.pow_le_pow_right (by decide) atMost

theorem powerOfTen_le {first second : Nat} (atMost : first ≤ second) :
    powerOfTen first ≤ powerOfTen second :=
  Nat.pow_le_pow_right (by decide) atMost

theorem powerOfTen_pos (exponent : Nat) : 0 < powerOfTen exponent :=
  Nat.pow_pos (by decide)

end TraceFilter
