/-!
Bounded numbers. Script quantities are whole numbers of 64 bits with a sign. Sums
stop at the ends of that range instead of running past them, and narrower fields
take the nearest number they can hold.
-/

namespace DungeonScript

/-- The least 64-bit number. -/
abbrev leastNumber : Int := -9223372036854775808
/-- The greatest 64-bit number. -/
abbrev greatestNumber : Int := 9223372036854775807

/-- A number of 64 bits with a sign. -/
abbrev InRange (v : Int) : Prop := leastNumber ≤ v ∧ v ≤ greatestNumber

/-- The number nearest to `v` between `lo` and `hi`. -/
def clamp (lo hi v : Int) : Int := max lo (min hi v)

/-- The 64-bit number nearest to `v`. -/
def saturate (v : Int) : Int := clamp leastNumber greatestNumber v

/-- The counter nearest to `v`: 64 bits without a sign. -/
def saturateCount (v : Int) : Nat := (clamp 0 18446744073709551615 v).toNat

/-- A 64-bit counter read as a number with a sign. -/
def signedCount (n : Nat) : Int := Int.bmod n 18446744073709551616

/-- A number that can name an item or a point of the map: 32 bits without a sign. -/
def itemNumber? (v : Int) : Option Nat :=
  if 0 ≤ v ∧ v < 4294967296 then some v.toNat else none

theorem signedCount_eq {n : Nat} (h : n < 9223372036854775808) : signedCount n = n :=
  Int.bmod_eq_of_le (by omega) (by omega)

theorem clamp_of_mem {lo hi v : Int} (hl : lo ≤ v) (hh : v ≤ hi) : clamp lo hi v = v := by
  unfold clamp; omega

theorem saturate_of_inRange {v : Int} (h : InRange v) : saturate v = v := clamp_of_mem h.1 h.2

theorem itemNumber?_eq_some {v : Int} {n : Nat} :
    itemNumber? v = some n ↔ v = n ∧ n < 4294967296 := by
  unfold itemNumber?
  split <;> simp <;> omega

end DungeonScript
