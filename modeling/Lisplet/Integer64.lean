/-!
Integers of 64 bits. Arithmetic is done on unbounded integers and wraps once, into the range of
two's complement.
-/

namespace Lisplet

namespace Integer64

def least : Int := -0x8000000000000000

def greatest : Int := 0x7FFFFFFFFFFFFFFF

def modulus : Nat := 0x10000000000000000

/-- The integer of the range that is congruent modulo `2 ^ 64`. -/
def wrap (number : Int) : Int :=
  number.bmod modulus

theorem wrap_range (number : Int) : least ≤ wrap number ∧ wrap number ≤ greatest := by
  have lower := Int.le_bmod (x := number) (m := modulus) (by decide)
  have upper := Int.bmod_lt (x := number) (m := modulus) (by decide)
  unfold least greatest wrap
  simp only [modulus] at *
  omega

theorem toInt_ofInt (number : Int) : (Int64.ofInt number).toInt = wrap number :=
  Int64.toInt_ofInt

end Integer64

end Lisplet
