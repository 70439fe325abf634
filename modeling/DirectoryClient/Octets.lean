/-! Strings of octets and the unsigned numbers they write, most significant octet first. -/
namespace DirectoryClient

abbrev Octets := List UInt8

namespace Octets

/-- The unsigned number that the octets write, of whatever length. No octets write zero. -/
def toNat (octets : Octets) : Nat :=
  octets.foldl (fun n b => n * 256 + b.toNat) 0

def bigEndian : Nat → Nat → Octets
  | 0, _ => []
  | count + 1, n => bigEndian count (n / 256) ++ [UInt8.ofNat (n % 256)]

def capacity : Nat → Nat
  | 0 => 1
  | count + 1 => 256 * capacity count

/-- How many octets a number needs; zero needs one. -/
def width (n : Nat) : Nat :=
  if n < 256 then 1 else width (n / 256) + 1
termination_by n

/-- The shortest octets that write the number. -/
def ofNat (n : Nat) : Octets :=
  bigEndian (width n) n

@[simp]
theorem length_bigEndian (count n : Nat) : (bigEndian count n).length = count := by
  induction count generalizing n with
  | zero => rfl
  | succ count ih => simp [bigEndian, ih]

private theorem toNat_append_singleton (octets : Octets) (b : UInt8) :
    toNat (octets ++ [b]) = toNat octets * 256 + b.toNat := by
  simp [toNat]

/-- Reading back the low octets of a number gives its remainder. -/
theorem toNat_bigEndian (count n : Nat) : toNat (bigEndian count n) = n % capacity count := by
  induction count generalizing n with
  | zero => simp [bigEndian, toNat, capacity, Nat.mod_one]
  | succ count ih =>
    rw [bigEndian, toNat_append_singleton, ih, UInt8.toNat_ofNat', capacity, Nat.mod_mul]
    omega

theorem lt_capacity_width (n : Nat) : n < capacity (width n) := by
  induction n using Nat.strongRecOn with
  | ind n ih =>
    rw [width]
    split
    · simp only [capacity]
      omega
    · have := ih (n / 256) (by omega)
      rw [capacity]
      omega

/-- A number is read back from its shortest octets. -/
theorem toNat_ofNat (n : Nat) : toNat (ofNat n) = n := by
  rw [ofNat, toNat_bigEndian, Nat.mod_eq_of_lt (lt_capacity_width n)]

end Octets

end DirectoryClient
