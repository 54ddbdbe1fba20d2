/-!
# Saturating arithmetic

Points in time are 64-bit counts of milliseconds. A sum or a product that does not fit is the
greatest count there is, so that a time far in the future never becomes one in the past.
-/

namespace CloudAdmin.Saturating

/-- The greatest 64-bit word. -/
def greatest : UInt64 := 0xFFFFFFFFFFFFFFFF

/-- A number as a word, or the greatest word if it does not fit. -/
def ofNat (value : Nat) : UInt64 :=
  if value < UInt64.size then UInt64.ofNat value else greatest

def add (left right : UInt64) : UInt64 :=
  ofNat (left.toNat + right.toNat)

def mul (left right : UInt64) : UInt64 :=
  ofNat (left.toNat * right.toNat)

@[simp]
theorem toNat_ofNat (value : Nat) : (ofNat value).toNat = min value greatest.toNat := by
  unfold ofNat
  split
  · rename_i fits
    have same : greatest.toNat + 1 = UInt64.size := by decide
    rw [UInt64.toNat_ofNat_of_lt' fits]
    omega
  · rename_i large
    have same : greatest.toNat + 1 = UInt64.size := by decide
    omega

@[simp]
theorem toNat_add (left right : UInt64) :
    (add left right).toNat = min (left.toNat + right.toNat) greatest.toNat :=
  toNat_ofNat _

@[simp]
theorem toNat_mul (left right : UInt64) :
    (mul left right).toNat = min (left.toNat * right.toNat) greatest.toNat :=
  toNat_ofNat _

end CloudAdmin.Saturating
