/-
ns-3 simulation time and addresses, as the routing table reads them.

`Time` is ns-3's `Time`: a signed 64-bit count of nanoseconds (`m_data`).  Its
`operator+` and `operator-` add the counts in `int64_t`, so a sum past the
range wraps around; `Time.ofInt` is that two's complement reduction and every
`Time` carries its range as a field, so an out-of-range time cannot be built.

* `Time.add_val`, `Time.sub_val` — the arithmetic on the counts;
* `Time.add_val_of_inRange` — a sum that fits is the plain sum;
* `Time.add_sub_cancel` — `(a + b) - b = a` for every pair of times, wrap
  or not (the lifetime that `Invalidate` stores is read back exactly).

Addresses are compared only with `==` and `<`, so an `Ipv4Address` is its
32-bit value as a natural number.
-/
import Mathlib.Data.Int.Order.Basic
import Mathlib.Order.Basic
import Mathlib.Algebra.Group.Int
import Mathlib.Order.Lattice

namespace Ns3

/-- The two's complement reduction of an integer into `int64_t`. -/
def wrap64 (x : Int) : Int := (x + 2 ^ 63) % 2 ^ 64 - 2 ^ 63

/-- A value `int64_t` can hold. -/
def InRange (x : Int) : Prop := -2 ^ 63 ≤ x ∧ x < 2 ^ 63

instance (x : Int) : Decidable (InRange x) := inferInstanceAs (Decidable (_ ∧ _))

theorem wrap64_inRange (x : Int) : InRange (wrap64 x) := by
  unfold InRange wrap64; omega

theorem wrap64_of_inRange {x : Int} (h : InRange x) : wrap64 x = x := by
  unfold InRange at h; unfold wrap64; omega

/-- ns-3 `Time`: a signed 64-bit count of nanoseconds. -/
structure Time where
  /-- The count of nanoseconds, `m_data`. -/
  val : Int
  inRange : InRange val

namespace Time

@[ext] theorem ext {a b : Time} (h : a.val = b.val) : a = b := by
  cases a; cases b; cases h; rfl

instance : DecidableEq Time := fun a b =>
  decidable_of_iff (a.val = b.val) ⟨ext, fun h => h ▸ rfl⟩

instance : Repr Time := ⟨fun t _ => repr t.val⟩

/-- The `Time` holding the `int64_t` value of an integer. -/
def ofInt (x : Int) : Time := ⟨wrap64 x, wrap64_inRange x⟩

instance : Add Time := ⟨fun a b => ofInt (a.val + b.val)⟩
instance : Sub Time := ⟨fun a b => ofInt (a.val - b.val)⟩

/-- Times are ordered by their counts (`operator<` on `m_data`). -/
instance : LinearOrder Time := LinearOrder.lift' val fun _ _ => ext

/-- `Time()`, zero nanoseconds. -/
instance : Inhabited Time := ⟨⟨0, by decide⟩⟩

/-- `Seconds(s)` for a whole number of seconds. -/
def seconds (s : Int) : Time := ofInt (s * 1000000000)

/-- `Time::IsStrictlyNegative`. -/
def IsStrictlyNegative (t : Time) : Bool := decide (t.val < 0)

@[simp] theorem lt_def {a b : Time} : a < b ↔ a.val < b.val := Iff.rfl
@[simp] theorem le_def {a b : Time} : a ≤ b ↔ a.val ≤ b.val := Iff.rfl
@[simp] theorem ofInt_val (x : Int) : (ofInt x).val = wrap64 x := rfl
@[simp] theorem add_val (a b : Time) : (a + b).val = wrap64 (a.val + b.val) := rfl
@[simp] theorem sub_val (a b : Time) : (a - b).val = wrap64 (a.val - b.val) := rfl
@[simp] theorem default_val : (default : Time).val = 0 := rfl
@[simp] theorem isStrictlyNegative_eq (t : Time) :
    t.IsStrictlyNegative = decide (t.val < 0) := rfl

theorem lo (t : Time) : -2 ^ 63 ≤ t.val := t.inRange.1
theorem hi (t : Time) : t.val < 2 ^ 63 := t.inRange.2

theorem add_val_of_inRange {a b : Time} (h : InRange (a.val + b.val)) :
    (a + b).val = a.val + b.val := by
  simp [wrap64_of_inRange h]

/-- Adding and then subtracting a time gives the first back, also when the sum
wraps: `int64_t` arithmetic is arithmetic modulo `2^64`. -/
theorem add_sub_cancel (a b : Time) : a + b - b = a := by
  ext
  have := a.lo; have := a.hi; have := b.lo; have := b.hi
  simp only [sub_val, add_val, wrap64]
  omega

end Time

/-- An IPv4 address, by its 32-bit value; `Ipv4Address()` is `102.102.102.102`. -/
abbrev Ipv4Address := Nat

/-- The value of a default-constructed `Ipv4Address`, `0x66666666`. -/
def Ipv4Address.default : Ipv4Address := 0x66666666

/-- `Ipv4InterfaceAddress`: the fields its `operator==` compares. -/
structure Ipv4InterfaceAddress where
  localAddress : Ipv4Address
  mask : Nat
  broadcast : Ipv4Address
  scope : Nat
  secondary : Bool
deriving DecidableEq, Repr

end Ns3
