import Mathlib
import Peg.Value

/-! # Equality of values is transitive

Numbers are compared by their exact values, whatever their kinds, and rows item by item. So values
that are the same as a third one are the same as each other.

* **`Number.beq_iff`**: two doubles are equal if they amount to the same: to infinity of one sign,
  or to one significand with one exponent, where zero has no sign.
* **`Number.IsScaled.unique`**: a double amounts to an integer in one way only, since a significand
  fills its bits unless the exponent is the least one.
* **`Value.same_trans`**: equality of values is transitive. -/

namespace Peg

open Float.Model (UnpackedFloat Format)

/-! ## Doubles -/

namespace Number

/-- What the shape of a double amounts to: infinity, negative or not, or a signed significand with
an exponent. Both zeros amount to the same; `none` is not a number. -/
@[simp] def Shape.amount? : Shape → Option (Bool ⊕ Int × Int)
  | .nan => none
  | .infinite negative => some (.inl negative)
  | .finite negative significand exponent =>
    some (.inr (if negative then -(significand : Int) else significand, exponent))

/-- The sign is a minus. -/
@[simp] def isNegative : UnpackedFloat.Sign → Bool
  | .negative => true
  | .positive => false

/-- The shape of an unpacked double. -/
@[simp] def shapeOf : UnpackedFloat → Shape
  | .infinity sign => .infinite (isNegative sign)
  | .notANumber => .nan
  | .zero sign => .finite (isNegative sign) 0 (-1074)
  | .finite sign significand exponent _ => .finite (isNegative sign) significand exponent

section Bits

variable (bits : BitVec Format.binary64.numBits)

/-- The mantissa is made of the lowest 52 bits. -/
theorem toNat_unpackMantissa :
    (UnpackedFloat.unpackMantissa bits).toNat = bits.toNat % Nat.pow 2 52 := by
  simp [UnpackedFloat.unpackMantissa, BitVec.extractLsb_toNat]

/-- The exponent is made of the eleven bits above the mantissa. -/
theorem toNat_unpackExponent :
    (UnpackedFloat.unpackExponent bits).toNat = bits.toNat / Nat.pow 2 52 % Nat.pow 2 11 := by
  simp [UnpackedFloat.unpackExponent, BitVec.extractLsb_toNat, Nat.shiftRight_eq_div_pow]

/-- The highest bit is the sign. -/
theorem isNegative_unpackSign :
    isNegative (.ofBitVec (UnpackedFloat.unpackSign bits))
      = (bits.toNat / Nat.pow 2 63 == 1) := by
  have bound : bits.toNat < 2 ^ 64 := bits.isLt
  have sign : (UnpackedFloat.unpackSign bits).toNat = bits.toNat / 2 ^ 63 := by
    simp only [UnpackedFloat.unpackSign, BitVec.toNat_cast, BitVec.extractLsb_toNat,
      Nat.shiftRight_eq_div_pow]
    omega
  rw [UnpackedFloat.Sign.ofBitVec]
  split
  · rename_i zero
    rw [zero] at sign
    have : bits.toNat / Nat.pow 2 63 = 0 := sign.symm
    rw [this]
    rfl
  · rename_i one
    have : bits.toNat / Nat.pow 2 63 = 1 := by
      have : (UnpackedFloat.unpackSign bits).toNat ≠ 0 := fun zero =>
        one (BitVec.eq_of_toNat_eq zero)
      simp only [Nat.pow_eq]
      omega
    rw [this]
    rfl

/-- An exponent is known by its bits, read as a number. -/
theorem unpackExponent_eq_iff (value : BitVec Format.binary64.exponentBits) :
    UnpackedFloat.unpackExponent bits = value
      ↔ bits.toNat / Nat.pow 2 52 % Nat.pow 2 11 = value.toNat := by
  rw [← BitVec.toNat_inj, toNat_unpackExponent]

/-- The mantissa is zero exactly if its bits are. -/
theorem unpackMantissa_eq_zero_iff :
    UnpackedFloat.unpackMantissa bits = BitVec.ofNat Format.binary64.mantissaBitsWithoutImplicit 0
      ↔ bits.toNat % Nat.pow 2 52 = 0 := by
  rw [← BitVec.toNat_inj, toNat_unpackMantissa]
  rfl

/-- The implicit bit of a normal number counts for 2 to the power of 52. -/
theorem toNat_append_mantissa (mantissa : BitVec Format.binary64.mantissaBitsWithoutImplicit) :
    (BitVec.ofNat 1 1 ++ mantissa).toNat = mantissa.toNat + Nat.pow 2 52 := by
  rw [BitVec.toNat_append, ← Nat.shiftLeft_add_eq_or_of_lt mantissa.isLt, Nat.add_comm]
  rfl

end Bits

/-- The bits of a double are read in the same way as they are unpacked. -/
theorem shape_eq_shapeOf (x : Float) : shape x = shapeOf x.toModel.unpack := by
  obtain ⟨bits, isBits⟩ : ∃ bits : BitVec Format.binary64.numBits,
      x.toModel.toBits.toBitVec = bits := ⟨_, rfl⟩
  have read : x.toBits.toNat = bits.toNat := congrArg BitVec.toNat isBits
  have unpacked : x.toModel.unpack = UnpackedFloat.unpack Format.binary64 bits :=
    congrArg (UnpackedFloat.unpack Format.binary64) isBits
  have highest : UnpackedFloat.unpackExponent bits = -BitVec.ofNat Format.binary64.exponentBits 1
      ↔ bits.toNat / Nat.pow 2 52 % Nat.pow 2 11 = 0x7FF := unpackExponent_eq_iff bits _
  have lowest : UnpackedFloat.unpackExponent bits = BitVec.ofNat Format.binary64.exponentBits 0
      ↔ bits.toNat / Nat.pow 2 52 % Nat.pow 2 11 = 0 := unpackExponent_eq_iff bits _
  have nothing := unpackMantissa_eq_zero_iff bits
  have bias : (Format.binary64.exponentBias : Int)
      + Format.binary64.mantissaBitsWithoutImplicit = 1075 := rfl
  have whole := toNat_append_mantissa (UnpackedFloat.unpackMantissa bits)
  rw [toNat_unpackMantissa] at whole
  simp only [unpacked, UnpackedFloat.unpack, shape, read, beq_iff_eq]
  by_cases high : bits.toNat / Nat.pow 2 52 % Nat.pow 2 11 = 0x7FF
  · -- an exponent of ones only: infinity, or not a number
    rw [if_pos (highest.2 high), if_pos high]
    by_cases none : bits.toNat % Nat.pow 2 52 = 0
    · rw [if_pos (nothing.2 none), if_pos none, shapeOf, isNegative_unpackSign]
    · rw [if_neg (fun zero => none (nothing.1 zero)), if_neg none]
      rfl
  rw [if_neg (fun ones => high (highest.1 ones)), if_neg high]
  by_cases low : bits.toNat / Nat.pow 2 52 % Nat.pow 2 11 = 0
  · -- an exponent of zeros only: zero, or a significand without the implicit bit
    rw [if_pos (lowest.2 low), if_pos low]
    by_cases none : bits.toNat % Nat.pow 2 52 = 0
    · rw [dif_pos (nothing.2 none), none, shapeOf, isNegative_unpackSign]
    · rw [dif_neg (fun zero => none (nothing.1 zero))]
      simp only [shapeOf, isNegative_unpackSign, toNat_unpackExponent, toNat_unpackMantissa, low,
        bias]
      rfl
  · rw [if_neg (fun zeros => low (lowest.1 zeros)), if_neg low]
    simp only [shapeOf, isNegative_unpackSign, toNat_unpackExponent, bias]
    exact congrArg (Shape.finite _ · _) whole.symm

/-- Two unpacked doubles compare as equal if they amount to the same. -/
theorem compare_eq_iff (a b : UnpackedFloat) :
    a.compare b = some .eq
      ↔ ∃ amount, (shapeOf a).amount? = some amount ∧ (shapeOf b).amount? = some amount := by
  cases a with
  | notANumber => simp [UnpackedFloat.compare]
  | infinity sign =>
    cases b with
    | notANumber => simp [UnpackedFloat.compare]
    | infinity other =>
      cases sign <;> cases other <;> simp [UnpackedFloat.compare] <;> decide
    | zero other => cases sign <;> simp [UnpackedFloat.compare]
    | finite other significand exponent positive => cases sign <;> simp [UnpackedFloat.compare]
  | zero sign =>
    cases b with
    | notANumber => simp [UnpackedFloat.compare]
    | infinity other => cases other <;> simp [UnpackedFloat.compare]
    | zero other => simp [UnpackedFloat.compare]
    | finite other significand exponent positive =>
      cases other <;> simp [UnpackedFloat.compare] <;> omega
  | finite sign significand exponent positive =>
    cases b with
    | notANumber => simp [UnpackedFloat.compare]
    | infinity other => cases other <;> simp [UnpackedFloat.compare]
    | zero other => cases sign <;> simp [UnpackedFloat.compare] <;> omega
    | finite other significand' exponent' positive' =>
      cases sign <;> cases other <;>
        simp [UnpackedFloat.compare, Ordering.then_eq_eq] <;> omega

/-- **Two doubles are equal** if they amount to the same. -/
theorem beq_iff (x y : Float) :
    x == y ↔ ∃ amount, (shape x).amount? = some amount ∧ (shape y).amount? = some amount := by
  have compared : (x == y) = (x.toModel.unpack.compare y.toModel.unpack == some .eq) := rfl
  rw [compared, beq_iff_eq, compare_eq_iff, ← shape_eq_shapeOf, ← shape_eq_shapeOf]

/-! ### Integers -/

/-- The integer is the significand times a power of two. -/
def IsScaled (n significand exponent : Int) : Prop :=
  n * 2 ^ (-exponent).toNat = significand * 2 ^ exponent.toNat

/-- Significands are as long as the exponent allows. -/
def IsNormal (significand exponent : Int) : Prop :=
  significand.natAbs < 2 ^ 53 ∧ -1074 ≤ exponent ∧ (exponent ≠ -1074 → 2 ^ 52 ≤ significand.natAbs)

/-- The significand of a finite number is normal for its exponent, also where the number is zero or
subnormal. -/
theorem isNormal_of_amount? {x : Float} {significand exponent : Int}
    (amounts : (shape x).amount? = some (.inr (significand, exponent))) :
    IsNormal significand exponent := by
  have fraction : x.toBits.toNat % Nat.pow 2 52 < 2 ^ 52 := Nat.mod_lt _ (by decide)
  simp only [shape] at amounts
  generalize x.toBits.toNat % Nat.pow 2 52 = bits at fraction amounts
  generalize x.toBits.toNat / Nat.pow 2 52 % Nat.pow 2 11 = field at amounts
  have implicit : Nat.pow 2 52 = 2 ^ 52 := rfl
  split at amounts
  · split at amounts <;> cases amounts
  split at amounts
  · cases amounts
    refine ⟨?_, Int.le_refl _, fun differs => absurd rfl differs⟩
    split <;> omega
  · rename_i nonzero
    rw [beq_iff_eq] at nonzero
    cases amounts
    refine ⟨?_, by omega, fun _ => ?_⟩
    · rw [implicit]
      split <;> omega
    · rw [implicit]
      split <;> omega

/-- An integer equals a floating-point number exactly if that is finite and of the same amount. -/
theorem compareInt_eq_iff (n : Int) (x : Float) :
    compareInt n x = some .eq ↔ ∃ significand exponent,
      (shape x).amount? = some (.inr (significand, exponent))
        ∧ IsScaled n significand exponent := by
  rw [compareInt]
  cases shape x with
  | nan => simp
  | infinite negative => cases negative <;> simp
  | finite negative significand exponent =>
    by_cases positive : 0 ≤ exponent
    · have : (-exponent).toNat = 0 := by omega
      simp [IsScaled, positive, this]
    · have : exponent.toNat = 0 := by omega
      simp [IsScaled, positive, this]

/-- Between two ways to scale to one integer there is a power of two. -/
theorem IsScaled.eq_mul {n significand exponent other : Int} {steps : Nat}
    (scaled : IsScaled n significand exponent) (scaledToo : IsScaled n other (exponent + steps)) :
    significand = other * 2 ^ steps := by
  have exponents : (exponent + steps).toNat + (-exponent).toNat
      = steps + (exponent.toNat + (-(exponent + steps)).toNat) := by omega
  have common : (0 : Int) < 2 ^ (exponent.toNat + (-(exponent + steps)).toNat) := by positivity
  apply mul_right_cancel₀ common.ne'
  calc significand * 2 ^ (exponent.toNat + (-(exponent + steps)).toNat)
      = n * 2 ^ (-exponent).toNat * 2 ^ (-(exponent + steps)).toNat := by
        rw [pow_add, ← mul_assoc, ← scaled]
    _ = other * 2 ^ (exponent + steps).toNat * 2 ^ (-exponent).toNat := by
        rw [mul_right_comm, scaledToo]
    _ = other * 2 ^ steps * 2 ^ (exponent.toNat + (-(exponent + steps)).toNat) := by
        rw [mul_assoc, ← pow_add, exponents, pow_add, mul_assoc]

/-- **A double amounts to an integer in one way.** -/
theorem IsScaled.unique {n significand exponent significand' exponent' : Int}
    (scaled : IsScaled n significand exponent) (normal : IsNormal significand exponent)
    (scaled' : IsScaled n significand' exponent') (normal' : IsNormal significand' exponent')
    (le : exponent ≤ exponent') : significand = significand' ∧ exponent = exponent' := by
  obtain ⟨steps, rfl⟩ := Int.le.dest le
  have multiple := scaled.eq_mul scaled'
  cases steps with
  | zero => simpa using multiple
  | succ steps =>
    -- the one with the greater exponent has a full significand, so the other one is too long
    exfalso
    have long : 2 ^ 52 ≤ significand'.natAbs := normal'.2.2 (by have := normal.2.1; omega)
    have two : 2 ≤ 2 ^ (steps + 1) := by
      rw [pow_succ]
      have := steps.one_le_two_pow
      omega
    have length : significand.natAbs = significand'.natAbs * 2 ^ (steps + 1) := by
      rw [multiple, Int.natAbs_mul, Int.natAbs_pow]
      rfl
    have := Nat.mul_le_mul long two
    have := normal.1
    omega

end Number

/-! ## Numbers of both kinds -/

namespace Num

/-- It does not matter on which side the floating-point number stands. -/
theorem same_float_comm (a : Num) (x : Float) :
    a.same (.float x) ↔ (Num.float x).same a := by
  cases a with
  | int a => exact Iff.rfl
  | float a =>
    simp only [same, Number.beq_iff]
    exact exists_congr fun amount => and_comm

/-- Equality of numbers is symmetric, also between the two kinds. -/
theorem same_comm (a b : Num) : a.same b ↔ b.same a := by
  cases b with
  | float b => exact same_float_comm a b
  | int b =>
    cases a with
    | int a => rw [same, same, beq_iff_eq, beq_iff_eq, eq_comm]
    | float a => exact Iff.rfl

/-- Doubles that are equal are equal to the same integers. -/
theorem int_same_of_float {n : Int} {x y : Float} (first : (Num.int n).same (.float x))
    (second : (Num.float x).same (.float y)) : (Num.int n).same (.float y) := by
  simp only [same, beq_iff_eq, Number.compareInt_eq_iff] at first ⊢
  obtain ⟨significand, exponent, amounts, scaled⟩ := first
  obtain ⟨amount, left, right⟩ := (Number.beq_iff x y).1 second
  exact ⟨significand, exponent, right.trans (left.symm.trans amounts), scaled⟩

/-- Integers that are equal to one double are equal. -/
theorem int_same_through_float {m n : Int} {x : Float} (first : (Num.int m).same (.float x))
    (second : (Num.int n).same (.float x)) : m = n := by
  simp only [same, beq_iff_eq, Number.compareInt_eq_iff] at first second
  obtain ⟨significand, exponent, amounts, scaled⟩ := first
  obtain ⟨significand', exponent', amounts', scaled'⟩ := second
  rw [amounts] at amounts'
  cases amounts'
  exact mul_right_cancel₀ (by positivity) (scaled.trans scaled'.symm)

/-- Doubles that are equal to one integer are equal. -/
theorem float_same_through_int {n : Int} {x y : Float} (first : (Num.int n).same (.float x))
    (second : (Num.int n).same (.float y)) : (Num.float x).same (.float y) := by
  simp only [same, beq_iff_eq, Number.compareInt_eq_iff] at first second
  obtain ⟨significand, exponent, amounts, scaled⟩ := first
  obtain ⟨significand', exponent', amounts', scaled'⟩ := second
  have normal := Number.isNormal_of_amount? amounts
  have normal' := Number.isNormal_of_amount? amounts'
  obtain ⟨rfl, rfl⟩ : significand = significand' ∧ exponent = exponent' := by
    rcases Int.le_total exponent exponent' with le | le
    · exact scaled.unique normal scaled' normal' le
    · obtain ⟨rfl, rfl⟩ := scaled'.unique normal' scaled normal le
      exact ⟨rfl, rfl⟩
  exact (Number.beq_iff x y).2 ⟨_, amounts, amounts'⟩

/-- **Equality of numbers is transitive.** -/
theorem same_trans {a b c : Num} (first : a.same b) (second : b.same c) : a.same c := by
  cases a with
  | int a =>
    cases b with
    | int b =>
      rw [same, beq_iff_eq] at first
      exact first ▸ second
    | float b =>
      cases c with
      | int c => exact beq_iff_eq.2 (int_same_through_float first second)
      | float c => exact int_same_of_float first second
  | float a =>
    cases b with
    | int b =>
      cases c with
      | int c =>
        rw [same, beq_iff_eq] at second
        exact second ▸ first
      | float c => exact float_same_through_int first second
    | float b =>
      cases c with
      | int c => exact int_same_of_float second ((same_comm _ _).1 first)
      | float c =>
        obtain ⟨amount, left, right⟩ := (Number.beq_iff a b).1 first
        obtain ⟨other, leftToo, rightToo⟩ := (Number.beq_iff b c).1 second
        cases right.symm.trans leftToo
        exact (Number.beq_iff a c).2 ⟨amount, left, rightToo⟩

/-- Nothing is the same as what is not a number. -/
theorem not_same_nan (a : Num) : ¬ a.same (.float (0.0 / 0.0)) := by
  have shape : Number.shape (0.0 / 0.0) = .nan := by
    rw [Number.shape_eq_shapeOf]
    rfl
  cases a with
  | int a => simp [same, Number.compareInt, shape]
  | float a => simp [same, Number.beq_iff, shape]

end Num

/-! ## All values -/

namespace Value

/-- Apart from what is not a number, a number is the same as those of the same value. -/
theorem same_iff_of_num? {a : Value} {x : Num} (number : a.num? = some x)
    (proper : ∀ mark, a ≠ .nan mark) (b : Value) :
    a.same b ↔ ∃ y, b.num? = some y ∧ x.same y := by
  cases a <;> cases b <;> simp_all [same, num?]

/-- What is not a number is the same as itself only. -/
theorem nan_same_iff (mark : Nat) (b : Value) : (Value.nan mark).same b ↔ b = .nan mark := by
  have nothing (y : Num) : (Num.float (0.0 / 0.0)).same y = false := by
    rw [← Bool.not_eq_true, Num.same_comm]
    exact y.not_same_nan
  cases b with
  | nan other => rw [same, beq_iff_eq, nan.injEq, eq_comm]
  | _ => simp [same, num?, nothing]

/-- Equality is transitive from a number on, for everything that equals a number is one. Only the
marks of what is no number are left out, since they are told apart by identity. -/
theorem same_trans_of_num? {a b c : Value} {x : Num} (number : a.num? = some x)
    (proper : ∀ mark, a ≠ .nan mark) (first : a.same b) (second : b.same c) : a.same c := by
  obtain ⟨y, numberToo, same⟩ := (same_iff_of_num? number proper b).1 first
  have properToo : ∀ mark, b ≠ .nan mark := by
    rintro mark rfl
    cases numberToo
    exact x.not_same_nan same
  obtain ⟨z, last, sameToo⟩ := (same_iff_of_num? numberToo properToo c).1 second
  exact (same_iff_of_num? number proper c).2 ⟨z, last, Num.same_trans same sameToo⟩

/-- Nothing, texts, bytes and tokens are the same as themselves only. -/
theorem same_iff_eq {a : Value}
    (plain : a = .null ∨ (∃ text, a = .str text) ∨ (∃ content, a = .bytes content)
      ∨ ∃ lexeme, a = .token lexeme) (b : Value) : a.same b ↔ a = b := by
  obtain rfl | ⟨text, rfl⟩ | ⟨content, rfl⟩ | ⟨lexeme, rfl⟩ := plain <;>
    cases b <;> simp [same, num?]

/-- A pattern equals another one with the same source and the same flags, of the same kind of
text. -/
theorem pattern_same_iff (expression : Pattern) (b : Value) :
    (Value.pattern expression).same b
      ↔ ∃ other, b = .pattern other ∧ expression.dialect = other.dialect
        ∧ expression.source = other.source ∧ expression.flags = other.flags := by
  cases b <;> simp [same, num?, BEq.beq, and_assoc]

mutual

/-- **Equality of values is transitive.** -/
theorem same_trans {a b c : Value} (first : a.same b) (second : b.same c) : a.same c := by
  cases a with
  | bool truth => exact same_trans_of_num? rfl (by simp) first second
  | int number => exact same_trans_of_num? rfl (by simp) first second
  | float number => exact same_trans_of_num? rfl (by simp) first second
  | nan mark =>
    rw [nan_same_iff] at first
    exact first ▸ second
  | list items =>
    cases b with
    | list others =>
      cases c with
      | list more =>
        rw [same] at first second ⊢
        exact sameItems_trans first second
      | _ => simp [same, num?] at second
    | _ => simp [same, num?] at first
  | tuple items =>
    cases b with
    | tuple others =>
      cases c with
      | tuple more =>
        rw [same] at first second ⊢
        exact sameItems_trans first second
      | _ => simp [same, num?] at second
    | _ => simp [same, num?] at first
  | pattern expression =>
    obtain ⟨other, rfl, equal⟩ := (pattern_same_iff expression b).1 first
    obtain ⟨another, rfl, equalToo⟩ := (pattern_same_iff other c).1 second
    exact (pattern_same_iff expression _).2 ⟨another, rfl, equal.1.trans equalToo.1,
      equal.2.1.trans equalToo.2.1, equal.2.2.trans equalToo.2.2⟩
  | _ =>
    rw [same_iff_eq (by simp)] at first
    exact first ▸ second

/-- So is equality of rows. -/
theorem sameItems_trans {as bs cs : List Value} (first : sameItems as bs)
    (second : sameItems bs cs) : sameItems as cs := by
  cases as with
  | nil =>
    cases bs with
    | nil => exact second
    | cons b bs => simp [sameItems] at first
  | cons a as =>
    cases bs with
    | nil => simp [sameItems] at first
    | cons b bs =>
      cases cs with
      | nil => simp [sameItems] at second
      | cons c cs =>
        simp only [sameItems, Bool.and_eq_true] at first second ⊢
        exact ⟨same_trans first.1 second.1, sameItems_trans first.2 second.2⟩

end

end Value

end Peg
