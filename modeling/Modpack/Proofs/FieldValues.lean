import Modpack.Host.Field

/-!
# When two field values are the same

The host compares numbers by their numerical value. That comparison is symmetric and transitive,
and it is reflexive except on what is not a number; a number whose distance from another one can
be compared at all is a number.
-/
open Float.Model (UnpackedFloat)

namespace Modpack

/-! ## Numbers -/

namespace Numerical

/-- Two comparisons in a row come out equal only between equal exponents and mantissas. -/
theorem compare_parts {exponent exponent' : Int} {mantissa mantissa' : Nat} :
    (compare exponent exponent').then (compare mantissa mantissa') = .eq ↔
      exponent = exponent' ∧ mantissa = mantissa' := by
  rw [Ordering.then_eq_eq, Int.compare_eq_eq, Nat.compare_eq_eq]

/-- Decoded numbers that compare equal are the same number, or both are a zero. -/
theorem unpacked_of_beq {left right : UnpackedFloat} (equal : left.beq right = true) :
    left.isNaN = false ∧
      (left = right ∨ ∃ first second, left = .zero first ∧ right = .zero second) := by
  have ordered : left.compare right = some .eq := eq_of_beq equal
  cases left with
  | notANumber => cases ordered
  | infinity sign =>
    refine ⟨rfl, .inl ?_⟩
    cases right with
    | infinity other => cases sign <;> cases other <;> first | rfl | cases ordered
    | _ => cases sign <;> cases ordered
  | zero sign =>
    cases right with
    | zero other => exact ⟨rfl, .inr ⟨sign, other, rfl, rfl⟩⟩
    | infinity other => cases other <;> cases ordered
    | finite other => cases other <;> cases ordered
    | notANumber => cases ordered
  | finite sign mantissa exponent positive =>
    refine ⟨rfl, .inl ?_⟩
    cases right with
    | finite other mantissa' exponent' positive' =>
      -- Between numbers of two signs the sign decides, and never for equal.
      cases sign <;> cases other
      case negative.positive | positive.negative => cases ordered
      case negative.negative =>
        obtain ⟨rfl, rfl⟩ := compare_parts.1 (Ordering.swap_eq_eq.1 (Option.some.inj ordered))
        rfl
      case positive.positive =>
        obtain ⟨rfl, rfl⟩ := compare_parts.1 (Option.some.inj ordered)
        rfl
    | infinity other => cases sign <;> cases other <;> cases ordered
    | _ => cases sign <;> cases ordered

/-- A decoded number compares equal to itself. -/
theorem unpacked_beq_self {value : UnpackedFloat} (number : value.isNaN = false) :
    value.beq value = true := by
  have ordered : value.compare value = some .eq := by
    cases value with
    | notANumber => cases number
    | infinity sign => cases sign <;> rfl
    | zero sign => rfl
    | finite sign mantissa exponent positive =>
      have same : (compare exponent exponent).then (compare mantissa mantissa) = .eq :=
        compare_parts.2 ⟨rfl, rfl⟩
      cases sign with
      | negative => exact congrArg some (Ordering.swap_eq_eq.2 same)
      | positive => exact congrArg some same
  exact beq_of_eq ordered

/-- Two decoded numbers compare equal when they are the same number or both a zero. -/
theorem unpacked_beq_iff (left right : UnpackedFloat) :
    left.beq right = true ↔ left.isNaN = false ∧
      (left = right ∨ ∃ first second, left = .zero first ∧ right = .zero second) := by
  refine ⟨unpacked_of_beq, ?_⟩
  rintro ⟨number, rfl | ⟨first, second, rfl, rfl⟩⟩
  · exact unpacked_beq_self number
  · rfl

/-- Two numbers compare equal when they decode to the same number or both to a zero. -/
theorem beq_iff (left right : Float) :
    (left == right) = true ↔ left.isNaN = false ∧ (left.toModel.unpack = right.toModel.unpack ∨
      ∃ first second, left.toModel.unpack = .zero first ∧ right.toModel.unpack = .zero second) :=
  unpacked_beq_iff left.toModel.unpack right.toModel.unpack

/-- A number compares equal to itself. -/
theorem beq_self {value : Float} (number : value.isNaN = false) : (value == value) = true :=
  (beq_iff value value).2 ⟨number, .inl rfl⟩

/-- What compares equal does so both ways. -/
theorem beq_symm {left right : Float} (equal : (left == right) = true) :
    (right == left) = true := by
  obtain ⟨number, same | ⟨first, second, zero, other⟩⟩ := (beq_iff left right).1 equal
  · refine (beq_iff right left).2 ⟨?_, .inl same.symm⟩
    change right.toModel.unpack.isNaN = false
    rw [← same]
    exact number
  · refine (beq_iff right left).2 ⟨?_, .inr ⟨second, first, other, zero⟩⟩
    change right.toModel.unpack.isNaN = false
    rw [other]
    rfl

/-- Numbers that compare equal to one compare equal. -/
theorem beq_trans {left middle right : Float} (first : (left == middle) = true)
    (second : (middle == right) = true) : (left == right) = true := by
  obtain ⟨number, same⟩ := (beq_iff left middle).1 first
  obtain ⟨_, again⟩ := (beq_iff middle right).1 second
  refine (beq_iff left right).2 ⟨number, ?_⟩
  rcases same with equal | ⟨sign, other, zero, zero'⟩
  · rw [equal]
    exact again
  · rcases again with equal' | ⟨sign', other', zero'', zero'''⟩
    · exact .inr ⟨sign, other, zero, equal' ▸ zero'⟩
    · exact .inr ⟨sign, other', zero, zero'''⟩

/-- What is not a number decodes to that. -/
theorem unpack_of_isNaN {value : Float} (nan : value.isNaN = true) :
    value.toModel.unpack = .notANumber := by
  change value.toModel.unpack.isNaN = true at nan
  cases decoded : value.toModel.unpack with
  | notANumber => rfl
  | _ =>
    rw [decoded] at nan
    cases nan

/-- The encoding of what is not a number decodes to that again. -/
theorem unpack_pack_notANumber : (Float.Model.pack .notANumber).unpack = .notANumber := by
  rfl

/-- A value whose distance from another exceeds some bound is a number. -/
theorem isNaN_eq_false_of_apart {value other bound : Float}
    (apart : (value - other).abs > bound) : value.isNaN = false := by
  rw [Bool.eq_false_iff]
  intro nan
  have difference : (value - other).toModel.unpack = .notANumber := by
    change (Float.Model.pack (UnpackedFloat.sub _ value.toModel.unpack other.toModel.unpack)).unpack
      = _
    rw [unpack_of_isNaN nan]
    exact unpack_pack_notANumber
  have distance : (value - other).abs.toModel.unpack = .notANumber := by
    change (Float.Model.pack (value - other).toModel.unpack.abs).unpack = _
    rw [difference]
    exact unpack_pack_notANumber
  have compared : UnpackedFloat.lt bound.toModel.unpack (value - other).abs.toModel.unpack
      = true := of_decide_eq_true apart
  rw [distance] at compared
  -- Nothing is below what is not a number.
  have ordered : bound.toModel.unpack.compare .notANumber = some .lt := eq_of_beq compared
  cases unpacked : bound.toModel.unpack <;> rw [unpacked] at ordered <;> cases ordered

end Numerical

/-! ## Values -/

namespace FieldValue

/-- A value is the same as itself unless it is not a number. -/
theorem same_self {value : FieldValue}
    (number : ∀ content, value = .float content → content.isNaN = false) :
    value.same value = true := by
  cases value with
  | float content => exact Numerical.beq_self (number content rfl)
  | _ => simp [same]

/-- Values that are the same are so both ways. -/
theorem same_symm {left right : FieldValue} (equal : left.same right = true) :
    right.same left = true := by
  cases left <;> cases right <;> simp_all [same]
  exact Numerical.beq_symm equal

/-- Values that are the same as one are the same. -/
theorem same_trans {left middle right : FieldValue} (first : left.same middle = true)
    (second : middle.same right = true) : left.same right = true := by
  cases left <;> cases middle <;> cases right <;> simp_all [same]
  exact Numerical.beq_trans first second

/-- Two pictures are the same only if they are equal. -/
theorem eq_of_same_asset {value : FieldValue} {path : String}
    (equal : value.same (.asset path) = true) : value = .asset path := by
  cases value <;> simp_all [same]

end FieldValue

end Modpack
