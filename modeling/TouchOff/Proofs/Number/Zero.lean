import TouchOff.Proofs.Number.Whole

/-!
# Doubles without a value

The zeros and what is not a number have the value zero (`unpackedValue_eq_zero_iff`). Multiplied,
divided or added to one another they are such doubles again, and the nearest whole number is zero
(`nearestWhole_eq_zero`). Two doubles that are numerically equal can be told apart only if they are
zeros (`unpack_eq_of_beq`), so they have the same quotients or quotients without a value
(`quotients_of_beq`).
-/

open Float.Model Float.Model.UnpackedFloat

namespace TouchOff

/-- Zeros, and what is not a number, are all that stands for zero. -/
theorem unpackedValue_eq_zero_iff (u : UnpackedFloat) :
    unpackedValue u = 0 ↔ u = .notANumber ∨ ∃ s, u = .zero s := by
  cases u with
  | notANumber => exact iff_of_true rfl (.inl rfl)
  | infinity s =>
    have hvalue : unpackedValue (.infinity s) ≠ 0 := by
      cases s
      · simpa using Exact.beyond_pos.ne'
      · simpa using Exact.beyond_pos.ne'
    exact iff_of_false hvalue (by simp)
  | zero s => exact iff_of_true (unpackedValue_zero s) (.inr ⟨s, rfl⟩)
  | finite s m e hm =>
    have hvalue : unpackedValue (.finite s m e hm) ≠ 0 := by
      have hpos : (0 : ℚ) < m * 2 ^ e := by positivity
      cases s
      · simpa using hpos.ne'
      · simpa using hpos.ne'
    exact iff_of_false hvalue (by simp)

/-- What is not a number stands for zero when it is packed. -/
theorem value_packed_notANumber : value (packed .notANumber) = 0 := by
  rw [value, ofFloat_packed_canonical (u := .notANumber) fun h => by cases h]
  rfl

/-- What is packed has no value if it is not a number or a zero. -/
theorem value_packed_eq_zero {u : UnpackedFloat} (h : unpackedValue u = 0) :
    value (packed u) = 0 := by
  rcases (unpackedValue_eq_zero_iff u).1 h with rfl | ⟨s, rfl⟩
  · exact value_packed_notANumber
  · exact (value_zero s).2

/-- The double zero stands for zero. -/
theorem value_nought : value 0.0 = 0 := by
  have h : Exact.ofFloat 0.0 = .finite false 0 (-1074) := by decide
  rw [value, h, Exact.value, Nat.cast_zero, zero_mul]
  rfl

section
variable {x y : Float}

/-- An operation that makes what is not a number of such a one, and a zero or what is not a number
of a zero, takes a double without a value to one without a value. -/
theorem value_packed_apply_eq_zero {f : UnpackedFloat → UnpackedFloat}
    (hnumber : f .notANumber = .notANumber)
    (hzero : ∀ s, f (.zero s) = .notANumber ∨ ∃ t, f (.zero s) = .zero t) (hx : value x = 0) :
    value (packed (f x.toModel.unpack)) = 0 := by
  refine value_packed_eq_zero ((unpackedValue_eq_zero_iff _).2 ?_)
  rw [value_eq_unpackedValue, unpackedValue_eq_zero_iff] at hx
  rcases hx with hx | ⟨s, hx⟩
  · rw [hx]
    exact .inl hnumber
  · rw [hx]
    exact hzero s

/-- Nothing, divided, stands for nothing. -/
theorem value_quotient_eq_zero (hx : value x = 0) : value (x / y) = 0 := by
  refine value_packed_apply_eq_zero (f := (UnpackedFloat.div .binary64 · y.toModel.unpack))
    ?number (fun s => ?zero) hx
  case number => cases y.toModel.unpack <;> rfl
  case zero =>
    cases y.toModel.unpack with
    | notANumber => exact .inl rfl
    | infinity t => exact .inr ⟨_, rfl⟩
    | zero t => exact .inl rfl
    | finite t n f hn => exact .inr ⟨_, rfl⟩

/-- Nothing, multiplied, stands for nothing. -/
theorem value_product_eq_zero (hx : value x = 0) : value (x * y) = 0 := by
  refine value_packed_apply_eq_zero (f := (UnpackedFloat.mul .binary64 · y.toModel.unpack))
    ?number (fun s => ?zero) hx
  case number => cases y.toModel.unpack <;> rfl
  case zero =>
    cases y.toModel.unpack with
    | notANumber => exact .inl rfl
    | infinity t => exact .inl rfl
    | zero t => exact .inr ⟨_, rfl⟩
    | finite t n f hn => exact .inr ⟨_, rfl⟩

/-- Two nothings stand for nothing together. -/
theorem value_sum_eq_zero (hx : value x = 0) (hy : value y = 0) : value (x + y) = 0 := by
  change value (packed (UnpackedFloat.add .binary64 x.toModel.unpack y.toModel.unpack)) = 0
  refine value_packed_eq_zero ?_
  rw [value_eq_unpackedValue, unpackedValue_eq_zero_iff] at hx hy
  rw [unpackedValue_eq_zero_iff]
  rcases hx with hx | ⟨s, hx⟩ <;> rcases hy with hy | ⟨t, hy⟩ <;> rw [hx, hy]
  · exact .inl rfl
  · exact .inl rfl
  · exact .inl rfl
  · exact .inr ⟨_, (apply_ite UnpackedFloat.zero _ _ _).symm⟩

/-- The nearest whole number to a zero, or to what is not a number, is zero. -/
theorem nearestWhole_eq_zero (hx : value x = 0) : nearestWhole x = 0 := by
  by_cases hnumber : x.isNaN
  · rw [nearestWhole, (isNaN_iff x).1 hnumber]
  · have hfinite : x.isFinite := isFinite_of_abs_value_lt hnumber (by
      rw [hx, abs_zero]
      exact Exact.beyond_pos)
    exact nearestWhole_eq hfinite (by norm_num) (by rw [hx]; norm_num)

/-- Unpacked doubles that compare as equal are the same or two zeros. -/
theorem eq_of_compare_eq {u v : UnpackedFloat} (h : u.compare v = some .eq) :
    u = v ∨ unpackedValue u = 0 ∧ unpackedValue v = 0 := by
  cases u with
  | notANumber => cases h
  | infinity s =>
    cases v with
    | infinity t => cases s <;> cases t <;> first | exact .inl rfl | cases h
    | notANumber => cases s <;> cases h
    | zero t => cases s <;> cases h
    | finite t n f hn => cases s <;> cases h
  | zero s =>
    cases v with
    | notANumber => cases h
    | infinity t => cases t <;> cases h
    | zero t => exact .inr ⟨unpackedValue_zero s, unpackedValue_zero t⟩
    | finite t n f hn => cases t <;> cases h
  | finite s m e hm =>
    cases v with
    | notANumber => cases s <;> cases h
    | infinity t => cases s <;> cases t <;> cases h
    | zero t => cases s <;> cases h
    | finite t n f hn =>
      have hparts : (compare e f).then (compare m n) = .eq → e = f ∧ m = n := fun hcompare => by
        rw [Ordering.then_eq_eq] at hcompare
        exact ⟨compare_eq_iff_eq.1 hcompare.1, compare_eq_iff_eq.1 hcompare.2⟩
      cases s <;> cases t
      · obtain ⟨rfl, rfl⟩ := hparts (by
          rw [← Ordering.swap_eq_eq]
          exact Option.some.inj h)
        exact .inl rfl
      · cases h
      · cases h
      · obtain ⟨rfl, rfl⟩ := hparts (Option.some.inj h)
        exact .inl rfl

/-- Two doubles that are numerically equal are the same one or zeros. -/
theorem unpack_eq_of_beq (h : (x == y) = true) :
    x.toModel.unpack = y.toModel.unpack ∨ value x = 0 ∧ value y = 0 := by
  rw [value_eq_unpackedValue, value_eq_unpackedValue]
  exact eq_of_compare_eq (beq_iff_compare.1 h)

/-- Equal doubles have the same quotient, or two that stand for zero. -/
theorem quotients_of_beq (h : (x == y) = true) (z : Float) :
    x / z = y / z ∨ value (x / z) = 0 ∧ value (y / z) = 0 := by
  rcases unpack_eq_of_beq h with heq | ⟨hx, hy⟩
  · left
    change packed (UnpackedFloat.div .binary64 x.toModel.unpack z.toModel.unpack) = _
    rw [heq]
    rfl
  · exact .inr ⟨value_quotient_eq_zero hx, value_quotient_eq_zero hy⟩

end

end TouchOff
