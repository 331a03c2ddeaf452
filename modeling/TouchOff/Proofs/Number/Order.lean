import TouchOff.Proofs.Number.Arithmetic
import TouchOff.Proofs.Number.Zero

/-!
# The order of doubles

Facts about the order of doubles that are numbers: it can be chained, adding what is not negative
does not lead down (`le_sum_of_nonneg`) and subtracting it not up (`difference_le_of_nonneg`), the
middle of two doubles is between them (`middle_between`), and how the nearer one of two doubles
compares to a third (`le_lesser`, `lesser_eq_right_iff`).
-/

namespace TouchOff

variable {x y z : Float}

/-- A finite double is a number. -/
theorem not_isNaN_of_isFinite (hx : x.isFinite) : ¬ x.isNaN := by
  obtain ⟨negative, m, e, hfinite⟩ := (isFinite_iff x).1 hx
  rw [isNaN_iff, hfinite]
  exact nofun

/-! ## Chains -/

/-- What is below a double is at most it. -/
theorem le_of_below (h : x < y) : x ≤ y := by
  obtain ⟨hnumbers, hvalue⟩ := lt_iff.1 h
  exact le_iff.2 ⟨hnumbers, hvalue.le⟩

/-- What is at most a double that is at most a third one is at most that one. -/
theorem le_of_le_of_le (hxy : x ≤ y) (hyz : y ≤ z) : x ≤ z := by
  obtain ⟨⟨hx, -⟩, hxy⟩ := le_iff.1 hxy
  obtain ⟨⟨-, hz⟩, hyz⟩ := le_iff.1 hyz
  exact le_iff.2 ⟨⟨hx, hz⟩, hxy.trans hyz⟩

/-- What is at most a double is not above it. -/
theorem not_lt_of_le (h : x ≤ y) : ¬ y < x := fun hlt =>
  absurd (le_iff.1 h).2 (lt_iff.1 hlt).2.not_ge

/-- What lies between finite doubles is finite. -/
theorem isFinite_of_between (hx : x.isFinite) (hz : z.isFinite) (hxy : x ≤ y) (hyz : y ≤ z) :
    y.isFinite := by
  obtain ⟨⟨-, hy⟩, hlow⟩ := le_iff.1 hxy
  have hhigh := (le_iff.1 hyz).2
  obtain ⟨hbottom, -⟩ := abs_lt.1 (representable_value hx).2
  obtain ⟨-, htop⟩ := abs_lt.1 (representable_value hz).2
  exact isFinite_of_abs_value_lt hy (abs_lt.2 ⟨hbottom.trans_le hlow, hhigh.trans_lt htop⟩)

/-! ## Sums, differences and middles -/

/-- Adding what is not negative does not lead down. -/
theorem le_sum_of_nonneg (hx : x.isFinite) (hy : y.isFinite) (hnonneg : 0.0 ≤ y) : x ≤ x + y := by
  obtain ⟨hnumber, hrounds⟩ := rounded_sum hx hy
  obtain ⟨hrepresentable, hbound⟩ := representable_value hx
  have hvalue : 0 ≤ value y := value_nought ▸ (le_iff.1 hnonneg).2
  exact le_iff.2 ⟨⟨not_isNaN_of_isFinite hx, hnumber⟩,
    (hrounds _ hrepresentable hbound.le).2 (by linarith)⟩

/-- Subtracting what is not negative does not lead up. -/
theorem difference_le_of_nonneg (hx : x.isFinite) (hy : y.isFinite) (hnonneg : 0.0 ≤ y) :
    x - y ≤ x := by
  obtain ⟨hnumber, hrounds⟩ := rounded_difference hx hy
  obtain ⟨hrepresentable, hbound⟩ := representable_value hx
  have hvalue : 0 ≤ value y := value_nought ▸ (le_iff.1 hnonneg).2
  exact le_iff.2 ⟨⟨hnumber, not_isNaN_of_isFinite hx⟩,
    (hrounds _ hrepresentable hbound.le).1 (by linarith)⟩

/-- The middle of a finite double and one that is not below it, if their sum is finite, is between
the two. -/
theorem middle_between (hle : x ≤ y) (hx : x.isFinite) (hsum : (x + y).isFinite) :
    x ≤ (x + y) / 2.0 ∧ (x + y) / 2.0 ≤ y := by
  obtain ⟨⟨hxn, hyn⟩, hvalue⟩ := le_iff.1 hle
  rcases half_sum_between hxn hyn hvalue fun _ _ => hsum with
    ⟨-, hbottom, -⟩ | ⟨hnumber, hlow, hhigh⟩
  · -- A finite double is not as low as an infinity.
    have hbound := (representable_value hx).2
    rw [hbottom, abs_neg, abs_of_pos Exact.beyond_pos] at hbound
    exact absurd hbound (lt_irrefl _)
  · exact ⟨le_iff.2 ⟨⟨hxn, hnumber⟩, hlow⟩, le_iff.2 ⟨⟨hnumber, hyn⟩, hhigh⟩⟩

/-! ## The lesser and the greater one -/

/-- What is at most each of two doubles is at most the smaller of them. -/
theorem le_lesser (hx : z ≤ x) (hy : z ≤ y) : z ≤ lesser x y := by
  rw [lesser]
  split
  · exact hy
  · exact hx

/-- What is at least each of two doubles is at least the larger of them. -/
theorem greater_le (hx : x ≤ z) (hy : y ≤ z) : greater x y ≤ z := by
  rw [greater]
  split
  · exact hy
  · exact hx

/-- The second of two numbers is the lesser one just if it is at most the first. -/
theorem lesser_eq_right_iff (hx : ¬ x.isNaN) (hy : ¬ y.isNaN) : lesser x y = y ↔ y ≤ x := by
  refine ⟨fun h => ?_, fun h => ?_⟩
  · exact h ▸ lesser_le_left hx hy
  · rw [lesser, if_pos (by simp [h])]

/-- The larger of two numbers is the second one if the first is at most that. -/
theorem greater_eq_right_iff (hx : ¬ x.isNaN) (hy : ¬ y.isNaN) : greater x y = y ↔ x ≤ y := by
  refine ⟨fun h => ?_, fun h => ?_⟩
  · exact h ▸ left_le_greater hx hy
  · rw [greater, if_pos (by simp [h])]

end TouchOff
