import TouchOff.Proofs.Number.Arithmetic
import TouchOff.Proofs.Probe.Course

/-!
# The bound of a step

A step towards a tested position never passes it. The middle of two positions is between them
(`half_sum_between`), so the target of a relative step is bounded by the neighbour that it is
computed from (`Step.bounded_target`). The neighbours that an advance uses are read off the history,
which has the same numbers as the coordinates that were tested (`Course.onRecord_after`), so they
are the tested positions next to the axis, however the session got there.
-/

namespace TouchOff

namespace History

section
variable {h tested : List Float} {x : Float}

/-- What is the greatest below a number among some doubles is so among others that have the same
numbers. -/
theorem IsGreatestBelow.of_same {o : Option Float} (hsubset : h ⊆ tested)
    (hexists : ∀ y ∈ tested, ∃ z ∈ h, (z == y) = true) (ho : IsGreatestBelow h x o) :
    IsGreatestBelow tested x o := by
  have along : ∀ {y : Float}, y ∈ tested → y < x → ∃ z ∈ h, z < x ∧ value y = value z := by
    intro y hy hlt
    obtain ⟨z, hz, heq⟩ := hexists y hy
    obtain ⟨⟨hznumber, -⟩, hvalue⟩ := beq_iff.1 heq
    obtain ⟨⟨-, hx⟩, hlt⟩ := lt_iff.1 hlt
    exact ⟨z, hz, lt_iff.2 ⟨⟨hznumber, hx⟩, hvalue ▸ hlt⟩, hvalue.symm⟩
  cases o with
  | none =>
    intro y hy hlt
    obtain ⟨z, hz, hzx, -⟩ := along hy hlt
    exact ho z hz hzx
  | some l =>
    obtain ⟨hl, hlx, hgreatest⟩ := ho
    refine ⟨hsubset hl, hlx, fun y hy hlt => ?_⟩
    obtain ⟨z, hz, hzx, hvalue⟩ := along hy hlt
    obtain ⟨⟨-, hlnumber⟩, hle⟩ := le_iff.1 (hgreatest z hz hzx)
    exact le_iff.2 ⟨⟨(lt_iff.1 hlt).1.1, hlnumber⟩, hvalue ▸ hle⟩

/-- The least entry above a number is the least of all that was tested, if the same numbers are on
record. -/
theorem IsLeastAbove.of_same {o : Option Float} (hsubset : h ⊆ tested)
    (hexists : ∀ y ∈ tested, ∃ z ∈ h, (z == y) = true) (ho : IsLeastAbove h x o) :
    IsLeastAbove tested x o := by
  have along : ∀ {y : Float}, y ∈ tested → x < y → ∃ z ∈ h, x < z ∧ value y = value z := by
    intro y hy hlt
    obtain ⟨z, hz, heq⟩ := hexists y hy
    obtain ⟨⟨hznumber, -⟩, hvalue⟩ := beq_iff.1 heq
    obtain ⟨⟨hx, -⟩, hlt⟩ := lt_iff.1 hlt
    exact ⟨z, hz, lt_iff.2 ⟨⟨hx, hznumber⟩, hvalue ▸ hlt⟩, hvalue.symm⟩
  cases o with
  | none =>
    intro y hy hlt
    obtain ⟨z, hz, hxz, -⟩ := along hy hlt
    exact ho z hz hxz
  | some u =>
    obtain ⟨hu, hxu, hleast⟩ := ho
    refine ⟨hsubset hu, hxu, fun y hy hlt => ?_⟩
    obtain ⟨z, hz, hxz, hvalue⟩ := along hy hlt
    obtain ⟨⟨hunumber, -⟩, hle⟩ := le_iff.1 (hleast z hz hxz)
    exact le_iff.2 ⟨⟨hunumber, (lt_iff.1 hlt).1.2⟩, hvalue ▸ hle⟩

/-- The greatest below a number is one number, though it may be two doubles. -/
theorem IsGreatestBelow.unique {l : Float} {o : Option Float} (hl : IsGreatestBelow h x (some l))
    (ho : IsGreatestBelow h x o) : ∃ l', o = some l' ∧ (l' == l) = true := by
  obtain ⟨hmem, hlt, hgreatest⟩ := hl
  cases o with
  | none => exact absurd hlt (ho l hmem)
  | some l' =>
    obtain ⟨hmem', hlt', hgreatest'⟩ := ho
    obtain ⟨hnumbers, hle⟩ := le_iff.1 (hgreatest l' hmem' hlt')
    exact ⟨l', rfl, beq_iff.2 ⟨hnumbers, hle.antisymm (le_iff.1 (hgreatest' l hmem hlt)).2⟩⟩

/-- The least above a number is one number, though it may be two doubles. -/
theorem IsLeastAbove.unique {u : Float} {o : Option Float} (hu : IsLeastAbove h x (some u))
    (ho : IsLeastAbove h x o) : ∃ u', o = some u' ∧ (u' == u) = true := by
  obtain ⟨hmem, hlt, hleast⟩ := hu
  cases o with
  | none => exact absurd hlt (ho u hmem)
  | some u' =>
    obtain ⟨hmem', hlt', hleast'⟩ := ho
    obtain ⟨hnumbers, hle⟩ := le_iff.1 (hleast' u hmem hlt)
    exact ⟨u', rfl, beq_iff.2 ⟨hnumbers, hle.antisymm (le_iff.1 (hleast u' hmem' hlt')).2⟩⟩

end

end History

namespace Step

section
variable {p reach : Float}

/-- A step up goes at most `reach` far. -/
theorem target_up_le_reach (hp : ¬ p.isNaN) (hreach : reach.isFinite) (lower upper : Option Float) :
    target up p lower upper reach ≤ p + reach ∧
      target upCoarse p lower upper reach ≤ p + reach :=
  ⟨lesser_le_right (not_isNaN_add hp hreach), lesser_le_right (not_isNaN_add hp hreach)⟩

/-- A step down goes at most `reach` far. -/
theorem reach_le_target_down (hp : ¬ p.isNaN) (hreach : reach.isFinite)
    (lower upper : Option Float) :
    p - reach ≤ target down p lower upper reach ∧
      p - reach ≤ target downCoarse p lower upper reach :=
  ⟨right_le_greater (not_isNaN_sub hp hreach), right_le_greater (not_isNaN_sub hp hreach)⟩

/-- A step half way up does not pass the tested position above. -/
theorem target_up_le_upper {u : Float} (hreach : reach.isFinite) (hlt : p < u)
    (hsum : u.isFinite → p.isFinite → (u + p).isFinite) (lower : Option Float) :
    target up p lower (some u) reach ≤ u := by
  obtain ⟨⟨hp, hu⟩, hvalue⟩ := lt_iff.1 hlt
  have hstep := not_isNaN_add hp hreach
  rw [target, Option.getD_some]
  rw [sum_comm u p] at hsum ⊢
  rcases half_sum_between hp hu hvalue.le fun hpf huf => hsum huf hpf with
    ⟨hnan, -, htop⟩ | ⟨hnumber, -, hle⟩
  · rw [lesser_of_isNaN hnan, le_iff_value hstep hu, htop]
    exact (le_abs_self _).trans (abs_value_le hstep)
  · have hmiddle := le_iff.1 (lesser_le_left hnumber hstep)
    exact le_iff.2 ⟨⟨hmiddle.1.1, hu⟩, hmiddle.2.trans hle⟩

/-- A step half way down does not pass the tested position below. -/
theorem lower_le_target_down {l : Float} (hreach : reach.isFinite) (hlt : l < p)
    (hsum : l.isFinite → p.isFinite → (l + p).isFinite) (upper : Option Float) :
    l ≤ target down p (some l) upper reach := by
  obtain ⟨⟨hl, hp⟩, hvalue⟩ := lt_iff.1 hlt
  have hstep := not_isNaN_sub hp hreach
  rw [target, Option.getD_some]
  rcases half_sum_between hl hp hvalue.le hsum with ⟨hnan, hbottom, -⟩ | ⟨hnumber, hle, -⟩
  · rw [greater_of_isNaN hnan, le_iff_value hl hstep, hbottom]
    exact neg_le.1 ((neg_le_abs _).trans (abs_value_le hstep))
  · have hmiddle := le_iff.1 (left_le_greater hnumber hstep)
    exact le_iff.2 ⟨⟨hl, hmiddle.1.2⟩, hle.trans hmiddle.2⟩

/-- A coarse step up goes to the tested position above, or as far as it may if that is nearer. -/
theorem target_upCoarse {u : Float} (hreach : reach.isFinite) (hlt : p < u) (lower : Option Float) :
    target upCoarse p lower (some u) reach = if u < p + reach then u else p + reach :=
  lesser_eq (lt_iff.1 hlt).1.2 (not_isNaN_add (lt_iff.1 hlt).1.1 hreach)

/-- A coarse step down goes to the tested position below, or as far as it may if that is nearer. -/
theorem target_downCoarse {l : Float} (hreach : reach.isFinite) (hlt : l < p)
    (upper : Option Float) :
    target downCoarse p (some l) upper reach = if p - reach < l then l else p - reach :=
  greater_eq (lt_iff.1 hlt).1.1 (not_isNaN_sub (lt_iff.1 hlt).1.2 hreach)

end

/-- The bound of a step from `p` by the tested positions next to it: a relative step goes at most
`reach` far and does not pass the neighbour on its side, a coarse one goes all the way to that
neighbour if it may go so far, and an offset is taken as it is. -/
def Bounded (tested : List Float) (p reach target : Float) : Step → Prop
  | up => target ≤ p + reach ∧ ∀ u, History.IsLeastAbove tested p (some u) → target ≤ u
  | upCoarse => target ≤ p + reach ∧ ∀ u, History.IsLeastAbove tested p (some u) →
      target ≤ u ∧ (u < p + reach → (target == u) = true) ∧
        (¬ u < p + reach → target = p + reach)
  | down => p - reach ≤ target ∧ ∀ l, History.IsGreatestBelow tested p (some l) → l ≤ target
  | downCoarse => p - reach ≤ target ∧ ∀ l, History.IsGreatestBelow tested p (some l) →
      l ≤ target ∧ (p - reach < l → (target == l) = true) ∧
        (¬ p - reach < l → target = p - reach)
  | offset distance => target = p + distance

/-- A step between the tested positions next to it is bounded by them. -/
theorem bounded_target {tested : List Float} {p reach : Float} {lower upper : Option Float}
    (hp : ¬ p.isNaN) (hreach : reach.isFinite) (hlower : History.IsGreatestBelow tested p lower)
    (hupper : History.IsLeastAbove tested p upper)
    (hdown : ∀ l, History.IsGreatestBelow tested p (some l) → l.isFinite → p.isFinite →
      (l + p).isFinite)
    (hup : ∀ u, History.IsLeastAbove tested p (some u) → u.isFinite → p.isFinite →
      (u + p).isFinite) (step : Step) :
    step.Bounded tested p reach (step.target p lower upper reach) := by
  cases step with
  | up =>
    refine ⟨(target_up_le_reach hp hreach lower upper).1, fun u hu => ?_⟩
    obtain ⟨u', rfl, heq⟩ := hu.unique hupper
    rw [← le_right_iff_of_beq heq]
    exact target_up_le_upper hreach hupper.2.1 (hup u' hupper) lower
  | upCoarse =>
    refine ⟨(target_up_le_reach hp hreach lower upper).2, fun u hu => ?_⟩
    obtain ⟨u', rfl, heq⟩ := hu.unique hupper
    have hu' := (lt_iff.1 hupper.2.1).1.2
    rw [← le_right_iff_of_beq heq, ← lt_left_iff_of_beq heq]
    refine ⟨lesser_le_left hu' (not_isNaN_add hp hreach), fun hfar => ?_, fun hnear => ?_⟩
    · rwa [target_upCoarse hreach hupper.2.1, if_pos hfar]
    · rw [target_upCoarse hreach hupper.2.1, if_neg hnear]
  | down =>
    refine ⟨(reach_le_target_down hp hreach lower upper).1, fun l hl => ?_⟩
    obtain ⟨l', rfl, heq⟩ := hl.unique hlower
    rw [← le_left_iff_of_beq heq]
    exact lower_le_target_down hreach hlower.2.1 (hdown l' hlower) upper
  | downCoarse =>
    refine ⟨(reach_le_target_down hp hreach lower upper).2, fun l hl => ?_⟩
    obtain ⟨l', rfl, heq⟩ := hl.unique hlower
    have hl' := (lt_iff.1 hlower.2.1).1.1
    rw [← le_left_iff_of_beq heq, ← lt_right_iff_of_beq heq]
    refine ⟨left_le_greater hl' (not_isNaN_sub hp hreach), fun hfar => ?_, fun hnear => ?_⟩
    · rwa [target_downCoarse hreach hlower.2.1, if_pos hfar]
    · rw [target_downCoarse hreach hlower.2.1, if_neg hnear]
  | offset distance => rfl

end Step

namespace Course

variable {π T σ : Type} [Motion T] [Completion π σ]

/-- On every course of a started session an advance sends the axis to a target that is bounded by
the tested positions next to the axis. -/
theorem advance_bounded {settings : ProbeSettings} {purpose : π} {b b' : Bench T σ} {s : Session π}
    (hstart : Session.begin settings purpose b = (b', .ok s))
    (events : List (Session.Event T σ))
    (hreach : settings.reach.isFinite) :
    let c := (ofStart s b').after events
    let p := (c.session.resolve c.bench).1
    c.session.active = true → (∀ x ∈ c.tested, ¬ x.isNaN) → ¬ p.isNaN →
      (∀ l, History.IsGreatestBelow c.tested p (some l) → l.isFinite → p.isFinite →
        (l + p).isFinite) →
      (∀ u, History.IsLeastAbove c.tested p (some u) → u.isFinite → p.isFinite →
        (u + p).isFinite) →
      ∀ step : Step, ∃ target,
        c.session.advance step c.bench =
          (c.session.recording c.bench).pursue p target (c.session.resolve c.bench).2.2 ∧
        step.Bounded c.tested p settings.reach target := by
  intro c p hactive hnumbers hp hdown hup step
  obtain ⟨hascending, hsubset, hexists⟩ := onRecord_after hstart hnumbers
  have hsettings : c.session.settings = settings := settings_of_start hstart events
  obtain ⟨hlower, hupper⟩ := History.around_spec hascending hp
  refine ⟨c.session.aim step c.bench, Session.advance_eq hactive step c.bench, ?_⟩
  rw [Session.aim_eq hascending hp, hsettings]
  exact Step.bounded_target hp hreach (hlower.of_same hsubset hexists)
    (hupper.of_same hsubset hexists) hdown hup step

/-- From 0.75, after advances at 0 and -0.25, a step down does not pass 0. -/
theorem advance_bounded_down_offset :
    Session.begin {} (Purpose.report .y) restingBench = (startedBench, .ok startedSession) ∧
      shortCourse.tested = [0.0, -0.25] ∧
      ∃ target,
        shortCourse.session.advance .down shortCourse.bench =
          (shortCourse.session.recording shortCourse.bench).pursue 0.75 target
            (shortCourse.session.resolve shortCourse.bench).2.2 ∧
        Step.Bounded [0.0, -0.25] 0.75 0.2 target .down := by
  refine ⟨begin_restingBench, shortCourse_tested, ?_⟩
  have hsums : ∀ x ∈ [(0.0 : Float), -0.25], x.isFinite → (0.75 : Float).isFinite →
      (x + 0.75).isFinite := by decide
  have htested := shortCourse_tested
  have hactive := shortCourse_active
  have hresolved := shortCourse_resolved
  rw [shortCourse] at htested hactive hresolved ⊢
  have hbounded := advance_bounded begin_restingBench [.advance .down, .advance (.offset 1.0)]
    (by decide)
  simp only [htested, hresolved] at hbounded
  exact hbounded hactive (by decide) (by decide) (fun l hl => hsums l hl.1)
    (fun u hu => hsums u hu.1) .down

end Course

end TouchOff
