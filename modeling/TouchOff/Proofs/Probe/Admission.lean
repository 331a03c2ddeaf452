import TouchOff.Proofs.Probe.Ending

/-!
# Who is admitted

A guard is asked for admission any number of times, and the leases that it hands out are given up,
repeatedly or not at all, dropped, or left behind by a release of the guard itself, all in any order
(`Admissions.Event`). The numbers of the leases differ, those of refused attempts are not used again
(`Admissions.Sound`), so a lease frees the guard only if it is the one that owns it. What one event
does to the owner (`Admissions.Sound.owns_acquire`, `Admissions.Sound.owns_leave`) is what it does
to the lease of the last attempt that succeeded (`Admissions.standing_concat`), and so the two are
the same after any history (`Admissions.one_owner`).
-/

namespace TouchOff

namespace Guard

variable {g : Guard}

/-- While nobody is admitted an attempt gives a lease under the next number, which owns the
guard. -/
theorem acquire_of_idle (h : g.isActive = false) :
    g.acquire = (⟨some g.next, g.next + 1⟩, some { id := g.next }) := by
  rw [acquire]
  split
  · rfl
  · next howner => simp [isActive, howner] at h

/-- While somebody is admitted an attempt gives no lease and uses up a number. -/
theorem acquire_of_active (h : g.isActive = true) :
    g.acquire = ({ g with next := g.next + 1 }, none) := by
  rw [acquire]
  split
  · next howner => simp [isActive, howner] at h
  · rfl

/-- An attempt succeeds if nobody is admitted, and only then. -/
theorem acquire_isSome (g : Guard) : g.acquire.2.isSome = true ↔ g.isActive = false := by
  cases h : g.isActive with
  | false => simp [acquire_of_idle h]
  | true => simp [acquire_of_active h]

end Guard

/-! ## Histories -/

/-- A guard, which all its clones are, and the leases that it handed out in order. One that was
dropped is gone. -/
structure Admissions where
  guard : Guard := {}
  leases : List (Option Lease) := []

namespace Admissions

/-- What can happen to a guard and its leases, which are counted from zero. -/
inductive Event where
  | acquire
  | release
  | giveUp (i : Nat)
  | drop (i : Nat)
deriving DecidableEq

/-- A lease that was handed out and not dropped. -/
def lease (c : Admissions) (i : Nat) : Option Lease := c.leases[i]?.join

/-- A lease is given up, and possibly dropped. -/
def leave (c : Admissions) (i : Nat) (dropped : Bool) : Admissions :=
  match c.lease i with
  | none => c
  | some l =>
    { guard := (l.release c.guard).2
      leases := c.leases.set i (if dropped then none else some (l.release c.guard).1) }

/-- The guard and its leases after one more event. -/
def next (c : Admissions) : Event → Admissions
  | .acquire =>
    { guard := c.guard.acquire.1, leases := c.leases ++ (c.guard.acquire.2.map some).toList }
  | .release => { c with guard := c.guard.release }
  | .giveUp i => c.leave i false
  | .drop i => c.leave i true

/-- The guard and its leases after a history, which starts with a new guard. -/
def after (history : List Event) : Admissions :=
  history.foldl next {}

/-- An attempt that follows a history succeeds. -/
def Admits (history : List Event) : Prop :=
  (after history).guard.acquire.2.isSome = true

/-- The index of the lease that is handed out next. -/
def handedOut (history : List Event) : Nat :=
  (after history).leases.length

/-- The last attempt of a history that succeeded, with what was before it and what came after. -/
structure LastAdmission (history front back : List Event) : Prop where
  split : history = front ++ .acquire :: back
  admitted : Admits front
  last : ∀ mid rest, back = mid ++ .acquire :: rest → ¬ Admits (front ++ .acquire :: mid)

/-- The guard is released, or a lease is given up or dropped. -/
inductive Event.Ends (i : Nat) : Event → Prop
  | release : Ends i .release
  | giveUp : Ends i (.giveUp i)
  | drop : Ends i (.drop i)

@[simp] theorem Event.not_ends_acquire (i : Nat) : ¬ Event.acquire.Ends i := nofun

@[simp] theorem Event.ends_release (i : Nat) : Event.release.Ends i := .release

@[simp] theorem Event.ends_giveUp_iff (i j : Nat) : (Event.giveUp j).Ends i ↔ i = j :=
  ⟨fun h => by cases h; rfl, fun h => h ▸ .giveUp⟩

@[simp] theorem Event.ends_drop_iff (i j : Nat) : (Event.drop j).Ends i ↔ i = j :=
  ⟨fun h => by cases h; rfl, fun h => h ▸ .drop⟩

/-- A lease is the one of the last attempt that succeeded, and neither was the guard released since
then nor the lease given up or dropped. -/
def Standing (history : List Event) (i : Nat) : Prop :=
  ∃ front back, LastAdmission history front back ∧ handedOut front = i ∧
    ∀ e ∈ back, ¬ e.Ends i

/-- A lease is held, and the guard is its own. -/
def Owns (c : Admissions) (i : Nat) : Prop :=
  ∃ l, c.lease i = some l ∧ l.held = true ∧ c.guard.owner = some l.id

/-- The last event of a history happens after all others. -/
theorem after_concat (history : List Event) (e : Event) :
    after (history ++ [e]) = (after history).next e := by
  simp only [after, List.foldl_append, List.foldl_cons, List.foldl_nil]

/-- An attempt after a history succeeds if nobody is admitted by then. -/
theorem admits_iff (history : List Event) :
    Admits history ↔ (after history).guard.isActive = false :=
  Guard.acquire_isSome _

/-! ## One event -/

variable {c : Admissions} {i j : Nat}

/-- An attempt that succeeds adds its lease to those that were handed out. -/
theorem next_acquire_of_idle (h : c.guard.isActive = false) :
    c.next .acquire = { guard := ⟨some c.guard.next, c.guard.next + 1⟩
                        leases := c.leases ++ [some { id := c.guard.next }] } := by
  rw [next, Guard.acquire_of_idle h]
  rfl

/-- An attempt that fails only uses up a number. -/
theorem next_acquire_of_active (h : c.guard.isActive = true) :
    c.next .acquire = { c with guard := { c.guard with next := c.guard.next + 1 } } := by
  rw [next, Guard.acquire_of_active h]
  simp

/-- A lease that is there was handed out before. -/
theorem lt_of_lease {l : Lease} (h : c.lease i = some l) : i < c.leases.length := by
  by_contra hge
  rw [lease, List.getElem?_eq_none (Nat.le_of_not_lt hge)] at h
  cases h

/-- An attempt leaves the leases that were handed out before. -/
theorem lease_acquire_of_lt (h : i < c.leases.length) : (c.next .acquire).lease i = c.lease i := by
  rw [lease, next, List.getElem?_append_left h, lease]

/-- An attempt that succeeds hands out the lease of the next number. -/
theorem lease_acquire_of_idle (h : c.guard.isActive = false) :
    (c.next .acquire).lease c.leases.length = some { id := c.guard.next } := by
  rw [next_acquire_of_idle h, lease, List.getElem?_concat_length]
  rfl

/-- No lease is forgotten when one is given up or dropped. -/
@[simp] theorem length_leave (c : Admissions) (i : Nat) (dropped : Bool) :
    (c.leave i dropped).leases.length = c.leases.length := by
  rw [leave]
  split
  · rfl
  · exact List.length_set

/-- A lease that is given up or dropped leaves the other leases. -/
theorem lease_leave_of_ne (h : i ≠ j) (dropped : Bool) :
    (c.leave j dropped).lease i = c.lease i := by
  rw [leave]
  split
  · rfl
  · rw [lease, List.getElem?_set_ne (Ne.symm h), lease]

/-- A lease that is given up is not held any more, and one that is dropped is gone. -/
theorem lease_leave_self (c : Admissions) (i : Nat) (dropped : Bool) :
    (c.leave i dropped).lease i =
      if dropped then none else (c.lease i).map ({ · with held := false }) := by
  rw [leave]
  split
  · next hnone => rw [hnone, Option.map_none, ite_self]
  · next l hlease =>
    rw [hlease, lease, List.getElem?_set_self (lt_of_lease hlease), Lease.release_eq]
    rfl

/-- The lease that owns the guard frees it when it is given up or dropped. -/
theorem guard_leave_of_owns (h : c.Owns i) (dropped : Bool) :
    (c.leave i dropped).guard = c.guard.release := by
  obtain ⟨l, hlease, hheld, howner⟩ := h
  simp only [leave, hlease]
  rw [Lease.release_eq, if_pos ⟨hheld, howner⟩]

/-- A lease that does not own the guard leaves it as it is. -/
theorem guard_leave_of_not_owns (h : ¬ c.Owns i) (dropped : Bool) :
    (c.leave i dropped).guard = c.guard := by
  rw [leave]
  split
  · rfl
  · next l hlease =>
    rw [Lease.release_eq, if_neg fun howns => h ⟨l, hlease, howns⟩]

/-! ## The numbers of the leases -/

/-- No lease has a number that is still to be given, no two have the same one, and whoever is
admitted has a lease that is held. -/
structure Sound (c : Admissions) : Prop where
  numbers : ∀ i l, c.lease i = some l → l.id < c.guard.next
  apart : ∀ i j l m, c.lease i = some l → c.lease j = some m → l.id = m.id → i = j
  owner : c.guard.isActive = true → ∃ i, c.Owns i

namespace Sound

/-- At most one lease owns the guard. -/
theorem unique (h : c.Sound) (hi : c.Owns i) (hj : c.Owns j) : i = j := by
  obtain ⟨l, hl, -, hlowner⟩ := hi
  obtain ⟨m, hm, -, hmowner⟩ := hj
  exact h.apart i j l m hl hm (Option.some.inj (hlowner.symm.trans hmowner))

/-- At the beginning there is no lease and nobody is admitted. -/
theorem start : ({} : Admissions).Sound where
  numbers _ _ h := by cases h
  apart _ _ _ _ h := by cases h
  owner h := by cases h

/-- An attempt that succeeds makes its lease the only owner; one that fails changes no owner. -/
theorem owns_acquire (h : c.Sound) (i : Nat) : (c.next .acquire).Owns i ↔
    (c.guard.isActive = false ∧ c.leases.length = i) ∨ (c.guard.isActive = true ∧ c.Owns i) := by
  cases hactive : c.guard.isActive with
  | true => simp [next_acquire_of_active hactive, Owns, lease]
  | false =>
    have hnew := lease_acquire_of_idle hactive
    have howner : (c.next .acquire).guard.owner = some c.guard.next := by
      rw [next_acquire_of_idle hactive]
    simp only [true_and, Bool.false_eq_true, false_and, or_false]
    constructor
    · rintro ⟨l, hl, -, hlowner⟩
      have hid : c.guard.next = l.id := Option.some.inj (howner.symm.trans hlowner)
      rcases Nat.lt_trichotomy i c.leases.length with hlt | heq | hgt
      · -- The number of an older lease was given before.
        rw [lease_acquire_of_lt hlt] at hl
        exact absurd (h.numbers i l hl) (hid ▸ Nat.lt_irrefl _)
      · exact heq.symm
      · have hlength : (c.next .acquire).leases.length = c.leases.length + 1 := by
          rw [next_acquire_of_idle hactive, List.length_append, List.length_singleton]
        have hbound := hlength ▸ lt_of_lease hl
        omega
    · rintro rfl
      exact ⟨_, hnew, rfl, howner⟩

/-- A lease that is given up or dropped does not own the guard any more, and takes it from no
other. -/
theorem owns_leave (h : c.Sound) (dropped : Bool) (i j : Nat) :
    (c.leave j dropped).Owns i ↔ c.Owns i ∧ i ≠ j := by
  have hself : ¬ (c.leave j dropped).Owns j := by
    rintro ⟨l, hl, hheld, -⟩
    rw [lease_leave_self] at hl
    split at hl
    · cases hl
    · obtain ⟨m, -, rfl⟩ := Option.map_eq_some_iff.1 hl
      cases hheld
  have hother : i ≠ j → ((c.leave j dropped).Owns i ↔ c.Owns i) := by
    intro hne
    rw [Owns, lease_leave_of_ne hne]
    by_cases hj : c.Owns j
    · rw [guard_leave_of_owns hj]
      constructor
      · rintro ⟨l, -, -, howner⟩
        cases howner
      · exact fun hi => absurd (h.unique hi hj) hne
    · rw [guard_leave_of_not_owns hj]
      rfl
  by_cases hij : i = j
  · subst hij
    exact ⟨fun howns => absurd howns hself, fun howns => absurd rfl howns.2⟩
  · rw [hother hij, and_iff_left hij]

/-- An attempt, be it successful or not, gives a number that no lease has. -/
theorem acquire (h : c.Sound) : (c.next .acquire).Sound := by
  cases hactive : c.guard.isActive with
  | true =>
    obtain ⟨i, howns⟩ := h.owner hactive
    have hnext := (h.owns_acquire i).2 (.inr ⟨hactive, howns⟩)
    rw [next_acquire_of_active hactive] at hnext ⊢
    exact ⟨fun i l hl => Nat.lt_succ_of_lt (h.numbers i l hl), h.apart, fun _ => ⟨i, hnext⟩⟩
  | false =>
    have hnext : (c.next .acquire).guard.next = c.guard.next + 1 := (Guard.acquire_numbers _).1
    -- A lease is an older one, or the one that was just handed out.
    have hcases : ∀ i l, (c.next .acquire).lease i = some l →
        (c.lease i = some l ∧ l.id < c.guard.next) ∨
          (i = c.leases.length ∧ l.id = c.guard.next) := by
      intro i l hl
      have hbound := lt_of_lease hl
      rw [next_acquire_of_idle hactive, List.length_append, List.length_singleton] at hbound
      rcases Nat.lt_succ_iff_lt_or_eq.1 hbound with hlt | rfl
      · rw [lease_acquire_of_lt hlt] at hl
        exact .inl ⟨hl, h.numbers i l hl⟩
      · rw [lease_acquire_of_idle hactive] at hl
        cases hl
        exact .inr ⟨rfl, rfl⟩
    refine ⟨?numbers, ?apart, fun _ => ⟨_, (h.owns_acquire _).2 (.inl ⟨hactive, rfl⟩)⟩⟩
    case numbers =>
      intro i l hl
      rw [hnext]
      rcases hcases i l hl with ⟨-, hid⟩ | ⟨-, hid⟩ <;> omega
    case apart =>
      intro i j l m hl hm hid
      rcases hcases i l hl with ⟨hl', hlid⟩ | ⟨hi, hlid⟩ <;>
        rcases hcases j m hm with ⟨hm', hmid⟩ | ⟨hj, hmid⟩
      · exact h.apart i j l m hl' hm' hid
      · omega
      · omega
      · rw [hi, hj]

/-- A release of the guard itself leaves the leases as they are. -/
theorem release (h : c.Sound) : (c.next .release).Sound :=
  ⟨h.numbers, h.apart, fun hactive => by cases hactive⟩

/-- A lease that is given up or dropped keeps its number, and the guard is freed or owned as
before. -/
theorem leave (h : c.Sound) (j : Nat) (dropped : Bool) : (c.leave j dropped).Sound := by
  have hnext : (c.leave j dropped).guard.next = c.guard.next := by
    by_cases hj : c.Owns j
    · rw [guard_leave_of_owns hj]
      rfl
    · rw [guard_leave_of_not_owns hj]
  -- A lease keeps its number.
  have hlease : ∀ i l, (c.leave j dropped).lease i = some l →
      ∃ m, c.lease i = some m ∧ m.id = l.id := by
    intro i l hl
    by_cases hij : i = j
    · subst hij
      rw [lease_leave_self] at hl
      split at hl
      · cases hl
      · obtain ⟨m, hm, rfl⟩ := Option.map_eq_some_iff.1 hl
        exact ⟨m, hm, rfl⟩
    · rw [lease_leave_of_ne hij] at hl
      exact ⟨l, hl, rfl⟩
  refine ⟨?numbers, ?apart, ?owner⟩
  case numbers =>
    intro i l hl
    obtain ⟨m, hm, hid⟩ := hlease i l hl
    rw [hnext, ← hid]
    exact h.numbers i m hm
  case apart =>
    intro i k l m hl hm hid
    obtain ⟨l', hl', hlid⟩ := hlease i l hl
    obtain ⟨m', hm', hmid⟩ := hlease k m hm
    exact h.apart i k l' m' hl' hm' (hlid.trans (hid.trans hmid.symm))
  case owner =>
    intro hactive
    have hj : ¬ c.Owns j := fun hj => by
      rw [guard_leave_of_owns hj] at hactive
      cases hactive
    rw [guard_leave_of_not_owns hj] at hactive
    obtain ⟨i, hi⟩ := h.owner hactive
    exact ⟨i, (h.owns_leave dropped i j).2 ⟨hi, fun hij => hj (hij ▸ hi)⟩⟩

/-- Whatever happens to a guard, its leases stay apart. -/
theorem next (h : c.Sound) (e : Event) : (c.next e).Sound := by
  cases e with
  | acquire => exact h.acquire
  | release => exact h.release
  | giveUp i => exact h.leave i false
  | drop i => exact h.leave i true

end Sound

/-- After any history the leases are apart, and whoever is admitted has one. -/
theorem sound_after (history : List Event) : (after history).Sound := by
  induction history using List.reverseRecOn with
  | nil => exact .start
  | append_singleton history e ih => exact after_concat history e ▸ ih.next e

/-! ## The lease of the last admission -/

/-- The last admission of a longer history is a new one, or the last one of the shorter history. -/
theorem lastAdmission_concat {history front back : List Event} {e : Event}
    (h : LastAdmission (history ++ [e]) front back) :
    (e = .acquire ∧ Admits history ∧ front = history ∧ back = []) ∨
      ((e = .acquire → ¬ Admits history) ∧
        ∃ back', back = back' ++ [e] ∧ LastAdmission history front back') := by
  rcases List.eq_nil_or_concat back with rfl | ⟨back', e', rfl⟩
  · obtain ⟨rfl, he⟩ := List.append_inj' h.split rfl
    exact .inl ⟨List.singleton_inj.1 he, h.admitted, rfl, rfl⟩
  · have hsplit : history ++ [e] = (front ++ .acquire :: back') ++ [e'] := by
      simpa using h.split
    obtain ⟨hhistory, he⟩ := List.append_inj' hsplit rfl
    obtain rfl := List.singleton_inj.1 he
    refine .inr ⟨?_, back', List.concat_eq_append, hhistory, h.admitted, ?_⟩
    · rintro rfl
      exact hhistory ▸ h.last back' [] List.concat_eq_append
    · intro mid rest hback
      exact h.last mid (rest ++ [e]) (by simp [hback])

/-- The last admission stays the last one if nobody is admitted after it. -/
theorem LastAdmission.concat {history front back : List Event} {e : Event}
    (h : LastAdmission history front back) (he : e = .acquire → ¬ Admits history) :
    LastAdmission (history ++ [e]) front (back ++ [e]) := by
  refine ⟨by rw [h.split, List.append_assoc, List.cons_append], h.admitted, ?_⟩
  intro mid rest hback
  rcases List.eq_nil_or_concat rest with rfl | ⟨rest', e', rfl⟩
  · obtain ⟨rfl, hacquire⟩ := List.append_inj' hback rfl
    exact h.split ▸ he (List.singleton_inj.1 hacquire)
  · have hback' : back ++ [e] = (mid ++ .acquire :: rest') ++ [e'] := by simpa using hback
    exact h.last mid rest' (List.append_inj' hback' rfl).1

/-- What one more event does to the lease that stands. -/
theorem standing_concat (history : List Event) (e : Event) (i : Nat) :
    Standing (history ++ [e]) i ↔
      (e = .acquire ∧ Admits history ∧ handedOut history = i) ∨
        ((e = .acquire → ¬ Admits history) ∧ Standing history i ∧ ¬ e.Ends i) := by
  constructor
  · rintro ⟨front, back, hlast, hindex, hends⟩
    rcases lastAdmission_concat hlast with ⟨rfl, hadmits, rfl, -⟩ | ⟨hrefused, back', rfl, hlast'⟩
    · exact .inl ⟨rfl, hadmits, hindex⟩
    · refine .inr ⟨hrefused, ⟨front, back', hlast', hindex, fun e' he' => ?_⟩, ?_⟩
      · exact hends e' (List.mem_append_left _ he')
      · exact hends e (List.mem_append_right _ (List.mem_singleton_self e))
  · rintro (⟨rfl, hadmits, hindex⟩ | ⟨hrefused, ⟨front, back, hlast, hindex, hends⟩, he⟩)
    · exact ⟨history, [], ⟨rfl, hadmits, fun _ _ h => by simp at h⟩, hindex, by simp⟩
    · refine ⟨front, back ++ [e], hlast.concat hrefused, hindex, fun e' he' => ?_⟩
      rcases List.mem_append.1 he' with hmem | hmem
      · exact hends e' hmem
      · exact List.mem_singleton.1 hmem ▸ he

/-- The lease that owns the guard is the one that stands. -/
theorem owns_iff_standing (history : List Event) (i : Nat) :
    (after history).Owns i ↔ Standing history i := by
  induction history using List.reverseRecOn generalizing i with
  | nil =>
    constructor
    · rintro ⟨l, hl, -⟩
      cases hl
    · rintro ⟨front, back, hlast, -⟩
      simpa using hlast.split
  | append_singleton history e ih =>
    have hsound := sound_after history
    rw [after_concat, standing_concat, admits_iff, ← ih]
    cases e with
    | acquire =>
      rw [hsound.owns_acquire]
      simp [handedOut]
    | release => simp [Owns, next, Guard.release]
    | giveUp j => simp [next, hsound.owns_leave]
    | drop j => simp [next, hsound.owns_leave]

/-! ## The life of a lease -/

/-- A lease is there until it is dropped, and held until it is given up. -/
theorem lease_after {front : List Event} (hadmits : Admits front) (back : List Event) :
    let i := handedOut front
    (after (front ++ .acquire :: back)).lease i =
      if .drop i ∈ back then none
      else some ⟨(after front).guard.next, decide (.giveUp i ∉ back)⟩ := by
  intro i
  have hidle := (admits_iff front).1 hadmits
  suffices i < (after (front ++ .acquire :: back)).leases.length ∧
      (after (front ++ .acquire :: back)).lease i =
        if .drop i ∈ back then none
        else some ⟨(after front).guard.next, decide (.giveUp i ∉ back)⟩ from this.2
  induction back using List.reverseRecOn with
  | nil =>
    rw [after_concat]
    have hlease := lease_acquire_of_idle hidle
    exact ⟨lt_of_lease hlease, by simpa [i, handedOut] using hlease⟩
  | append_singleton back e ih =>
    rw [← List.cons_append, ← List.append_assoc, after_concat]
    obtain ⟨hlength, hlease⟩ := ih
    generalize after (front ++ .acquire :: back) = c at hlength hlease
    cases e with
    | acquire =>
      refine ⟨?_, ?_⟩
      · rw [next, List.length_append]
        exact Nat.lt_add_right _ hlength
      · rw [lease_acquire_of_lt hlength, hlease]
        simp
    | release => exact ⟨hlength, by simpa [next, lease] using hlease⟩
    | giveUp j =>
      refine ⟨by rwa [next, length_leave], ?_⟩
      by_cases hij : i = j
      · subst hij
        rw [next, lease_leave_self, hlease]
        by_cases hdrop : Event.drop i ∈ back <;> simp [hdrop]
      · rw [next, lease_leave_of_ne hij, hlease]
        simp [hij]
    | drop j =>
      refine ⟨by rwa [next, length_leave], ?_⟩
      by_cases hij : i = j
      · subst hij
        rw [next, lease_leave_self]
        simp
      · rw [next, lease_leave_of_ne hij, hlease]
        simp [hij]

/-- **The guard has one owner.** After any history somebody is admitted if and only if neither was
the guard released since the last attempt that succeeded nor its lease given up or dropped. An
attempt succeeds if and only if nobody is admitted, and one that fails leaves the owner and all
leases. Giving up or dropping a lease that does not stand leaves the guard as it is, and the one
that stands is the only one that owns it. A lease is there until it is dropped itself, and held
until it is given up itself. -/
theorem one_owner (history : List Event) :
    let c := after history
    (c.guard.isActive = true ↔ ∃ i, Standing history i) ∧
      (Admits history ↔ c.guard.isActive = false) ∧
      (¬ Admits history → c.guard.acquire.2 = none ∧
        (c.next .acquire).guard.owner = c.guard.owner ∧ (c.next .acquire).leases = c.leases) ∧
      (∀ i, ¬ Standing history i →
        (c.next (.giveUp i)).guard = c.guard ∧ (c.next (.drop i)).guard = c.guard) ∧
      (∀ i, c.Owns i ↔ Standing history i) ∧ (∀ i j, c.Owns i → c.Owns j → i = j) ∧
      ∀ front back, history = front ++ .acquire :: back → Admits front →
        c.lease (handedOut front) =
          if .drop (handedOut front) ∈ back then none
          else some ⟨(after front).guard.next, decide (.giveUp (handedOut front) ∉ back)⟩ := by
  intro c
  have hsound : c.Sound := sound_after history
  refine ⟨?active, admits_iff history, ?refused, ?stale, owns_iff_standing history,
    fun i j => hsound.unique, ?life⟩
  case active =>
    simp only [← owns_iff_standing]
    refine ⟨hsound.owner, ?_⟩
    rintro ⟨i, l, -, -, howner⟩
    rw [Guard.isActive, howner]
    rfl
  case refused =>
    intro hrefused
    have hactive : c.guard.isActive = true := by simpa [admits_iff] using hrefused
    rw [next_acquire_of_active hactive, Guard.acquire_of_active hactive]
    exact ⟨rfl, rfl, rfl⟩
  case stale =>
    intro i hstale
    have howns : ¬ c.Owns i := fun howns => hstale ((owns_iff_standing history i).1 howns)
    exact ⟨guard_leave_of_not_owns howns false, guard_leave_of_not_owns howns true⟩
  case life =>
    rintro front back rfl hadmits
    exact lease_after hadmits back

/-- A lease whose session was ended by a release of the guard does not end the next session when it
is given up or dropped: that one goes on, and refuses others. -/
theorem one_owner_after_release :
    let history : List Event := [.acquire, .release, .acquire, .acquire, .giveUp 0]
    let c := after history
    Standing history 1 ∧ ¬ Standing history 0 ∧ ¬ Admits history ∧ c.guard.isActive = true ∧
      (c.next (.drop 0)).guard = c.guard ∧ c.lease 0 = some ⟨1, false⟩ ∧
      c.lease 1 = some ⟨2, true⟩ := by
  intro history c
  obtain ⟨hactive, hadmits, -, hstale, howns, hunique, hlife⟩ := one_owner history
  have hone : c.Owns 1 := ⟨⟨2, true⟩, rfl, rfl, rfl⟩
  have hzero : ¬ Standing history 0 := fun h =>
    absurd (hunique 0 1 ((howns 0).2 h) hone) Nat.zero_ne_one
  have hstanding : Standing history 1 := (howns 1).1 hone
  refine ⟨hstanding, hzero, ?_, hactive.2 ⟨1, hstanding⟩, (hstale 0 hzero).2,
    hlife [] _ rfl rfl, hlife [.acquire, .release] _ rfl rfl⟩
  rw [hadmits, hactive.2 ⟨1, hstanding⟩]
  exact Bool.false_ne_true ∘ Eq.symm

end Admissions

end TouchOff
