import TouchOff.Probe.History
import TouchOff.Proofs.Number.Value

/-!
# Tested positions in order

What halving finds in an ascending list of tested positions. A number has a place in the list
(`Place`): the entries below it, the entry equal to it if there is one, and the entries above it.
`rank` finds the place (`Place.rank_eq`), so `recorded` keeps the list ascending
(`Ascending.recorded`), and the neighbours that are read off before a number is put on record
(`around`) and after it (`beside`) are the same two entries: the greatest below the number and the
least above it (`around_spec`, `beside_recorded`).
-/

namespace TouchOff.History

/-- Tested positions in order: all are numbers, each below the ones after it. -/
structure Ascending (h : List Float) : Prop where
  numbers : ∀ y ∈ h, ¬ y.isNaN
  ordered : h.Pairwise (· < ·)

/-- `o` is the greatest of the doubles below `x`, and nothing where there is none. -/
def IsGreatestBelow (xs : List Float) (x : Float) : Option Float → Prop
  | none => ∀ y ∈ xs, ¬ y < x
  | some l => l ∈ xs ∧ l < x ∧ ∀ y ∈ xs, y < x → y ≤ l

/-- `o` is the least of the doubles above `x`, and nothing where there is none. -/
def IsLeastAbove (xs : List Float) (x : Float) : Option Float → Prop
  | none => ∀ y ∈ xs, ¬ x < y
  | some u => u ∈ xs ∧ x < u ∧ ∀ y ∈ xs, x < y → u ≤ y

/-- `h'` has one entry more than `h`, which is `x`, or is `h` if that has an entry equal to `x`. -/
def Adds (h : List Float) (x : Float) (h' : List Float) : Prop :=
  (∃ y ∈ h, (y == x) = true) ∧ h' = h ∨
    (∀ y ∈ h, ¬ (y == x) = true) ∧ ∃ l r, h = l ++ r ∧ h' = l ++ x :: r

/-- The place of a number among tested positions. -/
structure Place (h : List Float) (x : Float) (below same above : List Float) : Prop where
  parts : h = below ++ same ++ above
  below_lt : ∀ y ∈ below, y < x
  same_eq : same = [] ∨ ∃ y, same = [y] ∧ (y == x) = true
  lt_above : ∀ y ∈ above, x < y

/-- What follows the first entry is ascending. -/
theorem Ascending.tail {y : Float} {h : List Float} (hh : Ascending (y :: h)) : Ascending h :=
  ⟨fun z hz => hh.numbers z (List.mem_cons_of_mem _ hz), (List.pairwise_cons.1 hh.ordered).2⟩

/-- A number has a place among tested positions in order. -/
theorem exists_place {h : List Float} {x : Float} (hh : Ascending h) (hx : ¬ x.isNaN) :
    ∃ below same above, Place h x below same above := by
  induction h with
  | nil => exact ⟨[], [], [], rfl, nofun, .inl rfl, nofun⟩
  | cons y h ih =>
    have hy := hh.numbers y List.mem_cons_self
    have hlt := (List.pairwise_cons.1 hh.ordered).1
    rcases lt_trichotomy (value y) (value x) with hyx | hyx | hyx
    · obtain ⟨below, same, above, rfl, hbelow, hsame, habove⟩ := ih hh.tail
      refine ⟨y :: below, same, above, rfl, fun z hz => ?_, hsame, habove⟩
      rcases List.mem_cons.1 hz with rfl | hz
      · exact (lt_iff_value hy hx).2 hyx
      · exact hbelow z hz
    · refine ⟨[], [y], h, rfl, nofun, .inr ⟨y, rfl, (beq_iff_value hy hx).2 hyx⟩, fun z hz => ?_⟩
      have hz' := hh.numbers z (List.mem_cons_of_mem _ hz)
      rw [lt_iff_value hx hz', ← hyx]
      exact (lt_iff_value hy hz').1 (hlt z hz)
    · refine ⟨[], [], y :: h, rfl, nofun, .inl rfl, fun z hz => ?_⟩
      rcases List.mem_cons.1 hz with rfl | hz
      · exact (lt_iff_value hx hy).2 hyx
      · have hz' := hh.numbers z (List.mem_cons_of_mem _ hz)
        rw [lt_iff_value hx hz']
        exact hyx.trans ((lt_iff_value hy hz').1 (hlt z hz))

/-! ## Halving -/

/-- Halving finds the last index of a stretch at which a property holds, if the property holds of
the indices before some `k` and no others. -/
theorem halved_spec {h : List Float} {x : Float} {k : Nat}
    (hk : ∀ i, (h[i]?.any (· < x)) = true ↔ i < k) :
    ∀ {rounds base size : Nat}, 1 ≤ size → size ≤ rounds + 1 → (base = 0 ∨ base < k) →
      k ≤ base + size →
      (halved h x rounds base size = 0 ∨ halved h x rounds base size < k) ∧
        k ≤ halved h x rounds base size + 1
  | 0, base, size, hpos, hsize, hbase, hend => by
    rw [halved]
    exact ⟨hbase, by omega⟩
  | rounds + 1, base, size, hpos, hsize, hbase, hend => by
    rw [halved]
    split
    · exact ⟨hbase, by omega⟩
    · have hmiddle := hk (base + size / 2)
      refine halved_spec hk (by omega) (by omega) ?_ ?_
      · split
        · next h => exact .inr (hmiddle.1 h)
        · exact hbase
      · split
        · omega
        · next h =>
          have : ¬ base + size / 2 < k := mt hmiddle.2 h
          omega

section
variable {h : List Float} {x : Float} {below same above : List Float}

/-- The entries below a number are those of the indices before the length of their list. -/
theorem Place.any_lt_iff (p : Place h x below same above) (i : Nat) :
    (h[i]?.any (· < x)) = true ↔ i < below.length := by
  obtain ⟨rfl, hbelow, hsame, habove⟩ := p
  rw [List.append_assoc]
  by_cases hi : i < below.length
  · rw [List.getElem?_append_left hi, List.getElem?_eq_getElem hi, Option.any_some,
      decide_eq_true_iff]
    exact iff_of_true (hbelow _ (List.getElem_mem hi)) hi
  · refine iff_of_false (fun hany => ?_) hi
    rw [List.getElem?_append_right (not_lt.1 hi), Option.any_eq_true] at hany
    obtain ⟨y, hy, hlt⟩ := hany
    have hlt := (lt_iff.1 (of_decide_eq_true hlt)).2
    rcases List.mem_append.1 (List.mem_of_getElem? hy) with hy | hy
    · rcases hsame with rfl | ⟨z, rfl, hz⟩
      · cases hy
      · rw [List.mem_singleton.1 hy] at hlt
        exact hlt.ne (beq_iff.1 hz).2
    · exact hlt.not_gt (lt_iff.1 (habove y hy)).2

/-- Halving counts the entries below a number. -/
theorem Place.rank_eq (p : Place h x below same above) : rank h x = below.length := by
  have hk := p.any_lt_iff
  have hlength : below.length ≤ h.length := by
    rw [p.parts, List.append_assoc, List.length_append]
    omega
  rw [rank]
  by_cases hempty : h.length = 0
  · rw [hempty, halved, if_neg (by rw [hk]; omega)]
    omega
  · obtain ⟨hlow, hhigh⟩ : (halved h x h.length 0 h.length = 0 ∨ _) ∧ _ :=
      halved_spec hk (Nat.one_le_iff_ne_zero.2 hempty) (by omega) (.inl rfl) (by omega)
    split
    · next hlast =>
      have := (hk _).1 hlast
      omega
    · next hlast =>
      have := mt (hk _).2 hlast
      omega

/-- An equal entry is found at the place of a number, and no other entry is taken for one. -/
theorem Place.holds_eq (p : Place h x below same above) :
    holds h below.length x = !same.isEmpty := by
  obtain ⟨rfl, hbelow, hsame, habove⟩ := p
  rw [holds, List.append_assoc, List.getElem?_append_right le_rfl, Nat.sub_self]
  rcases hsame with rfl | ⟨y, rfl, hy⟩
  · cases above with
    | nil => rfl
    | cons z above =>
      have hne : ¬ (z == x) = true := fun heq =>
        (lt_iff.1 (habove z List.mem_cons_self)).2.ne (beq_iff.1 heq).2.symm
      simpa using hne
  · simpa using hy

/-- The entry before the place of a number is the last one below it. -/
theorem Place.entryBefore_eq (p : Place h x below same above) :
    entryBefore h below.length = below.getLast? := by
  obtain ⟨rfl, -, -, -⟩ := p
  rw [List.getLast?_eq_getElem?, List.append_assoc]
  cases hlength : below.length with
  | zero =>
    rw [List.length_eq_zero_iff.1 hlength]
    rfl
  | succ n =>
    rw [entryBefore, List.getElem?_append_left (by omega)]
    rfl

/-! ## Putting on record -/

/-- What is put in behind the first part of a list stands in front of the second. -/
theorem insertIdx_length_append (l r : List Float) (x : Float) :
    (l ++ r).insertIdx l.length x = l ++ x :: r := by
  induction l with
  | nil => rfl
  | cons y l ih => simpa using ih

/-- A number that is on record is not put there again. -/
theorem Place.recorded_of_same (p : Place h x below same above) (hsame : same ≠ []) :
    recorded h x = h := by
  have : same.isEmpty = false := by simpa using hsame
  rw [recorded, p.rank_eq, p.holds_eq, this, Bool.not_false, if_pos rfl]

/-- A number that is not on record is put between the entries below it and those above it. -/
theorem Place.recorded_of_new (p : Place h x below [] above) :
    recorded h x = below ++ x :: above := by
  rw [recorded, p.rank_eq, p.holds_eq, p.parts, List.append_nil]
  exact insertIdx_length_append below above x

/-- A number that was put on record has its place between the same entries as before. -/
theorem Place.recorded (p : Place h x below same above) (hx : ¬ x.isNaN) :
    ∃ y, Place (recorded h x) x below [y] above := by
  rcases p.same_eq with rfl | ⟨y, rfl, hy⟩
  · rw [p.recorded_of_new]
    refine ⟨x, ?_, p.below_lt, .inr ⟨x, rfl, (beq_iff_value hx hx).2 rfl⟩, p.lt_above⟩
    rw [List.append_assoc, List.singleton_append]
  · rw [p.recorded_of_same (List.cons_ne_nil _ _)]
    exact ⟨y, p⟩

/-- Putting a number on record keeps the order. -/
theorem Ascending.recorded (hh : Ascending h) (hx : ¬ x.isNaN) : Ascending (recorded h x) := by
  obtain ⟨below, same, above, p⟩ := exists_place hh hx
  by_cases hsame : same = []
  · subst hsame
    obtain ⟨hnumbers, hordered⟩ := hh
    rw [p.recorded_of_new]
    rw [p.parts, List.append_nil] at hnumbers hordered
    obtain ⟨hbelow, habove, hacross⟩ := List.pairwise_append.1 hordered
    refine ⟨fun y hy => ?_, List.pairwise_append.2 ⟨hbelow, ?_, fun y hy z hz => ?_⟩⟩
    · rcases List.mem_append.1 hy with hy | hy
      · exact hnumbers y (List.mem_append_left _ hy)
      · rcases List.mem_cons.1 hy with rfl | hy
        · exact hx
        · exact hnumbers y (List.mem_append_right _ hy)
    · exact List.pairwise_cons.2 ⟨p.lt_above, habove⟩
    · rcases List.mem_cons.1 hz with rfl | hz
      · exact p.below_lt y hy
      · exact hacross y hy z hz
  · rwa [p.recorded_of_same hsame]

/-- Putting a number on record adds it, unless an equal one is there, and changes nothing else. -/
theorem adds_recorded (hh : Ascending h) (hx : ¬ x.isNaN) :
    Adds h x (recorded h x) := by
  obtain ⟨below, same, above, p⟩ := exists_place hh hx
  rcases p.same_eq with rfl | ⟨y, rfl, hy⟩
  · refine .inr ⟨fun y hy heq => ?_, below, above, ?_, p.recorded_of_new⟩
    · have hvalue := (beq_iff.1 heq).2
      rw [p.parts, List.append_nil] at hy
      rcases List.mem_append.1 hy with hy | hy
      · exact (lt_iff.1 (p.below_lt y hy)).2.ne hvalue
      · exact (lt_iff.1 (p.lt_above y hy)).2.ne hvalue.symm
    · rw [p.parts, List.append_nil]
  · refine .inl ⟨⟨y, ?_, hy⟩, p.recorded_of_same (List.cons_ne_nil _ _)⟩
    rw [p.parts]
    simp

/-- What is on record was so before or is the new entry. -/
theorem mem_recorded {y : Float} (hh : Ascending h) (hx : ¬ x.isNaN) (hy : y ∈ recorded h x) :
    y ∈ h ∨ y = x := by
  rcases adds_recorded hh hx with ⟨-, heq⟩ | ⟨-, l, r, rfl, heq⟩
  · exact .inl (heq ▸ hy)
  · rw [heq] at hy
    rcases List.mem_append.1 hy with hy | hy
    · exact .inl (List.mem_append_left _ hy)
    · exact (List.mem_cons.1 hy).symm.imp_left (List.mem_append_right _)

/-- What was on record stays there. -/
theorem subset_recorded (hh : Ascending h) (hx : ¬ x.isNaN) : h ⊆ recorded h x := by
  rcases adds_recorded hh hx with ⟨-, heq⟩ | ⟨-, l, r, rfl, heq⟩
  · rw [heq]
    exact List.Subset.refl h
  · rw [heq]
    intro y hy
    exact List.mem_append.2 ((List.mem_append.1 hy).imp_right (List.mem_cons_of_mem _))

/-- The new number is on record, though its double may be another one. -/
theorem exists_mem_recorded (hh : Ascending h) (hx : ¬ x.isNaN) :
    ∃ y ∈ recorded h x, (y == x) = true := by
  rcases adds_recorded hh hx with ⟨hmem, heq⟩ | ⟨-, l, r, -, heq⟩
  · rw [heq]
    exact hmem
  · exact ⟨x, heq ▸ List.mem_append_right _ List.mem_cons_self, (beq_iff_value hx hx).2 rfl⟩

/-- What is on record after some numbers were put there one after the other: the same numbers, in
order and each once. -/
theorem foldl_recorded {xs : List Float} (hxs : ∀ x ∈ xs, ¬ x.isNaN) :
    Ascending (xs.foldl History.recorded []) ∧ xs.foldl History.recorded [] ⊆ xs ∧
      ∀ x ∈ xs, ∃ y ∈ xs.foldl History.recorded [], (y == x) = true := by
  induction xs using List.reverseRecOn with
  | nil => exact ⟨⟨nofun, .nil⟩, List.Subset.refl _, nofun⟩
  | append_singleton xs x ih =>
    obtain ⟨hascending, hsubset, hexists⟩ :=
      ih fun y hy => hxs y (List.mem_append_left _ hy)
    have hx := hxs x (List.mem_append_right _ (List.mem_singleton.2 rfl))
    rw [List.foldl_append, List.foldl_cons, List.foldl_nil]
    refine ⟨hascending.recorded hx, fun y hy => ?_, fun z hz => ?_⟩
    · rcases mem_recorded hascending hx hy with hy | rfl
      · exact List.mem_append_left _ (hsubset hy)
      · exact List.mem_append_right _ (List.mem_singleton.2 rfl)
    · rcases List.mem_append.1 hz with hz | hz
      · obtain ⟨y, hy, heq⟩ := hexists z hz
        exact ⟨y, subset_recorded hascending hx hy, heq⟩
      · rw [List.mem_singleton.1 hz]
        exact exists_mem_recorded hascending hx

/-! ## Neighbours -/

/-- The neighbours of a number, on record or not, are the last entry below it and the first entry
above it. -/
theorem Place.around_eq (p : Place h x below same above) :
    around h x = (below.getLast?, above.head?) := by
  rw [around, p.rank_eq, p.entryBefore_eq, p.holds_eq]
  refine Prod.ext rfl ?_
  rw [p.parts, List.append_assoc, List.head?_eq_getElem?]
  rcases p.same_eq with rfl | ⟨y, rfl, -⟩
  · rw [List.nil_append, List.getElem?_append_right le_rfl]
    simp
  · rw [List.getElem?_append_right (by omega)]
    simp

/-- The neighbours of an entry are the last one below it and the first one above it. -/
theorem Place.beside_eq {y : Float} (p : Place h x below [y] above) :
    beside h below.length = (below.getLast?, above.head?) := by
  rw [beside, p.entryBefore_eq]
  refine Prod.ext rfl ?_
  rw [p.parts, List.append_assoc, List.getElem?_append_right (by omega), List.head?_eq_getElem?]
  simp

/-- The neighbours of a number are the same before it is put on record and after it. -/
theorem beside_recorded (hh : Ascending h) (hx : ¬ x.isNaN) :
    beside (recorded h x) (rank h x) = around h x := by
  obtain ⟨below, same, above, p⟩ := exists_place hh hx
  obtain ⟨y, p'⟩ := p.recorded hx
  rw [p.around_eq, p.rank_eq, p'.beside_eq]

/-- The entries below a number are those before its place, and the entries above it those behind. -/
theorem Place.mem_of_lt (p : Place h x below same above) {y : Float} (hy : y ∈ h) :
    (y < x → y ∈ below) ∧ (x < y → y ∈ above) := by
  rw [p.parts, List.append_assoc] at hy
  rcases List.mem_append.1 hy with hy | hy
  · exact ⟨fun _ => hy, fun hlt => absurd (lt_iff.1 hlt).2 (lt_iff.1 (p.below_lt y hy)).2.not_gt⟩
  · rcases List.mem_append.1 hy with hy | hy
    · have heq : value y = value x := by
        rcases p.same_eq with rfl | ⟨z, rfl, hz⟩
        · cases hy
        · rw [List.mem_singleton.1 hy]
          exact (beq_iff.1 hz).2
      exact ⟨fun hlt => absurd heq (lt_iff.1 hlt).2.ne,
        fun hlt => absurd heq (lt_iff.1 hlt).2.ne'⟩
    · exact ⟨fun hlt => absurd (lt_iff.1 hlt).2 (lt_iff.1 (p.lt_above y hy)).2.not_gt, fun _ => hy⟩

/-- The last entry below a number is the greatest one below it. -/
theorem Place.isGreatestBelow (p : Place h x below same above) (hh : Ascending h) :
    IsGreatestBelow h x below.getLast? := by
  rcases List.eq_nil_or_concat below with rfl | ⟨init, l, rfl⟩
  · exact fun y hy hlt => List.not_mem_nil ((p.mem_of_lt hy).1 hlt)
  · have hl : l ∈ h := by
      rw [p.parts]
      simp
    have hordered := hh.ordered
    rw [p.parts, List.append_assoc, List.concat_eq_append] at hordered
    have hinit := (List.pairwise_append.1 (List.pairwise_append.1 hordered).1).2.2
    rw [List.concat_eq_append, List.getLast?_concat]
    refine ⟨hl, p.below_lt l (by simp), fun y hy hlt => ?_⟩
    rcases List.mem_append.1 (List.concat_eq_append ▸ (p.mem_of_lt hy).1 hlt) with hy | hy
    · have := lt_iff.1 (hinit y hy l (List.mem_singleton.2 rfl))
      exact le_iff.2 ⟨this.1, this.2.le⟩
    · rw [List.mem_singleton.1 hy]
      exact le_iff.2 ⟨⟨hh.numbers l hl, hh.numbers l hl⟩, le_rfl⟩

/-- The first entry above a number is the least one above it. -/
theorem Place.isLeastAbove (p : Place h x below same above) (hh : Ascending h) :
    IsLeastAbove h x above.head? := by
  cases above with
  | nil => exact fun y hy hlt => List.not_mem_nil ((p.mem_of_lt hy).2 hlt)
  | cons u rest =>
    have hu : u ∈ h := by
      rw [p.parts]
      simp
    have hordered := hh.ordered
    rw [p.parts] at hordered
    have hrest := (List.pairwise_cons.1 (List.pairwise_append.1 hordered).2.1).1
    refine ⟨hu, p.lt_above u List.mem_cons_self, fun y hy hlt => ?_⟩
    rcases List.mem_cons.1 ((p.mem_of_lt hy).2 hlt) with rfl | hy
    · exact le_iff.2 ⟨⟨hh.numbers y hu, hh.numbers y hu⟩, le_rfl⟩
    · have := lt_iff.1 (hrest y hy)
      exact le_iff.2 ⟨this.1, this.2.le⟩

/-- The neighbours of a number are the greatest entry below it and the least entry above it. -/
theorem around_spec (hh : Ascending h) (hx : ¬ x.isNaN) :
    IsGreatestBelow h x (around h x).1 ∧ IsLeastAbove h x (around h x).2 := by
  obtain ⟨below, same, above, p⟩ := exists_place hh hx
  rw [p.around_eq]
  exact ⟨p.isGreatestBelow hh, p.isLeastAbove hh⟩

end

end TouchOff.History
