/-!
# Tables

A finite map from names to values (`Table`), kept as a list of entries in ascending order of the
names. The order makes the form unique: two tables that answer every look-up alike are equal
(`Table.ext_get?`), so that "the table is as it was before" is an equation.
-/

namespace TouchOff

/-- A finite map from names to values, in ascending order of the names by code point. -/
structure Table (α : Type) where
  entries : List (String × α)
  ascending : entries.Pairwise fun a b => a.1 < b.1

namespace Table

variable {α : Type}

instance [DecidableEq α] : DecidableEq (Table α) := fun s t =>
  decidable_of_iff (s.entries = t.entries) (by cases s; cases t; simp)

/-- The table without entries. -/
def empty : Table α := ⟨[], .nil⟩

instance : Inhabited (Table α) := ⟨empty⟩

/-- The value of a name, if the table has the name. -/
def get? (t : Table α) (name : String) : Option α :=
  t.entries.lookup name

/-- Whether the table has a name. -/
def contains (t : Table α) (name : String) : Bool :=
  (t.get? name).isSome

/-- Puts an entry in its place among ascending entries; an entry of the same name gives way. -/
def insertEntry (name : String) (value : α) : List (String × α) → List (String × α)
  | [] => [(name, value)]
  | entry :: rest =>
    if name < entry.1 then (name, value) :: entry :: rest
    else if name = entry.1 then (name, value) :: rest
    else entry :: insertEntry name value rest

/-- An entry that is there after another one was put in is the new one or an old one. -/
theorem mem_insertEntry {name : String} {value : α} {entry : String × α} :
    ∀ {entries : List (String × α)}, entry ∈ insertEntry name value entries →
      entry = (name, value) ∨ entry ∈ entries
  | [], h => by simpa [insertEntry] using h
  | first :: rest, h => by
    rw [insertEntry] at h
    split at h
    · simpa using h
    · split at h
      · rcases List.mem_cons.1 h with h | h
        · exact .inl h
        · exact .inr (List.mem_cons_of_mem _ h)
      · rcases List.mem_cons.1 h with h | h
        · exact .inr (h ▸ List.mem_cons_self)
        · exact (mem_insertEntry h).imp_right (List.mem_cons_of_mem _)

/-- Of two different names one comes first. -/
theorem name_lt_of_not_lt {a b : String} (h : ¬ a < b) (hne : a ≠ b) : b < a := by
  by_cases hb : b < a
  · exact hb
  · exact absurd (String.le_antisymm (String.not_lt.1 hb) (String.not_lt.1 h)) hne

/-- An entry that is put in its place leaves the entries ascending. -/
theorem ascending_insertEntry (name : String) (value : α) :
    ∀ {entries : List (String × α)}, entries.Pairwise (fun a b => a.1 < b.1) →
      (insertEntry name value entries).Pairwise fun a b => a.1 < b.1
  | [], _ => by simp [insertEntry]
  | first :: rest, h => by
    rw [insertEntry]
    have ⟨hfirst, hrest⟩ := List.pairwise_cons.1 h
    split
    · next hlt =>
      refine List.pairwise_cons.2 ⟨fun entry hentry => ?_, h⟩
      rcases List.mem_cons.1 hentry with rfl | hentry
      · exact hlt
      · exact String.lt_trans hlt (hfirst entry hentry)
    · next hlt =>
      split
      · next heq =>
        exact List.pairwise_cons.2 ⟨fun entry hentry => heq ▸ hfirst entry hentry, hrest⟩
      · next hne =>
        have ih := ascending_insertEntry name value hrest
        refine List.pairwise_cons.2 ⟨fun entry hentry => ?_, ih⟩
        rcases mem_insertEntry hentry with rfl | hentry
        · exact name_lt_of_not_lt hlt hne
        · exact hfirst entry hentry

/-- Gives a name a value; an earlier value of the name gives way. -/
def insert (t : Table α) (name : String) (value : α) : Table α :=
  ⟨insertEntry name value t.entries, ascending_insertEntry name value t.ascending⟩

/-- Takes a name out, if the table has it. -/
def erase (t : Table α) (name : String) : Table α :=
  ⟨t.entries.filter (·.1 != name), t.ascending.filter _⟩

/-- The table of a list of entries, of which a later one of the same name wins. -/
def ofList (entries : List (String × α)) : Table α :=
  entries.foldl (fun t entry => t.insert entry.1 entry.2) empty

@[simp] theorem get?_empty (name : String) : (empty : Table α).get? name = none := rfl

/-- A look-up asks the first entry, and the others if its name is another one. -/
theorem lookup_cons_eq_ite (name : String) (first : String × α) (rest : List (String × α)) :
    (first :: rest).lookup name = if name = first.1 then some first.2 else rest.lookup name := by
  rw [List.lookup_cons]
  by_cases h : name = first.1
  · simp [h]
  · have hne : (name == first.1) = false := beq_false_of_ne h
    simp [hne, h]

/-- After an entry was put in its name has its value, and the others have theirs. -/
theorem lookup_insertEntry (name : String) (value : α) (other : String) :
    ∀ entries : List (String × α), (insertEntry name value entries).lookup other =
      if other = name then some value else entries.lookup other
  | [] => by rw [insertEntry, lookup_cons_eq_ite]
  | first :: rest => by
    rw [insertEntry]
    split
    · rw [lookup_cons_eq_ite]
    · split
      · next heq => simp only [lookup_cons_eq_ite, ← heq]; split <;> rfl
      · next hne =>
        rw [lookup_cons_eq_ite, lookup_cons_eq_ite, lookup_insertEntry name value other rest]
        by_cases h : other = name
        · have : other ≠ first.1 := h ▸ hne
          simp [h, hne]
        · simp [h]

/-- After an insertion the name has the new value and every other name the old one. -/
theorem get?_insert (t : Table α) (name : String) (value : α) (other : String) :
    (t.insert name value).get? other = if other = name then some value else t.get? other :=
  lookup_insertEntry name value other t.entries

/-- After the entries of a name were taken out the name has no value, and the others have theirs. -/
theorem lookup_filter_name (name other : String) :
    ∀ entries : List (String × α), (entries.filter (·.1 != name)).lookup other =
      if other = name then none else entries.lookup other
  | [] => by simp
  | first :: rest => by
    have ih := lookup_filter_name name other rest
    rw [List.filter_cons]
    by_cases hf : first.1 = name
    · rw [if_neg (by simpa using hf), ih, lookup_cons_eq_ite, hf]
      split <;> rfl
    · rw [if_pos (by simpa using hf), lookup_cons_eq_ite, ih, lookup_cons_eq_ite]
      by_cases ho : other = name
      · have : ¬ name = first.1 := fun h => hf h.symm
        simp [ho, this]
      · simp [ho]

/-- After an erasure the name has no value and every other name the old one. -/
theorem get?_erase (t : Table α) (name other : String) :
    (t.erase name).get? other = if other = name then none else t.get? other :=
  lookup_filter_name name other t.entries

/-- A name that has a value stands in an entry with it. -/
theorem mem_of_get? {t : Table α} {name : String} {value : α} (h : t.get? name = some value) :
    (name, value) ∈ t.entries := by
  obtain ⟨entries, _⟩ := t
  change entries.lookup name = some value at h
  induction entries with
  | nil => simp at h
  | cons first rest ih =>
    rw [lookup_cons_eq_ite] at h
    split at h
    · next heq =>
      have : first.2 = value := by simpa using h
      exact List.mem_cons.2 (.inl (by rw [heq, ← this]))
    · exact List.mem_cons_of_mem _ (ih (List.pairwise_cons.1 ‹_›).2 h)

/-- The entries before the first name that is not smaller do not answer for it. -/
theorem lookup_eq_none_of_lt {name : String} {entries : List (String × α)}
    (h : ∀ entry ∈ entries, name < entry.1) : entries.lookup name = none := by
  induction entries with
  | nil => rfl
  | cons first rest ih =>
    have hne : name ≠ first.1 := fun heq =>
      String.lt_irrefl first.1 (heq ▸ h first List.mem_cons_self)
    rw [lookup_cons_eq_ite, if_neg hne]
    exact ih fun entry hentry => h entry (List.mem_cons_of_mem _ hentry)

/-- The entries of a table are what its look-ups answer. -/
theorem mem_entries_iff {t : Table α} {name : String} {value : α} :
    (name, value) ∈ t.entries ↔ t.get? name = some value := by
  refine ⟨fun h => ?_, mem_of_get?⟩
  obtain ⟨entries, hascending⟩ := t
  change (name, value) ∈ entries at h
  change entries.lookup name = some value
  induction entries with
  | nil => cases h
  | cons first rest ih =>
    obtain ⟨hfirst, hrest⟩ := List.pairwise_cons.1 hascending
    rw [lookup_cons_eq_ite]
    rcases List.mem_cons.1 h with rfl | h
    · rw [if_pos rfl]
    · have hne : name ≠ first.1 := fun heq => String.lt_irrefl first.1 (heq ▸ hfirst _ h)
      rw [if_neg hne, ih hrest h]

/-- Ascending entries that answer every look-up alike are the same entries. -/
theorem entries_eq_of_lookup_eq : ∀ {s t : List (String × α)},
    s.Pairwise (fun a b => a.1 < b.1) → t.Pairwise (fun a b => a.1 < b.1) →
      (∀ name, s.lookup name = t.lookup name) → s = t
  | [], [], _, _, _ => rfl
  | [], (name, value) :: rest, _, _, h => by simpa using h name
  | (name, value) :: rest, [], _, _, h => by simpa using h name
  | (a, x) :: s, (b, y) :: t, hs, ht, h => by
    have ⟨ha, hs'⟩ := List.pairwise_cons.1 hs
    have ⟨hb, ht'⟩ := List.pairwise_cons.1 ht
    have hab : a = b := by
      by_cases hlt : a < b
      · have hnone : ((b, y) :: t).lookup a = none := lookup_eq_none_of_lt fun entry hentry => by
          rcases List.mem_cons.1 hentry with rfl | hentry
          · exact hlt
          · exact String.lt_trans hlt (hb entry hentry)
        simp [← h a] at hnone
      · by_cases hne : a = b
        · exact hne
        · have hlt := name_lt_of_not_lt hlt hne
          have hnone : ((a, x) :: s).lookup b = none := lookup_eq_none_of_lt fun entry hentry => by
            rcases List.mem_cons.1 hentry with rfl | hentry
            · exact hlt
            · exact String.lt_trans hlt (ha entry hentry)
          simp [h b] at hnone
    subst hab
    have hxy : x = y := by simpa using h a
    subst hxy
    congr 1
    refine entries_eq_of_lookup_eq hs' ht' fun name => ?_
    by_cases hname : name = a
    · rw [hname, lookup_eq_none_of_lt ha, lookup_eq_none_of_lt hb]
    · have h1 := h name
      rwa [lookup_cons_eq_ite, lookup_cons_eq_ite, if_neg hname, if_neg hname] at h1

/-- Two tables that answer every look-up alike are equal. -/
theorem ext_get? {s t : Table α} (h : ∀ name, s.get? name = t.get? name) : s = t := by
  obtain ⟨s, hs⟩ := s
  obtain ⟨t, ht⟩ := t
  have := entries_eq_of_lookup_eq hs ht h
  subst this
  rfl

end Table

end TouchOff
