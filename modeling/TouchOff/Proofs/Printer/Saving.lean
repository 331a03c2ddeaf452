import TouchOff.Proofs.Printer.Reachable
import TouchOff.Proofs.Printer.Reload

/-!
# Saved changes are read back

Whatever changes are recorded, if they can be written at all then their text below the text of the
settings loads the settings with the changes made, and alone it loads the changes themselves
(`Settings.reads_back`). What a printer records can always be written
(`Printer.Reachable.recorded`).
-/

namespace TouchOff

/-- A position of the endstop that is recorded is a change that can be written. -/
theorem Settings.recordEndstop_eq_recordAll (s : Settings) (endstop : Float) :
    ∃ c : Change, c.Writable ∧ s.recordEndstop endstop = s.recordAll [c] := by
  have hsect := optionName_of_known "stepper_y" (by simp [knownNames])
  have hoption := optionName_of_known "position_endstop" (by simp [knownNames])
  refine ⟨⟨"stepper_y", "position_endstop", fixed 3 endstop⟩, ⟨?_, ?_, plain_fixed 3 endstop⟩, rfl⟩
  · exact hsect.lower.symm ▸ hsect.toKeptName
  · exact hoption.lower.symm ▸ hoption

/-- What is saved is recorded by changes that can be written. -/
theorem Settings.Saves.recordAll {s s' : Settings} (h : s.Saves s') :
    ∃ changes : List Change, (∀ c ∈ changes, c.Writable) ∧ s' = s.recordAll changes := by
  rcases h with rfl | ⟨endstop, rfl⟩
  · exact ⟨[], fun c hc => absurd hc List.not_mem_nil, rfl⟩
  · obtain ⟨c, hc, heq⟩ := s.recordEndstop_eq_recordAll endstop
    exact ⟨[c], fun c' hc' => List.mem_singleton.1 hc' ▸ hc, heq⟩

/-- What waits in a printer are changes of the settings that it was set up with. -/
theorem Printer.Reachable.saves {file : Option String} {text : String} {p : Printer}
    (h : Reachable file text p) :
    ∃ sections, Settings.read { file } text = ({ file, sections }, .ok ()) ∧
      Settings.Saves { file, sections } p.bench.store := by
  induction h with
  | setup hsetup =>
    obtain ⟨sections, hread, hp⟩ := ofText_eq_ofSettings hsetup
    obtain ⟨-, hstore, -⟩ := parts_of_ofSettings hp
    exact ⟨sections, hread, .inl hstore⟩
  | call c _ ih =>
    obtain ⟨sections, hread, hsaves⟩ := ih
    exact ⟨sections, hread, hsaves.trans (saves_calls _ [c])⟩
  | take _ ih => exact ih

/-- Whatever a printer is told, it records changes that can be written. -/
theorem Printer.Reachable.recorded {file : Option String} {text : String} {p : Printer}
    (h : Reachable file text p) :
    ∃ sections changes, Settings.read { file } text = ({ file, sections }, .ok ()) ∧
      (∀ c ∈ changes, Change.Writable c) ∧
      p.bench.store = Settings.recordAll { file, sections } changes := by
  obtain ⟨sections, hread, hsaves⟩ := h.saves
  obtain ⟨changes, hchanges, hstore⟩ := hsaves.recordAll
  exact ⟨sections, changes, hread, hchanges, hstore⟩

/-- **Recorded changes are read back.** Take any text that can be read, and any changes that are
recorded and whose names, as they are kept, and values can be written. The text with theirs below it
can be read as well, and what it says is what the first one says with each option overridden for
which a change waits. Below no text, theirs says just what waits. And the changes that a printer
records, whatever it was set up with and told, are always such changes. -/
theorem Settings.reads_back {file : Option String} {text : String} {sections : Sections}
    (hread : Settings.read { file } text = ({ file, sections }, .ok ())) {changes : List Change}
    (hchanges : ∀ c ∈ changes, c.Writable) :
    let s := Settings.recordAll { file, sections } changes
    (∃ loaded, Settings.read { file } (text ++ "\n" ++ s.pendingText) =
        ({ file, sections := loaded }, .ok ()) ∧ s.pending.Overrides sections loaded) ∧
      Settings.read { file } ("" ++ "\n" ++ s.pendingText) =
        ({ file, sections := s.pending }, .ok ()) ∧
      ∀ file' text' p, Printer.Reachable file' text' p →
        ∃ sections' changes', Settings.read { file := file' } text' =
            ({ file := file', sections := sections' }, .ok ()) ∧
          (∀ c ∈ changes', Change.Writable c) ∧
          p.bench.store = Settings.recordAll { file := file', sections := sections' } changes' := by
  intro s
  have hs : s.pending.Writable :=
    writable_recordAll (s := { file, sections }) Sections.writable_empty hchanges
  refine ⟨⟨_, read_append_pendingText hread hs, Sections.overrides_withChanges _ _⟩, ?_,
    fun file' text' p h => h.recorded⟩
  -- Overriding nothing leaves what overrides.
  have hnothing : Settings.read { file } "" = ({ file }, .ok ()) := rfl
  have hempty := Sections.overrides_withChanges .empty s.pending
  rw [read_append_pendingText hnothing hs, hempty.unique s.pending.overrides_empty]

/-- Values that are empty or look like a header or an assignment, and a section with brackets in its
name, are read back below a text that has some of the options. -/
theorem Settings.reads_back_brackets :
    let text := "[Probe]\r\nSpeed: 2 # slow\r\nz_end=1\r\n[limits]\r"
    let changes : List Change := [⟨"A]=[B", "Key", ""⟩, ⟨"Probe", "SPEED", "= 3 : [x]"⟩,
      ⟨"probe", "z end", "[v]"⟩]
    let sections := (Settings.read {} text).1.sections
    Settings.read {} text = ({ sections }, .ok ()) ∧ (∀ c ∈ changes, c.Writable) ∧
      ∃ loaded, Settings.read {} (text ++ "\n" ++ (recordAll { sections } changes).pendingText) =
          ({ sections := loaded }, .ok ()) ∧
        loaded.contains "limits" = true ∧ (loaded.options "a]=[b").get? "key" = some "" ∧
        (loaded.options "probe").get? "speed" = some "= 3 : [x]" ∧
        (loaded.options "probe").get? "z_end" = some "1" ∧
        (loaded.options "probe").get? "z end" = some "[v]" := by
  intro text changes sections
  have hread : Settings.read {} text = ({ sections }, .ok ()) :=
    Prod.ext rfl (by decide +kernel)
  have hchanges : ∀ c ∈ changes, c.Writable := by decide +kernel
  obtain ⟨⟨loaded, hloaded, hoverrides⟩, -, -⟩ := reads_back hread hchanges
  refine ⟨hread, hchanges, loaded, hloaded, ?_⟩
  rw [hoverrides.contains, hoverrides.get?, hoverrides.get?, hoverrides.get?, hoverrides.get?]
  decide +kernel

end TouchOff
