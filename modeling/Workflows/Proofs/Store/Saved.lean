/-
Saved workflows do what their entries do. A list of entries in which every value is exact is read from
its column as it was, and so are the steps that were read from it; a run of the row that was added asks
the same calls and ends with the same report as a run of the entries.
-/
import Workflows.Proofs.Results
import Workflows.Proofs.Step.Hereditary
import Workflows.Store.Session

namespace Workflows

open Workflows.Json

/-! ## Steps as text -/

namespace StepList

theorem encodeEntries_ne_empty (entries : List Value) : encodeEntries entries ≠ "" := by
  cases entries <;> simp [encodeEntries, render, write, ← String.toList_inj]

/-- Exact entries are read from their text. -/
theorem decode_encodeEntries {entries : List Value} (h : exactItems entries = true) {steps : List Step}
    (hsteps : (Step.readEntries entries).1 = .ok steps) : (decode (encodeEntries entries)).1 = .ok steps := by
  have hread : read (encodeEntries entries) = .ok (.list entries) :=
    read_render Layout.readable_plain (by simpa [isExact] using h)
  simp only [decode, if_neg (encodeEntries_ne_empty entries), hread, ofEntries, hsteps]
  rfl

/-- The steps that were read from exact entries are read from their own text, too. -/
theorem decode_encode {entries : List Value} (h : exactItems entries = true) {steps : List Step}
    (hsteps : (Step.readEntries entries).1 = .ok steps) : (decode (encode steps)).1 = .ok steps := by
  obtain ⟨hne, hcanonical⟩ := Step.canonical_readEntries hsteps
  refine decode_encodeEntries (exactItems_iff.2 (List.forall_mem_map.2 ?_)) (Step.readEntries_toValue hne hcanonical)
  exact Value.hereditary_exact.readEntries (exactItems_iff.1 h) hsteps

end StepList

/-! ## The added row -/

namespace Table

theorem le_foldl_max : ∀ (ids : List Int) (n : Int), n ≤ ids.foldl max n ∧ ∀ id ∈ ids, id ≤ ids.foldl max n
  | [], n => ⟨le_refl n, by simp⟩
  | id :: ids, n => by
    obtain ⟨hn, hids⟩ := le_foldl_max ids (max n id)
    refine ⟨(le_max_left n id).trans hn, fun i hi => ?_⟩
    rcases List.mem_cons.1 hi with rfl | hi
    · exact (le_max_right n i).trans hn
    · exact hids i hi

theorem id_le_highest {table : Table} {row : Row} (h : row ∈ table.rows) : row.id ≤ table.highest := by
  unfold highest
  exact (le_foldl_max _ 0).2 row.id (List.mem_map.2 ⟨row, h, rfl⟩)

variable {table : Table} {name text : String} {description : Option String}

theorem row_insert : (table.insert name description text).2.row? (table.highest + 1) =
    some ⟨table.highest + 1, name, description, text, table.clock⟩ := by
  have hnone : table.rows.find? (·.id == table.highest + 1) = none := by
    rw [List.find?_eq_none]
    intro row hrow hid
    have := id_le_highest hrow
    have : row.id = table.highest + 1 := by simpa using hid
    omega
  simp only [insert, row?, List.find?_append, hnone, Option.none_or]
  simp

/-- The row that was added is loaded with the steps that its text holds. -/
theorem get_insert (hroom : Column.holdsInt (table.highest + 1) = true) {steps : List Step}
    (hsteps : (StepList.decode text).1 = .ok steps) :
    ((table.insert name description text).2.get (.int (table.highest + 1))).1 =
      .ok (some ⟨table.highest + 1, name, description.getD "", steps⟩) := by
  have hfind : (table.insert name description text).2.find (.int (table.highest + 1)) =
      .ok (some ⟨table.highest + 1, name, description, text, table.clock⟩) := by
    simp only [find, Column.key?, hroom, if_true, Except.map, Option.bind_some, row_insert]
  simp only [get, hfind, Row.load, hsteps, Except.map]

/-- What was saved was added under texts that its values become. -/
theorem insertRaw_eq_ok {name description steps : Value} {id : Int} {after : Table}
    (h : table.insertRaw name description steps = .ok (id, after)) :
    ∃ (nameText : String) (descriptionText : Option String) (stepsText : String),
      Column.text name = .ok (some nameText) ∧ Column.text description = .ok descriptionText ∧
      Column.text steps = .ok (some stepsText) ∧
      (id, after) = table.insert nameText descriptionText stepsText := by
  unfold insertRaw at h
  obtain ⟨nameText?, hname, h⟩ := bind_eq_ok.1 h
  obtain ⟨descriptionText, hdescription, h⟩ := bind_eq_ok.1 h
  obtain ⟨stepsText?, hsteps, h⟩ := bind_eq_ok.1 h
  cases nameText? with
  | none => cases h
  | some nameText =>
    cases stepsText? with
    | none => cases h
    | some stepsText => exact ⟨nameText, descriptionText, stepsText, hname, hdescription, hsteps, (Except.ok.inj h).symm⟩

theorem saveText_eq : table.saveText (.text name) (describe description) text =
    .ok (table.insert name (some (description.getD "")) text) := by
  have hdescription : Column.text ((describe description).orElse (.text "")) =
      .ok (some (description.getD "")) := by
    cases description with
    | none => rfl
    | some d =>
      by_cases hd : d = ""
      · rw [hd]
        rfl
      · exact congrArg Column.text (Value.orElse_text hd _)
  rw [saveText, insertRaw, hdescription]
  rfl

end Table

/-! ## Runs -/

/-- An entry that gives a step: an object whose parameters are none, null or an object. -/
def Step.usable : Value → Bool
  | .object members =>
    match Object.getOrNull members "params" with
    | .null | .object _ => true
    | _ => false
  | _ => false

theorem Step.ofValue_of_usable {entry : Value} (h : Step.usable entry = true) (position : Nat) :
    ∃ step, (Step.ofValue entry position).1 = some step := by
  cases entry with
  | object members =>
    simp only [Step.usable] at h
    simp only [Step.ofValue]
    cases hparams : Object.getOrNull members "params" with
    | null => exact ⟨_, rfl⟩
    | object params => exact ⟨_, rfl⟩
    | _ => rw [hparams] at h; cases h
  | _ => cases h

theorem Step.ofEntries_ne_nil : ∀ {entries : List Value}, (∃ entry ∈ entries, Step.usable entry = true) →
    ∀ position, (Step.ofEntries position entries).1 ≠ []
  | [], ⟨_, h, _⟩, _ => by cases h
  | entry :: entries, ⟨e, hmem, h⟩, position => by
    simp only [Step.ofEntries]
    rcases List.mem_cons.1 hmem with rfl | hmem
    · obtain ⟨step, hstep⟩ := Step.ofValue_of_usable h position
      rw [hstep]
      simp
    · intro hnil
      exact Step.ofEntries_ne_nil ⟨e, hmem, h⟩ _ (List.append_eq_nil_iff.1 hnil).2

/-- Entries of which one is usable have steps. -/
theorem Step.readEntries_of_usable {entries : List Value} (h : ∃ entry ∈ entries, Step.usable entry = true) :
    ∃ steps, (Step.readEntries entries).1 = .ok steps := by
  have hne : entries.isEmpty = false := by
    obtain ⟨e, hmem, -⟩ := h
    rw [List.isEmpty_eq_false_iff]
    exact List.ne_nil_of_mem hmem
  refine ⟨(Step.ofEntries 1 entries).1, ?_⟩
  simp only [Step.readEntries, hne, Bool.false_eq_true, if_false]
  rw [if_neg (by simpa using Step.ofEntries_ne_nil h 1)]

theorem elements_list (entries : List Value) :
    ((Value.list entries).orElse (.list [])).elements = .ok entries := by
  cases entries <;> rfl

theorem Step.read_list (entries : List Value) : Step.read (.list entries) = Step.readEntries entries := by
  simp only [Step.read, elements_list]

theorem Table.save_list (table : Table) (name description : Value) (entries : List Value) :
    table.save name description (.list entries) =
      table.saveText name description (StepList.encodeEntries entries) := by
  simp only [Table.save, StepList.encodeRaw, elements_list, Except.map, Except.bind]

/-- A run that has come to its end is reported. -/
theorem RunState.reported (state : RunState) : ∃ report, Report.ofResult state.result = .ok report := by
  unfold RunState.result
  split
  · next failure _ => exact ⟨.failure failure.toFault, rfl⟩
  · exact ⟨.success state.output, rfl⟩

section

variable {σ : Type} (world : World σ) (usualDelay : Int) (input : Value) (engine : Engine σ)

/-- A run of entries is the run of their steps, behind the notices of reading them. -/
theorem runToOutput_of_read {raw : Value} {steps : List Step} (h : (Step.read raw).1 = .ok steps) :
    ∃ notices : List Notice, runToOutput world usualDelay raw input engine =
      let final := runParsed world usualDelay steps input engine
      (final.1.result, final.2.1, notices.map .notice ++ final.2.2) := by
  refine ⟨(Step.read raw).2, ?_⟩
  simp only [runToOutput, run, h]
  rfl

/-- A run of a stored workflow is the run of its steps, behind the notices of loading it. -/
theorem Table.report_of_get {table : Table} {id : Value} {workflow : Workflow}
    (h : (table.get id).1 = .ok (some workflow)) (hne : workflow.steps ≠ []) :
    ∃ notices : List Notice, table.report world usualDelay id input engine =
      let final := runParsed world usualDelay workflow.steps input engine
      (Report.ofResult final.1.result, final.2.1, notices.map .notice ++ final.2.2) := by
  have hempty : workflow.steps.isEmpty = false := by simpa using hne
  refine ⟨(table.get id).2, ?_⟩
  simp only [report, run, h, runStored, hempty, Bool.false_eq_true, if_false]

end

namespace Table

/-- A workflow was saved: it is loaded with the given steps, and a run of it is reported, asks the same
calls and leaves the same engine as a run of the entries. -/
def DoesAs (saved : Except Fault (Int × Table)) (name description : String) (steps : List Step)
    (entries : List Value) : Prop :=
  ∃ id after, saved = .ok (id, after) ∧
    (after.get (.int id)).1 = .ok (some ⟨id, name, description, steps⟩) ∧
    ∀ {σ : Type} (world : World σ) (usualDelay : Int) (input : Value) (engine : Engine σ),
      let stored := after.report world usualDelay (.int id) input engine
      let direct := runToOutput world usualDelay (.list entries) input engine
      (∃ report, stored.1 = .ok report ∧ Report.ofResult direct.1 = .ok report) ∧
        stored.2.1 = direct.2.1 ∧
        Event.calls stored.2.2 = Event.calls direct.2.2

/-- Whatever text the steps are read from, the row with this text does what the entries do. -/
theorem doesAs_of_decode {table : Table} {name text : String} {description : Option String}
    {entries : List Value} {steps : List Step} (hroom : Column.holdsInt (table.highest + 1) = true)
    (hread : (Step.read (.list entries)).1 = .ok steps) (hdecode : (StepList.decode text).1 = .ok steps) :
    DoesAs (table.saveText (.text name) (describe description) text) name (description.getD "") steps
      entries := by
  have hne : steps ≠ [] := by
    rw [Step.read_list] at hread
    exact (Step.canonical_readEntries hread).1
  have hget : ((table.insert name (some (description.getD "")) text).2.get (.int (table.highest + 1))).1 =
      .ok (some ⟨table.highest + 1, name, description.getD "", steps⟩) := get_insert hroom hdecode
  refine ⟨table.highest + 1, (table.insert name (some (description.getD "")) text).2, saveText_eq, hget,
    fun world usualDelay input engine => ?_⟩
  obtain ⟨loading, hstored⟩ := report_of_get world usualDelay input engine hget hne
  obtain ⟨reading, hdirect⟩ := runToOutput_of_read world usualDelay input engine hread
  obtain ⟨report, hreport⟩ := (runParsed world usualDelay steps input engine).1.reported
  rw [hstored, hdirect]
  exact ⟨⟨report, hreport, hreport⟩, rfl, by simp⟩

/-- Exact entries of which one is usable have steps, and a workflow that is saved from the entries or from
the steps does what the entries do, as long as the table has an id left to give. -/
theorem saved_does_as_entries (table : Table) (name : String) (description : Option String)
    {entries : List Value} (hexact : exactItems entries = true)
    (husable : ∃ entry ∈ entries, Step.usable entry = true)
    (hroom : Column.holdsInt (table.highest + 1) = true) :
    ∃ steps, (Step.read (.list entries)).1 = .ok steps ∧
      DoesAs (table.save (.text name) (describe description) (.list entries)) name (description.getD "")
        steps entries ∧
      DoesAs (table.saveSteps (.text name) (describe description) steps) name (description.getD "")
        steps entries := by
  obtain ⟨steps, hsteps⟩ := Step.readEntries_of_usable husable
  have hread : (Step.read (.list entries)).1 = .ok steps := by rw [Step.read_list]; exact hsteps
  refine ⟨steps, hread, ?_, ?_⟩
  · rw [save_list]
    exact doesAs_of_decode hroom hread (StepList.decode_encodeEntries hexact hsteps)
  · exact doesAs_of_decode hroom hread (StepList.decode_encode hexact hsteps)

/-- A prompt under an older spelling, and an entry that is no step. -/
def promptEntries : List Value :=
  [.text "note",
    .object [("type", .text " LLM "), ("prompt_template", .text "Say \"hi\" to \x7b\x7bcontext\x7d\x7d")]]

theorem saved_prompt_does_as_entries :
    exactItems promptEntries = true ∧ (∃ entry ∈ promptEntries, Step.usable entry = true) ∧
      Column.holdsInt (({} : Table).highest + 1) = true ∧
      ∃ steps, (Step.read (.list promptEntries)).1 = .ok steps ∧
        DoesAs (({} : Table).save (.text "Greeting") (describe none) (.list promptEntries)) "Greeting" ""
          steps promptEntries ∧
        DoesAs (({} : Table).saveSteps (.text "Greeting") (describe none) steps) "Greeting" ""
          steps promptEntries :=
  have hexact : exactItems promptEntries = true := by decide
  have husable : ∃ entry ∈ promptEntries, Step.usable entry = true :=
    ⟨_, List.mem_cons_of_mem _ List.mem_cons_self, rfl⟩
  have hroom : Column.holdsInt (({} : Table).highest + 1) = true := by decide
  ⟨hexact, husable, hroom, saved_does_as_entries {} "Greeting" none hexact husable hroom⟩

end Table

end Workflows
