/-
The store is a finite map from ids to workflows. What the table holds is the map that a session has written
into it, one saved and deleted workflow after another; every reply is read off that map; and the list, whose
order is that of age, is the order of ids, because a row with a higher id is never older.
-/
import Workflows.Proofs.Store.Saved
import Workflows.Run.Script
import Workflows.Store.Session

namespace Workflows

open Workflows.Json

/-! ## The map -/

/-- The workflows of a store by their ids; there is none under an id that is not live. -/
abbrev Shelf := Int → Option Workflow

/-- The entries of steps in raw form. -/
def rawEntries (steps : Value) : Except Fault (List Value) := (steps.orElse (.list [])).elements

/-- The steps with which steps in raw form are kept: those of the entries that JSON holds of them. -/
def keptSteps (steps : Value) : List Step :=
  match rawEntries steps with
  | .ok entries => (StepList.ofEntries (publishedItems entries)).1
  | .error _ => []

namespace Shelf

/-- No workflow is kept. -/
def empty : Shelf := fun _ => none

/-- The map after an operation, which was replied something: saving adds a workflow under the id of the
reply, and deleting removes one if it was found. -/
def after (shelf : Shelf) (operation : Operation) (reply : Except Fault Reply) : Shelf :=
  match operation, reply with
  | .save name description steps, .ok (.saved id) =>
    Function.update shelf id (some ⟨id, name, description.getD "", keptSteps steps⟩)
  | .delete id, .ok (.deleted true) => Function.update shelf id none
  | _, _ => shelf

/-- The map that a log of operations and replies leaves. -/
def replay (log : List (Operation × Except Fault Reply)) : Shelf :=
  log.foldl (fun shelf (operation, reply) => shelf.after operation reply) empty

section

variable {σ : Type} (world : World σ) (usualDelay : Int)

/-- What a run of the workflow under an id comes to. -/
def runResult (shelf : Shelf) (id : Int) (input : Value) (engine : Engine σ) : Except Fault String :=
  match shelf id with
  | some workflow => (runStored world usualDelay workflow.steps input engine).1
  | none => .error (.unknownWorkflow (.int id))

/-- A reply is the one that the map gives. An id that no column holds is a fault, and so are steps that
cannot be gone through. -/
def Gives (shelf : Shelf) (engine : Engine σ) (operation : Operation) (reply : Except Fault Reply) : Prop :=
  match operation with
  | .save _ _ steps =>
    match rawEntries steps with
    | .ok _ => ∃ id, shelf id = none ∧ reply = .ok (.saved id)
    | .error fault => reply = .error fault
  | .delete id =>
    reply = if Column.holdsInt id then .ok (.deleted (shelf id).isSome) else .error .columnTooNarrow
  | .get id => reply = if Column.holdsInt id then .ok (.loaded (shelf id)) else .error .columnTooNarrow
  | .list => ∃ workflows, reply = .ok (.listed workflows) ∧ (workflows.map (·.id)).Pairwise (· > ·) ∧
      ∀ workflow, workflow ∈ workflows ↔ shelf workflow.id = some workflow
  | .run id input =>
    if Column.holdsInt id then
      ∃ report, Report.ofResult (shelf.runResult world usualDelay id input engine) = .ok report ∧
        reply = .ok (.ran report)
    else reply = .error .columnTooNarrow
  | .wait _ => reply = .ok .waited

end

end Shelf

/-- What an operation does to the rows: saving adds one under the new id, deleting removes those of the id if
there is one, and all other operations leave them as they are. -/
def Operation.Changes (operation : Operation) (reply : Except Fault Reply) (rows rows' : List Row) : Prop :=
  match operation, reply with
  | .save _ _ _, .ok (.saved id) => ∃ row, row.id = id ∧ rows' = rows ++ [row]
  | .delete id, .ok (.deleted true) => rows' = rows.filter (·.id != id)
  | _, _ => rows' = rows

/-- What an operation saves can be written in JSON. -/
def Operation.Writable : Operation → Prop
  | .save _ _ steps => ∀ entries, rawEntries steps = .ok entries → writableItems entries = true
  | _ => True

/-! ## The map of a table -/

/-- Writable entries are read from their text as JSON holds them. -/
theorem StepList.decode_writable {entries : List Value} (h : writableItems entries = true) :
    (decode (encodeEntries entries)).1 = .ok (ofEntries (publishedItems entries)).1 := by
  have hread : read (encodeEntries entries) = .ok (.list (publishedItems entries)) :=
    read_render_published Layout.readable_plain (by simpa [isWritable] using h)
  simp only [decode, if_neg (encodeEntries_ne_empty entries), hread]

theorem Row.load_of_decode {row : Row} {steps : List Step} (h : (StepList.decode row.steps).1 = .ok steps) :
    row.load.1 = .ok ⟨row.id, row.name, row.description.getD "", steps⟩ := by
  simp only [load, h, Except.map]

theorem Row.id_of_load {row : Row} {workflow : Workflow} (h : row.load.1 = .ok workflow) : workflow.id = row.id := by
  cases hsteps : (StepList.decode row.steps).1 with
  | error fault =>
    simp only [load, hsteps, Except.map] at h
    cases h
  | ok steps =>
    rw [load_of_decode hsteps] at h
    rw [← Except.ok.inj h]

/-- The workflow of a row, if it is loaded. -/
def Row.loaded? (row : Row) : Option Workflow := row.load.1.toOption

theorem Row.loaded_eq_some {row : Row} {workflow : Workflow} : row.loaded? = some workflow ↔ row.load.1 = .ok workflow := by
  unfold loaded?
  cases row.load.1 <;> simp [Except.toOption]

namespace Table

variable {table : Table} {name text : String} {description : Option String} {id : Int}

/-- The workflows that the rows of a table hold. -/
def shelf (table : Table) : Shelf := fun id => (table.row? id).bind Row.loaded?

/-- The rows are in the order of their ids and of their ages, none is from the future, and each is loaded. -/
structure Sound (table : Table) : Prop where
  ids : (table.rows.map (·.id)).Pairwise (· < ·)
  ages : (table.rows.map (·.created)).Pairwise (· ≤ ·)
  past : ∀ row ∈ table.rows, row.created ≤ table.clock
  loads : ∀ row ∈ table.rows, ∃ workflow, row.load.1 = .ok workflow

theorem sound_empty : ({} : Table).Sound := ⟨.nil, .nil, by simp, by simp⟩

theorem row_of_mem (hids : (table.rows.map (·.id)).Pairwise (· < ·)) {row : Row} (h : row ∈ table.rows) :
    table.row? row.id = some row := by
  cases hfind : table.row? row.id with
  | none => simpa using List.find?_eq_none.1 hfind row h
  | some other =>
    have hother : other.id = row.id := by simpa using List.find?_some hfind
    have hdistinct : (table.rows.map (·.id)).Nodup := hids.imp ne_of_lt
    rw [List.inj_on_of_nodup_map hdistinct (List.mem_of_find?_eq_some hfind) h hother]

theorem mem_of_row {row : Row} (h : table.row? id = some row) : row ∈ table.rows ∧ row.id = id :=
  ⟨List.mem_of_find?_eq_some h, by simpa using List.find?_some h⟩

theorem shelf_isSome (hs : table.Sound) : (table.shelf id).isSome = (table.row? id).isSome := by
  cases hrow : table.row? id with
  | none => simp [shelf, hrow]
  | some row =>
    obtain ⟨workflow, hload⟩ := hs.loads row (mem_of_row hrow).1
    simp [shelf, hrow, Row.loaded_eq_some.2 hload]

theorem find_int (h : Column.holdsInt id = true) : table.find (.int id) = .ok (table.row? id) := by
  simp only [find, Column.key?, h, if_true, Except.map, Option.bind_some]

theorem find_wide (h : Column.holdsInt id = false) : table.find (.int id) = .error .columnTooNarrow := by
  simp only [find, Column.key?, h, Bool.false_eq_true, if_false, Except.map]

/-- What is loaded under an id is what the map has there. -/
theorem get_int (hs : table.Sound) (h : Column.holdsInt id = true) : (table.get (.int id)).1 = .ok (table.shelf id) := by
  simp only [get, find_int h, shelf]
  cases hrow : table.row? id with
  | none => rfl
  | some row =>
    obtain ⟨workflow, hload⟩ := hs.loads row (mem_of_row hrow).1
    simp only [hload, Except.map, Option.bind_some, Row.loaded_eq_some.2 hload]

/-! ## Saving -/

theorem row_beyond (h : table.highest < id) : table.row? id = none := by
  refine List.find?_eq_none.2 fun row hrow hid => ?_
  have hle := id_le_highest hrow
  have : row.id = id := by simpa using hid
  omega

theorem shelf_beyond (h : table.highest < id) : table.shelf id = none := by
  simp only [shelf, row_beyond h, Option.bind_none]

theorem row_insert_other (h : id ≠ table.highest + 1) :
    (table.insert name description text).2.row? id = table.row? id := by
  -- the search goes on to the new row only when it has found no other, and then stops there for nothing
  have hnone : ([⟨table.highest + 1, name, description, text, table.clock⟩] : List Row).find? (·.id == id) = none := by
    simpa using h.symm
  simp only [row?, insert, List.find?_append, hnone, Option.or_none]

theorem sound_insert (hs : table.Sound) {steps : List Step} (hsteps : (StepList.decode text).1 = .ok steps) :
    (table.insert name description text).2.Sound where
  ids := by
    simp only [insert, List.map_append, List.map_cons, List.map_nil, List.pairwise_append]
    refine ⟨hs.ids, List.pairwise_singleton _ _, fun id hid new hnew => ?_⟩
    obtain ⟨row, hrow, rfl⟩ := List.mem_map.1 hid
    rw [List.mem_singleton.1 hnew]
    have := id_le_highest hrow
    omega
  ages := by
    simp only [insert, List.map_append, List.map_cons, List.map_nil, List.pairwise_append]
    refine ⟨hs.ages, List.pairwise_singleton _ _, fun age hage now hnow => ?_⟩
    obtain ⟨row, hrow, rfl⟩ := List.mem_map.1 hage
    rw [List.mem_singleton.1 hnow]
    exact hs.past row hrow
  past := by
    simp only [insert, List.forall_mem_append, List.forall_mem_singleton]
    exact ⟨hs.past, le_refl _⟩
  loads := by
    simp only [insert, List.forall_mem_append, List.forall_mem_singleton]
    exact ⟨hs.loads, _, Row.load_of_decode hsteps⟩

theorem shelf_insert {steps : List Step} (hsteps : (StepList.decode text).1 = .ok steps) :
    (table.insert name description text).2.shelf = Function.update table.shelf (table.highest + 1)
      (some ⟨table.highest + 1, name, description.getD "", steps⟩) := by
  funext id
  by_cases hid : id = table.highest + 1
  · rw [hid, Function.update_self]
    simp only [shelf, row_insert, Option.bind_some]
    exact Row.loaded_eq_some.2 (Row.load_of_decode hsteps)
  · rw [Function.update_of_ne hid]
    simp only [shelf, row_insert_other hid]

/-! ## Deleting -/

/-- The table without the rows of an id. -/
def without (table : Table) (id : Int) : Table := { table with rows := table.rows.filter (·.id != id) }

theorem delete_int (h : Column.holdsInt id = true) : table.delete (.int id) =
    .ok ((table.row? id).isSome, if (table.row? id).isSome then table.without id else table) := by
  simp only [delete, find_int h, Except.map]
  cases hrow : table.row? id with
  | none => rfl
  | some row =>
    obtain ⟨-, rfl⟩ := mem_of_row hrow
    rfl

theorem sound_without (hs : table.Sound) : (table.without id).Sound where
  ids := hs.ids.sublist (List.filter_sublist.map _)
  ages := hs.ages.sublist (List.filter_sublist.map _)
  past row hrow := hs.past row (List.mem_of_mem_filter hrow)
  loads row hrow := hs.loads row (List.mem_of_mem_filter hrow)

theorem row_without_self : (table.without id).row? id = none := by
  refine List.find?_eq_none.2 fun row hrow hid => ?_
  simpa [beq_iff_eq.1 hid] using (List.mem_filter.1 hrow).2

theorem row_without_other {other : Int} (h : other ≠ id) : (table.without id).row? other = table.row? other := by
  simp only [row?, without, List.find?_filter]
  congr 1
  funext row
  by_cases hrow : row.id = other <;> simp [hrow, h]

theorem shelf_without : (table.without id).shelf = Function.update table.shelf id none := by
  funext other
  by_cases hother : other = id
  · simp only [hother, Function.update_self, shelf, row_without_self, Option.bind_none]
  · simp only [Function.update_of_ne hother, shelf, row_without_other hother]

/-! ## Listing -/

theorem insertByAge_last {row : Row} : ∀ {rows : List Row}, (∀ other ∈ rows, isNewer other row = true) →
    insertByAge row rows = rows ++ [row]
  | [], _ => rfl
  | other :: rows, h => by
    obtain ⟨hother, hrows⟩ := List.forall_mem_cons.1 h
    rw [insertByAge, if_pos hother, insertByAge_last hrows, List.cons_append]

/-- Rows in the order of their ids, of which none is older than those before it, are listed from the last. -/
theorem newestFirst_eq_reverse : ∀ {rows : List Row}, (rows.map (·.id)).Pairwise (· < ·) →
    (rows.map (·.created)).Pairwise (· ≤ ·) → newestFirst rows = rows.reverse
  | [], _, _ => rfl
  | row :: rows, hids, hages => by
    obtain ⟨hid, hids⟩ := List.pairwise_cons.1 hids
    obtain ⟨hage, hages⟩ := List.pairwise_cons.1 hages
    -- rows of one age are told apart by their ids
    have hnewer : ∀ other ∈ rows.reverse, isNewer other row = true := fun other hother => by
      have hmem := List.mem_reverse.1 hother
      have hidother := hid other.id (List.mem_map_of_mem hmem)
      have hageother := hage other.created (List.mem_map_of_mem hmem)
      rcases Nat.lt_or_eq_of_le hageother with hlt | heq
      · simp [isNewer, hlt]
      · simp [isNewer, heq, hidother]
    rw [List.reverse_cons, ← insertByAge_last hnewer, ← newestFirst_eq_reverse hids hages]
    rfl

theorem loadAll_eq_ok : ∀ {rows : List Row}, (∀ row ∈ rows, ∃ workflow, row.load.1 = .ok workflow) →
    (loadAll rows).1 = .ok (rows.filterMap Row.loaded?) ∧ (rows.filterMap Row.loaded?).map (·.id) = rows.map (·.id)
  | [], _ => ⟨rfl, rfl⟩
  | row :: rows, h => by
    obtain ⟨⟨workflow, hload⟩, hrows⟩ := List.forall_mem_cons.1 h
    obtain ⟨hall, hids⟩ := loadAll_eq_ok hrows
    rw [List.filterMap_cons_some (Row.loaded_eq_some.2 hload)]
    constructor
    · simp only [loadAll, hload, hall, Except.map]
    · rw [List.map_cons, List.map_cons, hids, Row.id_of_load hload]

theorem shelf_eq_some (hs : table.Sound) {workflow : Workflow} :
    table.shelf workflow.id = some workflow ↔ ∃ row ∈ table.rows, row.loaded? = some workflow := by
  constructor
  · intro h
    obtain ⟨row, hrow, hload⟩ := Option.bind_eq_some_iff.1 h
    exact ⟨row, (mem_of_row hrow).1, hload⟩
  · rintro ⟨row, hrow, hload⟩
    simp only [shelf, Row.id_of_load (Row.loaded_eq_some.1 hload), row_of_mem hs.ids hrow, Option.bind_some, hload]

/-- The list has every workflow of the map once, and a higher id before a lower one. -/
theorem list_eq_ok (hs : table.Sound) : ∃ workflows, table.list.1 = .ok workflows ∧
    (workflows.map (·.id)).Pairwise (· > ·) ∧
    ∀ workflow, workflow ∈ workflows ↔ table.shelf workflow.id = some workflow := by
  obtain ⟨hall, hids⟩ := loadAll_eq_ok fun row hrow => hs.loads row (List.mem_reverse.1 hrow)
  refine ⟨table.rows.reverse.filterMap Row.loaded?, ?_, ?_, fun workflow => ?_⟩
  · rw [list, newestFirst_eq_reverse hs.ids hs.ages, hall]
  · rw [hids, List.map_reverse, List.pairwise_reverse]
    exact hs.ids
  · simp only [shelf_eq_some hs, List.mem_filterMap, List.mem_reverse]

/-! ## Running -/

section

variable {σ : Type} (world : World σ) (usualDelay : Int)

/-- A run is that of the workflow that the map has under the id. -/
theorem run_int (hs : table.Sound) (h : Column.holdsInt id = true) (input : Value) (engine : Engine σ) :
    (table.run world usualDelay (.int id) input engine).1 =
      table.shelf.runResult world usualDelay id input engine := by
  simp only [run, get_int hs h, Shelf.runResult]
  cases table.shelf id <;> rfl

end

end Table

/-- Whatever a run comes to is reported, if only the workflow or one of its steps is at fault. -/
theorem Shelf.reported_runResult {σ : Type} (world : World σ) (usualDelay : Int) (shelf : Shelf) (id : Int)
    (input : Value) (engine : Engine σ) :
    ∃ report, Report.ofResult (shelf.runResult world usualDelay id input engine) = .ok report := by
  unfold runResult
  cases shelf id with
  | none => exact ⟨_, rfl⟩
  | some workflow =>
    simp only [runStored]
    split
    · exact ⟨_, rfl⟩
    · exact (runParsed world usualDelay workflow.steps input engine).1.reported

/-! ## Operations -/

section

variable {σ : Type} (world : World σ) (usualDelay : Int)

/-- A session answers an operation as a map does: with the reply that the map gives, with the change of the
rows that the operation is for, and so that the table then holds the map after the operation. -/
structure Session.Answers (session : Session σ) (shelf : Shelf) (operation : Operation) : Prop where
  gives : shelf.Gives world usualDelay session.engine operation (session.perform world usualDelay operation).1
  changes : operation.Changes (session.perform world usualDelay operation).1 session.table.rows
    (session.perform world usualDelay operation).2.table.rows
  holds : (session.perform world usualDelay operation).2.table.shelf =
    shelf.after operation (session.perform world usualDelay operation).1

namespace Session

variable {session : Session σ} {name : String} {description : Option String} {steps : Value}

theorem perform_save (session : Session σ) :
    session.perform world usualDelay (.save name description steps) =
      match rawEntries steps with
      | .ok entries =>
        let text := StepList.encodeEntries entries
        (.ok (.saved (session.table.highest + 1)),
          { session with table := (session.table.insert name (some (description.getD "")) text).2 })
      | .error fault => (.error fault, session) := by
  simp only [perform, Table.save, StepList.encodeRaw, rawEntries]
  cases (steps.orElse (.list [])).elements with
  | error fault => rfl
  | ok entries => simp only [Except.map, Except.bind, Table.saveText_eq]; rfl

variable {world usualDelay} in
/-- An operation is answered by what it is replied and what it leaves. -/
theorem answers_of_perform {shelf : Shelf} {operation : Operation} {reply : Except Fault Reply} {after : Session σ}
    (h : session.perform world usualDelay operation = (reply, after))
    (hgives : shelf.Gives world usualDelay session.engine operation reply)
    (hchanges : operation.Changes reply session.table.rows after.table.rows)
    (hholds : after.table.shelf = shelf.after operation reply) : session.Answers world usualDelay shelf operation where
  gives := by rwa [h]
  changes := by rwa [h]
  holds := by rwa [h]

variable {world usualDelay} in
/-- An operation that fails leaves the rows and the map as they are. -/
theorem answers_of_fault {operation : Operation} {fault : Fault}
    (h : session.perform world usualDelay operation = (.error fault, session))
    (hgives : session.table.shelf.Gives world usualDelay session.engine operation (.error fault)) :
    session.Answers world usualDelay session.table.shelf operation := by
  refine answers_of_perform h hgives ?_ ?_
  · cases operation <;> rfl
  · cases operation <;> rfl

variable (hs : session.table.Sound)

include hs

theorem answers_save (hw : (Operation.save name description steps).Writable) :
    session.Answers world usualDelay session.table.shelf (.save name description steps) ∧
      (session.perform world usualDelay (.save name description steps)).2.table.Sound := by
  have hperform := @perform_save _ world usualDelay name description steps session
  cases hentries : rawEntries steps with
  | ok entries =>
    simp only [hentries] at hperform
    -- this is where the entries have to be writable: a row is sound only if its text is read again
    have hsteps : (StepList.decode (StepList.encodeEntries entries)).1 = .ok (keptSteps steps) := by
      rw [StepList.decode_writable (hw entries hentries), keptSteps, hentries]
    constructor
    · refine answers_of_perform hperform ?_ ⟨_, rfl, rfl⟩ (Table.shelf_insert hsteps)
      simp only [Shelf.Gives, hentries]
      exact ⟨_, Table.shelf_beyond (Int.lt_add_one_of_le (le_refl _)), rfl⟩
    · rw [hperform]
      exact Table.sound_insert hs hsteps
  | error fault =>
    simp only [hentries] at hperform
    constructor
    · exact answers_of_fault hperform (by simp only [Shelf.Gives, hentries])
    · rwa [hperform]

theorem answers_delete (id : Int) : session.Answers world usualDelay session.table.shelf (.delete id) ∧
    (session.perform world usualDelay (.delete id)).2.table.Sound := by
  cases hid : Column.holdsInt id with
  | false =>
    have hperform : session.perform world usualDelay (.delete id) = (.error .columnTooNarrow, session) := by
      simp only [perform, Table.delete, Table.find_wide hid, Except.map]
    constructor
    · exact answers_of_fault hperform (by simp [Shelf.Gives, hid])
    · rwa [hperform]
  | true =>
    have hlive : (session.table.shelf id).isSome = (session.table.row? id).isSome := Table.shelf_isSome hs
    cases hfound : (session.table.row? id).isSome with
    | false =>
      have hperform : session.perform world usualDelay (.delete id) = (.ok (.deleted false), session) := by
        simp only [perform, Table.delete_int hid, hfound, Bool.false_eq_true, if_false]
      constructor
      · exact answers_of_perform hperform (by simp [Shelf.Gives, hid, hlive, hfound]) rfl rfl
      · rwa [hperform]
    | true =>
      have hperform : session.perform world usualDelay (.delete id) =
          (.ok (.deleted true), { session with table := session.table.without id }) := by
        simp only [perform, Table.delete_int hid, hfound, if_true]
      constructor
      · exact answers_of_perform hperform (by simp [Shelf.Gives, hid, hlive, hfound]) rfl Table.shelf_without
      · rw [hperform]
        exact Table.sound_without hs

theorem answers_get (id : Int) : session.Answers world usualDelay session.table.shelf (.get id) ∧
    (session.perform world usualDelay (.get id)).2.table.Sound := by
  refine ⟨⟨?_, rfl, rfl⟩, hs⟩
  cases hid : Column.holdsInt id with
  | false => simp only [Shelf.Gives, hid, perform, Table.get, Table.find_wide hid, Bool.false_eq_true, if_false, Except.map]
  | true => simp only [Shelf.Gives, hid, perform, Table.get_int hs hid, if_true, Except.map]

theorem answers_list : session.Answers world usualDelay session.table.shelf .list ∧
    (session.perform world usualDelay .list).2.table.Sound := by
  refine ⟨⟨?_, rfl, rfl⟩, hs⟩
  obtain ⟨workflows, hlist, hids, hlive⟩ := Table.list_eq_ok hs
  exact ⟨workflows, by simp only [perform, hlist, Except.map], hids, hlive⟩

theorem answers_run (id : Int) (input : Value) : session.Answers world usualDelay session.table.shelf (.run id input) ∧
    (session.perform world usualDelay (.run id input)).2.table.Sound := by
  refine ⟨⟨?_, rfl, rfl⟩, hs⟩
  cases hid : Column.holdsInt id with
  | false =>
    simp only [Shelf.Gives, hid, perform, Table.report, Table.run, Table.get, Table.find_wide hid, Bool.false_eq_true,
      if_false]
    rfl
  | true =>
    obtain ⟨report, hreport⟩ := Shelf.reported_runResult world usualDelay session.table.shelf id input session.engine
    simp only [Shelf.Gives, hid, if_true]
    refine ⟨report, hreport, ?_⟩
    rw [← Table.run_int world usualDelay hs hid] at hreport
    simp only [perform, Table.report, hreport, Except.map]

theorem answers_wait (time : Nat) : session.Answers world usualDelay session.table.shelf (.wait time) ∧
    (session.perform world usualDelay (.wait time)).2.table.Sound :=
  ⟨⟨rfl, rfl, rfl⟩, hs.ids, hs.ages, fun row hrow => (hs.past row hrow).trans (Nat.le_add_right _ _), hs.loads⟩

/-- Every operation is answered as by the map of the table, whose rows stay in order. -/
theorem answers_perform (operation : Operation) (hw : operation.Writable) :
    session.Answers world usualDelay session.table.shelf operation ∧
      (session.perform world usualDelay operation).2.table.Sound := by
  cases operation with
  | save name description steps => exact answers_save world usualDelay hs hw
  | delete id => exact answers_delete world usualDelay hs id
  | get id => exact answers_get world usualDelay hs id
  | list => exact answers_list world usualDelay hs
  | run id input => exact answers_run world usualDelay hs id input
  | wait time => exact answers_wait world usualDelay hs time

/-- The table holds the map that the log of the operations leaves, from the map that it held before. -/
theorem shelf_performAll (operations : List Operation) (hw : ∀ operation ∈ operations, operation.Writable) :
    (session.performAll world usualDelay operations).2.table.Sound ∧
      (session.performAll world usualDelay operations).2.table.shelf =
        (session.performAll world usualDelay operations).1.foldl
          (fun shelf (operation, reply) => shelf.after operation reply) session.table.shelf := by
  -- on the operations, from the first: soundness is what each of them hands to the next
  induction operations generalizing session with
  | nil => exact ⟨hs, rfl⟩
  | cons operation operations ih =>
    obtain ⟨hoperation, hrest⟩ := List.forall_mem_cons.1 hw
    obtain ⟨hanswers, hsound⟩ := answers_perform world usualDelay hs operation hoperation
    obtain ⟨hfinal, hshelf⟩ := ih hsound hrest
    exact ⟨hfinal, by rw [performAll, hshelf, hanswers.holds]; rfl⟩

end Session

end

/-- Collaborators of whom nothing is asked. -/
def idleEngine : Engine Script where
  rotation := ⟨1, ⟨0, Nat.one_pos⟩⟩
  outside := ⟨[], {}, [], []⟩

/-- A session that hands out an id a second time. -/
def reusingHistory : List Operation :=
  [.save "first" (some "kept") (.list [.object [("type", .text "trigger")]]),
    .save "second" none (.list [.object [("type", .text "code"), ("code", .text "return 1")]]),
    .delete 2, .wait 1,
    .save "third" none (.list [.object [("type", .text " HTTP "), ("url", .text "https://example.test")]])]

/-- What is kept under that id in the end. -/
def thirdWorkflow : Workflow where
  id := 2
  name := "third"
  description := ""
  steps := [⟨"step_1", "http_request", .text "HTTP Request", [("url", .text "https://example.test")]⟩]

end Workflows
