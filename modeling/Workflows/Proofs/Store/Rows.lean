/-
Rows of any text. A row is read unless its text comes to an integer with too many digits: its steps are those of the
usable entries of the list that the text writes. What is read of the other rows does not depend on it, but one row
that is not read keeps the whole list from being read.
-/
import Mathlib.Data.List.Sort
import Workflows.Proofs.Json.LongRun
import Workflows.Proofs.Store.Map

namespace Workflows

open Workflows.Json

/-! ## The steps of a text -/

/-- Steps are those of the usable entries of the list that a text writes, each from its own place; there are none if
the text writes no list. -/
def StepList.Holds (text : String) (steps : List Step) : Prop :=
  (∃ entries, read text = .ok (.list entries) ∧
    List.Forall₂ (fun entry step => (Step.ofValue entry.1 entry.2).1 = some step)
      ((entries.zipIdx 1).filter fun entry => Step.usable entry.1) steps) ∨
    (∀ entries, read text ≠ .ok (.list entries)) ∧ steps = []

theorem Step.ofValue_of_not_usable {entry : Value} (h : Step.usable entry = false) (position : Nat) :
    (Step.ofValue entry position).1 = none := by
  cases entry with
  | object members =>
    simp only [Step.usable] at h
    simp only [Step.ofValue]
    cases hparams : Object.getOrNull members "params" with
    | null | object _ =>
      rw [hparams] at h
      cases h
    | _ => rfl
  | _ => rfl

/-- The usable entries become steps one by one. -/
theorem Step.forall₂_ofEntries : ∀ (entries : List Value) (position : Nat),
    List.Forall₂ (fun entry step => (Step.ofValue entry.1 entry.2).1 = some step)
      ((entries.zipIdx position).filter fun entry => Step.usable entry.1) (Step.ofEntries position entries).1
  | [], _ => .nil
  | entry :: entries, position => by
    have hrest := Step.forall₂_ofEntries entries (position + 1)
    rw [List.zipIdx_cons, List.filter_cons]
    simp only [Step.ofEntries]
    cases husable : Step.usable entry with
    | true =>
      obtain ⟨step, hstep⟩ := Step.ofValue_of_usable husable position
      rw [hstep]
      exact .cons hstep hrest
    | false =>
      rw [Step.ofValue_of_not_usable husable position]
      exact hrest

namespace StepList

/-- The steps of entries, whether there are any or not. -/
theorem ofEntries_steps (entries : List Value) : (ofEntries entries).1 = (Step.ofEntries 1 entries).1 := by
  cases entries with
  | nil => rfl
  | cons entry entries =>
    simp only [ofEntries, Step.readEntries, List.isEmpty_cons, Bool.false_eq_true, if_false]
    split
    · next hnone => exact (List.isEmpty_iff.1 hnone).symm
    · rfl

/-- A text gives its steps, or it comes to an integer with too many digits. -/
theorem decode_cases (text : String) :
    (∃ digits, Json.read text = .error (.longInteger digits) ∧ (decode text).1 = .error (.longInteger digits)) ∨
      (∀ digits, Json.read text ≠ .error (.longInteger digits)) ∧
        ∃ steps, (decode text).1 = .ok steps ∧ Holds text steps := by
  by_cases hempty : text = ""
  · obtain ⟨place, hread⟩ : ∃ place : ℕ × ℕ × ℕ,
        Json.read "" = .error (.mistake .expectedValue place.1 place.2.1 place.2.2) := ⟨(1, 1, 0), rfl⟩
    subst hempty
    exact .inr ⟨by simp [hread], [], rfl, .inr ⟨by simp [hread], rfl⟩⟩
  · unfold decode
    rw [if_neg hempty]
    cases hread : Json.read text with
    | error e =>
      cases e with
      | mistake => exact .inr ⟨by simp, [], rfl, .inr ⟨by simp [hread], rfl⟩⟩
      | longInteger digits => exact .inl ⟨digits, rfl, rfl⟩
    | ok v =>
      refine .inr ⟨by simp, ?_⟩
      cases v with
      | list entries =>
        refine ⟨_, rfl, .inl ⟨entries, hread, ?_⟩⟩
        rw [ofEntries_steps]
        exact Step.forall₂_ofEntries entries 1
      | _ => exact ⟨[], rfl, .inr ⟨by simp [hread], rfl⟩⟩

end StepList

/-! ## Rows -/

namespace Row

variable {row : Row} {workflow : Workflow}

/-- The text of a row comes to no integer with too many digits. -/
def Readable (row : Row) : Prop := ∀ digits, Json.read row.steps ≠ .error (.longInteger digits)

/-- A workflow is that of a row. -/
structure Holds (row : Row) (workflow : Workflow) : Prop where
  id : workflow.id = row.id
  name : workflow.name = row.name
  description : workflow.description = row.description.getD ""
  steps : StepList.Holds row.steps workflow.steps

/-- A row is loaded as what it holds, or its text comes to an integer with too many digits. -/
theorem load_cases (row : Row) :
    (∃ digits, Json.read row.steps = .error (.longInteger digits) ∧ row.load.1 = .error (.longInteger digits)) ∨
      row.Readable ∧ ∃ workflow, row.load.1 = .ok workflow ∧ row.Holds workflow := by
  rcases StepList.decode_cases row.steps with ⟨digits, hread, hdecode⟩ | ⟨hread, steps, hdecode, hsteps⟩
  · exact .inl ⟨digits, hread, by simp only [load, hdecode, Except.map]⟩
  · exact .inr ⟨hread, _, load_of_decode hdecode, rfl, rfl, rfl, hsteps⟩

theorem load_ok_iff : (∃ workflow, row.load.1 = .ok workflow) ↔ row.Readable := by
  rcases load_cases row with ⟨digits, hread, hload⟩ | ⟨hread, workflow, hload, -⟩
  · refine iff_of_false ?_ fun h => h digits hread
    rintro ⟨workflow, h⟩
    rw [hload] at h
    cases h
  · exact iff_of_true ⟨workflow, hload⟩ hread

theorem holds_of_load (h : row.load.1 = .ok workflow) : row.Holds workflow := by
  rcases load_cases row with ⟨digits, -, hload⟩ | ⟨-, other, hload, hholds⟩
  · rw [hload] at h
    cases h
  · rw [hload] at h
    cases h
    exact hholds

/-- Only a long run of digits keeps a row from being read. -/
theorem hasLongRun_of_not_readable (h : ¬ row.Readable) : ∃ digits, HasLongRun digits row.steps.toList := by
  obtain ⟨digits, hread⟩ := not_forall_not.1 h
  exact ⟨digits, hasLongRun_of_read hread⟩

end Row

namespace Table

/-! ## The order of the list -/

/-- A row may be listed in front of another, which is not newer. -/
def Precedes (a b : Row) : Prop := isNewer b a = false

instance : DecidableRel Precedes := fun a b => inferInstanceAs (Decidable (isNewer b a = false))

theorem precedes_iff {a b : Row} :
    Precedes a b ↔ b.created < a.created ∨ b.created = a.created ∧ b.id ≤ a.id := by
  simp only [Precedes, isNewer, Bool.or_eq_false_iff, Bool.and_eq_false_iff, decide_eq_false_iff_not,
    beq_eq_false_iff_ne]
  omega

instance : Std.Total Precedes where
  total a b := by
    rw [precedes_iff, precedes_iff]
    omega

instance : IsTrans Row Precedes where
  trans a b c := by
    rw [precedes_iff, precedes_iff, precedes_iff]
    omega

theorem insertByAge_eq (row : Row) (rows : List Row) : insertByAge row rows = rows.orderedInsert Precedes row := by
  induction rows with
  | nil => rfl
  | cons other rows ih =>
    rw [insertByAge, List.orderedInsert_cons, ih]
    cases hnewer : isNewer other row with
    | true => rw [if_pos rfl, if_neg (by simp [Precedes, hnewer])]
    | false => rw [if_neg Bool.false_ne_true, if_pos (show Precedes row other from hnewer)]

theorem newestFirst_eq_insertionSort (rows : List Row) : newestFirst rows = rows.insertionSort Precedes := by
  induction rows with
  | nil => rfl
  | cons row rows ih => rw [List.insertionSort_cons, ← ih, ← insertByAge_eq]; rfl

theorem newestFirst_perm (rows : List Row) : (newestFirst rows).Perm rows := by
  rw [newestFirst_eq_insertionSort]
  exact List.perm_insertionSort Precedes rows

theorem newestFirst_sublist (before after : List Row) (row : Row) :
    (newestFirst (before ++ after)).Sublist (newestFirst (before ++ row :: after)) := by
  simp only [newestFirst_eq_insertionSort]
  induction before with
  | nil => exact List.sublist_orderedInsert row _
  | cons first before ih => exact ih.orderedInsert_sublist first (List.pairwise_insertionSort Precedes _)

/-- What stands for the items of two lists one after the other. -/
theorem exists_append_of_forall₂ {α β : Type} {R : α → β → Prop} {xs xs' : List α} {ys : List β}
    (h : List.Forall₂ R (xs ++ xs') ys) :
    ∃ zs zs', ys = zs ++ zs' ∧ List.Forall₂ R xs zs ∧ List.Forall₂ R xs' zs' :=
  ⟨ys.take xs.length, ys.drop xs.length, (List.take_append_drop _ _).symm,
    (List.forall₂_take_append ys xs xs' h.flip).flip, (List.forall₂_drop_append ys xs xs' h.flip).flip⟩

/-- A list with one item more has that item somewhere. -/
theorem exists_of_sublist {α : Type} {xs ys : List α} (h : xs.Sublist ys) (hlength : ys.length = xs.length + 1) :
    ∃ earlier y later, ys = earlier ++ y :: later ∧ xs = earlier ++ later := by
  induction h with
  | slnil => cases hlength
  | @cons xs ys y hsub ih =>
    have hxs : xs = ys := hsub.eq_of_length (by simpa using hlength.symm)
    exact ⟨[], y, ys, rfl, hxs⟩
  | @cons_cons xs ys x hsub ih =>
    obtain ⟨earlier, y, later, hys, hxs⟩ := ih (by simpa using hlength)
    exact ⟨x :: earlier, y, later, by rw [hys]; rfl, by rw [hxs]; rfl⟩

/-- A row stands in one place of the list, and the others are listed as without it. -/
theorem newestFirst_insert (before after : List Row) (row : Row) : ∃ earlier later,
    newestFirst (before ++ row :: after) = earlier ++ row :: later ∧
      newestFirst (before ++ after) = earlier ++ later := by
  have hall := newestFirst_perm (before ++ row :: after)
  have hrest := newestFirst_perm (before ++ after)
  have hlength : (newestFirst (before ++ row :: after)).length = (newestFirst (before ++ after)).length + 1 := by
    rw [hall.length_eq, hrest.length_eq, List.length_append, List.length_append, List.length_cons, Nat.add_assoc]
  obtain ⟨earlier, other, later, hwith, hwithout⟩ :=
    exists_of_sublist (newestFirst_sublist before after row) hlength
  refine ⟨earlier, later, ?_, hwithout⟩
  rw [hwith] at hall
  rw [hwithout] at hrest
  have hother : ([other] ++ (earlier ++ later)).Perm ([row] ++ (earlier ++ later)) :=
    (List.perm_middle : (earlier ++ other :: later).Perm _).symm.trans
      (hall.trans (List.perm_middle.trans (hrest.symm.cons row)))
  rw [hwith, List.singleton_perm_singleton.1 ((List.perm_append_right_iff _).1 hother)]

/-! ## Reading all rows -/

variable {table : Table}

theorem loadAll_iff {rows : List Row} {workflows : List Workflow} : (loadAll rows).1 = .ok workflows ↔
    List.Forall₂ (fun row workflow => row.load.1 = .ok workflow) rows workflows := by
  induction rows generalizing workflows with
  | nil => simp [loadAll, eq_comm]
  | cons row rows ih =>
    rw [List.forall₂_cons_left_iff]
    cases hload : row.load.1 with
    | error fault => simp [loadAll, hload]
    | ok workflow =>
      simp only [loadAll, hload, map_eq_ok, ih, Except.ok.injEq]
      constructor
      · rintro ⟨rest, hrest, rfl⟩
        exact ⟨workflow, rest, rfl, hrest, rfl⟩
      · rintro ⟨_, rest, rfl, hrest, rfl⟩
        exact ⟨rest, hrest, rfl⟩

/-- All rows are loaded if each is readable. -/
theorem exists_loadAll_iff {rows : List Row} :
    (∃ workflows, (loadAll rows).1 = .ok workflows) ↔ ∀ row ∈ rows, row.Readable := by
  simp only [loadAll_iff, ← Row.load_ok_iff]
  induction rows with
  | nil => simp
  | cons row rows ih =>
    rw [List.forall_mem_cons, ← ih]
    constructor
    · rintro ⟨workflows, hall⟩
      obtain ⟨workflow, rest, hrow, hrows, -⟩ := List.forall₂_cons_left_iff.1 hall
      exact ⟨⟨workflow, hrow⟩, rest, hrows⟩
    · rintro ⟨⟨workflow, hrow⟩, workflows, hrows⟩
      exact ⟨workflow :: workflows, .cons hrow hrows⟩

theorem list_ok_iff : (∃ workflows, table.list.1 = .ok workflows) ↔ ∀ row ∈ table.rows, row.Readable := by
  rw [list, exists_loadAll_iff]
  simp only [(newestFirst_perm table.rows).mem_iff]

/-- What is read of a row by its id. -/
theorem get_eq {id : Int} {row : Row} (hid : Column.holdsInt id = true) (hrow : table.row? id = some row) :
    (table.get (.int id)).1 = row.load.1.map some := by
  simp only [get, find_int hid, hrow]

/-- A row is read by its id exactly if it is readable. -/
theorem get_holds_iff {id : Int} {row : Row} (hid : Column.holdsInt id = true) (hrow : table.row? id = some row) :
    (∃ workflow, (table.get (.int id)).1 = .ok (some workflow) ∧ row.Holds workflow) ↔ row.Readable := by
  rw [get_eq hid hrow, ← Row.load_ok_iff]
  constructor
  · rintro ⟨workflow, hload, -⟩
    obtain ⟨_, hload, -⟩ := map_eq_ok.1 hload
    exact ⟨_, hload⟩
  · rintro ⟨workflow, hload⟩
    exact ⟨workflow, map_eq_ok.2 ⟨workflow, hload, rfl⟩, Row.holds_of_load hload⟩

/-- A table without one row, which stood between others. -/
def sparing (table : Table) (before after : List Row) : Table := { table with rows := before ++ after }

/-- A row under another id does not matter. -/
theorem get_sparing {before after : List Row} {row : Row} (hrows : table.rows = before ++ row :: after) {id : Int}
    (hid : id ≠ row.id) : (table.sparing before after).get (.int id) = table.get (.int id) := by
  have hrow : (table.sparing before after).row? id = table.row? id := by
    have hother : (row.id == id) = false := by simpa using Ne.symm hid
    simp only [row?, sparing, hrows, List.find?_append, List.find?_cons, hother]
  have hfind : (table.sparing before after).find (.int id) = table.find (.int id) := by
    cases hwide : Column.holdsInt id with
    | true => rw [find_int hwide, find_int hwide, hrow]
    | false => rw [find_wide hwide, find_wide hwide]
  simp only [get, hfind]

/-- A row gives one workflow of the list, and the others are those of the list without it. -/
theorem list_sparing {before after : List Row} {row : Row} (hrows : table.rows = before ++ row :: after)
    {workflows : List Workflow} (hlist : table.list.1 = .ok workflows) : ∃ earlier workflow later,
      workflows = earlier ++ workflow :: later ∧ row.Holds workflow ∧
        (table.sparing before after).list.1 = .ok (earlier ++ later) := by
  obtain ⟨earlier, later, hwith, hwithout⟩ := newestFirst_insert before after row
  rw [list, hrows, hwith, loadAll_iff] at hlist
  obtain ⟨first, rest, rfl, hfirst, hrest⟩ := exists_append_of_forall₂ hlist
  obtain ⟨workflow, last, hrow, hlast, rfl⟩ := List.forall₂_cons_left_iff.1 hrest
  refine ⟨first, workflow, last, rfl, Row.holds_of_load hrow, ?_⟩
  rw [list, sparing, hwithout, loadAll_iff]
  exact List.rel_append hfirst hlast

/-! ## Reading a table -/

/-- A table is read: it is listed as a workflow for each row, a row is read by its id, and what is read of others does
not depend on it. -/
structure Reads (table : Table) : Prop where
  list : ∃ workflows, table.list.1 = .ok workflows ∧ List.Forall₂ Row.Holds (newestFirst table.rows) workflows
  get : ∀ id row, Column.holdsInt id = true → table.row? id = some row →
    ∃ workflow, (table.get (.int id)).1 = .ok (some workflow) ∧ row.Holds workflow
  apart : ∀ before row after, table.rows = before ++ row :: after →
    (∃ earlier workflow later, table.list.1 = .ok (earlier ++ workflow :: later) ∧ row.Holds workflow ∧
      (table.sparing before after).list.1 = .ok (earlier ++ later)) ∧
    ∀ id, id ≠ row.id → (table.sparing before after).get (.int id) = table.get (.int id)

/-- Whatever its rows are, a table is read exactly if no text in it comes to an integer with too many digits; and a row
by itself is read exactly if its own text does not. Such an integer takes a run of as many digits in the text. -/
theorem rows_read_iff (table : Table) :
    (newestFirst table.rows).Perm table.rows ∧
    (table.Reads ↔ ∀ row ∈ table.rows, row.Readable) ∧
    (∀ id row, Column.holdsInt id = true → table.row? id = some row →
      ((∃ workflow, (table.get (.int id)).1 = .ok (some workflow) ∧ row.Holds workflow) ↔ row.Readable)) ∧
    ∀ row ∈ table.rows, ¬ row.Readable → ∃ digits, HasLongRun digits row.steps.toList := by
  refine ⟨newestFirst_perm table.rows, ⟨fun h => ?_, fun h => ?_⟩, fun id row => get_holds_iff,
    fun row _ => Row.hasLongRun_of_not_readable⟩
  · obtain ⟨workflows, hlist, -⟩ := h.list
    exact list_ok_iff.1 ⟨workflows, hlist⟩
  · obtain ⟨workflows, hlist⟩ := list_ok_iff.2 h
    refine ⟨⟨workflows, hlist, ?_⟩, fun id row hid hrow => ?_,
      fun before row after hrows => ⟨?_, fun id hid => ?_⟩⟩
    · exact (loadAll_iff.1 hlist).imp fun row workflow => Row.holds_of_load
    · exact (get_holds_iff hid hrow).2 (h row (mem_of_row hrow).1)
    · obtain ⟨earlier, workflow, later, rfl, hholds, hrest⟩ := list_sparing hrows hlist
      exact ⟨earlier, workflow, later, hlist, hholds, hrest⟩
    · exact get_sparing hrows hid

/-- Three rows: a list of which one entry is a step, no JSON at all, and an integer of some nines in place of a list. -/
def oddRows (nines : Nat) : Table where
  rows := [⟨1, "mixed", none, "[5, \x7b\"type\": \"trigger\"\x7d, \x7b\"params\": 3\x7d]", 0⟩,
    ⟨2, "broken", some "", "[1,", 0⟩,
    ⟨3, "nines", some "", String.ofList (List.replicate nines '9'), 0⟩]

theorem odd_rows_read :
    (∀ row ∈ (oddRows 9).rows, row.Readable) ∧ (oddRows 9).Reads ∧
      (oddRows 9).list.1 = .ok [⟨3, "nines", "", []⟩, ⟨2, "broken", "", []⟩,
        ⟨1, "mixed", "", [⟨"step_2", "trigger", .text "Trigger", []⟩]⟩] := by
  have hlist : (oddRows 9).list.1 = .ok [⟨3, "nines", "", []⟩, ⟨2, "broken", "", []⟩,
      ⟨1, "mixed", "", [⟨"step_2", "trigger", .text "Trigger", []⟩]⟩] := by decide +kernel
  have hreadable : ∀ row ∈ (oddRows 9).rows, row.Readable := list_ok_iff.1 ⟨_, hlist⟩
  exact ⟨hreadable, (rows_read_iff _).2.1.2 hreadable, hlist⟩

theorem read_nines {nines : Nat} (h : Numeral.maxDigits < nines) :
    Json.read (String.ofList (List.replicate nines '9')) = .error (.longInteger nines) := by
  cases nines with
  | zero => exact absurd h (Nat.not_lt_zero _)
  | succ more =>
    have hdigits : ∀ c ∈ '9' :: List.replicate more '9', c.isDigit = true := by
      rw [← List.replicate_succ]
      intro c hc
      rw [List.eq_of_mem_replicate hc]
      rfl
    have hread := read_of_digits hdigits (by decide) (by simpa using h)
    rwa [← List.replicate_succ, List.length_replicate] at hread

/-- The row of nines is not loaded, and the list begins with it. -/
theorem list_oddRows {nines : Nat} (h : Numeral.maxDigits < nines) :
    (oddRows nines).list.1 = .error (.longInteger nines) := by
  have hload : Row.load ⟨3, "nines", some "", String.ofList (List.replicate nines '9'), 0⟩ =
      (.error (.longInteger nines), []) := by
    have hne : String.ofList (List.replicate nines '9') ≠ "" := by
      rw [Ne, ← String.toList_inj, String.toList_ofList]
      simp
      omega
    simp only [Row.load, StepList.decode, if_neg hne, read_nines h, Except.map]
  have horder : newestFirst (oddRows nines).rows = (oddRows nines).rows.reverse :=
    newestFirst_eq_reverse (by simp [oddRows]) (by simp [oddRows])
  rw [list, horder]
  simp only [oddRows, List.reverse_cons, List.reverse_nil, List.nil_append, List.cons_append, loadAll, hload]

/-- One integer with too many digits keeps all rows from being listed. -/
theorem nines_break_list : (oddRows 4301).list.1 = .error (.longInteger 4301) ∧ ¬ (oddRows 4301).Reads := by
  have hlist : (oddRows 4301).list.1 = .error (.longInteger 4301) := list_oddRows (by decide)
  refine ⟨hlist, fun h => ?_⟩
  obtain ⟨workflows, hok, -⟩ := h.list
  rw [hlist] at hok
  cases hok

end Table

end Workflows
