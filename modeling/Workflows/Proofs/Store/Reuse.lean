/-
Ids of deleted workflows. A new row has the highest id that is there plus one, so that an id comes back exactly
when a workflow is saved after the one that was saved last has been deleted. In a history without such a save no
id is given twice, and under an id that was deleted nothing is ever found again.
-/
import Workflows.Proofs.Store.Map

namespace Workflows

/-! ## What a log tells -/

/-- The ids that were given to saved workflows, in order. -/
def givenIds (log : List (Operation × Except Fault Reply)) : List Int :=
  log.filterMap fun (_, reply) =>
    match reply with
    | .ok (.saved id) => some id
    | _ => none

/-- The ids of the workflows that were deleted, in order. -/
def deletedIds (log : List (Operation × Except Fault Reply)) : List Int :=
  log.filterMap fun (operation, reply) =>
    match operation, reply with
    | .delete id, .ok (.deleted true) => some id
    | _, _ => none

theorem givenIds_append (log more : List (Operation × Except Fault Reply)) :
    givenIds (log ++ more) = givenIds log ++ givenIds more := List.filterMap_append

theorem deletedIds_append (log more : List (Operation × Except Fault Reply)) :
    deletedIds (log ++ more) = deletedIds log ++ deletedIds more := List.filterMap_append

/-- An operation gives the id that is replied as that of what was saved, or none. -/
theorem givenIds_cases (operation : Operation) (reply : Except Fault Reply) :
    (∃ id, reply = .ok (.saved id) ∧ givenIds [(operation, reply)] = [id]) ∨
      ((∀ id, reply ≠ .ok (.saved id)) ∧ givenIds [(operation, reply)] = []) := by
  cases reply with
  | error fault => exact .inr ⟨by simp, rfl⟩
  | ok reply =>
    cases reply with
    | saved id => exact .inl ⟨id, rfl, rfl⟩
    | _ => exact .inr ⟨by simp, rfl⟩

/-! ## Tables with the log of what became of them -/

namespace Table

variable {log : List (Operation × Except Fault Reply)} {table : Table}

theorem foldl_max_mem : ∀ (ids : List Int) (n : Int), ids.foldl max n = n ∨ ids.foldl max n ∈ ids
  | [], _ => .inl rfl
  | id :: ids, n => by
    rw [List.foldl_cons]
    rcases foldl_max_mem ids (max n id) with h | h
    · rw [h]
      rcases max_choice n id with hmax | hmax
      · exact .inl hmax
      · right
        rw [hmax]
        exact List.mem_cons_self
    · exact .inr (List.mem_cons_of_mem _ h)

/-- What a table, which was empty at first, has in common with the log of what was asked of it: every row has an
id that was given; the ids that were given begin at one and leave none out; those that have no row were deleted.
As long as none was given twice, they rise, and none that was deleted has a row. -/
structure Traced (log : List (Operation × Except Fault Reply)) (table : Table) : Prop where
  rows : ∀ row ∈ table.rows, row.id ∈ givenIds log
  positive : ∀ id ∈ givenIds log, 0 < id
  gapless : ∀ id ∈ givenIds log, ∀ lower, 0 < lower → lower ≤ id → lower ∈ givenIds log
  gone : ∀ id ∈ givenIds log, table.row? id = none → id ∈ deletedIds log
  deleted : ∀ id ∈ deletedIds log, id ∈ givenIds log ∧ Column.holdsInt id = true
  rising : (givenIds log).Nodup → (givenIds log).Pairwise (· < ·)
  buried : (givenIds log).Nodup → ∀ id ∈ deletedIds log, table.row? id = none

namespace Traced

theorem empty : Traced [] {} where
  rows := by simp
  positive := by simp [givenIds]
  gapless := by simp [givenIds]
  gone := by simp [givenIds]
  deleted := by simp [deletedIds]
  rising _ := .nil
  buried _ := by simp [deletedIds]

variable (traced : table.Traced log)

include traced

/-- The ids up to the highest one that is there were given. -/
theorem given_of_le_highest {id : Int} (hpos : 0 < id) (hle : id ≤ table.highest) : id ∈ givenIds log := by
  rcases foldl_max_mem (table.rows.map (·.id)) 0 with hzero | hrow
  · have hhighest : table.highest = 0 := hzero
    omega
  · obtain ⟨row, hrow, hid⟩ := List.mem_map.1 hrow
    have hhighest : row.id = table.highest := hid
    exact traced.gapless row.id (traced.rows row hrow) id hpos (hhighest ▸ hle)

theorem save {operation : Operation} {name text : String} {description : Option String} :
    (table.insert name description text).2.Traced (log ++ [(operation, .ok (.saved (table.highest + 1)))]) := by
  have hgiven : givenIds (log ++ [(operation, .ok (.saved (table.highest + 1)))]) =
      givenIds log ++ [table.highest + 1] := givenIds_append _ _
  have hdeleted : deletedIds (log ++ [(operation, .ok (.saved (table.highest + 1)))]) = deletedIds log := by
    rw [deletedIds_append]
    cases operation <;> exact List.append_nil _
  have hpos : 0 < table.highest + 1 := Int.lt_add_one_of_le (le_foldl_max _ 0).1
  constructor <;> rw [hgiven]
  case rows =>
    refine List.forall_mem_append.2 ⟨fun row hrow => List.mem_append_left _ (traced.rows row hrow), ?_⟩
    exact List.forall_mem_singleton.2 (List.mem_append_right _ (List.mem_singleton_self _))
  case positive => exact List.forall_mem_append.2 ⟨traced.positive, List.forall_mem_singleton.2 hpos⟩
  case gapless =>
    intro id hid lower hlower hle
    rcases List.mem_append.1 hid with hid | hid
    · exact List.mem_append_left _ (traced.gapless id hid lower hlower hle)
    · rw [List.mem_singleton.1 hid] at hle
      rcases Int.lt_or_eq_of_le hle with hlt | rfl
      · exact List.mem_append_left _ (traced.given_of_le_highest hlower (Int.lt_add_one_iff.1 hlt))
      · exact List.mem_append_right _ (List.mem_singleton_self _)
  case gone =>
    intro id hid hnone
    have hne : id ≠ table.highest + 1 := by
      rintro rfl
      rw [row_insert] at hnone
      cases hnone
    rw [row_insert_other hne] at hnone
    rw [hdeleted]
    exact traced.gone id ((List.mem_append.1 hid).resolve_right fun h => hne (List.mem_singleton.1 h)) hnone
  case deleted =>
    rw [hdeleted]
    exact fun id hid => (traced.deleted id hid).imp_left (List.mem_append_left _)
  case rising =>
    intro hnodup
    obtain ⟨hbefore, -, hnew⟩ := List.nodup_append.1 hnodup
    refine List.pairwise_append.2 ⟨traced.rising hbefore, List.pairwise_singleton _ _, fun id hid new hmem => ?_⟩
    obtain rfl := List.mem_singleton.1 hmem
    -- an id that is not below the new one would have come after it, for none was left out
    by_contra hle
    exact hnew _ (traced.gapless id hid _ hpos (not_lt.1 hle)) _ (List.mem_singleton_self _) rfl
  case buried =>
    intro hnodup id hid
    obtain ⟨hbefore, -, hnew⟩ := List.nodup_append.1 hnodup
    rw [hdeleted] at hid
    have hne := hnew id (traced.deleted id hid).1 _ (List.mem_singleton_self _)
    rw [row_insert_other hne]
    exact traced.buried hbefore id hid

theorem delete {id : Int} (hroom : Column.holdsInt id = true) (hlive : (table.row? id).isSome) :
    (table.without id).Traced (log ++ [(.delete id, .ok (.deleted true))]) := by
  have hgiven : givenIds (log ++ [(.delete id, .ok (.deleted true))]) = givenIds log := by
    rw [givenIds_append]
    exact List.append_nil _
  have hdeleted : deletedIds (log ++ [(.delete id, .ok (.deleted true))]) = deletedIds log ++ [id] :=
    deletedIds_append _ _
  constructor <;> rw [hgiven]
  case rows => exact fun row hrow => traced.rows row (List.mem_of_mem_filter hrow)
  case positive => exact traced.positive
  case gapless => exact traced.gapless
  case gone =>
    intro other hother hnone
    rw [hdeleted]
    by_cases hsame : other = id
    · rw [hsame]
      exact List.mem_append_right _ (List.mem_singleton_self _)
    · rw [row_without_other hsame] at hnone
      exact List.mem_append_left _ (traced.gone other hother hnone)
  case deleted =>
    rw [hdeleted]
    obtain ⟨row, hrow⟩ := Option.isSome_iff_exists.1 hlive
    obtain ⟨hmem, rfl⟩ := mem_of_row hrow
    exact List.forall_mem_append.2 ⟨traced.deleted, List.forall_mem_singleton.2 ⟨traced.rows row hmem, hroom⟩⟩
  case rising => exact traced.rising
  case buried =>
    intro hnodup other hother
    rw [hdeleted] at hother
    by_cases hsame : other = id
    · rw [hsame]
      exact row_without_self
    · rw [row_without_other hsame]
      exact traced.buried hnodup other ((List.mem_append.1 hother).resolve_right fun h => hsame (List.mem_singleton.1 h))

theorem same {more : List (Operation × Except Fault Reply)} {after : Table} (hgiven : givenIds more = [])
    (hdeleted : deletedIds more = []) (hrows : after.rows = table.rows) : after.Traced (log ++ more) := by
  have hrow : ∀ id, after.row? id = table.row? id := fun id => by rw [row?, row?, hrows]
  constructor <;> simp only [givenIds_append, deletedIds_append, hgiven, hdeleted, List.append_nil, hrows, hrow]
  case rows => exact traced.rows
  case positive => exact traced.positive
  case gapless => exact traced.gapless
  case gone => exact traced.gone
  case deleted => exact traced.deleted
  case rising => exact traced.rising
  case buried => exact traced.buried

/-- As long as no id was given twice, the next id is a new one exactly if the row that was added last is still
there: then it is the one with the highest id. -/
theorem next_not_given_iff (hnodup : (givenIds log).Nodup) :
    table.highest + 1 ∉ givenIds log ↔ ∀ last ∈ (givenIds log).getLast?, (table.row? last).isSome := by
  -- the ids rise, so that the last one is the highest that was given
  have hlast : ∀ last ∈ (givenIds log).getLast?, last ∈ givenIds log ∧ ∀ id ∈ givenIds log, id ≤ last := by
    intro last hlast
    obtain ⟨earlier, hearlier⟩ := List.getLast?_eq_some_iff.1 hlast
    have hrising := traced.rising hnodup
    rw [hearlier] at hrising ⊢
    refine ⟨List.mem_append_right _ (List.mem_singleton_self _), List.forall_mem_append.2 ⟨fun id hid => ?_, ?_⟩⟩
    · exact ((List.pairwise_append.1 hrising).2.2 id hid last (List.mem_singleton_self _)).le
    · exact List.forall_mem_singleton.2 le_rfl
  constructor
  · intro hnew last hmem
    obtain ⟨hgiven, hmax⟩ := hlast last hmem
    have hpos := traced.positive last hgiven
    have hle : last ≤ table.highest := by
      by_contra hlt
      exact hnew (traced.gapless last hgiven _ (Int.lt_add_one_of_le (le_foldl_max _ 0).1) (not_le.1 hlt))
    -- so the row of the highest id has the last one, which is no higher and no lower
    rcases foldl_max_mem (table.rows.map (·.id)) 0 with hzero | hrow
    · have hhighest : table.highest = 0 := hzero
      omega
    · obtain ⟨row, hrow, hid⟩ := List.mem_map.1 hrow
      have hhighest : row.id = table.highest := hid
      have hge := hmax row.id (traced.rows row hrow)
      obtain rfl : row.id = last := le_antisymm hge (hhighest ▸ hle)
      exact List.find?_isSome.2 ⟨row, hrow, by simp⟩
  · intro hkept hgiven
    cases hmem : (givenIds log).getLast? with
    | none =>
      rw [List.getLast?_eq_none_iff.1 hmem] at hgiven
      cases hgiven
    | some last =>
      obtain ⟨row, hrow⟩ := Option.isSome_iff_exists.1 (hkept last hmem)
      obtain ⟨hin, rfl⟩ := mem_of_row hrow
      have hle := id_le_highest hin
      have hge := (hlast row.id hmem).2 _ hgiven
      omega

end Traced

end Table

/-! ## Histories -/

section

variable {σ : Type} (world : World σ) (usualDelay : Int)

namespace Session

/-- An operation adds a row under the id that it replies, removes the rows of the id that it was asked to delete, or
leaves the rows as they are and gives and deletes nothing. -/
theorem perform_cases {session after : Session σ} {operation : Operation} {reply : Except Fault Reply}
    (h : session.perform world usualDelay operation = (reply, after)) :
    (reply = .ok (.saved (session.table.highest + 1)) ∧
      ∃ name description text, after.table = (session.table.insert name description text).2) ∨
    (∃ id, operation = .delete id ∧ reply = .ok (.deleted true) ∧ Column.holdsInt id = true ∧
      (session.table.row? id).isSome ∧ after.table = session.table.without id) ∨
    (givenIds [(operation, reply)] = [] ∧ deletedIds [(operation, reply)] = [] ∧
      after.table.rows = session.table.rows) := by
  cases operation with
  | save name description steps =>
    rw [perform_save] at h
    cases hentries : rawEntries steps with
    | ok entries =>
      rw [hentries] at h
      cases h
      exact .inl ⟨rfl, name, some (description.getD ""), StepList.encodeEntries entries, rfl⟩
    | error fault =>
      rw [hentries] at h
      cases h
      exact .inr (.inr ⟨rfl, rfl, rfl⟩)
  | delete id =>
    cases hroom : Column.holdsInt id with
    | false =>
      simp only [perform, Table.delete, Table.find_wide hroom, Except.map] at h
      cases h
      exact .inr (.inr ⟨rfl, rfl, rfl⟩)
    | true =>
      simp only [perform, Table.delete_int hroom] at h
      cases h
      cases hlive : (session.table.row? id).isSome with
      | false => exact .inr (.inr ⟨rfl, rfl, rfl⟩)
      | true => exact .inr (.inl ⟨id, rfl, rfl, hroom, hlive, rfl⟩)
  | get id =>
    cases h
    cases (session.table.get (.int id)).1 <;> exact .inr (.inr ⟨rfl, rfl, rfl⟩)
  | list =>
    cases h
    cases session.table.list.1 <;> exact .inr (.inr ⟨rfl, rfl, rfl⟩)
  | run id input =>
    rw [perform] at h
    rcases hrun : session.table.report world usualDelay (.int id) input session.engine with ⟨report, engine, events⟩
    rw [hrun] at h
    cases h
    cases report <;> exact .inr (.inr ⟨rfl, rfl, rfl⟩)
  | wait time =>
    cases h
    exact .inr (.inr ⟨rfl, rfl, rfl⟩)

theorem traced_perform {log : List (Operation × Except Fault Reply)} {session : Session σ}
    (traced : session.table.Traced log) (operation : Operation) :
    (session.perform world usualDelay operation).2.table.Traced
      (log ++ [(operation, (session.perform world usualDelay operation).1)]) := by
  rcases hperform : session.perform world usualDelay operation with ⟨reply, after⟩
  rcases perform_cases world usualDelay hperform with
    ⟨rfl, name, description, text, htable⟩ | ⟨id, rfl, rfl, hroom, hlive, htable⟩ | ⟨hgiven, hdeleted, hrows⟩
  · rw [htable]
    exact traced.save
  · rw [htable]
    exact traced.delete hroom hlive
  · exact traced.same hgiven hdeleted hrows

theorem performAll_concat (session : Session σ) (operations : List Operation) (operation : Operation) :
    session.performAll world usualDelay (operations ++ [operation]) =
      ((session.performAll world usualDelay operations).1 ++
        [(operation, ((session.performAll world usualDelay operations).2.perform world usualDelay operation).1)],
      ((session.performAll world usualDelay operations).2.perform world usualDelay operation).2) := by
  induction operations generalizing session with
  | nil => rfl
  | cons first operations ih =>
    rw [List.cons_append, performAll]
    simp only [ih]
    rfl

/-- What comes of operations that are asked of an empty store. -/
def fromEmpty (engine : Engine σ) (history : List Operation) : List (Operation × Except Fault Reply) × Session σ :=
  performAll world usualDelay ⟨{}, engine⟩ history

variable (engine : Engine σ)

theorem traced_fromEmpty (history : List Operation) :
    (fromEmpty world usualDelay engine history).2.table.Traced (fromEmpty world usualDelay engine history).1 := by
  induction history using List.reverseRecOn with
  | nil => exact Table.Traced.empty
  | append_singleton history operation ih =>
    rw [fromEmpty, performAll_concat]
    exact traced_perform world usualDelay ih operation

theorem fromEmpty_concat (history : List Operation) (operation : Operation) :
    fromEmpty world usualDelay engine (history ++ [operation]) =
      ((fromEmpty world usualDelay engine history).1 ++
        [(operation, ((fromEmpty world usualDelay engine history).2.perform world usualDelay operation).1)],
      ((fromEmpty world usualDelay engine history).2.perform world usualDelay operation).2) :=
  performAll_concat world usualDelay _ history operation

/-- What was given early on was given, in the same order, in the whole history. -/
theorem prefix_givenIds {before history : List Operation} (h : before <+: history) :
    givenIds (fromEmpty world usualDelay engine before).1 <+: givenIds (fromEmpty world usualDelay engine history).1 := by
  obtain ⟨rest, rfl⟩ := h
  induction rest using List.reverseRecOn with
  | nil => rw [List.append_nil]
  | append_singleton rest operation ih =>
    rw [← List.append_assoc, fromEmpty_concat, givenIds_append]
    exact ih.trans (List.prefix_append _ _)

/-- Nothing is found under an id exactly if there is no row of that id. -/
theorem perform_get_none_iff {session : Session σ} {id : Int} (hroom : Column.holdsInt id = true) :
    (session.perform world usualDelay (.get id)).1 = .ok (.loaded none) ↔ session.table.row? id = none := by
  simp only [perform, Table.get, Table.find_int hroom]
  cases session.table.row? id with
  | none => simp [Except.map]
  | some row => cases hload : row.load.1 <;> simp [hload, Except.map]

/-- Without a row, a run tells that there is no workflow. -/
theorem perform_run_none {session : Session σ} {id : Int} (hroom : Column.holdsInt id = true)
    (hnone : session.table.row? id = none) (input : Value) :
    (session.perform world usualDelay (.run id input)).1 = .ok (.ran (.failure (.unknownWorkflow (.int id)))) := by
  simp only [perform, Table.report, Table.run, Table.get, Table.find_int hroom, hnone]
  rfl

/-- Whenever a workflow is saved, the one that was saved last before it is still there. -/
def LastKept (history : List Operation) : Prop :=
  ∀ before operation, before ++ [operation] <+: history →
    ∀ id, ((fromEmpty world usualDelay engine before).2.perform world usualDelay operation).1 = .ok (.saved id) →
      ∀ last ∈ (givenIds (fromEmpty world usualDelay engine before).1).getLast?,
        ((fromEmpty world usualDelay engine before).2.table.row? last).isSome

/-- At no time is a workflow found under an id that was deleted before. -/
def StaysDeleted (history : List Operation) : Prop :=
  ∀ before, before <+: history → ∀ id ∈ deletedIds (fromEmpty world usualDelay engine before).1,
    ((fromEmpty world usualDelay engine before).2.perform world usualDelay (.get id)).1 = .ok (.loaded none) ∧
    ∀ input, ((fromEmpty world usualDelay engine before).2.perform world usualDelay (.run id input)).1 =
      .ok (.ran (.failure (.unknownWorkflow (.int id))))

section

variable {history : List Operation}

/-- What is saved is added as a row under the next id. -/
theorem insert_of_saved {session : Session σ} {operation : Operation} {id : Int}
    (h : (session.perform world usualDelay operation).1 = .ok (.saved id)) :
    id = session.table.highest + 1 ∧ ∃ name description text,
      (session.perform world usualDelay operation).2.table = (session.table.insert name description text).2 := by
  rcases hperform : session.perform world usualDelay operation with ⟨reply, after⟩
  rw [hperform] at h
  obtain rfl : reply = .ok (.saved id) := h
  rcases perform_cases world usualDelay hperform with ⟨hreply, hinsert⟩ | ⟨_, -, hreply, -⟩ | ⟨hnone, -⟩
  · cases hreply
    exact ⟨rfl, hinsert⟩
  · cases hreply
  · cases hnone

/-- One more operation gives no id twice if none was given twice so far and the next id, should it give that, is a
new one. -/
theorem nodup_concat_iff (operation : Operation) :
    (givenIds (fromEmpty world usualDelay engine (history ++ [operation])).1).Nodup ↔
      (givenIds (fromEmpty world usualDelay engine history).1).Nodup ∧
        ∀ id, ((fromEmpty world usualDelay engine history).2.perform world usualDelay operation).1 = .ok (.saved id) →
          (fromEmpty world usualDelay engine history).2.table.highest + 1 ∉
            givenIds (fromEmpty world usualDelay engine history).1 := by
  rw [fromEmpty_concat, givenIds_append]
  rcases givenIds_cases operation ((fromEmpty world usualDelay engine history).2.perform world usualDelay operation).1 with
    ⟨id, hreply, hgiven⟩ | ⟨hother, hgiven⟩
  · rw [hgiven, ← (insert_of_saved world usualDelay hreply).1, ← List.concat_eq_append, List.nodup_concat, and_comm]
    exact and_congr_right fun _ => ⟨fun h _ _ => h, fun h => h id hreply⟩
  · rw [hgiven, List.append_nil]
    exact ⟨fun h => ⟨h, fun id hid => absurd hid (hother id)⟩, And.left⟩

theorem staysDeleted_of_nodup (h : (givenIds (fromEmpty world usualDelay engine history).1).Nodup) :
    StaysDeleted world usualDelay engine history := by
  intro before hbefore id hid
  have traced := traced_fromEmpty world usualDelay engine before
  have hnodup := h.sublist (prefix_givenIds world usualDelay engine hbefore).sublist
  have hroom := (traced.deleted id hid).2
  have hnone := traced.buried hnodup id hid
  exact ⟨(perform_get_none_iff world usualDelay hroom).2 hnone, perform_run_none world usualDelay hroom hnone⟩

theorem lastKept_of_nodup (h : (givenIds (fromEmpty world usualDelay engine history).1).Nodup) :
    LastKept world usualDelay engine history := by
  intro before operation hbefore id hid
  have hall := h.sublist (prefix_givenIds world usualDelay engine hbefore).sublist
  obtain ⟨hnodup, hnew⟩ := (nodup_concat_iff world usualDelay engine operation).1 hall
  exact ((traced_fromEmpty world usualDelay engine before).next_not_given_iff hnodup).1 (hnew id hid)

theorem nodup_of_lastKept (h : LastKept world usualDelay engine history) :
    (givenIds (fromEmpty world usualDelay engine history).1).Nodup := by
  -- on the history, from the end: what a history keeps, each beginning of it keeps
  induction history using List.reverseRecOn with
  | nil => exact .nil
  | append_singleton history operation ih =>
    have hnodup := ih fun before operation hbefore => h before operation (hbefore.trans (List.prefix_append _ _))
    refine (nodup_concat_iff world usualDelay engine operation).2 ⟨hnodup, fun id hid => ?_⟩
    refine ((traced_fromEmpty world usualDelay engine history).next_not_given_iff hnodup).2 ?_
    exact h history operation (List.prefix_refl _) id hid

theorem nodup_of_staysDeleted (h : StaysDeleted world usualDelay engine history) :
    (givenIds (fromEmpty world usualDelay engine history).1).Nodup := by
  induction history using List.reverseRecOn with
  | nil => exact .nil
  | append_singleton history operation ih =>
    have hnodup := ih fun before hbefore => h before (hbefore.trans (List.prefix_append _ _))
    refine (nodup_concat_iff world usualDelay engine operation).2 ⟨hnodup, fun id hid hgiven => ?_⟩
    -- the next id has no row yet; so it was deleted if it was given, and now its row is found
    have traced := traced_fromEmpty world usualDelay engine history
    have hdeleted := traced.gone _ hgiven (Table.row_beyond (Int.lt_add_one_of_le le_rfl))
    have hroom := (traced.deleted _ hdeleted).2
    have hagain := h _ (List.prefix_refl _) ((fromEmpty world usualDelay engine history).2.table.highest + 1)
    rw [fromEmpty_concat, deletedIds_append] at hagain
    have hnone := (perform_get_none_iff world usualDelay hroom).1 (hagain (List.mem_append_left _ hdeleted)).1
    obtain ⟨-, name, description, text, htable⟩ := insert_of_saved world usualDelay hid
    rw [htable, Table.row_insert] at hnone
    cases hnone

end

/-- Whatever is asked of an empty store, no id is given twice, and no workflow is found under an id that was deleted
before, exactly if no workflow is ever saved while the one that was saved last is deleted. -/
theorem ids_given_once_iff (history : List Operation) :
    ((givenIds (fromEmpty world usualDelay engine history).1).Nodup ↔ LastKept world usualDelay engine history) ∧
      (StaysDeleted world usualDelay engine history ↔ LastKept world usualDelay engine history) := by
  refine ⟨⟨lastKept_of_nodup world usualDelay engine, nodup_of_lastKept world usualDelay engine⟩, fun h => ?_, fun h => ?_⟩
  · exact lastKept_of_nodup world usualDelay engine (nodup_of_staysDeleted world usualDelay engine h)
  · exact staysDeleted_of_nodup world usualDelay engine (nodup_of_lastKept world usualDelay engine h)

end Session

end

/-- The only workflow is deleted, and then another one is saved. -/
def replacingHistory : List Operation :=
  [.save "a" (some "") (.list [.object [("type", .text "trigger")]]),
    .delete 1,
    .save "b" (some "") (.list [.object [("type", .text "code"), ("code", .text "return 1")]])]

/-- The new workflow has the id of the deleted one, under which it is found. -/
theorem deleted_id_found_again :
    givenIds (Session.fromEmpty Script.world 5 idleEngine replacingHistory).1 = [1, 1] ∧
      deletedIds (Session.fromEmpty Script.world 5 idleEngine replacingHistory).1 = [1] ∧
      ((Session.fromEmpty Script.world 5 idleEngine replacingHistory).2.perform Script.world 5 (.get 1)).1 =
        .ok (.loaded (some ⟨1, "b", "", [⟨"step_1", "code", .text "Code", [("code", .text "return 1")]⟩]⟩)) ∧
      ¬ (givenIds (Session.fromEmpty Script.world 5 idleEngine replacingHistory).1).Nodup ∧
      ¬ Session.StaysDeleted Script.world 5 idleEngine replacingHistory := by
  have hgiven : givenIds (Session.fromEmpty Script.world 5 idleEngine replacingHistory).1 = [1, 1] := by
    decide +kernel
  have hdeleted : deletedIds (Session.fromEmpty Script.world 5 idleEngine replacingHistory).1 = [1] := by
    decide +kernel
  have hfound : ((Session.fromEmpty Script.world 5 idleEngine replacingHistory).2.perform Script.world 5 (.get 1)).1 =
      .ok (.loaded (some ⟨1, "b", "", [⟨"step_1", "code", .text "Code", [("code", .text "return 1")]⟩]⟩)) := by
    decide +kernel
  refine ⟨hgiven, hdeleted, hfound, by rw [hgiven]; decide, fun h => ?_⟩
  have hnone := (h _ (List.prefix_refl _) 1 (by rw [hdeleted]; exact List.mem_singleton_self 1)).1
  rw [hfound] at hnone
  cases hnone

end Workflows
