/-
What becomes of the entries of a payload. Each is shown by a node or a connection, or told about in one warning,
all in order. The exceptions are numbers: a coordinate above every floating-point number, and an infinity for a
port. A payload with one of these is not read at all.
-/
import Workflows.Proofs.Graph.Reread
import Workflows.Proofs.Number.Limit

namespace Workflows

/-! ## Computations that a number can stop -/

/-- A computation gives a result or a fault that is passed over; but if a condition holds, it gives a fault that is
not. -/
def Fares {α : Type} (passed : Fault → Bool) (stop : Fault) (condition : Prop) (x : Except Fault α) : Prop :=
  condition ∧ x = .error stop ∨
    ¬ condition ∧ ((∃ a, x = .ok a) ∨ ∃ fault, x = .error fault ∧ passed fault = true)

namespace Fares

variable {α β : Type} {passed : Fault → Bool} {stop : Fault} {condition : Prop}

theorem ok (a : α) : Fares passed stop False (.ok a) := .inr ⟨id, .inl ⟨a, rfl⟩⟩

theorem error {fault : Fault} (h : passed fault = true) : Fares passed stop False (.error fault : Except Fault α) :=
  .inr ⟨id, .inr ⟨fault, rfl, h⟩⟩

theorem stopped : Fares passed stop True (.error stop : Except Fault α) := .inl ⟨trivial, rfl⟩

theorem congr {other : Prop} {x : Except Fault α} (h : Fares passed stop condition x) (hiff : other ↔ condition) :
    Fares passed stop other x := by
  rwa [propext hiff]

/-- A sequence is stopped in its first part, or in its second if the first gives a result. -/
theorem bind {next : Prop} {x : Except Fault α} {f : α → Except Fault β} (hx : Fares passed stop condition x)
    (hf : ∀ a, x = .ok a → Fares passed stop next (f a)) :
    Fares passed stop (condition ∨ (∃ a, x = .ok a) ∧ next) (x.bind f) := by
  rcases hx with ⟨hcondition, rfl⟩ | ⟨hcondition, ⟨a, rfl⟩ | ⟨fault, rfl, hpassed⟩⟩
  · exact .inl ⟨.inl hcondition, rfl⟩
  · exact (hf a rfl).congr (by simp [hcondition])
  · refine .inr ⟨?_, .inr ⟨fault, rfl, hpassed⟩⟩
    rintro (h | ⟨⟨a, ha⟩, -⟩)
    · exact hcondition h
    · cases ha

end Fares

/-! ## Numbers that are too large -/

/-- A value is an integer above every floating-point number in size. -/
def Value.IsBeyond (v : Value) : Prop := ∃ n, v = .int n ∧ Binary64.intLimit ≤ n.natAbs

/-- A value is an infinity. -/
def Value.IsEndless (v : Value) : Prop := ∃ x, v = .float x ∧ x.isInfinite = true

namespace Graph

/-- Only an integer that is too large is a coordinate that cannot be passed over. -/
theorem fares_toFloat (v : Value) : Fares isPositionFault .integerTooLarge v.IsBeyond v.toFloat := by
  have hother : (∀ n, v ≠ .int n) → (v.IsBeyond ↔ False) := fun h => iff_false_intro fun ⟨n, hn, _⟩ => h n hn
  cases v with
  | int n =>
    have hiff : (Value.int n).IsBeyond ↔ Binary64.ofInt? n = none := by
      rw [Binary64.ofInt_eq_none_iff]
      exact ⟨fun ⟨m, hm, h⟩ => (by cases hm; exact h), fun h => ⟨n, rfl, h⟩⟩
    rw [Value.toFloat, Value.floatOfInt]
    cases h : Binary64.ofInt? n with
    | some x => exact Fares.congr (Fares.ok x) (by simp [hiff, h])
    | none => exact Fares.congr Fares.stopped (by simp [hiff, h])
  | float x =>
    refine Fares.congr ?_ (hother fun n hn => by cases hn)
    exact Fares.ok x
  | bool b =>
    refine Fares.congr ?_ (hother fun n hn => by cases hn)
    have hread : ∃ x, (Value.bool b).toFloat = .ok x := by
      cases b with
      | false => exact ⟨.zero false, by decide⟩
      | true => exact ⟨⟨false, 1023, 0⟩, by decide⟩
    obtain ⟨x, hx⟩ := hread
    rw [hx]
    exact Fares.ok x
  | text s =>
    refine Fares.congr ?_ (hother fun n hn => by cases hn)
    rw [Value.toFloat]
    cases Numeral.decimal? s with
    | some x => exact Fares.ok x
    | none => exact Fares.error rfl
  | _ =>
    refine Fares.congr ?_ (hother fun n hn => by cases hn)
    exact Fares.error rfl

/-- Only an infinity is a port that cannot be passed over. -/
theorem fares_toInt (v : Value) : Fares isMalformation .infiniteInteger v.IsEndless v.toInt := by
  have hother : (∀ x, v ≠ .float x) → (v.IsEndless ↔ False) := fun h => iff_false_intro fun ⟨x, hx, _⟩ => h x hx
  cases v with
  | float x =>
    have hiff : (Value.float x).IsEndless ↔ x.isInfinite = true :=
      ⟨fun ⟨y, hy, hinfinite⟩ => (by cases hy; exact hinfinite), fun hinfinite => ⟨x, rfl, hinfinite⟩⟩
    refine Fares.congr ?_ hiff
    rw [Value.toInt, Value.intOfFloat]
    split
    · next hnan =>
      have hfinite : ¬ x.isInfinite = true := by
        simp only [Binary64.isNaN, Binary64.isInfinite] at *
        grind
      refine Fares.congr ?_ (iff_false_intro hfinite)
      exact Fares.error rfl
    · split
      · next hinfinite => exact Fares.congr Fares.stopped (iff_true_intro hinfinite)
      · next hfinite => exact Fares.congr (Fares.ok _) (iff_false_intro hfinite)
  | int n | bool b =>
    refine Fares.congr ?_ (hother fun x hx => by cases hx)
    exact Fares.ok _
  | text s =>
    refine Fares.congr ?_ (hother fun x hx => by cases hx)
    rw [Value.toInt]
    rcases Numeral.integer? s with ⟨⟨⟩ | digits⟩ | n
    · exact Fares.error rfl
    · exact Fares.error rfl
    · exact Fares.ok n
  | _ =>
    refine Fares.congr ?_ (hother fun x hx => by cases hx)
    exact Fares.error rfl

/-- The first of some coordinates that is no floating-point number is an integer too large for one. -/
def LeadsBeyond : List Value → Prop
  | [] => False
  | v :: vs => v.IsBeyond ∨ (∃ x, v.toFloat = .ok x) ∧ LeadsBeyond vs

/-- An entry has an id, and a position that leads beyond all floating-point numbers. -/
def TooFar (entry : Value) : Prop :=
  ∃ members items, entry = .object members ∧ (Object.getOrNull members "id").isUnset = false ∧
    (Object.getOrNull members "position").elements = .ok items ∧ LeadsBeyond items

/-- An entry names a source, and an infinity for the output; or an output, a target, and an infinity for the input. -/
def Endless (entry : Value) : Prop :=
  ∃ members source, entry = .object members ∧ Object.get? members "source_node_id" = some source ∧
    ((Object.getOrNull members "source_output_index").IsEndless ∨
      (∃ n, readPort entry "source_output_index" = .ok n) ∧
        (∃ target, Object.get? members "target_node_id" = some target) ∧
        (Object.getOrNull members "target_input_index").IsEndless)

/-! ## What is read of an entry -/

/-- A node has what an object says about it, and a default for what it leaves open. -/
structure Describes (members : Object) (node : Node) : Prop where
  id : (Object.getOrNull members "id").isUnset = false ∧ node.id = (Object.getOrNull members "id").display
  declaredType : node.declaredType =
    (firstTrue (.text "") [Object.getOrNull members "declared_type", Object.getOrNull members "type"]).display
  displayName : node.displayName =
    firstTrue (.text node.id) [Object.getOrNull members "display_name", Object.getOrNull members "name"]
  parameters : node.parameters = Object.getOrNull members "parameters" ∧ (∃ params, node.parameters = .object params) ∨
    node.parameters = .object [] ∧ ∀ params, Object.getOrNull members "parameters" ≠ .object params
  position : readPosition (Object.getOrNull members "position") = .ok node.position
  needsConfiguration : node.needsConfiguration = (Object.getOrNull members "needs_configuration").isTrue
  kind : NodeKind.classify node.declaredType node.parameters = .ok node.kind

/-- A node is that of an entry. -/
def NodeOf (entry : Value) (node : Node) : Prop := ∃ members, entry = .object members ∧ Describes members node

/-- A warning says that the entry at a place stands for no node. -/
def NoNode (place : Nat) (entry : Value) (warning : String) : Prop :=
  entryId? entry = none ∧ warning = skipWarning place

/-- A connection is that of an entry: it has both ends, and a port that is left open is the first. -/
def ConnectionOf (entry : Value) (c : Connection) : Prop :=
  ∃ members source target, entry = .object members ∧ Object.get? members "source_node_id" = some source ∧
    Object.get? members "target_node_id" = some target ∧ c.source = source.display ∧ c.target = target.display ∧
    ((Object.getOrNull members "source_output_index").orElse (.int 0)).toInt = .ok c.output ∧
    ((Object.getOrNull members "target_input_index").orElse (.int 0)).toInt = .ok c.input

/-- A warning says why the entry at a place stands for no connection. -/
def NoConnection (place : Nat) (entry : Value) (warning : String) : Prop :=
  (¬ ∃ c, ConnectionOf entry c) ∧ ∃ fault, readConnection entry = .error fault ∧
    warning = "Skipping connection #" ++ toString place ++ ": malformed entry (" ++ fault.label ++ ": " ++
      fault.message ++ ")"

/-- Of some entries, the first of which has a given place, each is shown by one of some things or told about in one
of some warnings, all in order. -/
inductive Told {α : Type} (shows : Value → α → Prop) (tells : Nat → Value → String → Prop) :
    Nat → List Value → List α → List String → Prop
  | none (place : Nat) : Told shows tells place [] [] []
  | shown {place : Nat} {entry : Value} {x : α} {entries : List Value} {xs : List α} {warnings : List String} :
      shows entry x → Told shows tells (place + 1) entries xs warnings →
      Told shows tells place (entry :: entries) (x :: xs) warnings
  | told {place : Nat} {entry : Value} {warning : String} {entries : List Value} {xs : List α} {warnings : List String} :
      tells place entry warning → Told shows tells (place + 1) entries xs warnings →
      Told shows tells place (entry :: entries) xs (warning :: warnings)

/-! ## Reading one entry -/

theorem fares_mapM_toFloat (items : List Value) :
    Fares isPositionFault .integerTooLarge (LeadsBeyond items) (items.mapM Value.toFloat) := by
  induction items with
  | nil => exact Fares.ok []
  | cons v vs ih =>
    rw [List.mapM_cons]
    refine ((fares_toFloat v).bind fun x _ => ih.bind fun xs _ => Fares.ok (x :: xs)).congr ?_
    simp [LeadsBeyond]

theorem isTrue_of_elements {v : Value} {items : List Value} (h : v.elements = .ok items) (hne : items ≠ []) :
    v.isTrue = true := by
  cases v with
  | text s | list items | object members | table entries =>
    cases h
    simpa [Value.isTrue] using hne
  | _ => cases h

/-- A position leads beyond all numbers, or it is read. -/
theorem readPosition_cases (raw : Value) :
    (∃ items, raw.elements = .ok items ∧ LeadsBeyond items) ∧ readPosition raw = .error .integerTooLarge ∨
      (¬ ∃ items, raw.elements = .ok items ∧ LeadsBeyond items) ∧ ∃ xs, readPosition raw = .ok xs := by
  have helements : Fares isPositionFault .integerTooLarge False raw.elements := by
    cases raw with
    | text _ | list _ | object _ | table _ => exact Fares.ok _
    | _ => exact Fares.error rfl
  have hcoordinates : Fares isPositionFault .integerTooLarge (∃ items, raw.elements = .ok items ∧ LeadsBeyond items)
      (raw.elements.bind fun items => items.mapM Value.toFloat) := by
    rcases helements with ⟨h, -⟩ | ⟨-, ⟨items, hitems⟩ | ⟨fault, hfault, hpassed⟩⟩
    · exact h.elim
    · rw [hitems]
      refine (fares_mapM_toFloat items).congr ⟨fun ⟨_, h, hbeyond⟩ => ?_, fun h => ⟨items, rfl, h⟩⟩
      cases h
      exact hbeyond
    · rw [hfault]
      exact Fares.congr (Fares.error hpassed) (iff_false_intro fun ⟨items, h, _⟩ => by cases h)
  unfold readPosition
  rcases hcoordinates with ⟨⟨items, hitems, hbeyond⟩, hfault⟩ | ⟨hnear, ⟨xs, hxs⟩ | ⟨fault, hfault, hpassed⟩⟩
  · -- an empty position leads nowhere, so the origin is not taken in place of this one
    have hne : items ≠ [] := fun hnil => by
      rw [hnil] at hbeyond
      exact hbeyond
    have htrue := isTrue_of_elements hitems hne
    exact .inl ⟨⟨items, hitems, hbeyond⟩, by simp only [htrue, hfault]; rfl⟩
  · refine .inr ⟨hnear, ?_⟩
    simp only [hxs]
    split <;> exact ⟨_, rfl⟩
  · refine .inr ⟨hnear, ?_⟩
    simp only [hfault, hpassed, if_true]
    split <;> exact ⟨_, rfl⟩

theorem exists_classify (declared : String) (params : Object) :
    ∃ kind, NodeKind.classify declared (.object params) = .ok kind := by
  unfold NodeKind.classify
  split
  · exact ⟨_, rfl⟩
  · cases params <;> exact ⟨_, rfl⟩

/-- A node is read of every object whose position is, and it is the one that the object describes. -/
theorem readNode_of_position {members : Object} (hid : (Object.getOrNull members "id").isUnset = false)
    {position : List Binary64} (hposition : readPosition (Object.getOrNull members "position") = .ok position) :
    ∃ node, readNode members (Object.getOrNull members "id") = .ok node ∧ Describes members node := by
  have hkinds := exists_classify
    (firstTrue (.text "") [Object.getOrNull members "declared_type", Object.getOrNull members "type"]).display
  simp only [readNode, hposition, Except.bind]
  split
  · next params hparams =>
    obtain ⟨kind, hkind⟩ := hkinds params
    simp only [Node.make, hkind, Except.map]
    exact ⟨_, rfl, ⟨hid, rfl⟩, rfl, rfl, .inl ⟨hparams.symm, params, rfl⟩, hposition, rfl, hkind⟩
  · next hother =>
    obtain ⟨kind, hkind⟩ := hkinds []
    simp only [Node.make, hkind, Except.map]
    exact ⟨_, rfl, ⟨hid, rfl⟩, rfl, rfl, .inr ⟨rfl, hother⟩, hposition, rfl, hkind⟩

theorem tooFar_object {members : Object} : TooFar (.object members) ↔
    (Object.getOrNull members "id").isUnset = false ∧
      ∃ items, (Object.getOrNull members "position").elements = .ok items ∧ LeadsBeyond items := by
  constructor
  · rintro ⟨_, items, h, hid, hitems⟩
    cases h
    exact ⟨hid, items, hitems⟩
  · rintro ⟨hid, items, hitems⟩
    exact ⟨members, items, rfl, hid, hitems⟩

/-- An entry without an id is told about. Any other is shown by a node, unless its position leads beyond all
numbers. -/
theorem addPayloadNode_cases (graph : Graph) (place : Nat) (entry : Value) :
    TooFar entry ∧ addPayloadNode graph place entry = .error .integerTooLarge ∨
      ¬ TooFar entry ∧ ((∃ node, NodeOf entry node ∧ addPayloadNode graph place entry = .ok (graph.addNode node)) ∨
        ∃ warning, NoNode place entry warning ∧ addPayloadNode graph place entry = .ok (graph.warn warning)) := by
  cases entry with
  | object members =>
    rw [tooFar_object, addPayloadNode]
    by_cases hunset : (Object.getOrNull members "id").isUnset = true
    · have hnone : NoNode place (.object members) (skipWarning place) := ⟨if_pos hunset, rfl⟩
      exact .inr ⟨fun h => (by rw [hunset] at h; cases h.1), .inr ⟨_, hnone, if_pos hunset⟩⟩
    · have hid := Bool.eq_false_iff.2 hunset
      rw [if_neg hunset]
      rcases readPosition_cases (Object.getOrNull members "position") with ⟨hfar, hfault⟩ | ⟨hnear, position, hposition⟩
      · exact .inl ⟨⟨hid, hfar⟩, by simp only [readNode, hfault]; rfl⟩
      · obtain ⟨node, hnode, hdescribes⟩ := readNode_of_position hid hposition
        exact .inr ⟨fun h => hnear h.2, .inl ⟨node, ⟨members, rfl, hdescribes⟩, by rw [hnode]; rfl⟩⟩
  | _ =>
    refine .inr ⟨?_, .inr ⟨_, ⟨rfl, rfl⟩, rfl⟩⟩
    rintro ⟨members, items, hentry, -⟩
    cases hentry

theorem isEndless_orElse (v : Value) (n : Int) : (v.orElse (.int n)).IsEndless ↔ v.IsEndless := by
  unfold Value.orElse
  split
  · rfl
  · next hfalse =>
    refine iff_of_false (fun ⟨x, hx, _⟩ => by cases hx) ?_
    rintro ⟨x, rfl, hinfinite⟩
    -- an infinity is no zero, so the default is not taken for it
    refine hfalse ?_
    simp only [Value.isTrue, Binary64.isZero, Binary64.isInfinite] at *
    grind

theorem fares_readPort (members : Object) (key : String) :
    Fares isMalformation .infiniteInteger (Object.getOrNull members key).IsEndless (readPort (.object members) key) :=
  (fares_toInt ((Object.getOrNull members key).orElse (.int 0))).congr (isEndless_orElse _ _).symm

theorem part_eq_ok {members : Object} {key : String} {v : Value} :
    (Value.object members).part key = .ok v ↔ Object.get? members key = some v := by
  rw [Value.part]
  cases Object.get? members key <;> simp

theorem connectionOf_iff {entry : Value} {c : Connection} : ConnectionOf entry c ↔ readConnection entry = .ok c := by
  simp only [readConnection, bind, bind_eq_ok]
  constructor
  · rintro ⟨members, source, target, rfl, hsource, htarget, hfrom, hto, houtput, hinput⟩
    refine ⟨source, part_eq_ok.2 hsource, c.output, houtput, target, part_eq_ok.2 htarget, c.input, hinput, ?_⟩
    rw [← hfrom, ← hto]
    rfl
  · rintro ⟨source, hsource, output, houtput, target, htarget, input, hinput, h⟩
    cases h
    cases entry with
    | object members =>
      exact ⟨members, source, target, rfl, part_eq_ok.1 hsource, part_eq_ok.1 htarget, rfl, rfl, houtput, hinput⟩
    | _ => cases hsource

theorem fares_part (members : Object) (key : String) :
    Fares isMalformation .infiniteInteger False ((Value.object members).part key) := by
  rw [Value.part]
  cases Object.get? members key with
  | some v => exact Fares.ok v
  | none => exact Fares.error rfl

/-- Only an infinity for a port that is reached keeps an entry from being read or told about. -/
theorem fares_readConnection (entry : Value) :
    Fares isMalformation .infiniteInteger (Endless entry) (readConnection entry) := by
  cases entry with
  | object members =>
    refine ((fares_part members "source_node_id").bind fun source _ =>
      (fares_readPort members "source_output_index").bind fun output _ =>
        (fares_part members "target_node_id").bind fun target _ =>
          (fares_readPort members "target_input_index").bind fun input _ =>
            Fares.ok (⟨source.display, output, target.display, input⟩ : Connection)).congr ?_
    simp only [part_eq_ok, false_or, and_false, or_false]
    constructor
    · rintro ⟨_, source, h, hsource, hports⟩
      cases h
      exact ⟨⟨source, hsource⟩, hports⟩
    · rintro ⟨⟨source, hsource⟩, hports⟩
      exact ⟨members, source, rfl, hsource, hports⟩
  | _ =>
    have hnone : ∀ {v : Value}, (∀ members, v ≠ .object members) → (Endless v ↔ False) := fun h =>
      iff_false_intro fun ⟨members, _, hentry, _⟩ => h members hentry
    refine Fares.congr ?_ (hnone fun members h => by cases h)
    exact Fares.error rfl

/-- An entry stands for a connection or is told about, unless an infinity for a port keeps it from being read. -/
theorem addPayloadConnection_cases (graph : Graph) (place : Nat) (entry : Value) :
    Endless entry ∧ addPayloadConnection graph place entry = .error .infiniteInteger ∨
      ¬ Endless entry ∧
        ((∃ c, ConnectionOf entry c ∧ addPayloadConnection graph place entry = .ok (graph.connect c)) ∨
          ∃ warning, NoConnection place entry warning ∧
            addPayloadConnection graph place entry = .ok (graph.warn warning)) := by
  unfold addPayloadConnection
  rcases fares_readConnection entry with ⟨hendless, hfault⟩ | ⟨hread, ⟨c, hc⟩ | ⟨fault, hfault, hpassed⟩⟩
  · exact .inl ⟨hendless, by rw [hfault]; rfl⟩
  · exact .inr ⟨hread, .inl ⟨c, connectionOf_iff.2 hc, by rw [hc]⟩⟩
  · have hnone : ¬ ∃ c, ConnectionOf entry c := by
      rintro ⟨c, hc⟩
      rw [connectionOf_iff, hfault] at hc
      cases hc
    refine .inr ⟨hread, .inr ⟨_, ⟨hnone, fault, hfault, rfl⟩, ?_⟩⟩
    simp only [hfault, if_pos hpassed]

/-! ## Reading all entries -/

/-- A way of reading entries into a graph: one that is refused stops it, and any other extends the graph, by what
shows it or by a warning that tells about it. -/
structure Reads {α : Type} (add : Graph → Nat → Value → Except Fault Graph)
    (extend : Graph → List α → List String → Graph) (shows : Value → α → Prop) (tells : Nat → Value → String → Prop)
    (refused : Value → Prop) : Prop where
  extend_nil (graph : Graph) : extend graph [] [] = graph
  extend_append (graph : Graph) (xs ys : List α) (warnings more : List String) :
    extend (extend graph xs warnings) ys more = extend graph (xs ++ ys) (warnings ++ more)
  step (graph : Graph) (place : Nat) (entry : Value) :
    (refused entry ∧ ∃ fault, add graph place entry = .error fault ∧ fault.kind = .overflow) ∨
      ¬ refused entry ∧ ((∃ x, shows entry x ∧ add graph place entry = .ok (extend graph [x] [])) ∨
        ∃ warning, tells place entry warning ∧ add graph place entry = .ok (extend graph [] [warning]))

/-- Entries that are not refused are all shown or told about, and a refused one stops the reading. -/
theorem Reads.run {α : Type} {add : Graph → Nat → Value → Except Fault Graph}
    {extend : Graph → List α → List String → Graph} {shows : Value → α → Prop} {tells : Nat → Value → String → Prop}
    {refused : Value → Prop} (reads : Reads add extend shows tells refused) (graph : Graph) (place : Nat)
    (entries : List Value) :
    ((∃ entry ∈ entries, refused entry) ∧
        ∃ fault, addEntries add graph place entries = .error fault ∧ fault.kind = .overflow) ∨
      (∀ entry ∈ entries, ¬ refused entry) ∧ ∃ xs warnings, Told shows tells place entries xs warnings ∧
        addEntries add graph place entries = .ok (extend graph xs warnings) := by
  -- on the entries, for the graph as it has become and the place at which it has arrived
  induction entries generalizing graph place with
  | nil => exact .inr ⟨List.forall_mem_nil _, [], [], .none place, by rw [reads.extend_nil]; rfl⟩
  | cons entry entries ih =>
    unfold addEntries
    rcases reads.step graph place entry with ⟨hrefused, fault, hfault, hkind⟩ | ⟨haccepted, h⟩
    · exact .inl ⟨⟨entry, List.mem_cons_self, hrefused⟩, fault, by rw [hfault]; rfl, hkind⟩
    · rcases h with ⟨x, hshows, hadd⟩ | ⟨warning, htells, hadd⟩
      · rw [hadd, Except.bind]
        rcases ih (extend graph [x] []) (place + 1) with
          ⟨⟨other, hmem, hrefused⟩, hfault⟩ | ⟨hrest, xs, warnings, told, hall⟩
        · exact .inl ⟨⟨other, List.mem_cons_of_mem _ hmem, hrefused⟩, hfault⟩
        · rw [reads.extend_append] at hall
          exact .inr ⟨List.forall_mem_cons.2 ⟨haccepted, hrest⟩, x :: xs, warnings, .shown hshows told, hall⟩
      · rw [hadd, Except.bind]
        rcases ih (extend graph [] [warning]) (place + 1) with
          ⟨⟨other, hmem, hrefused⟩, hfault⟩ | ⟨hrest, xs, warnings, told, hall⟩
        · exact .inl ⟨⟨other, List.mem_cons_of_mem _ hmem, hrefused⟩, hfault⟩
        · rw [reads.extend_append] at hall
          exact .inr ⟨List.forall_mem_cons.2 ⟨haccepted, hrest⟩, xs, warning :: warnings, .told htells told, hall⟩

/-- A graph with more nodes and warnings. -/
def withNodes (graph : Graph) (nodes : List Node) (warnings : List String) : Graph :=
  { graph with nodes := graph.nodes ++ nodes, warnings := graph.warnings ++ warnings }

/-- A graph with more connections and warnings. -/
def withConnections (graph : Graph) (connections : List Connection) (warnings : List String) : Graph :=
  { graph with connections := graph.connections ++ connections, warnings := graph.warnings ++ warnings }

theorem reads_nodes : Reads addPayloadNode withNodes NodeOf NoNode TooFar where
  extend_nil graph := by simp [withNodes]
  extend_append graph xs ys warnings more := by simp [withNodes]
  step graph place entry := by
    rcases addPayloadNode_cases graph place entry with
      ⟨hfar, hfault⟩ | ⟨hnear, ⟨node, hnode, hadd⟩ | ⟨warning, htells, hadd⟩⟩
    · exact .inl ⟨hfar, _, hfault, rfl⟩
    · exact .inr ⟨hnear, .inl ⟨node, hnode, by rw [hadd]; simp [withNodes, addNode]⟩⟩
    · exact .inr ⟨hnear, .inr ⟨warning, htells, by rw [hadd]; simp [withNodes, warn]⟩⟩

theorem reads_connections : Reads addPayloadConnection withConnections ConnectionOf NoConnection Endless where
  extend_nil graph := by simp [withConnections]
  extend_append graph xs ys warnings more := by simp [withConnections]
  step graph place entry := by
    rcases addPayloadConnection_cases graph place entry with
      ⟨hendless, hfault⟩ | ⟨hread, ⟨c, hc, hadd⟩ | ⟨warning, htells, hadd⟩⟩
    · exact .inl ⟨hendless, _, hfault, rfl⟩
    · exact .inr ⟨hread, .inl ⟨c, hc, by rw [hadd]; simp [withConnections, connect]⟩⟩
    · exact .inr ⟨hread, .inr ⟨warning, htells, by rw [hadd]; simp [withConnections, warn]⟩⟩

/-- A graph of which only the name is known. -/
def named (members : Object) : Graph := { name := .text ((Object.getOrNull members "name").orElse (.text "")).display }

/-- A payload is read exactly if none of its entries has a number that is too large. Then each entry for a node or a
connection is shown or told about in one warning, in order, those for nodes first. What stops the reading of any
other payload is that a number overflows. -/
theorem entries_shown_or_told {members : Object} {entries links : List Value}
    (hnodes : Object.getOrNull members "nodes" = .list entries)
    (hconnections : Object.getOrNull members "connections" = .list links) :
    ((∃ graph, ofPayload (.object members) = .ok graph) ↔
        (∀ entry ∈ entries, ¬ TooFar entry) ∧ ∀ entry ∈ links, ¬ Endless entry) ∧
      (∀ graph, ofPayload (.object members) = .ok graph → ∃ skipped malformed,
        Told NodeOf NoNode 1 entries graph.nodes skipped ∧
        Told ConnectionOf NoConnection 1 links graph.connections malformed ∧ graph.warnings = skipped ++ malformed) ∧
      ∀ fault, ofPayload (.object members) = .error fault → fault.kind = .overflow := by
  have hread : ofPayload (.object members) =
      (addEntries addPayloadNode (named members) 1 entries).bind fun graph =>
        addEntries addPayloadConnection graph 1 links := by
    show ((entriesOf (Object.getOrNull members "nodes")).bind fun nodes =>
      (addEntries addPayloadNode (named members) 1 nodes).bind fun graph =>
        (entriesOf (Object.getOrNull members "connections")).bind (addEntries addPayloadConnection graph 1)) = _
    rw [hnodes, hconnections, entriesOf_list, entriesOf_list]
    rfl
  rw [hread]
  rcases reads_nodes.run (named members) 1 entries with
    ⟨⟨entry, hmem, hfar⟩, fault, hfault, hkind⟩ | ⟨hnear, nodes, skipped, toldNodes, hadded⟩
  · rw [hfault]
    refine ⟨iff_of_false (fun ⟨graph, h⟩ => by cases h) fun h => h.1 entry hmem hfar, fun graph h => (by cases h), ?_⟩
    rintro _ ⟨⟩
    exact hkind
  · rw [hadded, Except.bind]
    rcases reads_connections.run (withNodes (named members) nodes skipped) 1 links with
      ⟨⟨entry, hmem, hendless⟩, fault, hfault, hkind⟩ | ⟨hends, connections, malformed, toldLinks, hgraph⟩
    · rw [hfault]
      refine ⟨iff_of_false (fun ⟨graph, h⟩ => by cases h) fun h => h.2 entry hmem hendless, fun graph h => (by cases h), ?_⟩
      rintro _ ⟨⟩
      exact hkind
    · rw [hgraph]
      refine ⟨iff_of_true ⟨_, rfl⟩ ⟨hnear, hends⟩, ?_, fun fault h => by cases h⟩
      rintro _ ⟨⟩
      exact ⟨skipped, malformed, toldNodes, toldLinks, rfl⟩

theorem rough_entries_shown_or_told :
    ∃ members entries links, roughPayload = .object members ∧ Object.getOrNull members "nodes" = .list entries ∧
      Object.getOrNull members "connections" = .list links ∧ ofPayload (.object members) = .ok roughGraph ∧
      ((∀ entry ∈ entries, ¬ TooFar entry) ∧ ∀ entry ∈ links, ¬ Endless entry) ∧ ∃ skipped malformed,
        Told NodeOf NoNode 1 entries roughGraph.nodes skipped ∧
        Told ConnectionOf NoConnection 1 links roughGraph.connections malformed ∧
        roughGraph.warnings = skipped ++ malformed := by
  refine ⟨_, _, _, rfl, rfl, rfl, ofPayload_roughPayload, ?_⟩
  exact ⟨(entries_shown_or_told rfl rfl).1.1 ⟨_, ofPayload_roughPayload⟩,
    (entries_shown_or_told rfl rfl).2.1 _ ofPayload_roughPayload⟩

/-- A payload of one node that is connected to itself, from an output whose index is an infinity. -/
def endlessOutput : Object :=
  [("nodes", .list [.object [("id", .text "a"), ("type", .text "trigger")]]),
    ("connections", .list [.object [("source_node_id", .text "a"),
      ("source_output_index", .float (Binary64.infinity false)), ("target_node_id", .text "a")]])]

/-- The entry is no reason for a warning: nothing is read of the payload. -/
theorem endlessOutput_not_read :
    ofPayload (.object endlessOutput) = .error .infiniteInteger ∧
      ¬ ∀ members entries links, Object.getOrNull members "nodes" = .list entries →
        Object.getOrNull members "connections" = .list links → ∃ graph, ofPayload (.object members) = .ok graph := by
  have hfault : ofPayload (.object endlessOutput) = .error .infiniteInteger := by decide +kernel
  refine ⟨hfault, fun h => ?_⟩
  obtain ⟨graph, hgraph⟩ := h endlessOutput _ _ rfl rfl
  rw [hfault] at hgraph
  cases hgraph

end Graph

end Workflows
