/-
The steps of a graph are in canonical form: each is a step of the kind of its node, with the parameters that
this kind needs, and is read from its own value, and from its text if the parameters of the nodes are exact.
-/
import Workflows.Graph.Steps
import Workflows.Proofs.Number.Size
import Workflows.Proofs.Step.Hereditary
import Workflows.Proofs.Store.Saved

namespace Workflows

open Workflows.Json

/-! ## Nodes -/

/-- The kind of step that a node of a kind becomes. -/
def NodeKind.stepKind : NodeKind → StepKind
  | .trigger | .unsupported _ => .trigger
  | .code => .code
  | .http => .httpRequest
  | .llm => .llm
  | .image => .image
  | .delay => .delay

namespace Node

/-- An entry that names a value names it by a text. -/
def isTextNamed : Value → Bool
  | .object entry =>
    let name := Object.getOrNull entry "name"
    !name.isTrue || name.text?.isSome
  | _ => true

/-- The values in a container of parameters are named by texts. -/
def namesTexts (container : Value) : Bool :=
  match container with
  | .object members =>
    match Graph.entriesOf (Object.getOrNull members "parameters") with
    | .ok entries => entries.all isTextNamed
    | .error _ => true
  | _ => true

/-- A node as editors and exports have them: with an id, a text to show, parameters by name, and headers that
are named by texts. -/
structure Plain (node : Node) : Prop where
  id : node.id ≠ ""
  displayName : ∃ s, node.displayName = .text s
  parameters : ∃ params, node.parameters = .object params ∧
    namesTexts (Object.getOrNull params "headerParameters") = true

theorem plain_iff {node : Node} : node.Plain ↔ node.id ≠ "" ∧ node.displayName.text?.isSome = true ∧
    (node.parameters.members?.any fun params => namesTexts (Object.getOrNull params "headerParameters")) = true := by
  constructor
  · rintro ⟨hid, ⟨s, hname⟩, params, hparams, htexts⟩
    rw [hname, hparams]
    exact ⟨hid, rfl, htexts⟩
  · rintro ⟨hid, hname, hparameters⟩
    obtain ⟨params, hparams, htexts⟩ := (Option.any_eq_true _ _).1 hparameters
    refine ⟨hid, ?_, params, ?_, htexts⟩
    · cases h : node.displayName with
      | text s => exact ⟨s, rfl⟩
      | _ => rw [h] at hname; cases hname
    · cases h : node.parameters with
      | object members =>
        rw [h] at hparams
        cases hparams
        rfl
      | _ => rw [h] at hparams; cases hparams

instance (node : Node) : Decidable node.Plain := decidable_of_iff _ plain_iff.symm

/-! ## Names and values -/

/-- Members as pairs of names and values. -/
def namedPairs (members : Object) : List (Value × Value) := members.map fun (key, v) => (.text key, v)

theorem eq_namedPairs {pairs : List (Value × Value)} {members : Object}
    (h : pairs.mapM (fun (name, value) => name.text?.map (·, value)) = some members) : pairs = namedPairs members := by
  induction pairs generalizing members with
  | nil =>
    cases h
    rfl
  | cons pair pairs ih =>
    obtain ⟨name, value⟩ := pair
    rw [List.mapM_cons] at h
    cases name with
    | text s =>
      cases hrest : pairs.mapM (fun (name, value) => name.text?.map (·, value)) with
      | none =>
        rw [hrest] at h
        cases h
      | some rest =>
        rw [hrest] at h
        cases h
        rw [ih hrest]
        rfl
    | _ => cases h

theorem exists_unnamed {pairs : List (Value × Value)}
    (h : pairs.mapM (fun (name, value) => name.text?.map (·, value)) = none) : ∃ p ∈ pairs, p.1.text? = none := by
  induction pairs with
  | nil => cases h
  | cons pair pairs ih =>
    rw [List.mapM_cons] at h
    cases hname : pair.1.text? with
    | none => exact ⟨pair, List.mem_cons_self, hname⟩
    | some s =>
      cases hrest : pairs.mapM (fun (name, value) => name.text?.map (·, value)) with
      | none =>
        obtain ⟨p, hp, hnone⟩ := ih hrest
        exact ⟨p, List.mem_cons_of_mem _ hp, hnone⟩
      | some rest => simp [hname, hrest] at h

/-- Pairs are the members of an object if all their names are texts, and else a table. -/
theorem pairsValue_cases (pairs : List (Value × Value)) :
    (∃ members, pairs = namedPairs members ∧ pairsValue pairs = .object members) ∨
      ((∃ p ∈ pairs, p.1.text? = none) ∧ pairsValue pairs = .table pairs) := by
  unfold pairsValue
  cases h : pairs.mapM fun (name, value) => name.text?.map (·, value) with
  | some members => exact .inl ⟨members, eq_namedPairs h, rfl⟩
  | none => exact .inr ⟨exists_unnamed h, rfl⟩

variable {P : Value → Prop} {pairs : List (Value × Value)}

/-- Values that have a property under names that have it, no two of which are the same. -/
structure Named (P : Value → Prop) (pairs : List (Value × Value)) : Prop where
  apart : (pairs.map (·.1)).Pairwise fun a b => a.same b = false
  all : ∀ p ∈ pairs, P p.1 ∧ P p.2

theorem names_putNamed (name value : Value) : ∀ pairs : List (Value × Value),
    (putNamed name value pairs).map (·.1) =
      if pairs.any (·.1.same name) then pairs.map (·.1) else pairs.map (·.1) ++ [name]
  | [] => rfl
  | (n, v) :: rest => by
    rw [putNamed, List.any_cons]
    cases hsame : n.same name with
    | true => rfl
    | false =>
      rw [if_neg (by simp), List.map_cons, names_putNamed name value rest, Bool.false_or]
      split <;> rfl

theorem Named.putNamed (named : Named P pairs) {name value : Value} (hname : P name) (hvalue : P value) :
    Named P (putNamed name value pairs) := by
  constructor
  · rw [names_putNamed]
    split
    · exact named.apart
    · next hany =>
      refine List.pairwise_append.2 ⟨named.apart, List.pairwise_singleton _ _, fun a ha b hb => ?_⟩
      obtain ⟨p, hp, rfl⟩ := List.mem_map.1 ha
      rw [List.mem_singleton.1 hb]
      simpa using fun hsame => hany (List.any_eq_true.2 ⟨p, hp, hsame⟩)
  · -- that the names are apart would not survive the induction, and is not needed for it
    have hall := named.all
    clear named
    induction pairs with
    | nil =>
      intro p hp
      rw [List.mem_singleton.1 hp]
      exact ⟨hname, hvalue⟩
    | cons pair rest ih =>
      obtain ⟨n, v⟩ := pair
      obtain ⟨hfirst, hrest⟩ := List.forall_mem_cons.1 hall
      rw [Node.putNamed]
      split
      · exact List.forall_mem_cons.2 ⟨⟨hfirst.1, hvalue⟩, hrest⟩
      · exact List.forall_mem_cons.2 ⟨hfirst, ih hrest⟩

/-- One entry after another adds its value under its name, or nothing. -/
theorem collectPairs_cons {entry : Value} {entries : List Value} {all : List (Value × Value)}
    (h : collectPairs pairs (entry :: entries) = .ok all) :
    (∃ members, entry = .object members ∧ (Object.getOrNull members "name").isTrue = true ∧
      collectPairs (putNamed (Object.getOrNull members "name") (Object.getOrNull members "value") pairs) entries = .ok all) ∨
      collectPairs pairs entries = .ok all := by
  cases entry with
  | object members =>
    rw [collectPairs] at h
    cases hname : (Object.getOrNull members "name").isTrue with
    | false =>
      simp only [hname, Bool.false_eq_true, if_false] at h
      exact .inr h
    | true =>
      simp only [hname, if_true] at h
      cases hcheck : checkName (Object.getOrNull members "name") with
      | error fault => rw [hcheck] at h; cases h
      | ok _ =>
        rw [hcheck] at h
        exact .inl ⟨members, rfl, hname, h⟩
  | _ => exact .inr h

theorem Named.collectPairs (hered : Value.Hereditary P) {entries : List Value} (hentries : ∀ e ∈ entries, P e)
    (named : Named P pairs) {all : List (Value × Value)} (h : collectPairs pairs entries = .ok all) : Named P all := by
  induction entries generalizing pairs with
  | nil => exact Except.ok.inj h ▸ named
  | cons entry entries ih =>
    obtain ⟨hentry, hrest⟩ := List.forall_mem_cons.1 hentries
    rcases collectPairs_cons h with ⟨members, rfl, -, h⟩ | h
    · exact ih hrest (named.putNamed (hered.getOrNull hentry _) (hered.getOrNull hentry _)) h
    · exact ih hrest named h

/-- Entries that are named by texts make an object. -/
theorem texts_collectPairs {entries : List Value} (htexts : ∀ e ∈ entries, isTextNamed e = true)
    (hpairs : ∀ p ∈ pairs.map (·.1), p.text?.isSome = true) {all : List (Value × Value)}
    (h : collectPairs pairs entries = .ok all) : ∀ p ∈ all.map (·.1), p.text?.isSome = true := by
  induction entries generalizing pairs with
  | nil => exact Except.ok.inj h ▸ hpairs
  | cons entry entries ih =>
    obtain ⟨hentry, hrest⟩ := List.forall_mem_cons.1 htexts
    rcases collectPairs_cons h with ⟨members, rfl, hname, h⟩ | h
    · refine ih hrest ?_ h
      rw [names_putNamed]
      split
      · exact hpairs
      · refine List.forall_mem_append.2 ⟨hpairs, List.forall_mem_singleton.2 ?_⟩
        simpa [isTextNamed, hname] using hentry
    · exact ih hrest hpairs h

/-- A property that the names and values of a table hand up to it. -/
def Tables (P : Value → Prop) : Prop := ∀ entries : List (Value × Value), (∀ e ∈ entries, P e.1 ∧ P e.2) → P (.table entries)

theorem pairsValue_keeps (hered : Value.Hereditary P) (named : Named P pairs)
    (hkind : Tables P ∨ ∀ p ∈ pairs.map (·.1), p.text?.isSome = true) : P (pairsValue pairs) := by
  rcases pairsValue_cases pairs with ⟨members, rfl, hvalue⟩ | ⟨⟨p, hp, hnone⟩, hvalue⟩
  · rw [hvalue]
    refine hered.object.2 ⟨?_, fun m hm => ?_⟩
    · -- texts that are the same value are the same key
      have hapart := named.apart
      rw [namedPairs, List.map_map, List.pairwise_map] at hapart
      exact List.pairwise_map.2 (hapart.imp fun h hkeys => by simp [Value.same, hkeys] at h)
    · exact (named.all (.text m.1, m.2) (List.mem_map.2 ⟨m, hm, rfl⟩)).2
  · rw [hvalue]
    rcases hkind with htables | htexts
    · exact htables pairs named.all
    · have hsome := htexts p.1 (List.mem_map.2 ⟨p, hp, rfl⟩)
      rw [hnone] at hsome
      cases hsome

/-- The values in a container keep the property of the container. -/
theorem namedValues_keeps (hered : Value.Hereditary P) {container v : Value} (hcontainer : P container)
    (hkind : Tables P ∨ namesTexts container = true) (h : namedValues container = .ok v) : P v := by
  cases container with
  | object container =>
    simp only [namedValues, namesTexts] at h hkind
    cases hentries : Graph.entriesOf (Object.getOrNull container "parameters") with
    | error fault => rw [hentries] at h; cases h
    | ok entries =>
      rw [hentries] at h hkind
      cases hpairs : collectPairs [] entries with
      | error fault => simp [bind, Except.bind, hpairs] at h
      | ok pairs =>
        simp only [bind, Except.bind, hpairs, pure, Except.pure, Except.ok.injEq] at h
        subst h
        have hlist := hered.elements (Value.Hereditary.orElse (hered.getOrNull hcontainer "parameters")
          (hered.list.2 (by simp))) hentries
        refine pairsValue_keeps hered (Named.collectPairs hered hlist ⟨List.Pairwise.nil, by simp⟩ hpairs) ?_
        exact hkind.imp_right fun htexts => texts_collectPairs (List.all_eq_true.1 htexts) (by simp) hpairs
  | _ =>
    rw [← Except.ok.inj h]
    exact hered.empty

/-! ## Parameters -/

theorem filledOr_cases (params : Object) (names : List String) (otherwise : String) :
    (filledOr params names otherwise).isTrue = true ∨ filledOr params names otherwise = .text otherwise := by
  unfold filledOr Value.orElse
  split
  · next h => exact .inl h
  · exact .inr rfl

theorem filledOr_keeps (hered : Value.Hereditary P) {params : Object} (h : P (.object params)) (names : List String)
    (otherwise : String) : P (filledOr params names otherwise) := by
  refine Value.Hereditary.orElse ?_ (hered.text _)
  cases hfirst : firstFilled? params names with
  | none => exact hered.null
  | some v =>
    obtain ⟨name, -, hname⟩ := List.exists_of_findSome?_eq_some hfirst
    dsimp only at hname
    split at hname
    · cases hname
    · cases hname
      exact hered.getOrNull h name

/-- The parameters of a request step, in their order. -/
theorem requestParams_eq_ok {given params : Object} (h : requestParams given = .ok params) :
    ∃ method body headers, requestHeaders given = .ok headers ∧
      params = [("url", (Object.get? given "url").getD (.text "")), ("method", .text method)] ++
        (if body = "" then [] else [("body", .text body)]) ++ (if headers.isTrue then [("headers", headers)] else []) := by
  unfold requestParams at h
  cases hbody : requestBody given with
  | error fault => rw [hbody] at h; cases h
  | ok body =>
    cases hheaders : requestHeaders given with
    | error fault => rw [hbody, hheaders] at h; cases h
    | ok headers =>
      rw [hbody, hheaders] at h
      exact ⟨_, body, headers, rfl, (Except.ok.inj h).symm⟩

theorem names_requestParams {given params : Object} (h : requestParams given = .ok params) :
    List.Sublist (params.map (·.1)) ["url", "method", "body", "headers"] := by
  obtain ⟨method, body, headers, -, rfl⟩ := requestParams_eq_ok h
  by_cases hbody : body = "" <;> cases headers.isTrue <;> simp [hbody]

theorem requestHeaders_keeps (hered : Value.Hereditary P) {given : Object} (hgiven : P (.object given))
    (hkind : Tables P ∨ namesTexts (Object.getOrNull given "headerParameters") = true) {headers : Value}
    (h : requestHeaders given = .ok headers) : P headers := by
  unfold requestHeaders at h
  split at h
  · next hheaders =>
    cases h
    exact hheaders ▸ hered.getOrNull hgiven "headers"
  · exact namedValues_keeps hered (hered.getOrNull hgiven _) hkind h

theorem requestParams_keeps (hered : Value.Hereditary P) {given params : Object} (hgiven : P (.object given))
    (hkind : Tables P ∨ namesTexts (Object.getOrNull given "headerParameters") = true)
    (h : requestParams given = .ok params) : P (.object params) := by
  have hdistinct : params.Distinct := (names_requestParams h).nodup (by decide)
  refine hered.object.2 ⟨hdistinct, ?_⟩
  obtain ⟨method, body, headers, hheaders, rfl⟩ := requestParams_eq_ok h
  have hurl : P ((Object.get? given "url").getD (.text "")) := by
    cases hget : Object.get? given "url" with
    | none => exact hered.text ""
    | some url => exact hered.get hgiven hget
  intro m hm
  simp only [List.mem_append, List.mem_cons, List.not_mem_nil, or_false, List.mem_ite_nil_left,
    List.mem_ite_nil_right] at hm
  rcases hm with ((rfl | rfl) | ⟨-, rfl⟩) | ⟨-, rfl⟩
  · exact hurl
  · exact hered.text method
  · exact hered.text body
  · exact requestHeaders_keeps hered hgiven hkind hheaders

theorem digits_intOfFloat {x : Binary64} {n : Int} (h : Value.intOfFloat x = .ok n) :
    (Nat.toDigits 10 n.natAbs).length ≤ Numeral.maxDigits := by
  unfold Value.intOfFloat at h
  cases hnan : x.isNaN with
  | true => rw [hnan] at h; cases h
  | false =>
    cases hinfinite : x.isInfinite with
    | true => rw [hnan, hinfinite] at h; cases h
    | false =>
      rw [hnan, hinfinite] at h
      cases h
      exact Binary64.length_truncate_le (Binary64.isFinite_of_not hnan hinfinite)

theorem delaySeconds_keeps (hered : Value.Hereditary P) {usual seconds : Int} (husual : P (.int usual)) {params : Object}
    (h : delaySeconds usual params = .ok seconds) : P (.int seconds) := by
  unfold delaySeconds at h
  dsimp only at h
  split at h
  · next n hn =>
    cases h
    split
    · exact husual
    · cases hraw : (rawDelay params).1.toFloat with
      | error fault => rw [hraw] at hn; cases hn
      | ok x =>
        cases hfactor : Value.floatOfInt (rawDelay params).2 with
        | error fault => rw [hraw, hfactor] at hn; cases hn
        | ok factor =>
          rw [hraw, hfactor] at hn
          exact hered.int n (digits_intOfFloat hn)
  · split at h
    · cases h
      exact husual
    · cases h

/-! ## Steps -/

/-- What a node becomes: a step of its id and of the kind of step that its kind stands for, with a prompt if it
asks a provider and whole seconds if it waits. -/
structure Becomes (node : Node) (step : Step) : Prop where
  id : step.id = node.id
  kind : step.kind? = some node.kind.stepKind
  prompt : step.kind? = some .llm ∨ step.kind? = some .image → (Object.getOrNull step.params "prompt").isUnset = false
  seconds : step.kind? = some .delay → ∃ n, Object.getOrNull step.params "seconds" = .int n

/-- No spelling is to be folded among parameters that have none of the spelt names. -/
theorem folded_of_apart (names : List String) {key : String} {others : List String}
    (h : ∀ other ∈ others, other ∉ names) {params : Object} (hnames : List.Sublist (params.map (·.1)) names) :
    Step.Folded params key others := by
  refine Or.inr fun other hother => ?_
  rw [Object.getOrNull, Object.get_of_absent fun hmem => h other hother (hnames.subset hmem)]
  rfl

theorem folded_code {v : Value} (h : v.isTrue = true ∨ v = .text "") :
    ∀ s ∈ Step.spellings, Step.Folded [("code", v)] s.1 s.2 := by
  rw [Step.spellings, List.forall_mem_cons, List.forall_mem_singleton]
  refine ⟨?_, folded_of_apart ["code"] (by decide) (List.Sublist.refl _)⟩
  rcases h with h | rfl
  · exact .inl h
  · exact .inr (by decide)

theorem folded_prompt {v : Value} (h : v.isTrue = true) : ∀ s ∈ Step.spellings, Step.Folded [("prompt", v)] s.1 s.2 := by
  rw [Step.spellings, List.forall_mem_cons, List.forall_mem_singleton]
  exact ⟨folded_of_apart ["prompt"] (by decide) (List.Sublist.refl _), .inl h⟩

/-- What parameters of a kind of step are like. -/
structure Fits (kind : StepKind) (params : Object) : Prop where
  folded : ∀ s ∈ Step.spellings, Step.Folded params s.1 s.2
  prompt : kind = .llm ∨ kind = .image → (Object.getOrNull params "prompt").isTrue = true
  seconds : kind = .delay → ∃ n, Object.getOrNull params "seconds" = .int n

/-- The parameters that a step of a kind gets from those of its node. -/
inductive Gets (usualDelay : Int) (given : Object) : StepKind → Object → Prop
  | nothing : Gets usualDelay given .trigger []
  | code (names : List String) : Gets usualDelay given .code [("code", filledOr given names "")]
  | request {params : Object} (h : requestParams given = .ok params) : Gets usualDelay given .httpRequest params
  | prompt {kind : StepKind} (hkind : kind = .llm ∨ kind = .image) (names : List String) {otherwise : String}
    (h : otherwise ≠ "") : Gets usualDelay given kind [("prompt", filledOr given names otherwise)]
  | delay {seconds : Int} (h : delaySeconds usualDelay given = .ok seconds) :
    Gets usualDelay given .delay [("seconds", .int seconds)]

/-- The parameters of a node that a step is made from: none that it reads, or those of an object. -/
def Given (node : Node) (given : Object) : Prop :=
  given = [] ∨ node.parameters.orElse (.object []) = .object given

theorem given_of_paramsOf {node : Node} {given : Object} (h : stepParams.paramsOf node = .ok given) : Given node given := by
  unfold stepParams.paramsOf Value.membersFor at h
  split at h
  · next heq =>
    cases h
    exact .inr heq
  · cases h

section

variable {usualDelay : Int} {given params : Object} {kind : StepKind}

/-- The step of a node is of the kind that the node's kind stands for, and gets its parameters from the node's. -/
theorem stepParams_gets {node : Node} (h : stepParams usualDelay node = .ok (kind, params)) :
    kind = node.kind.stepKind ∧ ∃ given, Given node given ∧ Gets usualDelay given kind params := by
  unfold stepParams at h
  cases hkind : node.kind <;> rw [hkind] at h
  -- the kinds without parameters do not ask whether the node has any, and so cannot fail
  case trigger | unsupported =>
    cases h
    exact ⟨rfl, [], .inl rfl, .nothing⟩
  all_goals
    obtain ⟨given, hparams⟩ : ∃ given, stepParams.paramsOf node = .ok given := by
      cases hparams : stepParams.paramsOf node with
      | error fault =>
        rw [hparams] at h
        cases h
      | ok given => exact ⟨given, rfl⟩
    rw [hparams] at h
    have hgiven := given_of_paramsOf hparams
  case code =>
    cases h
    exact ⟨rfl, given, hgiven, .code _⟩
  case http =>
    cases hrequest : requestParams given with
    | error fault => simp [bind, Except.bind, hrequest] at h
    | ok request =>
      simp only [bind, Except.bind, hrequest, pure, Except.pure, Except.ok.injEq, Prod.mk.injEq] at h
      obtain ⟨rfl, rfl⟩ := h
      exact ⟨rfl, given, hgiven, .request hrequest⟩
  case llm =>
    cases h
    exact ⟨rfl, given, hgiven, .prompt (.inl rfl) _ (by decide)⟩
  case image =>
    cases h
    exact ⟨rfl, given, hgiven, .prompt (.inr rfl) _ (by decide)⟩
  case delay =>
    cases hdelay : delaySeconds usualDelay given with
    | error fault => simp [bind, Except.bind, hdelay] at h
    | ok seconds =>
      simp only [bind, Except.bind, hdelay, pure, Except.pure, Except.ok.injEq, Prod.mk.injEq] at h
      obtain ⟨rfl, rfl⟩ := h
      exact ⟨rfl, given, hgiven, .delay hdelay⟩

theorem Gets.fits (gets : Gets usualDelay given kind params) : Fits kind params := by
  cases gets with
  | nothing =>
    exact {
      folded := fun s _ => folded_of_apart [] (by simp) (List.Sublist.refl _)
      prompt := by simp
      seconds := by simp }
  | code names =>
    exact {
      folded := folded_code (filledOr_cases given names "")
      prompt := by simp
      seconds := by simp }
  | request hrequest =>
    exact {
      folded := fun s hs => folded_of_apart _ (by revert s; decide) (names_requestParams hrequest)
      prompt := by simp
      seconds := by simp }
  | @prompt _ hkind names otherwise h =>
    have htrue : (filledOr given names otherwise).isTrue = true := by
      rcases filledOr_cases given names otherwise with htrue | hdefault
      · exact htrue
      · rw [hdefault]
        simpa [Value.isTrue] using h
    exact {
      folded := folded_prompt htrue
      prompt := fun _ => htrue
      seconds := by rcases hkind with rfl | rfl <;> simp }
  | @delay seconds h =>
    exact {
      folded := fun s hs => folded_of_apart ["seconds"] (by revert s; decide) (List.Sublist.refl _)
      prompt := by simp
      seconds := fun _ => ⟨seconds, rfl⟩ }

theorem Gets.keeps (gets : Gets usualDelay given kind params) (hered : Value.Hereditary P)
    (husual : P (.int usualDelay)) (hgiven : P (.object given))
    (hkind : Tables P ∨ namesTexts (Object.getOrNull given "headerParameters") = true) : P (.object params) := by
  cases gets with
  | nothing => exact hered.empty
  | code names => exact hered.single (filledOr_keeps hered hgiven names "")
  | request hrequest => exact requestParams_keeps hered hgiven hkind hrequest
  | @prompt _ _ names otherwise _ => exact hered.single (filledOr_keeps hered hgiven names otherwise)
  | delay h => exact hered.single (delaySeconds_keeps hered husual h)

end

theorem isUnset_of_isTrue {v : Value} (h : v.isTrue = true) : v.isUnset = false := by
  cases v with
  | text s => simpa [Value.isTrue, Value.isUnset] using h
  | null => cases h
  | _ => rfl

/-- What a node is turned into takes its id and its name, or its id for a name. -/
theorem toStep_eq_ok {usualDelay : Int} {node : Node} {step : Step} {warnings : List String}
    (h : node.toStep usualDelay = .ok (step, warnings)) :
    ∃ kind params, stepParams usualDelay node = .ok (kind, params) ∧
      step = ⟨node.id, kind.word, node.displayName.orElse (.text node.id), params⟩ := by
  cases hparams : stepParams usualDelay node with
  | error fault => simp [toStep, bind, Except.bind, hparams] at h
  | ok found =>
    obtain ⟨kind, params⟩ := found
    simp only [toStep, bind, Except.bind, hparams, pure, Except.pure, Except.ok.injEq, Prod.mk.injEq] at h
    exact ⟨kind, params, rfl, h.1.symm⟩

/-- The step of a plain node is in canonical form. -/
theorem toStep_spec {usualDelay : Int} {node : Node} (plain : node.Plain) {step : Step} {warnings : List String}
    (h : node.toStep usualDelay = .ok (step, warnings)) : node.Becomes step ∧ step.Canonical := by
  obtain ⟨name, hname⟩ : ∃ name, name ≠ "" ∧ node.displayName.orElse (.text node.id) = .text name := by
    obtain ⟨shown, hshown⟩ := plain.displayName
    rw [hshown]
    -- an empty name is none, and then the id stands for it
    by_cases hempty : shown = ""
    · exact ⟨node.id, plain.id, by rw [hempty]; rfl⟩
    · exact ⟨shown, hempty, Value.orElse_text hempty _⟩
  obtain ⟨kind, params, hparams, rfl⟩ := toStep_eq_ok h
  obtain ⟨hkind, given, -, gets⟩ := stepParams_gets hparams
  have hword : StepKind.ofText? kind.word = some kind := kind.ofText_word
  refine ⟨⟨rfl, hword.trans (congrArg some hkind), fun hk => ?_, fun hk => ?_⟩,
    ⟨plain.id, .inl ⟨kind, rfl⟩, ⟨name, hname.1, hname.2⟩, gets.fits.folded⟩⟩
  · simp only [Step.kind?, hword, Option.some.injEq] at hk
    exact isUnset_of_isTrue (gets.fits.prompt hk)
  · simp only [Step.kind?, hword, Option.some.injEq] at hk
    exact gets.fits.seconds hk

/-- The parameters that a step is made from have the property of those of the node, and header names that are
texts if the node is plain. -/
theorem given_keeps (hered : Value.Hereditary P) {node : Node} {given : Object} (hparameters : P node.parameters)
    (hgiven : Given node given) : P (.object given) ∧
      (node.Plain → namesTexts (Object.getOrNull given "headerParameters") = true) := by
  rcases hgiven with rfl | hgiven
  · exact ⟨hered.empty, fun _ => rfl⟩
  · refine ⟨hgiven ▸ Value.Hereditary.orElse hparameters hered.empty, fun plain => ?_⟩
    obtain ⟨params, hparams, htexts⟩ := plain.parameters
    obtain rfl : params = given := by
      rw [hparams] at hgiven
      cases params <;> exact Value.object.inj hgiven
    exact htexts

/-- The step of a node keeps the property of its name and of its parameters. -/
theorem toStep_keeps (hered : Value.Hereditary P) {usualDelay : Int} (husual : P (.int usualDelay)) {node : Node}
    (hkind : Tables P ∨ node.Plain) (hname : P node.displayName) (hparameters : P node.parameters) {step : Step}
    {warnings : List String} (h : node.toStep usualDelay = .ok (step, warnings)) : P step.toValue := by
  obtain ⟨kind, params, hparams, rfl⟩ := toStep_eq_ok h
  obtain ⟨-, given, hgiven, gets⟩ := stepParams_gets hparams
  obtain ⟨hobject, htexts⟩ := given_keeps hered hparameters hgiven
  exact hered.stepValue (Value.Hereditary.orElse hname (hered.text node.id))
    (gets.keeps hered husual hobject (hkind.imp_right htexts))

end Node

/-! ## Graphs -/

namespace Graph

variable {graph : Graph} {usualDelay : Int} {conversion : Conversion}

theorem mem_nodes_of_ordered {node : Node} (h : node ∈ graph.orderedNodes) : node ∈ graph.nodes := by
  obtain ⟨id, -, hid⟩ := List.mem_filterMap.1 h
  exact List.mem_of_find?_eq_some hid

/-- The steps of a graph are those of its nodes, in the order of the walk. -/
theorem steps_of_nodes (h : graph.toSteps usualDelay = .ok conversion) :
    List.Forall₂ (fun node step => node ∈ graph.nodes ∧ ∃ warnings, node.toStep usualDelay = .ok (step, warnings))
      graph.orderedNodes conversion.steps := by
  unfold toSteps at h
  obtain ⟨results, hresults, h⟩ := bind_eq_ok.1 h
  cases h
  refine List.forall₂_map_right_iff.2 (List.forall₂_iff_get.2 ?_)
  obtain ⟨hlength, hget⟩ := List.forall₂_iff_get.1 (forall₂_of_mapM hresults)
  exact ⟨hlength, fun i hi hj => ⟨mem_nodes_of_ordered (List.get_mem _ _), _, hget i hi hj⟩⟩

theorem node_of_step (h : graph.toSteps usualDelay = .ok conversion) {step : Step} (hstep : step ∈ conversion.steps) :
    ∃ node ∈ graph.nodes, ∃ warnings, node.toStep usualDelay = .ok (step, warnings) := by
  obtain ⟨hlength, hget⟩ := List.forall₂_iff_get.1 (steps_of_nodes h)
  obtain ⟨i, rfl⟩ := List.mem_iff_get.1 hstep
  have hi : i.val < graph.orderedNodes.length := hlength.symm ▸ i.isLt
  exact ⟨_, hget i.val hi i.isLt⟩

/-- The steps of a graph keep the property of the names and of the parameters of its nodes. -/
theorem toSteps_keeps {P : Value → Prop} (hered : Value.Hereditary P) (husual : P (.int usualDelay))
    (h : graph.toSteps usualDelay = .ok conversion) (hkind : ∀ node ∈ graph.nodes, Node.Tables P ∨ node.Plain)
    (hname : ∀ node ∈ graph.nodes, P node.displayName) (hparameters : ∀ node ∈ graph.nodes, P node.parameters) :
    ∀ step ∈ conversion.steps, P step.toValue := fun step hstep => by
  obtain ⟨node, hnode, warnings, hstep⟩ := node_of_step h hstep
  exact Node.toStep_keeps hered husual (hkind node hnode) (hname node hnode) (hparameters node hnode) hstep

variable (plain : ∀ node ∈ graph.nodes, node.Plain) (h : graph.toSteps usualDelay = .ok conversion)

include plain h

theorem nodes_become_steps : List.Forall₂ Node.Becomes graph.orderedNodes conversion.steps :=
  (steps_of_nodes h).imp fun _ _ ⟨hnode, _, hstep⟩ => (Node.toStep_spec (plain _ hnode) hstep).1

theorem canonical_toSteps : ∀ step ∈ conversion.steps, step.Canonical := fun _ hstep => by
  obtain ⟨node, hnode, warnings, hstep⟩ := node_of_step h hstep
  exact (Node.toStep_spec (plain node hnode) hstep).2

theorem exact_toSteps (husual : isExact (.int usualDelay) = true)
    (hexact : ∀ node ∈ graph.nodes, isExact node.parameters = true) :
    exactItems (conversion.steps.map Step.toValue) = true := by
  refine exactItems_iff.2 (List.forall_mem_map.2 ?_)
  refine toSteps_keeps Value.hereditary_exact husual h (fun node hnode => .inr (plain node hnode)) (fun node hnode => ?_) hexact
  obtain ⟨shown, hshown⟩ := (plain node hnode).displayName
  rw [hshown]
  exact Value.hereditary_exact.text shown

end Graph

/-- Exact steps in canonical form are read from their text, and none from the text of none. -/
theorem StepList.decode_encode_of_canonical {steps : List Step} (hcanonical : ∀ step ∈ steps, step.Canonical)
    (hexact : exactItems (steps.map Step.toValue) = true) : (decode (encode steps)).1 = .ok steps := by
  by_cases hne : steps = []
  · rw [hne]
    decide +kernel
  · exact decode_encodeEntries hexact (Step.readEntries_toValue hne hcanonical)

end Workflows
