/-
The body parameters of a node that asks for something over the network. The value of one of them stands in the body of
the step that the node becomes, in JSON, unless a later parameter of the same name takes its place or the node becomes no
step at all; which of these it is does not depend on the value.
-/
import Workflows.Proofs.Graph.Canonical
import Workflows.Proofs.Json.Gap
import Workflows.Proofs.Run.Body

namespace Workflows.Node

open Workflows.Json

/-! ## One value among others -/

/-- Pairs of which one has a value that is given, or none has. -/
inductive Takes (pairs : Value → List (Value × Value)) : Prop
  | never (all : List (Value × Value)) : (∀ v, pairs v = all) → Takes pairs
  | once (before : List (Value × Value)) (name : Value) (after : List (Value × Value)) :
    (∀ v, pairs v = before ++ (name, v) :: after) → Takes pairs

theorem takes_putNamed (name : Value) (all : List (Value × Value)) : Takes fun v => putNamed name v all := by
  induction all with
  | nil => exact .once [] name [] fun _ => rfl
  | cons pair all ih =>
    obtain ⟨n, w⟩ := pair
    cases hsame : n.same name with
    | true => exact .once [] n all fun v => by simp [putNamed, hsame]
    | false =>
      have hcons : ∀ v, putNamed name v ((n, w) :: all) = (n, w) :: putNamed name v all := fun v => by
        simp [putNamed, hsame]
      cases ih with
      | never rest h => exact .never ((n, w) :: rest) fun v => by rw [hcons, h]
      | once before other after h => exact .once ((n, w) :: before) other after fun v => by rw [hcons, h]; rfl

/-- Another value leaves the given one where it is, or takes its place. -/
theorem Takes.putNamed {pairs : Value → List (Value × Value)} (h : Takes pairs) (name w : Value) :
    Takes fun v => putNamed name w (pairs v) := by
  cases h with
  | never all h => exact .never (Node.putNamed name w all) fun v => by rw [h]
  | once before n after h =>
    simp only [h]
    clear h
    induction before with
    | nil =>
      cases hsame : n.same name with
      | true => exact .never ((n, w) :: after) fun v => by simp [Node.putNamed, hsame]
      | false => exact .once [] n (Node.putNamed name w after) fun v => by simp [Node.putNamed, hsame]
    | cons pair before ih =>
      obtain ⟨m, u⟩ := pair
      cases hsame : m.same name with
      | true => exact .once ((m, w) :: before) n after fun v => by simp [Node.putNamed, hsame]
      | false =>
        have hcons : ∀ v, Node.putNamed name w ((m, u) :: before ++ (n, v) :: after) =
            (m, u) :: Node.putNamed name w (before ++ (n, v) :: after) := fun v => by
          simp [Node.putNamed, hsame]
        cases ih with
        | never rest h => exact .never ((m, u) :: rest) fun v => by rw [hcons, h]
        | once before' other after' h => exact .once ((m, u) :: before') other after' fun v => by rw [hcons, h]; rfl

theorem Takes.collectPairs {pairs : Value → List (Value × Value)} (h : Takes pairs) (entries : List Value) :
    (∃ fault, ∀ v, collectPairs (pairs v) entries = .error fault) ∨
      ∃ all, Takes all ∧ ∀ v, collectPairs (pairs v) entries = .ok (all v) := by
  induction entries generalizing pairs with
  | nil => exact .inr ⟨pairs, h, fun _ => rfl⟩
  | cons entry entries ih =>
    cases entry with
    | object members =>
      cases hname : (Object.getOrNull members "name").isTrue with
      | false =>
        simp only [Node.collectPairs, hname, Bool.false_eq_true, if_false]
        exact ih h
      | true =>
        simp only [Node.collectPairs, hname, if_true]
        cases hcheck : checkName (Object.getOrNull members "name") with
        | error fault => exact .inl ⟨fault, fun _ => rfl⟩
        | ok _ => exact ih (h.putNamed _ _)
    | _ => exact ih h

theorem collectPairs_append (pairs : List (Value × Value)) (first second : List Value) :
    collectPairs pairs (first ++ second) = (collectPairs pairs first).bind fun all => collectPairs all second := by
  induction first generalizing pairs with
  | nil => rfl
  | cons entry first ih =>
    rw [List.cons_append]
    cases entry with
    | object members =>
      cases hname : (Object.getOrNull members "name").isTrue with
      | false =>
        simp only [collectPairs, hname, Bool.false_eq_true, if_false]
        exact ih pairs
      | true =>
        simp only [collectPairs, hname, if_true]
        cases hcheck : checkName (Object.getOrNull members "name") with
        | error fault => rfl
        | ok _ => exact ih _
    | _ => exact ih pairs

/-- Of entries one of which is given a value the pairs take this value, or do not depend on it. -/
theorem takes_collectPairs (before after : List Value) (entry : Object) :
    let entries := fun v => before ++ .object (Object.put entry "value" v) :: after
    (∃ fault, ∀ v, collectPairs [] (entries v) = .error fault) ∨
      ∃ all, Takes all ∧ ∀ v, collectPairs [] (entries v) = .ok (all v) := by
  intro entries
  cases hbefore : collectPairs [] before with
  | error fault => exact .inl ⟨fault, fun v => by rw [collectPairs_append, hbefore]; rfl⟩
  | ok pairs =>
    have hentries : ∀ v, collectPairs [] (entries v) =
        collectPairs pairs (.object (Object.put entry "value" v) :: after) := fun v => by
      rw [collectPairs_append, hbefore]
      rfl
    have hname : ∀ v, Object.getOrNull (Object.put entry "value" v) "name" = Object.getOrNull entry "name" := fun v =>
      Object.getOrNull_put_of_ne (by decide)
    simp only [hentries, collectPairs, hname, Object.getOrNull_put_self]
    cases hfilled : (Object.getOrNull entry "name").isTrue with
    | false => exact (Takes.never pairs fun _ => rfl).collectPairs after
    | true =>
      cases hcheck : checkName (Object.getOrNull entry "name") with
      | error fault => exact .inl ⟨fault, fun _ => rfl⟩
      | ok _ => exact (takes_putNamed _ pairs).collectPairs after

/-! ## The body -/

theorem namedMembers_namedPairs (members : Object) : namedMembers (namedPairs members) = members := by
  rw [namedMembers, namedPairs, List.map_map]
  exact List.map_id members

/-- Pairs are written like an object, whatever their names are. -/
theorem render_pairsValue (pairs : List (Value × Value)) :
    render .plain (pairsValue pairs) = render .plain (.object (namedMembers pairs)) := by
  rcases pairsValue_cases pairs with ⟨members, rfl, h⟩ | ⟨-, h⟩
  · rw [h, namedMembers_namedPairs]
  · rw [h, render, write_table, render]

theorem isTrue_pairsValue {pairs : List (Value × Value)} (h : pairs ≠ []) : (pairsValue pairs).isTrue = true := by
  rcases pairsValue_cases pairs with ⟨members, rfl, hvalue⟩ | ⟨-, hvalue⟩
  · rw [hvalue]
    cases members with
    | nil => exact absurd rfl h
    | cons member members => rfl
  · rw [hvalue]
    simpa [Value.isTrue] using h

theorem toStep_http (usualDelay : Int) {node : Node} (hkind : node.kind = .http) {given : Object}
    (hgiven : node.parameters = .object given) :
    node.toStep usualDelay = (requestParams given).map fun params =>
      (⟨node.id, "http_request", node.displayName.orElse (.text node.id), params⟩, []) := by
  have hparams : stepParams.paramsOf node = .ok given := by
    rw [stepParams.paramsOf, hgiven]
    cases given <;> rfl
  cases hrequest : requestParams given <;>
    simp [toStep, stepParams, hkind, hparams, hrequest, bind, Except.bind, pure, Except.pure, Except.map, StepKind.word]

/-- The parameters of a request whose body is given. -/
def paramsWith (given : Object) (body : String) (headers : Value) : Object :=
  [("url", (Object.get? given "url").getD (.text "")),
    ("method", .text (Text.upper ((Object.getOrNull given "method").orElse (.text "GET")).display))] ++
    (if body = "" then [] else [("body", .text body)]) ++ (if headers.isTrue then [("headers", headers)] else [])

theorem requestParams_eq (given : Object) :
    requestParams given = (requestBody given).bind fun body => (requestHeaders given).map (paramsWith given body) := by
  cases hbody : requestBody given <;> cases hheaders : requestHeaders given <;>
    simp [requestParams, paramsWith, hbody, hheaders, bind, Except.bind, pure, Except.pure, Except.map]

theorem paramsWith_body {body : String} (hbody : body ≠ "") (given : Object) (headers : Value) :
    paramsWith given body headers = Object.put (paramsWith given "null" headers) "body" (.text body) := by
  simp [paramsWith, hbody, Object.put]

/-- The parameters of a node with body parameters, one of which is given a value. -/
def withParameter (params container : Object) (before : List Value) (entry : Object) (after : List Value) (v : Value) :
    Object :=
  Object.put params "bodyParameters" (.object
    (Object.put container "parameters" (.list (before ++ .object (Object.put entry "value" v) :: after))))

section

variable (params container : Object) (before : List Value) (entry : Object) (after : List Value) (v : Value)

theorem firstFilled_withParameter :
    firstFilled? (withParameter params container before entry after v) ["body", "jsonBody"] =
      firstFilled? params ["body", "jsonBody"] := by
  simp [firstFilled?, withParameter, Object.getOrNull_put_of_ne, List.findSome?]

theorem requestHeaders_withParameter : requestHeaders (withParameter params container before entry after v) =
    requestHeaders params := by
  simp [requestHeaders, withParameter, Object.getOrNull_put_of_ne]

theorem paramsWith_withParameter :
    paramsWith (withParameter params container before entry after v) = paramsWith params := by
  funext body headers
  simp [paramsWith, withParameter, Object.get_put_of_ne, Object.getOrNull_put_of_ne]

/-- The body of a request is made of the body parameters if it is given nowhere else. -/
theorem requestBody_withParameter (hnone : firstFilled? params ["body", "jsonBody"] = none) :
    requestBody (withParameter params container before entry after v) =
      (collectPairs [] (before ++ .object (Object.put entry "value" v) :: after)).map fun pairs =>
        if pairs = [] then "" else render .plain (.object (namedMembers pairs)) := by
  have hentries : Graph.entriesOf (.list (before ++ .object (Object.put entry "value" v) :: after)) =
      .ok (before ++ .object (Object.put entry "value" v) :: after) := by
    simp [Graph.entriesOf, Value.orElse, Value.isTrue, Value.elements]
  have hcontainer : namedValues (Object.getOrNull (withParameter params container before entry after v) "bodyParameters") =
      (collectPairs [] (before ++ .object (Object.put entry "value" v) :: after)).map pairsValue := by
    rw [withParameter, Object.getOrNull_put_self, namedValues, Object.getOrNull_put_self, hentries]
    rfl
  rw [requestBody, firstFilled_withParameter, hnone]
  simp only [hcontainer]
  cases collectPairs [] (before ++ .object (Object.put entry "value" v) :: after) with
  | error fault => rfl
  | ok pairs =>
    by_cases hpairs : pairs = []
    · rw [hpairs]
      rfl
    · simp [Except.map, isTrue_pairsValue hpairs, hpairs, render_pairsValue]

end

/-- A node with a gap in the value of a body parameter: it becomes the same whatever fills the gap, or a step whose body is
the JSON text of a value with this gap. -/
theorem toStep_withParameter (usualDelay : Int) {node : Node} (hkind : node.kind = .http) {params : Object}
    (hnone : firstFilled? params ["body", "jsonBody"] = none) (container : Object) (before : List Value) (entry : Object)
    (after : List Value) (gap : Gap) :
    let become (cs : List Char) := ({ node with
      parameters := .object (withParameter params container before entry after (gap.fill cs)) } : Node).toStep usualDelay
    (∃ outcome, ∀ cs, become cs = outcome) ∨
      ∃ outer : Gap, ¬ outer.IsBare ∧ ∃ (step : Step) (warnings : List String),
        ∀ cs, become cs = .ok (step.withBody (.text (render .plain (outer.fill cs))), warnings) := by
  intro become
  have hbecome : ∀ cs, become cs = _ := fun cs => toStep_http usualDelay (show Node.kind { node with
    parameters := .object (withParameter params container before entry after (gap.fill cs)) } = .http from hkind) rfl
  simp only [hbecome, requestParams_eq, requestHeaders_withParameter, paramsWith_withParameter,
    requestBody_withParameter _ _ _ _ _ _ hnone]
  rcases takes_collectPairs before after entry with ⟨fault, h⟩ | ⟨all, htakes, h⟩
  · exact .inl ⟨.error fault, fun cs => by rw [h]; rfl⟩
  simp only [h]
  cases htakes with
  | never pairs hpairs => exact .inl ⟨_, fun cs => by rw [hpairs]⟩
  | once first name last hpairs =>
    cases hheaders : requestHeaders params with
    | error fault => exact .inl ⟨.error fault, fun cs => rfl⟩
    | ok headers =>
      let outer := Gap.member (namedMembers first) (nameText name) gap (namedMembers last)
      have hbare : ¬ outer.IsBare := fun h => h
      refine .inr ⟨outer, hbare, ⟨node.id, "http_request", node.displayName.orElse (.text node.id),
        paramsWith params "null" headers⟩, [], fun cs => ?_⟩
      have hbody : (if all (gap.fill cs) = [] then "" else render .plain (.object (namedMembers (all (gap.fill cs))))) =
          render .plain (outer.fill cs) := by
        rw [hpairs, if_neg (by simp)]
        simp [outer, Gap.fill, namedMembers]
      rw [Step.withBody, ← paramsWith_body (Gap.render_fill_ne hbare cs), ← hbody]
      rfl

end Workflows.Node
