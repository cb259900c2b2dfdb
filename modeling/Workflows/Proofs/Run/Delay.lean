/-
Lengths of time. Two readers make one of any values, and each takes the usual delay where it is given no number. What
they do not take is a number without bound: an infinity, an integer above every floating-point number, or a product
with a unit that overflows. The milliseconds of a step may also be a NaN, which is then the length itself.
-/
import Workflows.Proofs.Graph.Entries
import Workflows.Proofs.Number.Finite
import Workflows.Proofs.Number.Lenient
import Workflows.Run.Delay

namespace Workflows

/-! ## Numbers among values -/

namespace Value

/-- A value counts as a finite number: it is an integer, or it is read as a finite floating-point number. -/
def IsFiniteNumber (v : Value) : Prop := (∃ n, v = .int n) ∨ ∃ x, v.toFloat = .ok x ∧ x.isFinite = true

/-- A value is read as an infinity. -/
def ReadsEndless (v : Value) : Prop := ∃ x, v.toFloat = .ok x ∧ x.isInfinite = true

/-- A value is read as a NaN. -/
def ReadsNaN (v : Value) : Prop := ∃ x, v.toFloat = .ok x ∧ x.isNaN = true

/-- An integer that is read as a floating-point number is read as a finite one. -/
theorem isFinite_of_int {n : Int} {x : Binary64} (h : (Value.int n).toFloat = .ok x) : x.isFinite = true := by
  rw [toFloat, floatOfInt] at h
  split at h
  · next y hy =>
    cases h
    unfold Binary64.ofInt? at hy
    dsimp only at hy
    split at hy
    · next hfinite =>
      cases hy
      exact hfinite
    · cases hy
  · cases h

theorem isFiniteNumber_iff {v : Value} {x : Binary64} (h : v.toFloat = .ok x) :
    v.IsFiniteNumber ↔ x.isFinite = true := by
  constructor
  · rintro (⟨n, rfl⟩ | ⟨y, hy, hfinite⟩)
    · exact isFinite_of_int h
    · rw [h] at hy
      cases hy
      exact hfinite
  · exact fun hfinite => .inr ⟨x, h, hfinite⟩

/-- A value is beyond all floating-point numbers, or it is no number, or it is read as one. -/
theorem toFloat_cases (v : Value) :
    (v.IsBeyond ∧ v.toFloat = .error .integerTooLarge) ∨
      (¬ v.IsBeyond ∧ ∃ fault, v.toFloat = .error fault ∧ Graph.isPositionFault fault = true) ∨
      ¬ v.IsBeyond ∧ ∃ x, v.toFloat = .ok x := by
  rcases Graph.fares_toFloat v with h | ⟨hbeyond, hread | hfault⟩
  · exact .inl h
  · exact .inr (.inr ⟨hbeyond, hread⟩)
  · exact .inr (.inl ⟨hbeyond, hfault⟩)

/-- The whole part of a number that is no infinity; a NaN has none, but it can be passed over. -/
theorem intOfFloat_cases (x : Binary64) :
    (x.isInfinite = true ∧ intOfFloat x = .error .infiniteInteger) ∨
      (x.isNaN = true ∧ intOfFloat x = .error .nanInteger) ∨
      x.isFinite = true ∧ intOfFloat x = .ok x.truncate := by
  unfold intOfFloat
  cases hnan : x.isNaN with
  | true => exact .inr (.inl ⟨rfl, rfl⟩)
  | false =>
    cases hinfinite : x.isInfinite with
    | true => exact .inl ⟨rfl, rfl⟩
    | false => exact .inr (.inr ⟨Binary64.isFinite_of_not hnan hinfinite, rfl⟩)

end Value

/-- A reader makes of a value what it should: it comes to a result, which is the usual one if the value is no finite
number. -/
structure Accepts {α : Type} (v : Value) (usual : α) (result : Except Fault α) : Prop where
  returns : ∃ a, result = .ok a
  usual_of_not : ¬ v.IsFiniteNumber → result = .ok usual

theorem Accepts.not_error {α : Type} {v : Value} {usual : α} {fault : Fault} : ¬ Accepts v usual (.error fault) :=
  fun h => by
    obtain ⟨a, ha⟩ := h.returns
    cases ha

/-! ## The length of a delay step -/

/-- A length of time is a number that is not negative. -/
def Duration.IsNonneg : Duration → Prop
  | .whole n => 0 ≤ n
  | .exact x => ∃ o, x.order? (.zero false) = some o ∧ o.isGE = true

namespace Run

/-- What is given for the length of a delay step; null if nothing is. -/
def delayValue (params : Object) : Value := (Node.firstFilled? params ["seconds", "ms"]).getD .null

/-- What is cut off at zero is not negative, if it is a number. -/
theorem isNonneg_largerOf {x : Binary64} (hnan : x.isNaN = false) :
    (Duration.exact (largerOf x (.zero false))).IsNonneg := by
  have hzero : (Binary64.zero false).order? (.zero false) = some .eq := by decide +kernel
  obtain ⟨o, ho⟩ := Binary64.exists_order hnan (y := .zero false) rfl
  unfold largerOf
  cases hless : x.less (.zero false) with
  | true => exact ⟨.eq, hzero, rfl⟩
  | false =>
    refine ⟨o, ho, ?_⟩
    rw [Binary64.less, ho] at hless
    cases o with
    | lt => cases hless
    | eq | gt => rfl

variable {usual : Int} {params : Object}

theorem delayOf_of_ok (usual : Int) {given : Option Duration} (h : givenDelay params = .ok given) :
    (delayOf usual params).1 = .ok (given.getD (.whole usual)) := by
  rw [delayOf, h]

theorem delayOf_of_passed (usual : Int) {fault : Fault} (h : givenDelay params = .error fault)
    (hpassed : Graph.isPositionFault fault = true) : (delayOf usual params).1 = .ok (.whole usual) := by
  unfold Graph.isPositionFault at hpassed
  rw [delayOf, h]
  dsimp only
  split at hpassed
  · simp only [*]
  · simp only [*]
  · cases hpassed

theorem delayOf_of_overflow (usual : Int) {fault : Fault} (h : givenDelay params = .error fault)
    (hoverflow : fault.kind = .overflow) : (delayOf usual params).1 = .error fault := by
  rw [delayOf, h]
  simp only [hoverflow]

/-- Seconds are read, and become a whole number. -/
theorem givenDelay_seconds (hseconds : (Object.getOrNull params "seconds").isUnset = false) :
    delayValue params = Object.getOrNull params "seconds" ∧
      givenDelay params = (delayValue params).toFloat.bind fun x =>
        (Value.intOfFloat x).map fun n => some (.whole (max n 0)) := by
  have hvalue : delayValue params = Object.getOrNull params "seconds" := by
    simp [delayValue, Node.firstFilled?, hseconds]
  refine ⟨hvalue, ?_⟩
  rw [hvalue]
  simp only [givenDelay, hseconds]
  rfl

/-- Without seconds, milliseconds are read and not rounded. -/
theorem givenDelay_milliseconds (hseconds : (Object.getOrNull params "seconds").isUnset = true)
    (hms : (Object.getOrNull params "ms").isUnset = false) :
    delayValue params = Object.getOrNull params "ms" ∧
      givenDelay params = (delayValue params).toFloat.map fun x =>
        some (.exact (largerOf (x.div millisecondsPerSecond) (.zero false))) := by
  have hvalue : delayValue params = Object.getOrNull params "ms" := by
    simp [delayValue, Node.firstFilled?, hseconds, hms]
  refine ⟨hvalue, ?_⟩
  rw [hvalue]
  simp only [givenDelay, hseconds, hms]
  rfl

theorem givenDelay_none (hseconds : (Object.getOrNull params "seconds").isUnset = true)
    (hms : (Object.getOrNull params "ms").isUnset = true) :
    delayValue params = .null ∧ givenDelay params = .ok none := by
  constructor
  · simp [delayValue, Node.firstFilled?, hseconds, hms]
  · simp only [givenDelay, hseconds, hms]
    rfl

/-- The length of a delay step is what it should be, and not negative. -/
def DelayHolds (usual : Int) (params : Object) : Prop :=
  Accepts (delayValue params) (.whole usual) (delayOf usual params).1 ∧
    ∀ d, (delayOf usual params).1 = .ok d → d.IsNonneg

theorem delayHolds_usual (husual : 0 ≤ usual) (h : (delayOf usual params).1 = .ok (.whole usual)) :
    DelayHolds usual params := by
  refine ⟨⟨⟨_, h⟩, fun _ => h⟩, fun d hd => ?_⟩
  rw [h] at hd
  cases hd
  exact husual

theorem not_delayHolds_of_error {fault : Fault} (h : (delayOf usual params).1 = .error fault) :
    ¬ DelayHolds usual params := fun hholds => Accepts.not_error (h ▸ hholds.1)

/-- A delay that is read as a number holds as that number does; no other delay but one beyond all numbers fails. -/
theorem delayHolds_iff_read {f : Binary64 → Except Fault (Option Duration)} (husual : 0 ≤ usual)
    (hgiven : givenDelay params = (delayValue params).toFloat.bind f) :
    DelayHolds usual params ↔
      ¬ (delayValue params).IsBeyond ∧ ∀ x, (delayValue params).toFloat = .ok x → DelayHolds usual params := by
  rcases (delayValue params).toFloat_cases with
    ⟨hbeyond, hfault⟩ | ⟨hbeyond, fault, hfault, hpassed⟩ | ⟨hbeyond, x, hx⟩
  · have herror := delayOf_of_overflow usual (hgiven.trans (by rw [hfault]; rfl)) rfl
    exact iff_of_false (not_delayHolds_of_error herror) fun h => h.1 hbeyond
  · have hok := delayOf_of_passed usual (hgiven.trans (by rw [hfault]; rfl)) hpassed
    have hholds := delayHolds_usual husual hok
    exact iff_of_true hholds ⟨hbeyond, fun _ _ => hholds⟩
  · exact ⟨fun h => ⟨hbeyond, fun _ _ => h⟩, fun h => h.2 x hx⟩

/-- Seconds that are read hold unless they are an infinity. -/
theorem delayHolds_seconds {x : Binary64} (husual : 0 ≤ usual)
    (hseconds : (Object.getOrNull params "seconds").isUnset = false) (hx : (delayValue params).toFloat = .ok x) :
    DelayHolds usual params ↔ ¬ x.isInfinite = true := by
  have hgiven := (givenDelay_seconds hseconds).2
  rw [hx, Except.bind] at hgiven
  rcases Value.intOfFloat_cases x with ⟨hinfinite, hn⟩ | ⟨hnan, hn⟩ | ⟨hfinite, hn⟩
  · have herror := delayOf_of_overflow usual (hgiven.trans (by rw [hn]; rfl)) rfl
    exact iff_of_false (not_delayHolds_of_error herror) (not_not_intro hinfinite)
  · have hok := delayOf_of_passed usual (hgiven.trans (by rw [hn]; rfl)) rfl
    refine iff_of_true (delayHolds_usual husual hok) fun hinfinite => ?_
    rw [Binary64.isNaN_of_infinite hinfinite] at hnan
    cases hnan
  · have hok := delayOf_of_ok usual (hgiven.trans (by rw [hn]; rfl))
    refine iff_of_true ⟨⟨⟨_, hok⟩, fun hnot => ?_⟩, fun d hd => ?_⟩ ?_
    · exact absurd ((Value.isFiniteNumber_iff hx).2 hfinite) hnot
    · rw [hok] at hd
      cases hd
      exact le_max_right _ _
    · rw [Binary64.isInfinite_of_finite hfinite]
      exact Bool.false_ne_true

/-- Milliseconds that are read hold if they are finite. -/
theorem delayHolds_milliseconds {x : Binary64} (hseconds : (Object.getOrNull params "seconds").isUnset = true)
    (hms : (Object.getOrNull params "ms").isUnset = false) (hx : (delayValue params).toFloat = .ok x) :
    DelayHolds usual params ↔ x.isFinite = true := by
  have hgiven := (givenDelay_milliseconds hseconds hms).2
  rw [hx, Except.map] at hgiven
  have hok := delayOf_of_ok usual hgiven
  have hnumber := Value.isFiniteNumber_iff hx
  constructor
  · intro hholds
    by_contra hfinite
    -- the length is a fraction, so it is not the usual one
    have hdefault := hholds.1.usual_of_not (mt hnumber.1 hfinite)
    rw [hok] at hdefault
    cases hdefault
  · intro hfinite
    refine ⟨⟨⟨_, hok⟩, fun hnot => absurd (hnumber.2 hfinite) hnot⟩, fun d hd => ?_⟩
    rw [hok] at hd
    cases hd
    exact isNonneg_largerOf (Binary64.isNaN_div hfinite (by decide))

/-- The length of a delay step holds unless what is given is beyond all numbers, an infinity, or a NaN for the
milliseconds. -/
theorem delayHolds_iff (husual : 0 ≤ usual) :
    DelayHolds usual params ↔ ¬ (delayValue params).IsBeyond ∧ ¬ (delayValue params).ReadsEndless ∧
      ((delayValue params).ReadsNaN → (Object.getOrNull params "seconds").isUnset = false) := by
  cases hseconds : (Object.getOrNull params "seconds").isUnset with
  | false =>
    rw [delayHolds_iff_read husual (givenDelay_seconds hseconds).2]
    simp +contextual [delayHolds_seconds husual hseconds, Value.ReadsEndless]
  | true =>
    cases hms : (Object.getOrNull params "ms").isUnset with
    | false =>
      rw [delayHolds_iff_read husual (givenDelay_milliseconds hseconds hms).2]
      simp +contextual [delayHolds_milliseconds hseconds hms, Binary64.isFinite_iff, Value.ReadsEndless,
        Value.ReadsNaN, forall_and]
    | true =>
      obtain ⟨hvalue, hgiven⟩ := givenDelay_none hseconds hms
      refine iff_of_true (delayHolds_usual husual (delayOf_of_ok usual hgiven)) ?_
      rw [hvalue]
      refine ⟨?_, ?_, ?_⟩
      · rintro ⟨n, hn, -⟩
        cases hn
      · rintro ⟨x, hx, -⟩
        cases hx
      · rintro ⟨x, hx, -⟩
        cases hx

end Run

/-! ## The delay of a node -/

namespace Node

/-- What is given for the delay of a node is without bound: it is beyond all numbers, or with its unit it is an
infinity. -/
def ExceedsDelay (params : Object) : Prop :=
  (rawDelay params).1.IsBeyond ∨ ∃ x, (rawDelay params).1.toFloat = .ok x ∧
    ∃ factor, Value.floatOfInt (rawDelay params).2 = .ok factor ∧ (x.mul factor).isInfinite = true

/-- A unit of time is one of four. -/
theorem rawDelay_unit (params : Object) : (rawDelay params).2 ∈ ([1, 60, 3600, 86400] : List Int) := by
  unfold rawDelay
  split
  · exact List.mem_cons_self
  · split
    · unfold unitSeconds
      split <;> simp
    · exact List.mem_cons_self

/-- A unit of time is a finite number of seconds that is not zero. -/
theorem exists_factor (params : Object) : ∃ factor, Value.floatOfInt (rawDelay params).2 = .ok factor ∧
    factor.isFinite = true ∧ factor.isZero = false := by
  have hunits : ∀ n ∈ ([1, 60, 3600, 86400] : List Int), ∃ x, Binary64.ofInt? n = some x ∧
      x.isFinite = true ∧ x.isZero = false := by
    intro n hn
    have hsome : ([1, 60, 3600, 86400] : List Int).all fun n =>
        (Binary64.ofInt? n).any fun x => x.isFinite && !x.isZero := by decide
    have h := List.all_eq_true.1 hsome n hn
    simpa [Option.any_eq_true] using h
  obtain ⟨factor, hfactor, hfinite, hzero⟩ := hunits _ (rawDelay_unit params)
  exact ⟨factor, by rw [Value.floatOfInt, hfactor], hfinite, hzero⟩

variable {usual : Int} {params : Object}

theorem delaySeconds_of_error {fault : Fault} (h : (rawDelay params).1.toFloat = .error fault) :
    delaySeconds usual params = if Graph.isPositionFault fault then .ok usual else .error fault := by
  simp only [delaySeconds, h]
  rfl

theorem delaySeconds_of_ok {x factor : Binary64} (hx : (rawDelay params).1.toFloat = .ok x)
    (hfactor : Value.floatOfInt (rawDelay params).2 = .ok factor) :
    delaySeconds usual params =
      match Value.intOfFloat (x.mul factor) with
      | .ok n => .ok (if n = 0 then usual else n)
      | .error fault => if Graph.isPositionFault fault then .ok usual else .error fault := by
  simp only [delaySeconds, hx, hfactor]
  rfl

/-- The delay of a node is what it should be unless what is given is without bound. -/
theorem accepts_delaySeconds_iff :
    Accepts (rawDelay params).1 usual (delaySeconds usual params) ↔ ¬ ExceedsDelay params := by
  obtain ⟨factor, hfactor, hfinite, hzero⟩ := exists_factor params
  rcases (rawDelay params).1.toFloat_cases with
    ⟨hbeyond, hfault⟩ | ⟨hbeyond, fault, hfault, hpassed⟩ | ⟨hbeyond, x, hx⟩
  · rw [delaySeconds_of_error hfault]
    exact iff_of_false Accepts.not_error (not_not_intro (.inl hbeyond))
  · rw [delaySeconds_of_error hfault, if_pos hpassed]
    refine iff_of_true ⟨⟨_, rfl⟩, fun _ => rfl⟩ ?_
    rintro (h | ⟨y, hy, -⟩)
    · exact hbeyond h
    · rw [hfault] at hy
      cases hy
  · have hexceeds : ExceedsDelay params ↔ (x.mul factor).isInfinite = true := by
      simp [ExceedsDelay, hbeyond, hx, hfactor]
    rw [hexceeds, delaySeconds_of_ok hx hfactor]
    rcases Value.intOfFloat_cases (x.mul factor) with ⟨hinfinite, hn⟩ | ⟨hnan, hn⟩ | ⟨hproduct, hn⟩
    · rw [hn]
      exact iff_of_false Accepts.not_error (not_not_intro hinfinite)
    · rw [hn]
      refine iff_of_true ⟨⟨_, rfl⟩, fun _ => rfl⟩ fun hinfinite => ?_
      rw [Binary64.isNaN_of_infinite hinfinite] at hnan
      cases hnan
    · rw [hn, Binary64.isInfinite_of_finite hproduct]
      refine iff_of_true ⟨⟨_, rfl⟩, fun hnot => absurd ?_ hnot⟩ Bool.false_ne_true
      have hread := Binary64.isFinite_iff.1 hproduct
      refine (Value.isFiniteNumber_iff hx).2 (Binary64.isFinite_iff.2 ⟨fun hinfinite => ?_, fun hnan => ?_⟩)
      · exact hread.1 (Binary64.isInfinite_mul hinfinite hfinite hzero)
      · exact hread.2 (Binary64.isNaN_mul_of_isNaN hnan)

end Node

/-- Whatever is given for a delay, the step waits and the node is turned into a step, and the usual delay stands for
what is no finite number: exactly if nothing is without bound, and the milliseconds of the step are no NaN. The length
that the step waits for is then not negative. -/
theorem delays_accepted_iff {given : String → Option String} {settings : Settings}
    (hsettings : Settings.read given = .ok settings) (params : Object) :
    (Run.DelayHolds settings.usualDelay params ↔
      ¬ (Run.delayValue params).IsBeyond ∧ ¬ (Run.delayValue params).ReadsEndless ∧
        ((Run.delayValue params).ReadsNaN → (Object.getOrNull params "seconds").isUnset = false)) ∧
    (Accepts (Node.rawDelay params).1 settings.usualDelay (Node.delaySeconds settings.usualDelay params) ↔
      ¬ Node.ExceedsDelay params) :=
  ⟨Run.delayHolds_iff (Settings.usualDelay_nonneg hsettings), Node.accepts_delaySeconds_iff⟩

/-- A text that writes a NaN for the seconds is the usual delay, and minus a minute and a half becomes minus 90
seconds. -/
theorem unusual_delays_accepted :
    let step : Object := [("seconds", .text "nan")]
    let node : Object := [("amount", .text "-1.5"), ("unit", .text "minutes")]
    Settings.read (fun _ => none) = .ok {} ∧
      (¬ (Run.delayValue step).IsBeyond ∧ ¬ (Run.delayValue step).ReadsEndless ∧
        ((Run.delayValue step).ReadsNaN → (Object.getOrNull step "seconds").isUnset = false)) ∧
      ¬ Node.ExceedsDelay node ∧ Run.DelayHolds 5 step ∧ (Run.delayOf 5 step).1 = .ok (.whole 5) ∧
      Accepts (Node.rawDelay node).1 5 (Node.delaySeconds 5 node) ∧ Node.delaySeconds 5 node = .ok (-90) := by
  intro step node
  have hsettings : Settings.read (fun _ => none) = .ok {} := rfl
  have hstep : ¬ (Run.delayValue step).IsBeyond ∧ ¬ (Run.delayValue step).ReadsEndless ∧
      ((Run.delayValue step).ReadsNaN → (Object.getOrNull step "seconds").isUnset = false) := by
    have hread : (Run.delayValue step).toFloat = .ok .nan := by decide +kernel
    refine ⟨?_, ?_, fun _ => rfl⟩
    · rintro ⟨n, hn, -⟩
      cases hn
    · rintro ⟨x, hx, hinfinite⟩
      rw [hread] at hx
      cases hx
      cases hinfinite
  have hnode : ¬ Node.ExceedsDelay node := by
    have hread : ((Node.rawDelay node).1.toFloat.bind fun x =>
        (Value.floatOfInt (Node.rawDelay node).2).map fun factor => (x.mul factor).isInfinite) = .ok false := by
      decide +kernel
    rintro (⟨n, hn, -⟩ | ⟨x, hx, factor, hfactor, hinfinite⟩)
    · cases hn
    · rw [hx, hfactor, Except.bind, Except.map, hinfinite] at hread
      cases hread
  exact ⟨hsettings, hstep, hnode, (delays_accepted_iff hsettings step).1.2 hstep, by decide +kernel,
    (delays_accepted_iff hsettings node).2.2 hnode, by decide +kernel⟩

/-- An infinity stops both readers, and milliseconds that are a NaN are a length that is no number. -/
theorem endless_delays_fail :
    let endless : Object := [("seconds", .float (.infinity false))]
    Settings.read (fun _ => none) = .ok {} ∧ ¬ Run.DelayHolds 5 endless ∧
      ¬ Accepts (Node.rawDelay endless).1 5 (Node.delaySeconds 5 endless) ∧
      ∃ d, (Run.delayOf 5 [("ms", .text "nan")]).1 = .ok d ∧ ¬ d.IsNonneg := by
  intro endless
  have hstep : (Run.delayOf 5 endless).1 = .error .infiniteInteger := by decide +kernel
  have hnode : Node.delaySeconds 5 endless = .error .infiniteInteger := by decide +kernel
  refine ⟨rfl, Run.not_delayHolds_of_error hstep, ?_, .exact .nan, by decide +kernel, ?_⟩
  · rw [hnode]
    exact Accepts.not_error
  · rintro ⟨o, ho, -⟩
    cases ho

end Workflows
