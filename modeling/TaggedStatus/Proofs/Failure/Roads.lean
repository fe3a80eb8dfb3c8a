/-
All roads to a failure lead to the same place.

A value of a domain can be made a failure in many ways: from the code or from a
copy, from the value alone, through the conversions, over an erased code and back,
or into an erased failure, and there by narrowing before the judgement or after
it. They differ in when they judge and in what representation, and some of them
judge twice.

A `Road` is one of these ways, and its goal is the code that the failure should
hold: the value as it is, or narrowed to a width. The argument has two halves. A
road ends as if its goal had been judged directly (`result_take`); and every goal
is made from the value, so that it is judged as the value is and leads to the same
report if it comes to that (`madeFrom_goal`).
-/
import TaggedStatus.Failure.Erasure

set_option autoImplicit false

namespace TaggedStatus

variable {S : Setting} {D : Domain S} {shape : Shape S}

/-- A way from a value of `D` to a failure of some shape. -/
inductive Road (D : Domain S) : Shape S → Type where
  /-- Make the code a failure. -/
  | ofCode : Road D (.typed D)
  /-- Make a copy of the code a failure. -/
  | ofCopy : Road D (.typed D)
  /-- Make the value a failure. -/
  | ofValue : Road D (.typed D)
  /-- Convert the code. -/
  | ofSource : Road D (.typed D)
  /-- Convert the code, which is only lent. -/
  | ofLent : Road D (.typed D)
  /-- Narrow the code and make it a failure again, unchecked. -/
  | ofErased {w : Width} (fit : Fit D.type w) : Road D (.typed D)
  /-- Narrow the code and make it a failure again, checked. -/
  | tryOfErased {w : Width} (fit : Fit D.type w) : Road D (.typed D)
  /-- Convert the code into an erased failure. -/
  | sourceNarrowed {w : Width} (fit : Fit D.type w) : Road D (.erased w)
  /-- Convert the code, which is only lent, into an erased failure. -/
  | lentNarrowed {w : Width} (fit : Fit D.type w) : Road D (.erased w)
  /-- Narrow the code and make that a failure. -/
  | narrowed {w : Width} (fit : Fit D.type w) : Road D (.erased w)
  /-- Narrow the code and make a copy of that a failure. -/
  | narrowedCopy {w : Width} (fit : Fit D.type w) : Road D (.erased w)
  /-- Make the code a failure and narrow that. -/
  | narrowedLast {w : Width} (fit : Fit D.type w) : Road D (.erased w)

namespace Road

/-- Take a road, with the outside state `amb` all the way. -/
def take (amb : S.Ambient) (v : D.Value) : {shape : Shape S} → Road D shape →
    Outcome (Failure S shape)
  | _, .ofCode => Failure.ofCode amb (.typed D v)
  | _, .ofCopy => Failure.ofCopy amb (.typed D v)
  | _, .ofValue => Failure.ofValue amb D v
  | _, .ofSource => Failure.ofSource amb (.same _) (Code.typed D v)
  | _, .ofLent => Failure.ofSource amb (.same _) (Lent.mk (Code.typed D v))
  | _, .ofErased fit => do
      let x ← (Code.typed D v).erase fit
      Failure.ofErased amb x D fit
  | _, .tryOfErased fit => do
      let x ← (Code.typed D v).erase fit
      Failure.tryOfErased amb x D fit
  | _, .sourceNarrowed fit => Failure.ofSource amb (.narrowing fit) (Code.typed D v)
  | _, .lentNarrowed fit => Failure.ofSource amb (.narrowing fit) (Lent.mk (Code.typed D v))
  | _, .narrowed fit => do
      let x ← (Code.typed D v).erase fit
      Failure.ofCode amb x
  | _, .narrowedCopy fit => do
      let x ← (Code.typed D v).erase fit
      Failure.ofCopy amb x
  | _, .narrowedLast fit => do
      let f ← Failure.ofCode amb (.typed D v)
      f.erase amb fit

/-- The code that the failure at the end of a road should hold. -/
def goal (v : D.Value) : {shape : Shape S} → Road D shape → Code S shape
  | _, .ofCode | _, .ofCopy | _, .ofValue | _, .ofSource | _, .ofLent => .typed D v
  | _, .ofErased _ | _, .tryOfErased _ => .typed D v
  | _, .sourceNarrowed fit | _, .lentNarrowed fit => .narrow D fit v
  | _, .narrowed fit | _, .narrowedCopy fit | _, .narrowedLast fit => .narrow D fit v

variable (amb : S.Ambient) (v : D.Value)

/-! ## Where a road ends -/

theorem madeFrom_goal (road : Road D shape) : Code.MadeFrom D v (road.goal v) := by
  cases road
  case sourceNarrowed fit => exact .narrow fit
  case lentNarrowed fit => exact .narrow fit
  case narrowed fit => exact .narrow fit
  case narrowedCopy fit => exact .narrow fit
  case narrowedLast fit => exact .narrow fit
  all_goals exact .typed

theorem goal_of_typed (road : Road D (.typed D)) : road.goal v = .typed D v := by
  cases road <;> rfl

/-- There is no choice in how values fit a width, so roads to one width have one
goal. -/
theorem goal_of_erased {w : Width} (fit : Fit D.type w) (road : Road D (.erased w)) :
    road.goal v = .narrow D fit v := by
  cases road with
  | sourceNarrowed fit' | lentNarrowed fit' | narrowed fit' | narrowedCopy fit'
  | narrowedLast fit' =>
      rw [Subsingleton.elim fit fit']
      rfl

/-- A road ends as if its goal had been judged directly. -/
theorem result_take (road : Road D shape) :
    (road.take amb v).result = (Failure.ofCode amb (road.goal v)).result := by
  cases road with
  | ofCode => rfl
  | ofCopy => rfl
  | ofValue => rfl
  | ofSource => rfl
  | ofLent => rfl
  | ofErased fit =>
      show (Failure.ofErased amb (Code.narrow D fit v) D fit).result = _
      rw [Failure.ofErased, Code.widen_narrow]
      rfl
  | tryOfErased fit =>
      show (Failure.tryOfErased amb (Code.narrow D fit v) D fit).result = _
      rw [Failure.tryOfErased, Code.tryWiden_narrow]
      rfl
  | sourceNarrowed fit => rfl
  | lentNarrowed fit => rfl
  | narrowed fit => rfl
  | narrowedCopy fit => rfl
  | narrowedLast fit =>
      -- The one road that judges before it narrows. It judges again after that, but
      -- narrowing has not changed the verdict.
      have hgoal : Code.MadeFrom D v (Code.narrow D fit v) := .narrow fit
      show (Failure.ofCode amb (.typed D v) >>= fun f => f.erase amb fit).result
        = (Failure.ofCode amb (Code.narrow D fit v)).result
      by_cases hsuccess : D.success amb v = true
      · have htyped : (Code.typed D v).success amb = true := hsuccess
        have hnarrowed : (Code.narrow D fit v).success amb = true :=
          (hgoal.success_eq amb).trans hsuccess
        rw [Failure.ofCode_of_success amb htyped, Failure.ofCode_of_success amb hnarrowed,
          hgoal.violation_eq]
        rfl
      · have htyped : (Code.typed D v).success amb = false := Bool.not_eq_true _ ▸ hsuccess
        rw [Failure.ofCode_of_not_success amb htyped]
        rfl

theorem result_take_of_success (road : Road D shape) (h : D.success amb v = true) :
    (road.take amb v).result = .error (.aborted (Code.typed D v).violation) := by
  have hgoal : Code.MadeFrom D v (road.goal v) := madeFrom_goal v road
  have hsuccess : (road.goal v).success amb = true := (hgoal.success_eq amb).trans h
  rw [result_take, Failure.ofCode_of_success amb hsuccess, hgoal.violation_eq]

theorem result_take_of_not_success (road : Road D shape) (h : D.success amb v = false) :
    ∃ hgoal, (road.take amb v).result = .ok ⟨road.goal v, amb, hgoal⟩ := by
  have hgoal : (road.goal v).success amb = false := ((madeFrom_goal v road).success_eq amb).trans h
  refine ⟨hgoal, ?_⟩
  rw [result_take, Failure.ofCode_of_not_success amb hgoal]

/-- **All roads agree.** Where the domain calls the value success, every road ends
the program with one and the same line, which names the domain and shows the typed
code. Elsewhere every road comes to an end; a typed failure holds exactly the
value, and an erased one the value narrowed to its width, whether the code was
judged before it was narrowed or after. -/
theorem roads_agree (D : Domain S) (v : D.Value) (amb : S.Ambient) :
    if D.success amb v = true then
      (∀ (shape : Shape S) (road : Road D shape),
        (road.take amb v).result = .error (.aborted (Code.typed D v).violation))
      ∧ (Stop.aborted (Code.typed D v).violation).message
        = "fatal: failure status constructed from a success value of domain " ++ D.name ++ ": "
          ++ (Code.typed D v).outline.flat
    else
      (∀ road : Road D (.typed D), ∃ h, (road.take amb v).result = .ok ⟨.typed D v, amb, h⟩)
      ∧ ∀ (w : Width) (fit : Fit D.type w) (road : Road D (.erased w)),
          ∃ h, (road.take amb v).result = .ok ⟨.narrow D fit v, amb, h⟩ := by
  split
  case isTrue h =>
    refine ⟨fun shape road => result_take_of_success amb v road h, ?_⟩
    show "fatal: " ++ ("failure status constructed from a success value of domain " ++ D.name
      ++ ": " ++ (Code.typed D v).outline.flat) = _
    simp only [← String.append_assoc]
    rfl
  case isFalse h =>
    rw [Bool.not_eq_true] at h
    constructor
    · intro road
      rw [← goal_of_typed v road]
      exact result_take_of_not_success amb v road h
    · intro w fit road
      rw [← goal_of_erased v fit road]
      exact result_take_of_not_success amb v road h

end Road

end TaggedStatus
