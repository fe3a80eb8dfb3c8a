/-
The trace of a run tells exactly what happened.

Operations put the events of conversions and judgements together in different ways. Some
narrow and then judge, some judge what was judged before and then narrow it, some widen on
the way; and a conversion may stop before there is anything to judge. What an operation
reports is nevertheless easy to say, because every operation is a conversion, or none, and
then perhaps a judgement (`Went`): first comes what the conversion reports, which is at most
one event and never an error, and then the violation if the operation ended the program.

The run stops with the operation that ends the program (`operations_of_aborts`), so its
violation is the last event of all.
-/
import TaggedStatus.Proofs.Session.Reports
import TaggedStatus.Session.Run

set_option autoImplicit false

namespace TaggedStatus.Session

variable {S : Setting}

/-! ## How an operation goes -/

/-- How an operation may go, if this is what it converts: the answer and the events. -/
inductive Went (conversion? : Option (Conversion S)) : Entry S → Prop
  /-- Nothing stopped it. -/
  | ended {answer : Except Fault (Answer S)}
      (hanswer : ∀ reason, answer ≠ .error (.stopped reason)) :
      Went conversion? ⟨answer, reports conversion?⟩
  /-- The conversion stopped. -/
  | stopped {conversion : Conversion S} {reason : Stop} (hconversion : conversion? = some conversion)
      (hstopped : conversion.perform.result = .error reason) :
      Went conversion? ⟨.error (.stopped reason), reports conversion?⟩
  /-- It came to a judgement, and that ended the program. -/
  | aborted (violation : Violation) :
      Went conversion?
        ⟨.error (.stopped (.aborted violation)), reports conversion? ++ [.violated violation]⟩

/-- What a request converts. -/
def Request.conversion? (m : State S) : Request S → Option (Conversion S)
  | .build _ how => how.conversion? m.registers
  | .adjust _ | .query _ | .unreadable => none

section Went

variable {conversion? : Option (Conversion S)} {entry : Entry S} {event : Event}

/-- Where there is no draft, there is nothing to judge. -/
theorem Build.finish_of_error (how : Build S) (amb : S.Ambient) (events : List Event)
    (reason : Stop) : how.finish amb ⟨events, .error reason⟩ = ⟨events, .error reason⟩ := by
  rw [Build.finish]
  split <;> rfl

/-- Once the draft is there, it is kept as it is or judged. -/
theorem went_keep (m : State S) (into : String) (how : Build S) (slot : Slot S) :
    Went conversion?
      (m.keep into (how.finish m.ambient ⟨reports conversion?, .ok slot⟩)).2 := by
  rw [Build.finish]
  split
  case isFalse => exact .ended nofun
  case isTrue =>
    rw [Outcome.bind_ok]
    by_cases hsuccess : slot.anyCode.code.success m.ambient = true
    · rw [Slot.judge_of_success hsuccess]
      exact .aborted _
    · rw [Bool.not_eq_true] at hsuccess
      rw [Slot.judge_of_not_success hsuccess, List.append_nil]
      exact .ended nofun

/-- Every step of a session goes in one of these ways. -/
theorem went_step (m : State S) (depth : Nat) (request : Request S) :
    Went (request.conversion? m) (m.step depth request).2 := by
  cases request with
  | adjust change => exact .ended nofun
  | query what => exact .ended (looksUp_query m.registers m.ambient depth what)
  | unreadable => exact .ended nofun
  | build into how =>
      have hcarries := how.carries_draft m.registers
      rw [State.step, Build.run_eq]
      show Went (how.conversion? m.registers) _
      generalize how.conversion? m.registers = conversion?, how.draft m.registers = draft at hcarries
      cases hcarries with
      | faulty hfault =>
          refine .ended ?_
          rintro reason ⟨⟩
          exact hfault reason rfl
      | kept slot => exact went_keep m into how slot
      | converted conversion =>
          show Went _ (m.keep into (how.finish m.ambient
            ⟨reports (some conversion), conversion.perform.result⟩)).2
          cases hresult : conversion.perform.result with
          | ok slot => exact went_keep m into how slot
          | error reason =>
              rw [Build.finish_of_error]
              exact .stopped rfl hresult

/-- An operation that does not end the program reports what its conversion does; one that
does reports its violation after that. -/
theorem Went.events_cases (h : Went conversion? entry) :
    entry.aborts = false ∧ entry.events = reports conversion?
      ∨ ∃ violation, entry = ⟨.error (.stopped (.aborted violation)),
          reports conversion? ++ [.violated violation]⟩ := by
  cases h with
  | @ended answer hanswer =>
      refine .inl ⟨?_, rfl⟩
      rw [Entry.aborts]
      split
      case h_1 violation haborted => exact absurd haborted (hanswer (.aborted violation))
      case h_2 => rfl
  | @stopped conversion reason _ hstopped =>
      refine .inl ⟨?_, rfl⟩
      cases reason with
      | aborted violation => exact absurd hstopped (conversion.result_perform_ne_aborted violation)
      | asserted | refused => rfl
  | aborted violation => exact .inr ⟨violation, rfl⟩

/-- An event that is not an error comes from the conversion. -/
theorem Went.mem_events_iff (h : Went conversion? entry) (hlevel : event.level ≠ .error) :
    event ∈ entry.events ↔ event ∈ reports conversion? := by
  rcases h.events_cases with ⟨-, hevents⟩ | ⟨violation, rfl⟩
  · rw [hevents]
  · rw [List.mem_append, List.mem_singleton, or_iff_left]
    rintro rfl
    exact hlevel rfl

/-- An error is the violation that ended the program, and comes last. -/
theorem Went.eq_of_error (h : Went conversion? entry) (hevent : event ∈ entry.events)
    (hlevel : event.level = .error) :
    ∃ violation, event = .violated violation
      ∧ entry = ⟨.error (.stopped (.aborted violation)), reports conversion? ++ [event]⟩ := by
  rcases h.events_cases with ⟨-, hevents⟩ | ⟨violation, rfl⟩
  · rw [hevents] at hevent
    exact absurd hlevel (level_ne_error_of_mem_reports hevent)
  · rcases List.mem_append.mp hevent with hreport | hviolated
    · exact absurd hlevel (level_ne_error_of_mem_reports hreport)
    · obtain rfl : event = .violated violation := List.mem_singleton.mp hviolated
      exact ⟨violation, rfl, rfl⟩

theorem Went.error_iff (h : Went conversion? entry) :
    (∃ event ∈ entry.events, event.level = .error) ↔ entry.aborts = true := by
  constructor
  · rintro ⟨event, hevent, hlevel⟩
    obtain ⟨violation, -, rfl⟩ := h.eq_of_error hevent hlevel
    rfl
  · intro haborts
    rcases h.events_cases with ⟨hgoes, -⟩ | ⟨violation, rfl⟩
    · rw [hgoes] at haborts
      cases haborts
    · exact ⟨.violated violation, List.mem_append_right _ (List.mem_singleton.mpr rfl), rfl⟩

/-- No two events of an operation are of one level: the conversion reports one event at
most, and the violation is of another level. -/
theorem Went.levels_nodup (h : Went conversion? entry) : (entry.events.map Event.level).Nodup := by
  have hreports : ((reports conversion?).map Event.level).Nodup := by
    have hfew : (reports conversion?).length ≤ 1 := length_reports_le
    rcases hevents : reports conversion? with _ | ⟨event, _ | ⟨second, more⟩⟩
    · exact List.nodup_nil
    · exact List.pairwise_singleton _ event.level
    · have htwo : 1 < (event :: second :: more).length := by simp
      rw [hevents] at hfew
      exact absurd hfew (Nat.not_le_of_lt htwo)
  rcases h.events_cases with ⟨-, hevents⟩ | ⟨violation, rfl⟩
  · rw [hevents]
    exact hreports
  · rw [List.map_append, List.nodup_append]
    refine ⟨hreports, List.pairwise_singleton _ _, ?_⟩
    intro level hlevel last hlast
    obtain ⟨event, hevent, rfl⟩ := List.mem_map.mp hlevel
    obtain rfl : last = .error := List.mem_singleton.mp hlast
    exact level_ne_error_of_mem_reports hevent

/-- What the events of an operation say about it, if this is what it converts. -/
structure Entry.Tells (entry : Entry S) (conversion? : Option (Conversion S)) : Prop where
  /-- There is one event of each level at most. -/
  levels_nodup : (entry.events.map Event.level).Nodup
  /-- There is an error if and only if the operation ends the program. -/
  error_iff : (∃ event ∈ entry.events, event.level = .error) ↔ entry.aborts = true
  /-- The error comes after whatever else there is. -/
  error_last : ∀ event ∈ entry.events, event.level = .error →
    ∃ before, entry.events = before ++ [event]
  /-- It is the line that the program leaves behind, without what that line begins with. -/
  error_text : ∀ event ∈ entry.events, event.level = .error →
    ∃ violation, entry.answer = .error (.stopped (.aborted violation))
      ∧ ∃ text, ("error", text) ∈ event.fields
        ∧ (Stop.aborted violation).message = "fatal: " ++ text
  /-- A warning says that a checked widening was refused for the identity, in the words of
  the refusal. -/
  warning_iff : ∀ event, event ∈ entry.events ∧ event.level = .warn
    ↔ ∃ w x E fit, conversion? = some (.tryWiden w x E fit)
        ∧ ∃ error, (x.tryWiden E fit).Refuses error
          ∧ (∃ found name, error = .domainMismatch E.id E.name found name)
          ∧ event = .rejected error ∧ event.fields = [("error", error.message)]
  /-- A typed code was narrowed. -/
  narrowing_iff : ∀ name w, .narrowing name w ∈ entry.events
    ↔ ∃ D c fit, conversion? = some (.narrow D w c fit) ∧ name = D.name
  /-- An erased code was widened unchecked, and the assertion passed. -/
  widening_iff : ∀ name w, .widening name w ∈ entry.events
    ↔ ∃ x E fit, conversion? = some (.widen w x E fit)
        ∧ ¬ (x.widen E fit).FailsAssertion ∧ name = E.name
  /-- An assertion that fails says nothing. -/
  asserted_silent : ∀ found expected,
    entry.answer = .error (.stopped (.asserted found expected)) → entry.events = []

/-- A warning comes from a checked widening. -/
theorem Went.warning_iff (h : Went conversion? entry) :
    event ∈ entry.events ∧ event.level = .warn
      ↔ ∃ w x E fit, conversion? = some (.tryWiden w x E fit)
          ∧ ∃ error, (x.tryWiden E fit).Refuses error
            ∧ (∃ found name, error = .domainMismatch E.id E.name found name)
            ∧ event = .rejected error ∧ event.fields = [("error", error.message)] := by
  constructor
  · rintro ⟨hevent, hlevel⟩
    rw [h.mem_events_iff (by rw [hlevel]; exact nofun), mem_reports] at hevent
    rcases hevent with ⟨D, w, c, fit, -, rfl⟩ | ⟨w, x, E, fit, -, -, rfl⟩
      | ⟨w, x, E, fit, hconversion, error, hrefused, hmismatch, rfl⟩
    · cases hlevel
    · cases hlevel
    · exact ⟨w, x, E, fit, hconversion, error, hrefused, hmismatch, rfl, rfl⟩
  · rintro ⟨w, x, E, fit, hconversion, error, hrefused, hmismatch, rfl, -⟩
    refine ⟨?_, rfl⟩
    have hlevel : (Event.rejected error).level ≠ .error := nofun
    rw [h.mem_events_iff hlevel, mem_reports]
    exact .inr (.inr ⟨w, x, E, fit, hconversion, error, hrefused, hmismatch, rfl⟩)

theorem Went.narrowing_iff (h : Went conversion? entry) {name : String} {w : Width} :
    .narrowing name w ∈ entry.events
      ↔ ∃ D c fit, conversion? = some (.narrow D w c fit) ∧ name = D.name := by
  have hlevel : (Event.narrowing name w).level ≠ .error := nofun
  rw [h.mem_events_iff hlevel, mem_reports]
  constructor
  · rintro (⟨D, w, c, fit, hconversion, hevent⟩ | ⟨w, x, E, fit, -, -, hevent⟩
      | ⟨w, x, E, fit, -, error, -, -, hevent⟩)
    · cases hevent
      exact ⟨D, c, fit, hconversion, rfl⟩
    · cases hevent
    · cases hevent
  · rintro ⟨D, c, fit, hconversion, rfl⟩
    exact .inl ⟨D, w, c, fit, hconversion, rfl⟩

theorem Went.widening_iff (h : Went conversion? entry) {name : String} {w : Width} :
    .widening name w ∈ entry.events
      ↔ ∃ x E fit, conversion? = some (.widen w x E fit)
          ∧ ¬ (x.widen E fit).FailsAssertion ∧ name = E.name := by
  have hlevel : (Event.widening name w).level ≠ .error := nofun
  rw [h.mem_events_iff hlevel, mem_reports]
  constructor
  · rintro (⟨D, w, c, fit, -, hevent⟩ | ⟨w, x, E, fit, hconversion, hpassed, hevent⟩
      | ⟨w, x, E, fit, -, error, -, -, hevent⟩)
    · cases hevent
    · cases hevent
      exact ⟨x, E, fit, hconversion, hpassed, rfl⟩
    · cases hevent
  · rintro ⟨x, E, fit, hconversion, hpassed, rfl⟩
    exact .inr (.inl ⟨w, x, E, fit, hconversion, hpassed, rfl⟩)

/-- An assertion can only have failed in the conversion. -/
theorem Went.asserted_silent (h : Went conversion? entry) {found : Option DomainId}
    {expected : DomainId} (hanswer : entry.answer = .error (.stopped (.asserted found expected))) :
    entry.events = [] := by
  cases h with
  | ended hends => exact absurd hanswer (hends _)
  | stopped hconversion hstopped =>
      cases hanswer
      rw [hconversion]
      exact Conversion.reports_of_asserted hstopped
  | aborted violation => cases hanswer

/-- **The events of an operation tell what it did.** -/
theorem Went.tells (h : Went conversion? entry) : entry.Tells conversion? where
  levels_nodup := h.levels_nodup
  error_iff := h.error_iff
  error_last event hevent hlevel := by
    obtain ⟨violation, -, rfl⟩ := h.eq_of_error hevent hlevel
    exact ⟨reports conversion?, rfl⟩
  error_text event hevent hlevel := by
    obtain ⟨violation, rfl, rfl⟩ := h.eq_of_error hevent hlevel
    exact ⟨violation, rfl, violation.message, .tail _ (.tail _ (.head _)), rfl⟩
  warning_iff _ := h.warning_iff
  narrowing_iff _ _ := h.narrowing_iff
  widening_iff _ _ := h.widening_iff
  asserted_silent _ _ := h.asserted_silent

end Went

/-! ## The operations of a run -/

/-- An operation: a request, and the session in which it is carried out. -/
structure Operation (S : Setting) where
  session : State S
  request : Request S

namespace Operation

/-- The answer to the operation, with its events. -/
def entry (op : Operation S) (depth : Nat) : Entry S :=
  (op.session.step depth op.request).2

/-- What the operation converts. -/
def conversion? (op : Operation S) : Option (Conversion S) :=
  op.request.conversion? op.session

theorem went (op : Operation S) (depth : Nat) : Went op.conversion? (op.entry depth) :=
  went_step op.session depth op.request

end Operation

/-- The operations that a run carries out, in order. -/
def State.operations (depth : Nat) : State S → List (Request S) → List (Operation S)
  | _, [] => []
  | m, request :: rest =>
      if (m.step depth request).2.aborts then [⟨m, request⟩]
      else ⟨m, request⟩ :: (m.step depth request).1.operations depth rest

section Run

variable {depth : Nat} {m : State S} {requests : List (Request S)} {op : Operation S}

theorem State.operations_cons (request : Request S) (rest : List (Request S)) :
    m.operations depth (request :: rest)
      = if (m.step depth request).2.aborts then [⟨m, request⟩]
        else ⟨m, request⟩ :: (m.step depth request).1.operations depth rest := rfl

/-- A run answers its operations, one by one. -/
theorem entries_run :
    (m.run depth requests).2 = (m.operations depth requests).map (·.entry depth) := by
  induction requests generalizing m with
  | nil => rfl
  | cons request rest ih =>
      rw [State.run_cons, State.operations_cons]
      split
      case isTrue => rfl
      case isFalse =>
        rw [List.map_cons, ← ih]
        rfl

/-- A run is over with the operation that ends the program. -/
theorem operations_of_aborts (hop : op ∈ m.operations depth requests)
    (haborts : (op.entry depth).aborts = true) :
    ∃ earlier, m.operations depth requests = earlier ++ [op]
      ∧ ∀ o ∈ earlier, (o.entry depth).aborts = false := by
  induction requests generalizing m with
  | nil => cases hop
  | cons request rest ih =>
      rw [State.operations_cons] at hop ⊢
      by_cases hfirst : (m.step depth request).2.aborts = true
      · rw [if_pos hfirst] at hop ⊢
        obtain rfl : op = ⟨m, request⟩ := List.mem_singleton.mp hop
        exact ⟨[], rfl, List.forall_mem_nil _⟩
      · rw [if_neg hfirst] at hop ⊢
        rcases List.mem_cons.mp hop with rfl | hlater
        · exact absurd haborts hfirst
        · obtain ⟨earlier, hearlier, hgoes⟩ := ih hlater
          refine ⟨⟨m, request⟩ :: earlier, by rw [hearlier, List.cons_append], ?_⟩
          rw [List.forall_mem_cons]
          exact ⟨Bool.eq_false_iff.mpr hfirst, hgoes⟩

/-- The error of an operation is the last event of the run, and the only error. -/
theorem error_ends_trace {event : Event} (hop : op ∈ m.operations depth requests)
    (hevent : event ∈ (op.entry depth).events) (hlevel : event.level = .error) :
    ∃ before, (m.run depth requests).2.flatMap Entry.events = before ++ [event]
      ∧ ∀ other ∈ before, other.level ≠ .error := by
  obtain ⟨violation, rfl, hentry⟩ := (op.went depth).eq_of_error hevent hlevel
  have haborts : (op.entry depth).aborts = true := by rw [hentry]; rfl
  obtain ⟨earlier, hoperations, hgoes⟩ := operations_of_aborts hop haborts
  refine ⟨(earlier.map (·.entry depth)).flatMap Entry.events ++ reports op.conversion?, ?_, ?_⟩
  · rw [entries_run, hoperations, List.map_append, List.flatMap_append, List.map_singleton,
      List.flatMap_singleton, hentry, List.append_assoc]
  · intro other hother hlevel
    rcases List.mem_append.mp hother with hearlier | hreport
    · -- An operation that reported an error would have ended the run.
      rw [List.flatMap_map, List.mem_flatMap] at hearlier
      obtain ⟨o, ho, hother⟩ := hearlier
      have hends := (o.went depth).error_iff.mp ⟨other, hother, hlevel⟩
      rw [hgoes o ho] at hends
      cases hends
    · exact level_ne_error_of_mem_reports hreport hlevel

end Run

/-- **The trace of a run tells what happened.** Take any run of any session. Its entries are
those of its operations, one by one.

If an operation builds something, it carries out one conversion, or none, and then at most a
judgement. Its events tell what it did. There is one event of each level at most. There is
an error if and only if the operation ends the program; its text is the line that the
program leaves behind, without what that line begins with; whatever else the operation
reports comes before it, and it is the last event of the whole run. There is a warning if
and only if a checked widening was refused for the identity, and it carries the message of
the refusal. A code is reported to be narrowed or widened unchecked if and only if the
operation narrowed it, or widened it and the assertion passed. An assertion that fails is
not reported, and neither is any query. -/
theorem trace_tells (depth : Nat) (m : State S) (requests : List (Request S)) :
    (m.run depth requests).2 = (m.operations depth requests).map (·.entry depth)
    ∧ ∀ op ∈ m.operations depth requests,
        (∀ into how, op.request = .build into how →
          ∃ draft, Carries op.conversion? draft
            ∧ how.run op.session.ambient op.session.registers
              = draft.map (how.finish op.session.ambient))
        ∧ (op.entry depth).Tells op.conversion?
        ∧ (∀ event ∈ (op.entry depth).events, event.level = .error →
            ∃ before, (m.run depth requests).2.flatMap Entry.events = before ++ [event]
              ∧ ∀ other ∈ before, other.level ≠ .error)
        ∧ ∀ what, op.request = .query what → (op.entry depth).events = [] := by
  refine ⟨entries_run, fun op hop => ⟨?_, (op.went depth).tells, ?_, ?_⟩⟩
  · intro into how hbuild
    refine ⟨how.draft op.session.registers, ?_, Build.run_eq _ _ how⟩
    rw [Operation.conversion?, hbuild]
    exact how.carries_draft op.session.registers
  · intro event hevent hlevel
    exact error_ends_trace hop hevent hlevel
  · intro what hquery
    rw [Operation.entry, hquery]
    rfl

section Narrowed

open Catalog

/-- A code that is success is to be kept as an erased failure. -/
def narrowedRequests : List (Request setting) := [
  .build "code" (.code ⟨.typed raw, .typed raw (0 : UInt32)⟩),
  .build "failure" (.failNarrowed "code" (some .w8)),
  .unreadable]

/-- The code is narrowed before it is judged, and the judgement ends the run. -/
theorem trace_tells_narrowed :
    let m : State setting := ⟨Tables.empty, []⟩
    let trace := (m.run Catalog.depth narrowedRequests).2.flatMap Entry.events
    ∃ before event, trace = before ++ [event] ∧ event.level = .error
      ∧ .narrowing raw.name .w8 ∈ before ∧ ∀ other ∈ before, other.level ≠ .error := by
  intro m trace
  obtain ⟨hentries, htells⟩ := trace_tells Catalog.depth m narrowedRequests
  let op : Operation setting :=
    ⟨(m.step Catalog.depth (.build "code" (.code ⟨.typed raw, .typed raw (0 : UInt32)⟩))).1,
      .build "failure" (.failNarrowed "code" (some .w8))⟩
  have hop : op ∈ m.operations Catalog.depth narrowedRequests := .tail _ (.head _)
  obtain ⟨-, htold, hlast, -⟩ := htells op hop
  obtain ⟨event, hevent, hlevel⟩ := htold.error_iff.mpr rfl
  obtain ⟨before, htrace, hbefore⟩ := hlast event hevent hlevel
  have hnarrowing : .narrowing raw.name .w8 ∈ (op.entry Catalog.depth).events :=
    (htold.narrowing_iff raw.name .w8).mpr ⟨raw, .typed raw (0 : UInt32), _, rfl, rfl⟩
  have hentry : op.entry Catalog.depth ∈ (m.run Catalog.depth narrowedRequests).2 := by
    rw [hentries]
    exact List.mem_map_of_mem hop
  have htraced : .narrowing raw.name .w8 ∈ trace :=
    List.mem_flatMap.mpr ⟨_, hentry, hnarrowing⟩
  refine ⟨before, event, htrace, hlevel, ?_, hbefore⟩
  rw [show trace = before ++ [event] from htrace, List.mem_append, List.mem_singleton] at htraced
  refine htraced.resolve_right ?_
  rintro rfl
  cases hlevel

end Narrowed

end TaggedStatus.Session
