/-
Runs of a session.

A session has an outside state and registers. It takes requests one after
another: to change the outside state, to build something and keep it in a
register, or to answer a question. A build that does not succeed leaves the
registers alone. When a build ends the program, the run ends with it; any other
fault is answered and the run goes on.
-/
import TaggedStatus.Session.Query

set_option autoImplicit false

namespace TaggedStatus.Session

/-- The outside state and the registers. -/
structure State (S : Setting) where
  ambient : S.Ambient
  registers : Registers S

/-- One request. -/
inductive Request (S : Setting) where
  /-- Change the outside state. -/
  | adjust (change : S.Ambient → S.Ambient)
  /-- Build something and keep it in a register. -/
  | build (into : String) (how : Build S)
  /-- Answer a question. -/
  | query (what : Query)
  /-- A request that could not be read. -/
  | unreadable

/-- The answer to a request, with the events that it reported. -/
structure Entry (S : Setting) where
  answer : Except Fault (Answer S)
  events : List Event

/-- Did the request end the program? -/
def Entry.aborts {S : Setting} (entry : Entry S) : Bool :=
  match entry.answer with
  | .error (.stopped (.aborted _)) => true
  | _ => false

variable {S : Setting}

/-- Take what a build made into a register and show it; if it made nothing, leave
the registers as they are. -/
def State.keep (m : State S) (into : String) (o : Outcome (Slot S)) : State S × Entry S :=
  match o.result with
  | .ok slot =>
      ({ m with registers := (into, slot) :: m.registers },
        { answer := .ok (.summary (slot.summary m.ambient)), events := o.events })
  | .error reason => (m, { answer := .error (.stopped reason), events := o.events })

/-- Carry out one request; comparisons ask questions up to the given depth. -/
def State.step (depth : Nat) (m : State S) : Request S → State S × Entry S
  | .adjust change =>
      ({ m with ambient := change m.ambient }, { answer := .ok .done, events := [] })
  | .build into how =>
      match how.run m.ambient m.registers with
      | .error fault => (m, { answer := .error fault, events := [] })
      | .ok o => m.keep into o
  | .query what => (m, { answer := what.run m.ambient depth m.registers, events := [] })
  | .unreadable => (m, { answer := .error .unreadable, events := [] })

/-- Carry out requests in order, up to one that ends the program. -/
def State.run (depth : Nat) : State S → List (Request S) → State S × List (Entry S)
  | m, [] => (m, [])
  | m, request :: rest =>
      let (m', entry) := m.step depth request
      if entry.aborts then (m', [entry])
      else
        let (final, entries) := m'.run depth rest
        (final, entry :: entries)

theorem State.run_cons {depth : Nat} {m : State S} (request : Request S)
    (rest : List (Request S)) :
    m.run depth (request :: rest)
      = if (m.step depth request).2.aborts then
          ((m.step depth request).1, [(m.step depth request).2])
        else (((m.step depth request).1.run depth rest).1,
          (m.step depth request).2 :: ((m.step depth request).1.run depth rest).2) := rfl

end TaggedStatus.Session
