import CpldControl.Rack.Step

/-!
# Sessions with a rack

A step turns a rack into the next one and reports its answer, its transactions,
each with the bus it went over, and its events.  A run is one step after
another.

A step through a handle that does not exist answers so and changes nothing; a
handle that is replaced is dropped without a word, and one that is removed gives
its bus back.
-/

namespace CpldControl

structure Report (n : Nat) where
  answer : Answer n
  transactions : List (Fin n × Smbus.Transaction)
  events : List Log.Event

namespace Report

variable {n : Nat}

def quiet (answer : Answer n) : Report n :=
  { answer, transactions := [], events := [] }

def ofOutcome {α : Type} (b : Fin n) (answer : Answer n) (o : Outcome α) : Report n where
  answer := answer
  transactions := o.transactions.map fun t => (b, t)
  events := o.events

end Report

namespace Rack

variable {n : Nat}

def onBus (rack : Rack n) (b : Fin n) (action : Smbus.Bus -> Outcome (Answer n)) :
    Rack n × Report n :=
  let o := action (rack.bus b)
  (rack.setBus b o.bus, .ofOutcome b o.value o)

/-- Brings a device up; the handle changes only if that succeeds. -/
def probe (rack : Rack n) (h : Nat) (b : Fin n) : Rack n × Report n :=
  let o := Device.probe.perform (rack.bus b)
  let rack := rack.setBus b o.bus
  match o.value with
  | .ok device =>
      (rack.setHandle h (some { bus := b, client := .device device }), .ofOutcome b .done o)
  | .error e => (rack, .ofOutcome b (.probeRefused b e) o)

def attach (rack : Rack n) (h : Nat) (b : Fin n) : Rack n × Report n :=
  (rack.setHandle h (some { bus := b, client := .bare }), .quiet .done)

/-- Ends a handle; only a device logs that it was detached. -/
def remove (rack : Rack n) (h : Nat) (handle : Handle n) : Rack n × Report n :=
  let events :=
    match handle.client with
    | .bare => []
    | .device _ => [Log.Event.detached]
  (rack.setHandle h none, { Report.quiet (.released handle.bus) with events })

def withHandle (rack : Rack n) (h : Nat) (f : Handle n -> Rack n × Report n) :
    Rack n × Report n :=
  match rack.handles h with
  | some handle => f handle
  | none => (rack, .quiet .noHandle)

def step (rack : Rack n) : Step n -> Rack n × Report n
  | .onBus b action => rack.onBus b fun bus => action.perform bus
  | .probe h b => rack.probe h b
  | .attach h b => rack.attach h b
  | .remove h => rack.withHandle h fun handle => rack.remove h handle
  | .onRegister h action =>
      rack.withHandle h fun handle => rack.onBus handle.bus action.program.run
  | .onDevice h action =>
      rack.withHandle h fun handle =>
        match handle.client with
        | .bare => (rack, .quiet .notDevice)
        | .device device => rack.onBus handle.bus (action.program device).run

def run (rack : Rack n) : List (Step n) -> Rack n × List (Report n)
  | [] => (rack, [])
  | s :: rest =>
      let next := rack.step s
      let final := next.1.run rest
      (final.1, next.2 :: final.2)

theorem run_cons (rack : Rack n) (s : Step n) (rest : List (Step n)) :
    rack.run (s :: rest) =
      (((rack.step s).1.run rest).1, (rack.step s).2 :: ((rack.step s).1.run rest).2) := rfl

theorem run_append (rack : Rack n) (first second : List (Step n)) :
    rack.run (first ++ second) =
      (((rack.run first).1.run second).1,
        (rack.run first).2 ++ ((rack.run first).1.run second).2) := by
  induction first generalizing rack with
  | nil => rfl
  | cons s rest ih => simp [run_cons, ih]

theorem run_invariant {P : Rack n -> Prop}
    (hstep : forall rack s, P rack -> P (rack.step s).1)
    {rack : Rack n} (hrack : P rack) (steps : List (Step n)) :
    P (rack.run steps).1 := by
  induction steps generalizing rack with
  | nil => exact hrack
  | cons s rest ih => exact ih (hstep rack s hrack)

theorem withHandle_of_none {rack : Rack n} {h : Nat} (habsent : rack.handles h = none)
    (f : Handle n -> Rack n × Report n) :
    rack.withHandle h f = (rack, .quiet .noHandle) := by
  simp [withHandle, habsent]

theorem withHandle_of_some {rack : Rack n} {h : Nat} {handle : Handle n}
    (hhandle : rack.handles h = some handle) (f : Handle n -> Rack n × Report n) :
    rack.withHandle h f = f handle := by
  simp [withHandle, hhandle]

end Rack
end CpldControl
