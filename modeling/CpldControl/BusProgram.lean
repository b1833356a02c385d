import CpldControl.Log.Event
import CpldControl.Smbus.Bus

/-!
# Programs on one bus

An operation of the driver is a program: a tree of bus transactions and log
events that ends in a value.  Each step that has an answer, a transaction or a
question about the adapter, continues according to that answer, so a program
holds every course the operation can take.

Running a program on a bus gives its value, the bus it leaves, and the record of
its transactions and events in order.  The main statement is `run_bind`: one
program after another leaves the one record after the other.
-/

namespace CpldControl

inductive BusProgram (α : Type) : Type where
  | done (value : α)
  | ask (transfer : Smbus.Transfer) (next : Bool -> BusProgram α)
  | read (address : Byte) (next : Except Smbus.Fault Byte -> BusProgram α)
  | write (address value : Byte) (next : Except Smbus.Fault Unit -> BusProgram α)
  | log (event : Log.Event) (rest : BusProgram α)

structure Outcome (α : Type) where
  value : α
  bus : Smbus.Bus
  transactions : List Smbus.Transaction
  events : List Log.Event

namespace Outcome

def afterTransaction {α : Type} (t : Smbus.Transaction) (o : Outcome α) : Outcome α :=
  { o with transactions := t :: o.transactions }

def afterEvent {α : Type} (e : Log.Event) (o : Outcome α) : Outcome α :=
  { o with events := e :: o.events }

/-- The outcome of going on, from the bus that the first outcome left. -/
def andThen {α β : Type} (o : Outcome α) (next : α -> Smbus.Bus -> Outcome β) : Outcome β :=
  let p := next o.value o.bus
  { p with
    transactions := o.transactions ++ p.transactions
    events := o.events ++ p.events }

end Outcome

namespace BusProgram

variable {α β γ : Type}

def bind : BusProgram α -> (α -> BusProgram β) -> BusProgram β
  | done value, f => f value
  | ask transfer next, f => ask transfer fun answer => (next answer).bind f
  | read address next, f => read address fun answer => (next answer).bind f
  | write address value next, f => write address value fun answer => (next answer).bind f
  | log event rest, f => log event (rest.bind f)

instance : Monad BusProgram where
  pure := done
  bind := bind

theorem bind_done (p : BusProgram α) : p.bind done = p := by
  induction p with
  | done value => rfl
  | ask transfer next ih => simp only [bind, ih]
  | read address next ih => simp only [bind, ih]
  | write address value next ih => simp only [bind, ih]
  | log event rest ih => simp only [bind, ih]

theorem bind_assoc (p : BusProgram α) (f : α -> BusProgram β) (g : β -> BusProgram γ) :
    (p.bind f).bind g = p.bind fun value => (f value).bind g := by
  induction p with
  | done value => rfl
  | ask transfer next ih => simp only [bind, ih]
  | read address next ih => simp only [bind, ih]
  | write address value next ih => simp only [bind, ih]
  | log event rest ih => simp only [bind, ih]

instance : LawfulMonad BusProgram :=
  LawfulMonad.mk' BusProgram
    (by intro α p; exact bind_done p)
    (by intro α β value f; rfl)
    (by intro α β γ p f g; exact bind_assoc p f g)

/-!
# The steps as programs
-/

def supports (transfer : Smbus.Transfer) : BusProgram Bool :=
  ask transfer done

def readByte (address : Byte) : BusProgram (Except Smbus.Fault Byte) :=
  read address done

def writeByte (address value : Byte) : BusProgram (Except Smbus.Fault Unit) :=
  write address value done

def record (event : Log.Event) : BusProgram Unit :=
  log event (done ())

/-!
# Running a program
-/

def run : BusProgram α -> Smbus.Bus -> Outcome α
  | done value, bus =>
      { value, bus, transactions := [], events := [] }
  | ask transfer next, bus =>
      (next (bus.supports transfer)).run bus
  | read address next, bus =>
      ((next (bus.readResult address)).run bus.afterRead).afterTransaction
        (.ofRead address (bus.readResult address))
  | write address value next, bus =>
      ((next (bus.writeResult address)).run (bus.afterWrite address value)).afterTransaction
        (.ofWrite address value (bus.writeResult address))
  | log event rest, bus =>
      (rest.run bus).afterEvent event

@[simp] theorem run_pure (value : α) (bus : Smbus.Bus) :
    (pure value : BusProgram α).run bus =
      { value, bus, transactions := [], events := [] } := rfl

@[simp] theorem run_supports (transfer : Smbus.Transfer) (bus : Smbus.Bus) :
    (supports transfer).run bus =
      { value := bus.supports transfer, bus, transactions := [], events := [] } := rfl

@[simp] theorem run_readByte (address : Byte) (bus : Smbus.Bus) :
    (readByte address).run bus =
      { value := bus.readResult address
        bus := bus.afterRead
        transactions := [.ofRead address (bus.readResult address)]
        events := [] } := rfl

@[simp] theorem run_writeByte (address value : Byte) (bus : Smbus.Bus) :
    (writeByte address value).run bus =
      { value := bus.writeResult address
        bus := bus.afterWrite address value
        transactions := [.ofWrite address value (bus.writeResult address)]
        events := [] } := rfl

@[simp] theorem run_record (event : Log.Event) (bus : Smbus.Bus) :
    (record event).run bus =
      { value := (), bus, transactions := [], events := [event] } := rfl

theorem run_bind (p : BusProgram α) (f : α -> BusProgram β) (bus : Smbus.Bus) :
    (p >>= f).run bus = (p.run bus).andThen fun value bus => (f value).run bus := by
  change (p.bind f).run bus = _
  induction p generalizing bus with
  | done value => rfl
  | ask transfer next ih => exact ih _ _
  | read address next ih =>
      simp only [bind, run, ih]
      rfl
  | write address value next ih =>
      simp only [bind, run, ih]
      rfl
  | log event rest ih =>
      simp only [bind, run, ih]
      rfl

theorem run_map (f : α -> β) (p : BusProgram α) (bus : Smbus.Bus) :
    (f <$> p).run bus =
      { p.run bus with value := f (p.run bus).value } := by
  rw [map_eq_pure_bind, run_bind]
  simp [Outcome.andThen]

end BusProgram
end CpldControl
