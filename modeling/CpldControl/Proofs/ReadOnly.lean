import CpldControl.Proofs.Request

/-!
# Programs that only read

A program without write transactions changes nothing on its bus but the counter
of reads.  Showing an attribute and showing the whole catalog are such programs.
-/

namespace CpldControl

open Chip (Register)
open Device (Attribute)
open Smbus (Bus Transaction)

namespace BusProgram

variable {α β : Type}

def ReadOnly : BusProgram α -> Prop
  | done _ => True
  | ask _ next => forall answer, (next answer).ReadOnly
  | read _ next => forall answer, (next answer).ReadOnly
  | write _ _ _ => False
  | log _ rest => rest.ReadOnly

theorem ReadOnly.bind {p : BusProgram α} (hp : p.ReadOnly) {f : α -> BusProgram β}
    (hf : forall value, (f value).ReadOnly) : (p >>= f).ReadOnly := by
  show (p.bind f).ReadOnly
  induction p with
  | done value => exact hf value
  | ask transfer next ih =>
      intro answer
      exact ih answer (hp answer)
  | read address next ih =>
      intro answer
      exact ih answer (hp answer)
  | write address value next ih => cases hp
  | log event rest ih => exact ih hp

theorem ReadOnly.map {p : BusProgram α} (hp : p.ReadOnly) (f : α -> β) :
    (f <$> p).ReadOnly := by
  rw [map_eq_pure_bind]
  exact hp.bind fun value => trivial

theorem readOnly_mapM {f : α -> BusProgram β} (hf : forall a, (f a).ReadOnly) (xs : List α) :
    (xs.mapM f).ReadOnly := by
  induction xs with
  | nil => trivial
  | cons x rest ih =>
      rw [List.mapM_cons]
      apply (hf x).bind
      intro y
      apply ih.bind
      intro ys
      trivial

theorem ReadOnly.bus_run {p : BusProgram α} (hp : p.ReadOnly) (bus : Bus) :
    (p.run bus).bus = { bus with reads := bus.reads + (p.run bus).transactions.length } := by
  induction p generalizing bus with
  | done value => rfl
  | ask transfer next ih => exact ih _ (hp _) bus
  | read address next ih =>
      show ((next _).run bus.afterRead).bus = _
      rw [ih _ (hp _)]
      simp only [run, Outcome.afterTransaction, Bus.afterRead, List.length_cons]
      congr 1
      omega
  | write address value next ih => cases hp
  | log event rest ih => exact ih hp bus

theorem ReadOnly.direction_of_mem {p : BusProgram α} (hp : p.ReadOnly) {bus : Bus}
    {t : Transaction} (ht : t ∈ (p.run bus).transactions) : t.direction = .read := by
  induction p generalizing bus with
  | done value => cases ht
  | ask transfer next ih => exact ih _ (hp _) ht
  | read address next ih =>
      rcases List.mem_cons.mp ht with rfl | hrest
      · exact Transaction.direction_ofRead _ _
      · exact ih _ (hp _) hrest
  | write address value next ih => cases hp
  | log event rest ih => exact ih hp ht

end BusProgram

namespace Device

open BusProgram (ReadOnly)

theorem readOnly_readRegister (r : Register) : (readRegister r).run.ReadOnly := by
  intro answer
  cases answer with
  | ok value => trivial
  | error fault => trivial

theorem readOnly_readAttribute (device : Device) (a : Attribute) :
    (device.readAttribute a).run.ReadOnly := by
  cases a with
  | identity field =>
      simp only [readAttribute]
      cases device.identity.get? field with
      | some b => trivial
      | none => trivial
  | scratch =>
      simp only [readAttribute, ExceptT.run_map]
      exact (readOnly_readRegister .scratch).map _
  | signal s =>
      simp only [readAttribute, readSignal_eq, ExceptT.run_map]
      exact ((readOnly_readRegister s.register).map _).map _

theorem readOnly_readCatalog (device : Device) : device.readCatalog.ReadOnly :=
  BusProgram.readOnly_mapM (fun a => (readOnly_readAttribute device a).map _) _

end Device
end CpldControl
