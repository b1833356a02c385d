import CpldControl.Proofs.Changes
import CpldControl.Proofs.HandleBinding

/-!
# Adapters that devices are on

A bus performs byte data transfers whatever its adapter announces, so it would not
report a device that was brought up behind the wrong adapter.  Only bring-up asks, and
what it finds out stays true: nothing changes the adapter of a bus, and nothing but
bring-up makes a device.

The main statement is `devices_on_capable_buses`: in every session each device is on a
bus that announces byte data, and whatever crosses any other bus goes past the devices.
-/

namespace CpldControl

open Smbus (Bus Transaction Transfer)

/-!
# Adapters stay as they are
-/

theorem BusAction.adapter_perform {n : Nat} (action : BusAction) (bus : Bus) :
    (action.perform bus : Outcome (Answer n)).bus.adapter = bus.adapter := by
  cases action with
  | rawRead address =>
      simp only [perform, BusProgram.run_map]
      exact (BusProgram.sameSetting_run _ bus).adapter
  | rawWrite address value =>
      simp only [perform, BusProgram.run_map]
      exact (BusProgram.sameSetting_run _ bus).adapter
  | _ => rfl

namespace Rack

variable {n : Nat}

theorem supports_setBus {rack : Rack n} {b : Fin n} {bus : Bus}
    (hbus : bus.adapter = (rack.bus b).adapter) (c : Fin n) (transfer : Transfer) :
    ((rack.setBus b bus).bus c).supports transfer = (rack.bus c).supports transfer := by
  rw [bus_setBus]
  split
  next hc => rw [hc, Bus.supports, hbus, Bus.supports]
  next => rfl

theorem supports_step (rack : Rack n) (s : Step n) (c : Fin n) (transfer : Transfer) :
    ((rack.step s).1.bus c).supports transfer = (rack.bus c).supports transfer := by
  have hcourse := rack.course_step s
  generalize rack.step s = next at hcourse ⊢
  cases hcourse with
  | onBus b action => exact supports_setBus (action.adapter_perform _) c transfer
  | probe hsupports h =>
      rw [bus_setHandle]
      exact supports_setBus (BusProgram.sameSetting_run _ _).adapter c transfer
  | onRegister hhandle action =>
      exact supports_setBus (BusProgram.sameSetting_run _ _).adapter c transfer
  | onDevice hhandle action =>
      exact supports_setBus (BusProgram.sameSetting_run _ _).adapter c transfer
  | _ => rfl

theorem supports_run (rack : Rack n) (steps : List (Step n)) (b : Fin n) (transfer : Transfer) :
    ((rack.run steps).1.bus b).supports transfer = (rack.bus b).supports transfer := by
  refine run_invariant (P := fun now => (now.bus b).supports transfer = _) ?_ rfl steps
  intro now s hnow
  rw [supports_step, hnow]

/-!
# Devices are made by bring-up alone
-/

def DevicesCapable (rack : Rack n) : Prop :=
  forall h b device, rack.handles h = some { bus := b, client := .device device } ->
    (rack.bus b).supports .byteData = true

theorem devicesCapable_ofBuses (buses : Vector Bus n) : (ofBuses buses).DevicesCapable := by
  intro h b device hhandle
  cases hhandle

theorem devicesCapable_setBus {rack : Rack n} (hcapable : rack.DevicesCapable) {b : Fin n}
    {bus : Bus} (hbus : bus.adapter = (rack.bus b).adapter) :
    (rack.setBus b bus).DevicesCapable := by
  intro h c device hhandle
  rw [supports_setBus hbus]
  exact hcapable h c device hhandle

theorem devicesCapable_setHandle {rack : Rack n} (hcapable : rack.DevicesCapable) {k : Nat}
    {handle : Option (Handle n)}
    (hnew : forall b device, handle = some { bus := b, client := .device device } ->
      (rack.bus b).supports .byteData = true) :
    (rack.setHandle k handle).DevicesCapable := by
  intro h b device hhandle
  by_cases hk : h = k
  · rw [hk, handles_setHandle_self] at hhandle
    exact hnew b device hhandle
  · rw [handles_setHandle_of_ne hk] at hhandle
    exact hcapable h b device hhandle

theorem devicesCapable_step {rack : Rack n} (hcapable : rack.DevicesCapable) (s : Step n) :
    (rack.step s).1.DevicesCapable := by
  have hcourse := rack.course_step s
  generalize rack.step s = next at hcourse ⊢
  cases hcourse with
  | onBus b action => exact devicesCapable_setBus hcapable (action.adapter_perform _)
  | probe hsupports h =>
      rename_i b
      have hadapter := (BusProgram.sameSetting_run Device.bringUp (rack.bus b)).adapter
      apply devicesCapable_setHandle (devicesCapable_setBus hcapable hadapter)
      intro c device hnew
      cases hnew
      rw [supports_setBus hadapter]
      exact hsupports
  | probeRefused hsupports h => exact hcapable
  | attach h b =>
      apply devicesCapable_setHandle hcapable
      intro c device hnew
      cases hnew
  | remove hhandle =>
      apply devicesCapable_setHandle hcapable
      intro c device hnew
      cases hnew
  | onRegister hhandle action =>
      exact devicesCapable_setBus hcapable (BusProgram.sameSetting_run _ _).adapter
  | onDevice hhandle action =>
      exact devicesCapable_setBus hcapable (BusProgram.sameSetting_run _ _).adapter
  | noHandle hthrough habsent => exact hcapable
  | notDevice hhandle action => exact hcapable

theorem devicesCapable_run {rack : Rack n} (hcapable : rack.DevicesCapable)
    (steps : List (Step n)) : (rack.run steps).1.DevicesCapable :=
  run_invariant (P := DevicesCapable) (fun _ s hnow => devicesCapable_step hnow s) hcapable steps

/-!
# What crosses a bus without a device on it
-/

/-- The steps that can use a bus past all devices: a raw access, and register access
through a handle that was never brought up. -/
inductive PastDevices (rack : Rack n) (b : Fin n) : Step n -> Prop where
  | rawRead (address : Byte) : PastDevices rack b (.onBus b (.rawRead address))
  | rawWrite (address value : Byte) : PastDevices rack b (.onBus b (.rawWrite address value))
  | bare {h : Nat} (hhandle : rack.handles h = some { bus := b, client := .bare })
      (action : RegisterAction) : PastDevices rack b (.onRegister h action)

theorem pastDevices_of_not_supports {rack : Rack n} (hcapable : rack.DevicesCapable)
    {b : Fin n} (hsupports : (rack.bus b).supports .byteData = false) {s : Step n}
    {t : Transaction} (ht : (b, t) ∈ (rack.step s).2.transactions) : rack.PastDevices b s := by
  have hcourse := rack.course_step s
  generalize rack.step s = next at hcourse ht
  cases hcourse with
  | onBus c action =>
      cases bus_eq_of_mem_ofOutcome ht
      cases action with
      | rawRead address => exact .rawRead address
      | rawWrite address value => exact .rawWrite address value
      | _ => cases ht
  | probe hprobed h =>
      cases bus_eq_of_mem_ofOutcome ht
      rw [hprobed] at hsupports
      cases hsupports
  | onRegister hhandle action =>
      rename_i h handle
      rcases handle with ⟨c, client⟩
      cases bus_eq_of_mem_ofOutcome ht
      cases client with
      | bare => exact .bare hhandle action
      | device device =>
          rw [hcapable _ _ device hhandle] at hsupports
          cases hsupports
  | onDevice hhandle action =>
      cases bus_eq_of_mem_ofOutcome ht
      rw [hcapable _ _ _ hhandle] at hsupports
      cases hsupports
  | _ => cases ht

/-- A bus that would read and write wherever no fault is planted, and that nothing but a
raw access or a bare handle ever uses: no probe, and no step of a device. -/
structure ClosedToDevices (rack : Rack n) (b : Fin n) : Prop where
  reads : forall address, (rack.bus b).readFaults.get address = none ->
    let next := rack.step (.onBus b (.rawRead address))
    next.2.answer = .byte ((rack.bus b).peek address) ∧
      next.2.transactions = [(b, .read address ((rack.bus b).peek address))]
  writes : forall address value, (rack.bus b).writeFaults.get address = none ->
    let next := rack.step (.onBus b (.rawWrite address value))
    next.2.answer = .done ∧ next.2.transactions = [(b, .write address value)] ∧
      (next.1.bus b).peek address = value
  crossed : forall s t, (b, t) ∈ (rack.step s).2.transactions -> rack.PastDevices b s

theorem step_rawRead_of_no_fault {rack : Rack n} {b : Fin n} {address : Byte}
    (hfault : (rack.bus b).readFaults.get address = none) :
    rack.step (.onBus b (.rawRead address)) =
      (rack.setBus b (rack.bus b).afterRead,
        { answer := .byte ((rack.bus b).peek address)
          transactions := [(b, .read address ((rack.bus b).peek address))]
          events := [] }) := by
  simp only [step, onBus, BusAction.perform, BusProgram.run_map, BusProgram.run_readByte,
    Bus.readResult_of_no_fault hfault]
  rfl

theorem step_rawWrite_of_no_fault {rack : Rack n} {b : Fin n} {address : Byte}
    (hfault : (rack.bus b).writeFaults.get address = none) (value : Byte) :
    rack.step (.onBus b (.rawWrite address value)) =
      (rack.setBus b ((rack.bus b).afterWrite address value),
        { answer := .done
          transactions := [(b, .write address value)]
          events := [] }) := by
  simp only [step, onBus, BusAction.perform, BusProgram.run_map, BusProgram.run_writeByte,
    Bus.writeResult_of_no_fault hfault]
  rfl

theorem closedToDevices_of_not_supports {rack : Rack n} (hcapable : rack.DevicesCapable)
    {b : Fin n} (hsupports : (rack.bus b).supports .byteData = false) :
    rack.ClosedToDevices b where
  reads := by
    intro address hfault next
    have hnext : next = _ := step_rawRead_of_no_fault hfault
    rw [hnext]
    exact ⟨rfl, rfl⟩
  writes := by
    intro address value hfault next
    have hnext : next = _ := step_rawWrite_of_no_fault hfault value
    have hwritten : (next.1.bus b).peek address = value := by
      rw [hnext, bus_setBus_self, Bus.afterWrite_of_no_fault hfault]
      exact AddressMap.get_set_self _ address value
    rw [hnext] at hwritten ⊢
    exact ⟨rfl, rfl, hwritten⟩
  crossed := fun _ _ ht => pastDevices_of_not_supports hcapable hsupports ht

/-- At every moment of a session each device is on a bus that announces byte data
transfers, as it did when it was made, and every other bus is closed to devices, though
it would serve them.  An initial part of a session is a session too, so this is every
moment. -/
theorem devices_on_capable_buses (buses : Vector Bus n) (steps : List (Step n)) :
    let now := ((ofBuses buses).run steps).1
    now.DevicesCapable ∧
    (forall b, (now.bus b).supports .byteData = (buses.get b).supports .byteData) ∧
    (forall b, (buses.get b).supports .byteData = false -> now.ClosedToDevices b) := by
  intro now
  have hcapable : now.DevicesCapable := devicesCapable_run (devicesCapable_ofBuses buses) steps
  have hsupports (b : Fin n) : (now.bus b).supports .byteData = (buses.get b).supports .byteData :=
    supports_run (ofBuses buses) steps b .byteData
  refine ⟨hcapable, hsupports, ?_⟩
  intro b hb
  exact closedToDevices_of_not_supports hcapable ((hsupports b).trans hb)

/-- Neither probe of the second bus makes a device, and the bare handle 5 survives the
one that was meant for its number, so it still writes there. -/
theorem devices_on_capable_buses_refused_probes :
    let buses := #v[Bus.idle .byteData, Bus.idle .wordAndRaw]
    let steps : List (Step 2) := [.attach 5 1, .probe 3 0, .probe 3 1, .probe 5 1]
    let now := ((Rack.ofBuses buses).run steps).1
    let write : Step 2 := .onRegister 5 (.write .scratch 0x3C)
    (exists device, now.handles 3 = some { bus := 0, client := .device device }) ∧
      (now.bus 0).supports .byteData = true ∧
      (buses.get 1).supports .byteData = false ∧
      (now.step write).2.transactions = [(1, .write 0x0F 0x3C)] ∧
      now.PastDevices 1 write := by
  intro buses steps now write
  let device : Device :=
    { identity := .ofRegisters (some 0) (some 0) (some 0) (some 0), bringUpFault := none }
  have hdevice : now.handles 3 = some { bus := 0, client := .device device } := by
    decide +kernel
  have hsupports : (buses.get 1).supports .byteData = false := rfl
  have hwrite : (now.step write).2.transactions = [(1, .write 0x0F 0x3C)] := by
    decide +kernel
  have hmem : (1, Transaction.write 0x0F 0x3C) ∈ (now.step write).2.transactions := by
    rw [hwrite]
    exact List.mem_singleton_self _
  have hcapable : now.DevicesCapable := (devices_on_capable_buses buses steps).1
  have hclosed : now.ClosedToDevices 1 := (devices_on_capable_buses buses steps).2.2 1 hsupports
  exact ⟨⟨device, hdevice⟩, hcapable 3 0 device hdevice, hsupports, hwrite,
    hclosed.crossed write _ hmem⟩

end Rack
end CpldControl
