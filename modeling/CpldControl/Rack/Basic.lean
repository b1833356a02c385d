import CpldControl.Device.BringUp

/-!
# Buses and the handles bound to them

A rack holds a fixed number of buses and any number of numbered handles.  A
handle is bound to one bus for good; several handles may share a bus.  Behind a
handle is a device that was brought up there, or bare register access.
-/

namespace CpldControl

inductive Client where
  | bare
  | device (device : Device)
deriving DecidableEq

structure Handle (n : Nat) where
  bus : Fin n
  client : Client
deriving DecidableEq

structure Rack (n : Nat) where
  buses : Vector Smbus.Bus n
  handles : Nat -> Option (Handle n)

namespace Rack

variable {n : Nat}

def ofBuses (buses : Vector Smbus.Bus n) : Rack n where
  buses := buses
  handles := fun _ => none

def bus (rack : Rack n) (b : Fin n) : Smbus.Bus :=
  rack.buses.get b

def setBus (rack : Rack n) (b : Fin n) (bus : Smbus.Bus) : Rack n :=
  { rack with buses := rack.buses.set b bus }

def setHandle (rack : Rack n) (h : Nat) (handle : Option (Handle n)) : Rack n :=
  { rack with handles := fun k => if k = h then handle else rack.handles k }

@[simp] theorem handles_setBus (rack : Rack n) (b : Fin n) (bus : Smbus.Bus) :
    (rack.setBus b bus).handles = rack.handles := rfl

@[simp] theorem handles_setHandle_self (rack : Rack n) (h : Nat) (handle : Option (Handle n)) :
    (rack.setHandle h handle).handles h = handle := by
  simp [setHandle]

theorem handles_setHandle_of_ne {rack : Rack n} {h k : Nat} {handle : Option (Handle n)}
    (hne : k ≠ h) :
    (rack.setHandle h handle).handles k = rack.handles k := by
  simp [setHandle, hne]

@[simp] theorem bus_setHandle (rack : Rack n) (h : Nat) (handle : Option (Handle n)) (b : Fin n) :
    (rack.setHandle h handle).bus b = rack.bus b := rfl

theorem bus_setBus (rack : Rack n) (b c : Fin n) (bus : Smbus.Bus) :
    (rack.setBus b bus).bus c = if c = b then bus else rack.bus c := by
  change (rack.buses.set b.val bus b.isLt)[c.val] = if c = b then bus else rack.buses[c.val]
  by_cases h : c = b
  · subst h
    simp
  · have hval : b.val ≠ c.val := fun heq => h (Fin.ext heq.symm)
    simp [h, hval]

@[simp] theorem bus_setBus_self (rack : Rack n) (b : Fin n) (bus : Smbus.Bus) :
    (rack.setBus b bus).bus b = bus := by
  simp [bus_setBus]

theorem bus_setBus_of_ne {rack : Rack n} {b c : Fin n} {bus : Smbus.Bus} (hne : c ≠ b) :
    (rack.setBus b bus).bus c = rack.bus c := by
  simp [bus_setBus, hne]

theorem ext_bus {rack other : Rack n} (hbus : ∀ b, rack.bus b = other.bus b)
    (hhandles : ∀ h, rack.handles h = other.handles h) : rack = other := by
  cases rack with
  | mk buses handles =>
      cases other with
      | mk buses' handles' =>
          have hb : buses = buses' := by
            apply Vector.ext
            intro i hi
            exact hbus ⟨i, hi⟩
          have hh : handles = handles' := by
            funext h
            exact hhandles h
          rw [hb, hh]

theorem setBus_setBus (rack : Rack n) (b : Fin n) (first second : Smbus.Bus) :
    (rack.setBus b first).setBus b second = rack.setBus b second := by
  apply ext_bus
  · intro c
    rw [bus_setBus, bus_setBus, bus_setBus]
    split
    next => rfl
    next => rfl
  · intro h
    rfl

end Rack
end CpldControl
