import CpldControl.Proofs.Changes
import CpldControl.Proofs.HandleBinding

/-!
# Modifications of one register, one after another

A chain of modifications goes to one register of a bus, each through a handle of its own
choice.  Without a fault every modification sees the byte that the one before it left, and
none is lost.  Where the register cannot be read no function is asked, and where it cannot
be written every function is asked about the same byte.

The main statement is `modifications_compose`.  The rack after each initial part of the
chain is known (`rewritten`), so one step on such a rack says everything (`step_link`), and
`run_of_steps` puts the steps together.
-/

namespace CpldControl

open Chip (Register)
open Smbus (Bus)

structure Link where
  handle : Nat
  change : Byte -> Byte

namespace Link

def step {n : Nat} (r : Register) (link : Link) : Step n :=
  .onRegister link.handle (.modify r link.change)

def through (chain : List Link) (start : Byte) : Byte :=
  chain.foldl (fun b link => link.change b) start

theorem through_concat (chain : List Link) (link : Link) (start : Byte) :
    through (chain ++ [link]) start = link.change (through chain start) := by
  rw [through, List.foldl_append]
  rfl

end Link

/-!
# How one modification is reported

Either the function was asked about a byte and its value was written, or the read failed
and the function was not asked, or its value could not be written.
-/

namespace Report

variable {n : Nat}

def modified (b : Fin n) (r : Register) (before after : Byte) : Report n where
  answer := .update { seen := some before, result := .ok after }
  transactions := [(b, .read r.address before), (b, .write r.address after)]
  events := [.registerRead r before, .registerWritten r after]

def unread (b : Fin n) (r : Register) (fault : Smbus.Fault) : Report n where
  answer := .update { seen := none, result := .error (.busFault r .read fault) }
  transactions := [(b, .readFailed r.address fault)]
  events := [.readFailed r fault]

def unwritten (b : Fin n) (r : Register) (before after : Byte) (fault : Smbus.Fault) :
    Report n where
  answer := .update { seen := some before, result := .error (.busFault r .write fault) }
  transactions := [(b, .read r.address before), (b, .writeFailed r.address after fault)]
  events := [.registerRead r before, .writeFailed r after fault]

end Report

/-!
# Buses in the course of a chain
-/

namespace Smbus.Bus

def rewritten (bus : Bus) (address value : Byte) (reads writes : Nat) : Bus :=
  { bus with
    registers := bus.registers.set address value
    reads := bus.reads + reads
    writes := bus.writes + writes }

variable {bus : Bus} {address : Byte}

@[simp] theorem readFaults_rewritten (value : Byte) (j k : Nat) :
    (bus.rewritten address value j k).readFaults = bus.readFaults := rfl

@[simp] theorem writeFaults_rewritten (value : Byte) (j k : Nat) :
    (bus.rewritten address value j k).writeFaults = bus.writeFaults := rfl

@[simp] theorem get_rewritten_self (value : Byte) (j k : Nat) :
    (bus.rewritten address value j k).registers.get address = value :=
  AddressMap.get_set_self _ _ _

theorem rewritten_get (bus : Bus) (address : Byte) :
    bus.rewritten address (bus.registers.get address) 0 0 = bus := by
  rw [rewritten, AddressMap.set_get_self]
  rfl

theorem afterRead_rewritten (value : Byte) (j k : Nat) :
    (bus.rewritten address value j k).afterRead = bus.rewritten address value (j + 1) k := rfl

theorem afterWrite_rewritten_of_no_fault (h : bus.writeFaults.get address = none)
    (value next : Byte) (j k : Nat) :
    (bus.rewritten address value j k).afterWrite address next =
      bus.rewritten address next j (k + 1) := by
  rw [afterWrite_of_no_fault (by rw [writeFaults_rewritten, h])]
  simp only [rewritten, AddressMap.set_set, Nat.add_assoc]

theorem afterWrite_rewritten_of_fault {fault : Fault}
    (h : bus.writeFaults.get address = some fault) (value next : Byte) (j k : Nat) :
    (bus.rewritten address value j k).afterWrite address next =
      bus.rewritten address value j (k + 1) := by
  rw [afterWrite_of_fault (by rw [writeFaults_rewritten, h])]
  rfl

end Smbus.Bus

namespace Rack

variable {n : Nat}

/-- A rack that took steps, when it is known where every initial part of them led, and
what was reported on the step after it. -/
theorem run_of_steps {α : Type} {s : α -> Step n} {xs : List α} (after : List α -> Rack n)
    (report : List α -> α -> Report n)
    (hstep : forall earlier x, x ∈ xs ->
      (after earlier).step (s x) = (after (earlier ++ [x]), report earlier x)) :
    let final := (after []).run (xs.map s)
    final.1 = after xs ∧ final.2 = xs.mapIdx fun i x => report (xs.take i) x := by
  induction xs generalizing after report with
  | nil => exact ⟨rfl, rfl⟩
  | cons x xs ih =>
      have hhead := hstep [] x List.mem_cons_self
      -- the rest of the steps start from the rack that the first one left
      have hrest := ih (fun earlier => after (x :: earlier)) (fun earlier => report (x :: earlier))
        fun earlier y hy => hstep (x :: earlier) y (List.mem_cons_of_mem x hy)
      rw [List.map_cons, run_cons, hhead, List.mapIdx_cons]
      exact ⟨hrest.1, congrArg (List.cons _) hrest.2⟩

/-!
# One modification
-/

variable {rack : Rack n} {b : Fin n} {r : Register} {link : Link}

theorem step_link (hbound : rack.bus? link.handle = some b) (r : Register) (bus : Bus) :
    (rack.setBus b bus).step (link.step r) =
      let o := (Device.updateRegister r link.change).run bus
      (rack.setBus b o.bus, .ofOutcome b (.update o.value) o) := by
  rcases bus?_eq_some_iff.mp hbound with ⟨client, hhandle⟩
  have hthere : (rack.setBus b bus).handles link.handle = some { bus := b, client } := hhandle
  rw [Link.step, step_onRegister hthere, onBus, bus_setBus_self]
  simp only [RegisterAction.program, BusProgram.run_map, setBus_setBus]
  rfl

theorem step_link_of_no_fault (hbound : rack.bus? link.handle = some b)
    (hread : (rack.bus b).readFaults.get r.address = none)
    (hwrite : (rack.bus b).writeFaults.get r.address = none) (value : Byte) (j k : Nat) :
    (rack.setBus b ((rack.bus b).rewritten r.address value j k)).step (link.step r) =
      (rack.setBus b ((rack.bus b).rewritten r.address (link.change value) (j + 1) (k + 1)),
        .modified b r value (link.change value)) := by
  rw [step_link hbound, Device.run_updateRegister]
  simp only [Bus.readFaults_rewritten, Bus.writeFaults_rewritten, hread, hwrite,
    Bus.get_rewritten_self, Bus.afterRead_rewritten,
    Bus.afterWrite_rewritten_of_no_fault hwrite]
  rfl

theorem step_link_of_read_fault (hbound : rack.bus? link.handle = some b)
    {fault : Smbus.Fault} (hread : (rack.bus b).readFaults.get r.address = some fault)
    (value : Byte) (j k : Nat) :
    (rack.setBus b ((rack.bus b).rewritten r.address value j k)).step (link.step r) =
      (rack.setBus b ((rack.bus b).rewritten r.address value (j + 1) k),
        .unread b r fault) := by
  rw [step_link hbound, Device.run_updateRegister]
  simp only [Bus.readFaults_rewritten, hread, Bus.afterRead_rewritten]
  rfl

theorem step_link_of_write_fault (hbound : rack.bus? link.handle = some b)
    (hread : (rack.bus b).readFaults.get r.address = none) {fault : Smbus.Fault}
    (hwrite : (rack.bus b).writeFaults.get r.address = some fault) (value : Byte) (j k : Nat) :
    (rack.setBus b ((rack.bus b).rewritten r.address value j k)).step (link.step r) =
      (rack.setBus b ((rack.bus b).rewritten r.address value (j + 1) (k + 1)),
        .unwritten b r value (link.change value) fault) := by
  rw [step_link hbound, Device.run_updateRegister]
  simp only [Bus.readFaults_rewritten, Bus.writeFaults_rewritten, hread, hwrite,
    Bus.get_rewritten_self, Bus.afterRead_rewritten,
    Bus.afterWrite_rewritten_of_fault hwrite]
  rfl

/-!
# The whole chain
-/

def runChain (rack : Rack n) (r : Register) (chain : List Link) : Rack n × List (Report n) :=
  rack.run (chain.map (Link.step r))

/-- A chain was reported on as given, link by link, and left a byte in its register.
Nothing else has changed but the counters of the bus. -/
structure Went (rack : Rack n) (b : Fin n) (r : Register) (chain : List Link)
    (report : List Link -> Link -> Report n) (last : Byte) : Prop where
  reports : (rack.runChain r chain).2 = chain.mapIdx fun i link => report (chain.take i) link
  byte : ((rack.runChain r chain).1.bus b).registers.get r.address = last
  elsewhere : forall address, address ≠ r.address ->
    ((rack.runChain r chain).1.bus b).registers.get address =
      (rack.bus b).registers.get address
  setting : (rack.bus b).SameSetting ((rack.runChain r chain).1.bus b)
  buses : forall c, c ≠ b -> (rack.runChain r chain).1.bus c = rack.bus c
  handles : (rack.runChain r chain).1.handles = rack.handles

theorem went_of_steps {chain : List Link} (value : List Link -> Byte)
    (writes : List Link -> Nat) {report : List Link -> Link -> Report n}
    (hvalue : value [] = (rack.bus b).registers.get r.address) (hwrites : writes [] = 0)
    (hstep : forall earlier link, link ∈ chain ->
      (rack.setBus b ((rack.bus b).rewritten r.address (value earlier) earlier.length
          (writes earlier))).step (link.step r) =
        (rack.setBus b ((rack.bus b).rewritten r.address (value (earlier ++ [link]))
          (earlier.length + 1) (writes (earlier ++ [link]))), report earlier link)) :
    rack.Went b r chain report (value chain) := by
  have hrun := run_of_steps
    (fun earlier => rack.setBus b ((rack.bus b).rewritten r.address (value earlier)
      earlier.length (writes earlier)))
    report
    (by simpa only [List.length_append, List.length_singleton] using hstep)
  simp only [hvalue, hwrites, List.length_nil, Bus.rewritten_get, setBus_bus] at hrun
  change (rack.runChain r chain).1 = _ ∧ _ at hrun
  rcases hrun with ⟨hfinal, hreports⟩
  constructor
  case reports => exact hreports
  case byte => rw [hfinal, bus_setBus_self, Bus.get_rewritten_self]
  case elsewhere =>
    intro address haddress
    rw [hfinal, bus_setBus_self]
    exact AddressMap.get_set_of_ne haddress
  case setting =>
    rw [hfinal, bus_setBus_self]
    exact ⟨rfl, rfl, rfl⟩
  case buses =>
    intro c hc
    rw [hfinal, bus_setBus_of_ne hc]
  case handles => rw [hfinal, handles_setBus]

/-- How a chain of modifications goes, by the faults of its register.  A fault of its reads
comes before one of its writes. -/
structure Composes (rack : Rack n) (b : Fin n) (r : Register) (chain : List Link) : Prop where
  unhindered : (rack.bus b).readFaults.get r.address = none ->
    (rack.bus b).writeFaults.get r.address = none ->
    let start := (rack.bus b).registers.get r.address
    rack.Went b r chain
      (fun earlier link =>
        let before := Link.through earlier start
        .modified b r before (link.change before))
      (Link.through chain start)
  unreadable : forall fault, (rack.bus b).readFaults.get r.address = some fault ->
    rack.Went b r chain (fun _ _ => .unread b r fault) ((rack.bus b).registers.get r.address)
  unwritable : (rack.bus b).readFaults.get r.address = none ->
    forall fault, (rack.bus b).writeFaults.get r.address = some fault ->
      let start := (rack.bus b).registers.get r.address
      rack.Went b r chain (fun _ link => .unwritten b r start (link.change start) fault) start

/-- Modifications of one register, each through any handle of its bus, compose.  If nothing
fails, each link of the chain is asked once, about what the links before it made of the
byte, and the register ends with what all of them make of it.  If the register cannot be
read, none is asked; if it cannot be written, each is asked about the byte at the start.
The other registers and the other buses stay as they are. -/
theorem modifications_compose (rack : Rack n) (b : Fin n) (r : Register) (chain : List Link)
    (hbound : forall link, link ∈ chain -> rack.bus? link.handle = some b) :
    rack.Composes b r chain := by
  constructor
  case unhindered =>
    intro hread hwrite start
    apply went_of_steps (fun earlier => Link.through earlier start) List.length rfl rfl
    intro earlier link hlink
    rw [step_link_of_no_fault (hbound link hlink) hread hwrite, Link.through_concat,
      List.length_append]
    rfl
  case unreadable =>
    intro fault hread
    apply went_of_steps (fun _ => (rack.bus b).registers.get r.address) (fun _ => 0) rfl rfl
    intro earlier link hlink
    exact step_link_of_read_fault (hbound link hlink) hread _ _ _
  case unwritable =>
    intro hread fault hwrite start
    apply went_of_steps (fun _ => start) List.length rfl rfl
    intro earlier link hlink
    rw [step_link_of_write_fault (hbound link hlink) hread hwrite, List.length_append]
    rfl

/-- A chain of three links, through a device and through bare register access, on three
registers of one bus.  The order of the links shows in the first register.  The second
cannot be read.  The third cannot be written, so the link in the middle is asked about the
byte at the start. -/
theorem modifications_compose_shared_bus :
    let device : Device := { identity := .ofRegisters none none none none, bringUpFault := none }
    let bus := ((Bus.idle .byteData).plantReadFault 0x08 .timeout).plantWriteFault 0x10 .dataNak
    let rack := ((Rack.ofBuses #v[bus, Bus.idle .byteData]).setHandle 4
      (some { bus := 0, client := .device device })).setHandle 7
      (some { bus := 0, client := .bare })
    let chain : List Link :=
      [ { handle := 4, change := fun v => v + 3 },
        { handle := 7, change := fun v => ~~~v },
        { handle := 4, change := fun v => v <<< 1 } ]
    (forall link, link ∈ chain -> rack.bus? link.handle = some 0) ∧
      (rack.runChain .scratch chain).2 =
        [ .modified 0 .scratch 0x00 0x03,
          .modified 0 .scratch 0x03 0xFC,
          .modified 0 .scratch 0xFC 0xF8 ] ∧
      ((rack.runChain .scratch chain).1.bus 0).registers.get 0x0F = 0xF8 ∧
      (rack.runChain .ledTest chain).2 = List.replicate 3 (.unread 0 .ledTest .timeout) ∧
      (rack.runChain .reset chain).2 =
        [ .unwritten 0 .reset 0x00 0x03 .dataNak,
          .unwritten 0 .reset 0x00 0xFF .dataNak,
          .unwritten 0 .reset 0x00 0x00 .dataNak ] ∧
      ((rack.runChain .reset chain).1.bus 0).registers.get 0x10 = 0x00 := by
  intro device bus rack chain
  have hbound : forall link, link ∈ chain -> rack.bus? link.handle = some 0 := by
    decide
  have hscratch := (modifications_compose rack 0 .scratch chain hbound).unhindered
    (by decide +kernel) (by decide +kernel)
  have hledTest := (modifications_compose rack 0 .ledTest chain hbound).unreadable .timeout
    (by decide +kernel)
  have hreset := (modifications_compose rack 0 .reset chain hbound).unwritable
    (by decide +kernel) .dataNak (by decide +kernel)
  have hstart (r : Register) : (rack.bus 0).registers.get r.address = 0x00 :=
    AddressMap.get_const 0 r.address
  rw [hstart] at hscratch hreset
  refine ⟨hbound, ?_, ?_, hledTest.reports, hreset.reports, hreset.byte⟩
  · rw [hscratch.reports]
    simp only [chain, List.mapIdx_cons, List.mapIdx_nil, List.take, Link.through, List.foldl]
    rfl
  · exact hscratch.byte

end Rack
end CpldControl
