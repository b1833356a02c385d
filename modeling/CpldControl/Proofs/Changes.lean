import CpldControl.Proofs.BusHistory
import CpldControl.Proofs.Request

/-!
# Changes and their footprints

A change is asked of a handle and rewrites some bits of one register.  Which bits
these are, its footprint, is known before it is carried out: the bit of a signal,
the whole of a byte that is written, or the bits that masks move.

What a change does depends on the faults of its bus and on the bits of its footprint
alone.  `Request.Changes` says so of the request behind a change.  What any number of
such requests make of a bus then has a closed form: the counters count the requests that
read or write (`reads_busAfter`, `writes_busAfter`), and each bit goes through the
requests by itself (`bit_busAfter`).
-/

namespace CpldControl

open Chip (Cage CageLine Register Signal)
open Device (Attribute Error Update)
open Smbus (Bus)

/-!
# Functions that treat every bit for itself
-/

namespace Byte

def Bitwise (f : Byte -> Byte) : Prop :=
  forall b c i, b.bit i = c.bit i -> (f b).bit i = (f c).bit i

def all (level : Bool) : Byte :=
  if level then 0xFF else 0x00

theorem bit_all (level : Bool) (i : Fin 8) : (all level).bit i = level := by
  revert level i
  decide

theorem Bitwise.bit_eq {f : Byte -> Byte} (hf : Bitwise f) (b : Byte) (i : Fin 8) :
    (f b).bit i = (f (all (b.bit i))).bit i :=
  hf b _ i (bit_all _ i).symm

theorem bitwise_withBit (i : Fin 8) (level : Bool) : Bitwise fun b => b.withBit i level := by
  intro b c j h
  rw [bit_withBit, bit_withBit, h]

namespace Masks

/-- Whether masks may change a bit: they leave it alone only if they keep it, do not
raise it and do not toggle it. -/
def moves (m : Masks) (i : Fin 8) : Bool :=
  !m.keep.bit i || m.raise.bit i || m.toggle.bit i

theorem bit_apply (m : Masks) (b : Byte) (i : Fin 8) :
    (m.apply b).bit i = (((b.bit i && m.keep.bit i) || m.raise.bit i) ^^ m.toggle.bit i) := by
  simp only [apply, bit, BitVec.getLsbD_xor, BitVec.getLsbD_or, BitVec.getLsbD_and]

theorem bitwise_apply (m : Masks) : Bitwise m.apply := by
  intro b c i h
  rw [bit_apply, bit_apply, h]

theorem bit_apply_of_not_moves {m : Masks} {i : Fin 8} (h : m.moves i = false) (b : Byte) :
    (m.apply b).bit i = b.bit i := by
  simp only [moves, Bool.or_eq_false_iff, Bool.not_eq_eq_eq_not, Bool.not_false] at h
  rw [bit_apply, h.1.1, h.1.2, h.2, Bool.and_true, Bool.or_false, Bool.xor_false]

end Masks
end Byte

/-!
# Changes
-/

inductive Change where
  | write (r : Register) (value : Byte)
  | modify (r : Register) (masks : Byte.Masks)
  | driveSignal (name : String) (level : Bool)
  | driveSignalNumber (name : String) (number : Nat)
  | driveCageLine (cage : Nat) (line : CageLine) (level : Bool)
  | writeScratch (value : Byte)
  | storeAttribute (name text : String)

def Chip.Register.places (r : Register) : List (Register × Fin 8) :=
  (List.finRange 8).map fun i => (r, i)

def Chip.Signal.places (s : Signal) : List (Register × Fin 8) :=
  if s.isWritable then [(s.register, s.bit)] else []

namespace Change

def action : Change -> RegisterAction ⊕ DeviceAction
  | write r value => .inl (.write r value)
  | modify r masks => .inl (.modify r masks.apply)
  | driveSignal name level => .inr (.driveSignal name level)
  | driveSignalNumber name number => .inr (.driveSignalNumber name number)
  | driveCageLine cage line level => .inr (.driveCageLine cage line level)
  | writeScratch value => .inr (.writeScratch value)
  | storeAttribute name text => .inr (.storeAttribute name text)

/-- The bits that a change may rewrite; one whose input is refused has none. -/
def footprint : Change -> List (Register × Fin 8)
  | write r _ => r.places
  | modify r masks => r.places.filter fun place => masks.moves place.2
  | driveSignal name _ => (Signal.find? name).elim [] Signal.places
  | driveSignalNumber name number =>
      if number ≤ 1 then (Signal.find? name).elim [] Signal.places else []
  | driveCageLine cage line _ =>
      (Cage.ofNumber? cage).elim [] fun c => (Signal.cageLine line c).places
  | writeScratch _ => Register.scratch.places
  | storeAttribute name text =>
      match Attribute.find? name with
      | some .scratch =>
          if (Text.ByteLiteral.parse? .hexadecimal text).isSome then
            Register.scratch.places
          else
            []
      | some (.signal s) =>
          if (Text.ByteLiteral.parse? .decimal text).any (fun b => b.toNat ≤ 1) then
            s.places
          else
            []
      | _ => []

end Change

theorem Chip.Register.mem_places (r : Register) (i : Fin 8) : (r, i) ∈ r.places :=
  List.mem_map.mpr ⟨i, List.mem_finRange i, rfl⟩

/-!
# Requests that change a register
-/

namespace Answer

variable {n : Nat}

def withoutBytes : Answer n -> Answer n
  | update u => ofResult (fun _ => .done) u.result
  | answer => answer

end Answer

namespace Request

variable {n : Nat} {α : Type} {footprint : List (Register × Fin 8)}

/-- A request that changes no bits but those of a footprint, and each of them by itself,
or that changes nothing at all. -/
inductive Changes (footprint : List (Register × Fin 8)) : Request n -> Prop where
  | reply (answer : Answer n) : Changes footprint (.reply answer)
  | refuse (e : Error) : Changes footprint (.refuse e)
  | write {r : Register} (hplaces : forall i, (r, i) ∈ footprint) (value : Byte) :
      Changes footprint (.write r value)
  | update {r : Register} {f : Byte -> Byte} {view : Update -> Answer n}
      (hbitwise : Byte.Bitwise f)
      (hkept : forall i, (r, i) ∉ footprint -> forall b, (f b).bit i = b.bit i)
      (hview : forall u, (view u).withoutBytes = Answer.ofResult (fun _ => .done) u.result) :
      Changes footprint (.update r f view)

theorem changes_checked {input : Except Error α} {next : α -> Request n}
    (hnext : forall a, input = .ok a -> (next a).Changes footprint) :
    (checked input next).Changes footprint := by
  cases input with
  | ok a => exact hnext a rfl
  | error e => exact .refuse e

theorem changes_named {name : String} {next : Signal -> Request n}
    (hnext : forall s, Signal.find? name = some s -> (next s).Changes footprint) :
    (named name next).Changes footprint := by
  unfold named
  cases hname : Signal.find? name with
  | some s => exact hnext s hname
  | none => exact .reply _

theorem changes_writable {s : Signal} {next : Request n}
    (hnext : s.isWritable = true -> next.Changes footprint) :
    (writable s next).Changes footprint := by
  unfold writable
  cases hwritable : s.isWritable with
  | true => exact hnext hwritable
  | false => exact .refuse _

theorem changes_driveSignal {s : Signal} (hwritable : s.isWritable = true) (level : Bool) :
    (driveSignal s level : Request n).Changes s.places := by
  apply Changes.update (Byte.bitwise_withBit s.bit level)
  · intro i hi b
    have hne : i ≠ s.bit := by
      rintro rfl
      rw [Signal.places, if_pos hwritable] at hi
      exact hi List.mem_cons_self
    exact Byte.bit_withBit_of_ne hne
  · intro u
    cases u.result with
    | ok b => rfl
    | error e => rfl

theorem changes_driveWritable (s : Signal) (level : Bool) :
    (writable s (driveSignal s level) : Request n).Changes s.places :=
  changes_writable fun hwritable => changes_driveSignal hwritable level

theorem changes_writeScratch (value : Byte) :
    (write .scratch value : Request n).Changes Register.scratch.places :=
  .write Register.scratch.mem_places value

end Request

theorem Change.changes_of_register {n : Nat} {change : Change} {action : RegisterAction}
    (haction : change.action = .inl action) :
    (action.request : Request n).Changes change.footprint := by
  cases change with
  | write r value =>
      cases haction
      exact .write r.mem_places value
  | modify r masks =>
      cases haction
      apply Request.Changes.update masks.bitwise_apply
      · intro i hi
        apply Byte.Masks.bit_apply_of_not_moves
        rw [← Bool.not_eq_true]
        intro hmoves
        exact hi (List.mem_filter.mpr ⟨r.mem_places i, hmoves⟩)
      · intro u
        rfl
  | _ => cases haction

theorem Change.changes_of_device {n : Nat} {change : Change} {action : DeviceAction}
    (haction : change.action = .inr action) {device : Device} {q : Request n}
    (hrequest : action.request? device = some q) : q.Changes change.footprint := by
  cases change with
  | write r value => cases haction
  | modify r masks => cases haction
  | driveSignal name level =>
      cases haction
      cases hrequest
      apply Request.changes_named
      intro s hname
      rw [footprint, hname]
      exact Request.changes_driveWritable s level
  | driveSignalNumber name number =>
      cases haction
      cases hrequest
      apply Request.changes_named
      intro s hname
      apply Request.changes_writable
      intro hwritable
      apply Request.changes_checked
      intro level hlevel
      rw [footprint, if_pos (Device.levelOfNumber_eq_ok_iff.mp hlevel).1, hname]
      exact Request.changes_driveSignal hwritable level
  | driveCageLine cage line level =>
      cases haction
      cases hrequest
      apply Request.changes_checked
      intro c hcage
      rw [footprint, Device.cageOfNumber_eq_ok_iff.mp hcage]
      exact Request.changes_driveWritable (.cageLine line c) level
  | writeScratch value =>
      cases haction
      cases hrequest
      exact Request.changes_writeScratch value
  | storeAttribute name text =>
      cases haction
      cases hrequest
      apply Request.changes_checked
      intro a hname
      rw [footprint, Device.attributeOfName_eq_ok_iff.mp hname]
      cases a with
      | identity field => exact .refuse _
      | scratch =>
          apply Request.changes_checked
          intro value hvalue
          simp only [Device.byteOfText_eq_ok_iff.mp hvalue]
          exact Request.changes_writeScratch value
      | signal s =>
          apply Request.changes_writable
          intro hwritable
          apply Request.changes_checked
          intro number hnumber
          apply Request.changes_checked
          intro level hlevel
          have hrange := (Device.levelOfNumber_eq_ok_iff.mp hlevel).1
          simp only [Device.byteOfText_eq_ok_iff.mp hnumber, Option.any_some, hrange]
          exact Request.changes_driveSignal hwritable level

/-!
# What requests make of a bus

A request that reads or writes counts, whether it succeeds or not; a byte that cannot be
read is not written.
-/

namespace Smbus.Bus

/-- Two buses that answer every transaction with the same success or fault. -/
structure SameSetting (bus other : Bus) : Prop where
  adapter : other.adapter = bus.adapter
  readFaults : other.readFaults = bus.readFaults
  writeFaults : other.writeFaults = bus.writeFaults

namespace SameSetting

theorem refl (bus : Bus) : bus.SameSetting bus :=
  ⟨rfl, rfl, rfl⟩

theorem trans {first second third : Bus} (h : first.SameSetting second)
    (h' : second.SameSetting third) : first.SameSetting third :=
  ⟨h'.adapter.trans h.adapter, h'.readFaults.trans h.readFaults,
    h'.writeFaults.trans h.writeFaults⟩

theorem symm {bus other : Bus} (h : bus.SameSetting other) : other.SameSetting bus :=
  ⟨h.adapter.symm, h.readFaults.symm, h.writeFaults.symm⟩

end SameSetting

theorem eq_of_bits {bus other : Bus} (hsame : bus.SameSetting other)
    (hbits : forall address i,
      (bus.registers.get address).bit i = (other.registers.get address).bit i)
    (hreads : bus.reads = other.reads) (hwrites : bus.writes = other.writes) :
    bus = other := by
  have hregisters : bus.registers = other.registers :=
    AddressMap.ext_get fun address => Byte.eq_of_bit_eq (hbits address)
  rcases bus with ⟨adapter, registers, readFaults, writeFaults, reads, writes⟩
  cases hsame.adapter
  cases hsame.readFaults
  cases hsame.writeFaults
  cases hregisters
  cases hreads
  cases hwrites
  rfl

end Smbus.Bus

theorem BusProgram.sameSetting_run {α : Type} (p : BusProgram α) (bus : Bus) :
    bus.SameSetting (p.run bus).bus := by
  induction p generalizing bus with
  | done value => exact .refl bus
  | ask transfer next ih => exact ih _ bus
  | read address next ih =>
      have hread : bus.SameSetting bus.afterRead := ⟨rfl, rfl, rfl⟩
      exact hread.trans (ih (bus.readResult address) bus.afterRead)
  | write address value next ih =>
      have hwrite : bus.SameSetting (bus.afterWrite address value) :=
        ⟨Bus.adapter_afterWrite _ _ _, Bus.readFaults_afterWrite _ _ _,
          Bus.writeFaults_afterWrite _ _ _⟩
      exact hwrite.trans (ih (bus.writeResult address) (bus.afterWrite address value))
  | log event rest ih => exact ih bus

namespace Request

variable {n : Nat}

def makesRead : Request n -> Bool
  | read _ _ => true
  | update _ _ _ => true
  | _ => false

def makesWrite (bus : Bus) : Request n -> Bool
  | write _ _ => true
  | update r _ _ => bus.readFaults.get r.address = none
  | _ => false

def bitAfter (bus : Bus) (address : Byte) (i : Fin 8) (level : Bool) : Request n -> Bool
  | write r value =>
      if address = r.address ∧ bus.writeFaults.get r.address = none then value.bit i
      else level
  | update r f _ =>
      if address = r.address ∧ bus.readFaults.get r.address = none ∧
          bus.writeFaults.get r.address = none then
        (f (Byte.all level)).bit i
      else
        level
  | _ => level

theorem bus_run_read (r : Register) (view : Byte -> Answer n) (bus : Bus) :
    ((read r view).program.run bus).bus = bus.afterRead := by
  rw [run_read]
  cases bus.readFaults.get r.address with
  | none => rfl
  | some fault => rfl

theorem bus_run_write (r : Register) (value : Byte) (bus : Bus) :
    ((write r value : Request n).program.run bus).bus = bus.afterWrite r.address value := by
  rw [run_write]
  cases bus.writeFaults.get r.address with
  | none => rfl
  | some fault => rfl

theorem bus_run_update (r : Register) (f : Byte -> Byte) (view : Update -> Answer n)
    (bus : Bus) :
    ((update r f view).program.run bus).bus =
      if bus.readFaults.get r.address = none then
        bus.afterRead.afterWrite r.address (f (bus.registers.get r.address))
      else
        bus.afterRead := by
  rw [run_update, Device.run_updateRegister]
  cases bus.readFaults.get r.address with
  | some fault => rfl
  | none =>
      cases bus.writeFaults.get r.address with
      | none => rfl
      | some fault => rfl

theorem reads_run (q : Request n) (bus : Bus) :
    (q.program.run bus).bus.reads = bus.reads + if q.makesRead then 1 else 0 := by
  cases q with
  | reply answer => rfl
  | refuse e => rfl
  | read r view =>
      rw [bus_run_read]
      rfl
  | write r value =>
      rw [bus_run_write]
      exact bus.reads_afterWrite _ _
  | update r f view =>
      rw [bus_run_update]
      split
      · exact bus.afterRead.reads_afterWrite _ _
      · rfl

theorem writes_run (q : Request n) (bus : Bus) :
    (q.program.run bus).bus.writes = bus.writes + if q.makesWrite bus then 1 else 0 := by
  cases q with
  | reply answer => rfl
  | refuse e => rfl
  | read r view =>
      rw [bus_run_read]
      rfl
  | write r value =>
      rw [bus_run_write]
      exact bus.writes_afterWrite _ _
  | update r f view =>
      rw [bus_run_update, makesWrite]
      split
      next hread =>
        rw [if_pos (decide_eq_true hread)]
        exact bus.afterRead.writes_afterWrite _ _
      next hread =>
        rw [if_neg (by simpa using hread)]
        rfl

theorem Changes.bit_run {footprint : List (Register × Fin 8)} {q : Request n}
    (hq : q.Changes footprint) (bus : Bus) (address : Byte) (i : Fin 8) :
    ((q.program.run bus).bus.registers.get address).bit i =
      q.bitAfter bus address i ((bus.registers.get address).bit i) := by
  cases hq with
  | reply answer => rfl
  | refuse e => rfl
  | write hplaces value =>
      rw [bus_run_write, Bus.get_afterWrite, bitAfter]
      split
      · rfl
      · rfl
  | update hbitwise hkept hview =>
      rename_i r f view
      rw [bus_run_update, bitAfter]
      by_cases hread : bus.readFaults.get r.address = none
      · have hget (value : Byte) :
            (bus.afterRead.afterWrite r.address value).registers.get address =
              if address = r.address ∧ bus.writeFaults.get r.address = none then value
              else bus.registers.get address :=
          bus.afterRead.get_afterWrite r.address value address
        rw [if_pos hread, hget]
        by_cases h : address = r.address ∧ bus.writeFaults.get r.address = none
        · rw [if_pos h, if_pos ⟨h.1, hread, h.2⟩, h.1]
          exact hbitwise.bit_eq _ i
        · rw [if_neg h, if_neg fun hall => h ⟨hall.1, hall.2.2⟩]
      · rw [if_neg hread, if_neg fun h => hread h.2.1]
        rfl

theorem Changes.bitAfter_of_outside {footprint : List (Register × Fin 8)} {q : Request n}
    (hq : q.Changes footprint) {address : Byte} {i : Fin 8}
    (houtside : forall r, r.address = address -> (r, i) ∉ footprint) (bus : Bus) (level : Bool) :
    q.bitAfter bus address i level = level := by
  cases hq with
  | reply answer => rfl
  | refuse e => rfl
  | write hplaces value =>
      apply if_neg
      rintro ⟨haddress, -⟩
      exact houtside _ haddress.symm (hplaces i)
  | update hbitwise hkept hview =>
      rw [bitAfter]
      split
      next h => rw [hkept i (houtside _ h.1.symm), Byte.bit_all]
      next => rfl

theorem Changes.answer_run {footprint : List (Register × Fin 8)} {q : Request n}
    (hq : q.Changes footprint) {bus other : Bus} (hsame : bus.SameSetting other) :
    (q.program.run other).value.withoutBytes = (q.program.run bus).value.withoutBytes := by
  cases hq with
  | reply answer => rfl
  | refuse e => rfl
  | write hplaces value =>
      rw [run_write, run_write, hsame.writeFaults]
      split
      next => rfl
      next => rfl
  | update hbitwise hkept hview =>
      rw [run_update, run_update, hview, hview, Device.run_updateRegister,
        Device.run_updateRegister, hsame.readFaults, hsame.writeFaults]
      split
      next => rfl
      next => rfl
      next => rfl

theorem makesWrite_of_sameSetting {bus other : Bus} (hsame : bus.SameSetting other)
    (q : Request n) : q.makesWrite other = q.makesWrite bus := by
  cases q with
  | update r f view => rw [makesWrite, makesWrite, hsame.readFaults]
  | _ => rfl

theorem bitAfter_of_sameSetting {bus other : Bus} (hsame : bus.SameSetting other)
    (q : Request n) (address : Byte) (i : Fin 8) (level : Bool) :
    q.bitAfter other address i level = q.bitAfter bus address i level := by
  cases q with
  | write r value => rw [bitAfter, bitAfter, hsame.writeFaults]
  | update r f view => rw [bitAfter, bitAfter, hsame.readFaults, hsame.writeFaults]
  | _ => rfl

/-!
# Requests one after another
-/

def busAfter (bus : Bus) (qs : List (Request n)) : Bus :=
  qs.foldl (fun bus q => (q.program.run bus).bus) bus

theorem busAfter_cons (bus : Bus) (q : Request n) (qs : List (Request n)) :
    busAfter bus (q :: qs) = busAfter (q.program.run bus).bus qs := rfl

theorem sameSetting_busAfter (bus : Bus) (qs : List (Request n)) :
    bus.SameSetting (busAfter bus qs) := by
  induction qs generalizing bus with
  | nil => exact .refl bus
  | cons q qs ih => exact (q.program.sameSetting_run bus).trans (ih _)

theorem reads_busAfter (bus : Bus) (qs : List (Request n)) :
    (busAfter bus qs).reads = bus.reads + qs.countP makesRead := by
  induction qs generalizing bus with
  | nil => rfl
  | cons q qs ih =>
      rw [busAfter_cons, ih, reads_run, List.countP_cons, Nat.add_assoc, Nat.add_comm (ite _ _ _)]

theorem writes_busAfter (bus : Bus) (qs : List (Request n)) :
    (busAfter bus qs).writes = bus.writes + qs.countP (makesWrite bus) := by
  induction qs generalizing bus with
  | nil => rfl
  | cons q qs ih =>
      have hsame : makesWrite (n := n) (q.program.run bus).bus = makesWrite bus :=
        funext (makesWrite_of_sameSetting (q.program.sameSetting_run bus))
      rw [busAfter_cons, ih, writes_run, hsame, List.countP_cons, Nat.add_assoc,
        Nat.add_comm (ite _ _ _)]

theorem bit_busAfter {qs : List (Request n)}
    (hqs : forall q, q ∈ qs -> exists footprint, q.Changes footprint) (bus : Bus)
    (address : Byte) (i : Fin 8) :
    ((busAfter bus qs).registers.get address).bit i =
      qs.foldl (fun level q => q.bitAfter bus address i level)
        ((bus.registers.get address).bit i) := by
  induction qs generalizing bus with
  | nil => rfl
  | cons q qs ih =>
      -- `bitAfter` looks at the faults only, and they are still those of `bus`
      rcases hqs q List.mem_cons_self with ⟨footprint, hq⟩
      have hrest := ih (fun next hnext => hqs next (List.mem_cons_of_mem q hnext))
        (q.program.run bus).bus
      simp only [bitAfter_of_sameSetting (q.program.sameSetting_run bus), hq.bit_run] at hrest
      exact hrest

end Request
end CpldControl
