import CpldControl.Proofs.BusHistory
import CpldControl.Proofs.Request

/-!
# Requests that fail

A request fails by its input, before any transaction, or by the fault installed
where it goes.  In either case the bus differs in its counters only.

The main statements are `error_exact`, for a request that answers an error, and
`isOk_iff`, for a request that goes to a register.  Both are about requests whose
answers are no errors of their own, as those of all actions are.
-/

namespace CpldControl

open Chip (Register Signal)
open Device (Attribute Error)
open Smbus (Bus Direction Transaction)

/-!
# Buses that differ in their counters
-/

namespace Smbus

structure Bus.OnlyCounted (before after : Bus) : Prop where
  adapter : after.adapter = before.adapter
  registers : after.registers = before.registers
  readFaults : after.readFaults = before.readFaults
  writeFaults : after.writeFaults = before.writeFaults
  reads : before.reads ≤ after.reads
  writes : before.writes ≤ after.writes

namespace Bus.OnlyCounted

theorem refl (bus : Bus) : bus.OnlyCounted bus :=
  ⟨rfl, rfl, rfl, rfl, Nat.le_refl _, Nat.le_refl _⟩

theorem trans {first second third : Bus} (h : first.OnlyCounted second)
    (h' : second.OnlyCounted third) : first.OnlyCounted third where
  adapter := h'.adapter.trans h.adapter
  registers := h'.registers.trans h.registers
  readFaults := h'.readFaults.trans h.readFaults
  writeFaults := h'.writeFaults.trans h.writeFaults
  reads := Nat.le_trans h.reads h'.reads
  writes := Nat.le_trans h.writes h'.writes

theorem afterRead (bus : Bus) : bus.OnlyCounted bus.afterRead :=
  ⟨rfl, rfl, rfl, rfl, Nat.le_succ _, Nat.le_refl _⟩

theorem afterWrite {bus : Bus} {address value : Byte} {fault : Fault}
    (h : bus.writeFaults.get address = some fault) :
    bus.OnlyCounted (bus.afterWrite address value) := by
  rw [Bus.afterWrite_of_fault h]
  exact ⟨rfl, rfl, rfl, rfl, Nat.le_refl _, Nat.le_succ _⟩

end Bus.OnlyCounted
end Smbus

/-!
# Errors and the transactions behind them
-/

/-- The error fits the transactions: it is a refusal and there are none, or it
names the last of them, the only one that failed. -/
inductive Device.Error.Explains : Error -> List Transaction -> Prop where
  | refusal {e : Error} (hcause : e.cause? = none) : Explains e []
  | fault {r : Register} {d : Direction} {f : Smbus.Fault} {t : Transaction}
      (earlier : List Transaction) (hearlier : forall s, s ∈ earlier -> s.fault? = none)
      (haddress : t.address = r.address) (hdirection : t.direction = d)
      (hfault : t.fault? = some f) :
      Explains (.busFault r d f) (earlier ++ [t])

namespace Answer

variable {n : Nat}

def isOk : Answer n -> Bool
  | noHandle => false
  | notDevice => false
  | noSignal => false
  | busFault _ => false
  | refused _ => false
  | probeRefused _ _ => false
  | update u => (Device.errorOf? u.result).isNone
  | _ => true

theorem error?_of_isOk {answer : Answer n} (h : answer.isOk = true) :
    answer.error? = none := by
  cases answer with
  | update u => exact Option.isNone_iff_eq_none.mp h
  | refused e => cases h
  | probeRefused b e => cases h
  | _ => rfl

end Answer

namespace Request

variable {n : Nat}

/-- The answers of a request are no errors of their own: what fails is the input
or a transaction. -/
def WellFormed : Request n -> Prop
  | reply answer => answer.error? = none
  | refuse e => e.cause? = none
  | read _ view => forall b, (view b).isOk = true
  | write _ _ => True
  | update _ _ view => forall u,
      (view u).error? = Device.errorOf? u.result ∧
      (view u).isOk = (Device.errorOf? u.result).isNone

def uses? : Request n -> Option (Register × List Direction)
  | reply _ => none
  | refuse _ => none
  | read r _ => some (r, [.read])
  | write r _ => some (r, [.write])
  | update r _ _ => some (r, [.read, .write])

theorem error_exact {q : Request n} (hq : q.WellFormed) {bus : Bus} {e : Error}
    (he : (q.program.run bus).value.error? = some e) :
    bus.OnlyCounted (q.program.run bus).bus ∧ e.Explains (q.program.run bus).transactions := by
  cases q with
  | reply answer =>
      change answer.error? = some e at he
      rw [hq] at he
      cases he
  | refuse e' =>
      cases he
      exact ⟨Bus.OnlyCounted.refl bus, .refusal hq⟩
  | read r view =>
      rw [run_read] at he ⊢
      cases hfault : bus.readFaults.get r.address with
      | none =>
          simp only [hfault] at he
          rw [Answer.error?_of_isOk (hq _)] at he
          cases he
      | some fault =>
          simp only [hfault] at he ⊢
          cases he
          exact ⟨Bus.OnlyCounted.afterRead bus, .fault [] (by simp) rfl rfl rfl⟩
  | write r value =>
      rw [run_write] at he ⊢
      cases hfault : bus.writeFaults.get r.address with
      | none =>
          simp only [hfault] at he
          cases he
      | some fault =>
          simp only [hfault] at he ⊢
          cases he
          exact ⟨Bus.OnlyCounted.afterWrite hfault, .fault [] (by simp) rfl rfl rfl⟩
  | update r f view =>
      rw [run_update, Device.run_updateRegister] at he ⊢
      cases hread : bus.readFaults.get r.address with
      | some fault =>
          simp only [hread, (hq _).1] at he ⊢
          cases he
          exact ⟨Bus.OnlyCounted.afterRead bus, .fault [] (by simp) rfl rfl rfl⟩
      | none =>
          cases hwrite : bus.writeFaults.get r.address with
          | none =>
              simp only [hread, hwrite, (hq _).1] at he
              cases he
          | some fault =>
              simp only [hread, hwrite, (hq _).1] at he ⊢
              cases he
              constructor
              · exact (Bus.OnlyCounted.afterRead bus).trans (Bus.OnlyCounted.afterWrite hwrite)
              · exact .fault [.read r.address _] (by simp [Transaction.fault?]) rfl rfl rfl

theorem isOk_iff {q : Request n} (hq : q.WellFormed) {r : Register} {ds : List Direction}
    (huses : q.uses? = some (r, ds)) (bus : Bus) :
    (q.program.run bus).value.isOk = true ↔
      forall d, d ∈ ds -> bus.fault? d r.address = none := by
  cases q with
  | reply answer => cases huses
  | refuse e => cases huses
  | read r view =>
      cases huses
      rw [run_read]
      cases hfault : bus.readFaults.get r.address with
      | none => simp [Bus.fault?, hfault, hq _]
      | some fault => simp [Bus.fault?, hfault, Answer.isOk]
  | write r value =>
      cases huses
      rw [run_write]
      cases hfault : bus.writeFaults.get r.address with
      | none => simp [Bus.fault?, hfault, Answer.isOk]
      | some fault => simp [Bus.fault?, hfault, Answer.isOk]
  | update r f view =>
      cases huses
      rw [run_update, Device.run_updateRegister]
      simp only [(hq _).2]
      cases hread : bus.readFaults.get r.address with
      | some fault => simp [Bus.fault?, hread, Device.errorOf?]
      | none =>
          cases hwrite : bus.writeFaults.get r.address with
          | none => simp [Bus.fault?, hread, hwrite, Device.errorOf?]
          | some fault => simp [Bus.fault?, hread, hwrite, Device.errorOf?]

/-!
# The requests of the actions are well formed
-/

theorem wellFormed_checked {α : Type} {input : Except Error α} {next : α -> Request n}
    (hinput : forall e, input = .error e -> e.cause? = none)
    (hnext : forall a, (next a).WellFormed) : (checked input next).WellFormed := by
  cases input with
  | ok a => exact hnext a
  | error e => exact hinput e rfl

theorem wellFormed_named {name : String} {next : Signal -> Request n}
    (hnext : forall s, (next s).WellFormed) : (named name next).WellFormed := by
  unfold named
  cases Signal.find? name with
  | some s => exact hnext s
  | none => rfl

theorem wellFormed_writable {s : Signal} {next : Request n} (hnext : next.WellFormed) :
    (writable s next).WellFormed := by
  unfold writable
  cases s.isWritable with
  | true => exact hnext
  | false => rfl

theorem wellFormed_driveSignal (s : Signal) (level : Bool) :
    (driveSignal s level : Request n).WellFormed := by
  rintro ⟨seen, result⟩
  cases result with
  | ok b => exact ⟨rfl, rfl⟩
  | error e => exact ⟨rfl, rfl⟩

theorem cause?_of_levelOfNumber {number : Nat} {e : Error}
    (h : Device.levelOfNumber number = .error e) : e.cause? = none := by
  rw [(Device.levelOfNumber_eq_error_iff.mp h).2]
  rfl

theorem cause?_of_byteOfText {radix : Text.Radix} {text : String} {e : Error}
    (h : Device.byteOfText radix text = .error e) : e.cause? = none := by
  rw [Device.eq_invalidInput_of_byteOfText h]
  rfl

theorem cause?_of_cageOfNumber {number : Nat} {e : Error}
    (h : Device.cageOfNumber number = .error e) : e.cause? = none := by
  rw [Device.eq_invalidInput_of_cageOfNumber h]
  rfl

theorem cause?_of_attributeOfName {name : String} {e : Error}
    (h : Device.attributeOfName name = .error e) : e.cause? = none := by
  rw [Device.eq_noSuchAttribute_of_attributeOfName h]
  rfl

theorem wellFormed_readAttribute (device : Device) (a : Attribute) :
    (readAttribute device a : Request n).WellFormed := by
  cases a with
  | identity field =>
      simp only [readAttribute]
      cases device.identity.get? field with
      | some b => rfl
      | none => rfl
  | scratch =>
      intro b
      rfl
  | signal s =>
      intro b
      rfl

theorem wellFormed_storeAttribute (text : String) (a : Attribute) :
    (storeAttribute text a : Request n).WellFormed := by
  cases a with
  | identity field => rfl
  | scratch =>
      apply wellFormed_checked
      · intro e
        exact cause?_of_byteOfText
      · intro b
        trivial
  | signal s =>
      apply wellFormed_writable
      apply wellFormed_checked
      · intro e
        exact cause?_of_byteOfText
      · intro number
        apply wellFormed_checked
        · intro e
          exact cause?_of_levelOfNumber
        · exact wellFormed_driveSignal s

end Request

theorem RegisterAction.wellFormed_request {n : Nat} (action : RegisterAction) :
    (action.request : Request n).WellFormed := by
  cases action with
  | read r =>
      intro b
      rfl
  | write r value => trivial
  | modify r f =>
      intro u
      exact ⟨rfl, rfl⟩

theorem DeviceAction.wellFormed_of_request? {n : Nat} {device : Device}
    {action : DeviceAction} {q : Request n} (h : action.request? device = some q) :
    q.WellFormed := by
  cases action with
  | readCatalog => cases h
  | identity => cases h; rfl
  | bringUpFault => cases h; rfl
  | readSignal name =>
      cases h
      exact Request.wellFormed_named fun s b => rfl
  | driveSignal name level =>
      cases h
      apply Request.wellFormed_named
      intro s
      exact Request.wellFormed_writable (Request.wellFormed_driveSignal s level)
  | driveSignalNumber name number =>
      cases h
      apply Request.wellFormed_named
      intro s
      apply Request.wellFormed_writable
      exact Request.wellFormed_checked (fun e => Request.cause?_of_levelOfNumber)
        (Request.wellFormed_driveSignal s)
  | readCageLine cage line =>
      cases h
      exact Request.wellFormed_checked (fun e => Request.cause?_of_cageOfNumber) fun c b => rfl
  | driveCageLine cage line level =>
      cases h
      apply Request.wellFormed_checked (fun e => Request.cause?_of_cageOfNumber)
      intro c
      exact Request.wellFormed_writable (Request.wellFormed_driveSignal _ level)
  | readScratch =>
      cases h
      intro b
      rfl
  | writeScratch value => cases h; trivial
  | readAttribute name =>
      cases h
      exact Request.wellFormed_checked (fun e => Request.cause?_of_attributeOfName)
        (Request.wellFormed_readAttribute device)
  | storeAttribute name text =>
      cases h
      exact Request.wellFormed_checked (fun e => Request.cause?_of_attributeOfName)
        (Request.wellFormed_storeAttribute text)

end CpldControl
