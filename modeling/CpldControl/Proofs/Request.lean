import CpldControl.Rack.Step

/-!
# What an action asks of the bus

Once its input has been checked, every action on a handle comes down to one of
five requests: an answer without a transaction, a refusal, a read, a write, or
the change of one byte.  The catalog alone takes more than one.

`program_eq` and `program_eq_of_request?` reduce the actions to their requests,
and the three `run` equations say what a request does on every bus.
-/

namespace CpldControl

open Chip (Cage Register Signal)
open Device (Attribute Error Update Value)
open Smbus (Bus)

def Device.IdentityField.shownAs : IdentityField -> Byte -> Value
  | codeVersion, b => .codeVersion b
  | codeKind, b => .codeKind b
  | codeDay, b => .decimalByte b
  | codeMonth, b => .decimalByte b
  | codeYear, b => .decimalByte b

theorem Device.IdentityField.shownAs_eq_value (field : IdentityField) (b : Byte) :
    field.shownAs b = field.value b := by
  cases field <;> rfl

inductive Request (n : Nat) where
  | reply (answer : Answer n)
  | refuse (e : Error)
  | read (r : Register) (view : Byte -> Answer n)
  | write (r : Register) (value : Byte)
  | update (r : Register) (f : Byte -> Byte) (view : Update -> Answer n)

namespace Request

variable {n : Nat}

def program : Request n -> BusProgram (Answer n)
  | reply answer => return answer
  | refuse e => return .refused e
  | read r view => Answer.ofResult view <$> (Device.readRegister r).run
  | write r value => Answer.ofResult (fun _ => .done) <$> (Device.writeRegister r value).run
  | update r f view => view <$> Device.updateRegister r f

def checked {α : Type} (input : Except Error α) (next : α -> Request n) : Request n :=
  match input with
  | .ok a => next a
  | .error e => refuse e

def readSignal (s : Signal) (answer : Bool -> Answer n) : Request n :=
  read s.register fun b => answer (s.levelIn b)

def driveSignal (s : Signal) (level : Bool) : Request n :=
  update s.register (fun b => s.driveIn b level) fun u =>
    Answer.ofResult (fun _ => .done) u.result

def writable (s : Signal) (next : Request n) : Request n :=
  if s.isWritable then next else refuse (.notWritable s.name)

def named (name : String) (next : Signal -> Request n) : Request n :=
  match Signal.find? name with
  | some s => next s
  | none => reply .noSignal

def readAttribute (device : Device) : Attribute -> Request n
  | .identity field =>
      match device.identity.get? field with
      | some b => reply (.value (field.shownAs b))
      | none => refuse .identityUnavailable
  | .scratch => read .scratch fun b => .value (.hexByte b)
  | .signal s => readSignal s fun level => .value (.level level)

def storeAttribute (text : String) : Attribute -> Request n
  | .identity field => refuse (.notWritable field.name)
  | .scratch => checked (Device.byteOfText .hexadecimal text) (write .scratch)
  | .signal s =>
      writable s <|
        checked (Device.byteOfText .decimal text) fun number =>
          checked (Device.levelOfNumber number.toNat) (driveSignal s)

end Request

def RegisterAction.request {n : Nat} : RegisterAction -> Request n
  | read r => .read r .byte
  | write r value => .write r value
  | modify r f => .update r f .update

def DeviceAction.request? {n : Nat} (device : Device) : DeviceAction -> Option (Request n)
  | identity => some (.reply (.identity device.identity))
  | bringUpFault => some (.reply (.bringUpFault device.bringUpFault))
  | readSignal name => some (.named name fun s => .readSignal s .level)
  | driveSignal name level => some (.named name fun s => .writable s (.driveSignal s level))
  | driveSignalNumber name number =>
      some (.named name fun s =>
        .writable s (.checked (Device.levelOfNumber number) (.driveSignal s)))
  | readCageLine cage line =>
      some (.checked (Device.cageOfNumber cage) fun c => .readSignal (.cageLine line c) .level)
  | driveCageLine cage line level =>
      some (.checked (Device.cageOfNumber cage) fun c =>
        .writable (.cageLine line c) (.driveSignal (.cageLine line c) level))
  | readScratch => some (.read .scratch .byte)
  | writeScratch value => some (.write .scratch value)
  | readAttribute name => some (.checked (Device.attributeOfName name) (.readAttribute device))
  | readCatalog => none
  | storeAttribute name text =>
      some (.checked (Device.attributeOfName name) (.storeAttribute text))


/-!
# Checked inputs
-/

namespace Device

theorem byteOfText_eq_ok_iff {radix : Text.Radix} {text : String} {b : Byte} :
    byteOfText radix text = .ok b ↔ Text.ByteLiteral.parse? radix text = some b := by
  unfold byteOfText
  cases Text.ByteLiteral.parse? radix text <;> simp

theorem eq_invalidInput_of_byteOfText {radix : Text.Radix} {text : String} {e : Error}
    (h : byteOfText radix text = .error e) : e = .invalidInput := by
  unfold byteOfText at h
  split at h
  · cases h
  · cases h
    rfl

theorem cageOfNumber_eq_ok_iff {number : Nat} {cage : Cage} :
    cageOfNumber number = .ok cage ↔ Cage.ofNumber? number = some cage := by
  unfold cageOfNumber
  cases Cage.ofNumber? number <;> simp

theorem eq_invalidInput_of_cageOfNumber {number : Nat} {e : Error}
    (h : cageOfNumber number = .error e) : e = .invalidInput := by
  unfold cageOfNumber at h
  split at h
  · cases h
  · cases h
    rfl

theorem attributeOfName_eq_ok_iff {name : String} {a : Attribute} :
    attributeOfName name = .ok a ↔ Attribute.find? name = some a := by
  unfold attributeOfName
  cases Attribute.find? name <;> simp

theorem eq_noSuchAttribute_of_attributeOfName {name : String} {e : Error}
    (h : attributeOfName name = .error e) : e = .noSuchAttribute := by
  unfold attributeOfName at h
  split at h
  · cases h
  · cases h
    rfl

theorem levelOfNumber_eq_ok_iff {number : Nat} {level : Bool} :
    levelOfNumber number = .ok level ↔ number ≤ 1 ∧ level = decide (number = 1) := by
  match number with
  | 0 => simp [levelOfNumber, eq_comm]
  | 1 => simp [levelOfNumber, eq_comm]
  | n + 2 => simp [levelOfNumber]

end Device

/-!
# Answers of operations

How the answer to an operation follows the way the operation is put together.
-/

namespace Answer

variable {n : Nat} {α β : Type}

theorem ofResult_map_run (f : β -> Answer n) (g : α -> β) (operation : DeviceM α) :
    ofResult f <$> (g <$> operation).run = ofResult (fun a => f (g a)) <$> operation.run := by
  rw [ExceptT.run_map, ← comp_map]
  congr 1
  funext result
  cases result with
  | ok a => rfl
  | error e => rfl

theorem ofResult_run_throw (f : α -> Answer n) (e : Error) :
    ofResult f <$> (throw e : DeviceM α).run = pure (.refused e) := by
  rw [ExceptT.run_throw, map_pure]
  rfl

theorem ofResult_run_ofExcept_bind (f : β -> Answer n) (input : Except Error α)
    (next : α -> DeviceM β) :
    ofResult f <$> (MonadExcept.ofExcept input >>= next : DeviceM β).run =
      match input with
      | .ok a => ofResult f <$> (next a).run
      | .error e => pure (.refused e) := by
  cases input with
  | ok a => rfl
  | error e => rfl

end Answer

/-!
# Programs are requests
-/

namespace Request

variable {n : Nat} {α : Type}

theorem program_readSignal (s : Signal) (answer : Bool -> Answer n) :
    Answer.ofResult answer <$> (Device.readSignal s).run = (readSignal s answer).program := by
  rw [Device.readSignal_eq, Answer.ofResult_map_run]
  rfl

theorem program_driveSignal {s : Signal} (hwritable : s.isWritable = true) (level : Bool) :
    Answer.ofResult (fun _ => .done) <$> (Device.driveSignal s level).run =
      (driveSignal s level : Request n).program := by
  have hdiscard (operation : DeviceM Byte) :
      discard operation = (fun _ => ()) <$> operation := rfl
  rw [Device.driveSignal_of_isWritable hwritable, hdiscard, Answer.ofResult_map_run]
  unfold Device.modifyRegister
  rw [ExceptT.run_mk, ← comp_map]
  rfl

theorem program_writable (s : Signal) {operation : DeviceM Unit} {next : Request n}
    (hnext : s.isWritable = true ->
      Answer.ofResult (fun _ => .done) <$> operation.run = next.program)
    (hrefused : s.isWritable = false -> operation = throw (.notWritable s.name)) :
    Answer.ofResult (fun _ => .done) <$> operation.run = (writable s next).program := by
  unfold writable
  cases hwritable : s.isWritable with
  | true => exact hnext hwritable
  | false =>
      rw [hrefused hwritable, Answer.ofResult_run_throw]
      rfl

theorem program_checked {β : Type} (f : β -> Answer n) (input : Except Error α)
    {operation : α -> DeviceM β} {next : α -> Request n}
    (hnext : forall a, Answer.ofResult f <$> (operation a).run = (next a).program) :
    Answer.ofResult f <$> (MonadExcept.ofExcept input >>= operation : DeviceM β).run =
      (checked input next).program := by
  rw [Answer.ofResult_run_ofExcept_bind]
  cases input with
  | ok a => exact hnext a
  | error e => rfl

theorem program_named (name : String) {operation : Signal -> BusProgram (Answer n)}
    {next : Signal -> Request n} (hnext : forall s, operation s = (next s).program) :
    DeviceAction.onSignal name operation = (named name next).program := by
  unfold DeviceAction.onSignal named
  cases Signal.find? name with
  | some s => exact hnext s
  | none => rfl

theorem program_driveWritable (s : Signal) (level : Bool) :
    Answer.ofResult (fun _ => .done) <$> (Device.driveSignal s level).run =
      (writable s (driveSignal s level) : Request n).program :=
  program_writable s (fun h => program_driveSignal h level)
    (fun h => Device.driveSignal_of_not_isWritable h level)

theorem program_driveSignalNumber (s : Signal) (number : Nat) :
    Answer.ofResult (fun _ => .done) <$> (Device.driveSignalNumber s number).run =
      (writable s (checked (Device.levelOfNumber number) (driveSignal s)) : Request n).program := by
  apply program_writable s
  · intro hwritable
    unfold Device.driveSignalNumber
    rw [if_pos hwritable]
    exact program_checked _ _ fun level => program_driveSignal hwritable level
  · intro hwritable
    exact Device.driveSignalNumber_of_not_isWritable hwritable number

theorem program_readAttribute (device : Device) (a : Attribute) :
    Answer.ofResult .value <$> (device.readAttribute a).run =
      (readAttribute device a : Request n).program := by
  cases a with
  | identity field =>
      simp only [Device.readAttribute, readAttribute, field.shownAs_eq_value]
      cases device.identity.get? field with
      | some b => rfl
      | none => rfl
  | scratch =>
      exact Answer.ofResult_map_run _ _ _
  | signal s =>
      unfold Device.readAttribute
      rw [Answer.ofResult_map_run]
      exact program_readSignal s _

theorem program_storeAttribute (a : Attribute) (text : String) :
    Answer.ofResult (fun _ => .done) <$> (Device.storeAttribute a text).run =
      (storeAttribute text a : Request n).program := by
  cases a with
  | identity field => rfl
  | scratch => exact program_checked _ _ fun value => rfl
  | signal s =>
      apply program_writable s
      · intro hwritable
        simp only [Device.storeAttribute, if_pos hwritable]
        apply program_checked
        intro number
        apply program_checked
        intro level
        exact program_driveSignal hwritable level
      · intro hwritable
        simp [Device.storeAttribute, hwritable]

end Request

theorem RegisterAction.program_eq {n : Nat} (action : RegisterAction) :
    action.program = (action.request : Request n).program := by
  cases action with
  | read r => rfl
  | write r value => rfl
  | modify r f => rfl

theorem DeviceAction.program_eq_of_request? {n : Nat} {device : Device}
    {action : DeviceAction} {q : Request n} (h : action.request? device = some q) :
    action.program device = q.program := by
  cases action with
  | readCatalog => cases h
  | identity => cases h; rfl
  | bringUpFault => cases h; rfl
  | readSignal name =>
      cases h
      exact Request.program_named name fun s => Request.program_readSignal s _
  | driveSignal name level =>
      cases h
      exact Request.program_named name fun s => Request.program_driveWritable s level
  | driveSignalNumber name number =>
      cases h
      exact Request.program_named name fun s => Request.program_driveSignalNumber s number
  | readCageLine cage line =>
      cases h
      simp only [program, Device.readCageLine_eq]
      exact Request.program_checked _ _ fun c => Request.program_readSignal _ _
  | driveCageLine cage line level =>
      cases h
      simp only [program, Device.driveCageLine_eq]
      exact Request.program_checked _ _ fun c => Request.program_driveWritable _ level
  | readScratch => cases h; rfl
  | writeScratch value => cases h; rfl
  | readAttribute name =>
      cases h
      exact Request.program_checked _ _ fun a => Request.program_readAttribute device a
  | storeAttribute name text =>
      cases h
      exact Request.program_checked _ _ fun a => Request.program_storeAttribute a text

theorem DeviceAction.eq_readCatalog_of_request? {n : Nat} {device : Device}
    {action : DeviceAction} (h : action.request? (n := n) device = none) :
    action = .readCatalog := by
  cases action with
  | readCatalog => rfl
  | _ => cases h

/-!
# What a request does
-/

namespace Request

variable {n : Nat}

theorem run_read (r : Register) (view : Byte -> Answer n) (bus : Bus) :
    (read r view).program.run bus =
      match bus.readFaults.get r.address with
      | none =>
          { value := view (bus.registers.get r.address)
            bus := bus.afterRead
            transactions := [.read r.address (bus.registers.get r.address)]
            events := [.registerRead r (bus.registers.get r.address)] }
      | some fault =>
          { value := .refused (.busFault r .read fault)
            bus := bus.afterRead
            transactions := [.readFailed r.address fault]
            events := [.readFailed r fault] } := by
  have hread := Device.perform_readRegister r bus
  unfold DeviceM.perform at hread
  unfold program
  rw [BusProgram.run_map, hread]
  cases bus.readFaults.get r.address with
  | none => rfl
  | some fault => rfl

theorem run_write (r : Register) (value : Byte) (bus : Bus) :
    (write r value : Request n).program.run bus =
      match bus.writeFaults.get r.address with
      | none =>
          { value := .done
            bus := bus.afterWrite r.address value
            transactions := [.write r.address value]
            events := [.registerWritten r value] }
      | some fault =>
          { value := .refused (.busFault r .write fault)
            bus := bus.afterWrite r.address value
            transactions := [.writeFailed r.address value fault]
            events := [.writeFailed r value fault] } := by
  have hwrite := Device.perform_writeRegister r value bus
  unfold DeviceM.perform at hwrite
  unfold program
  rw [BusProgram.run_map, hwrite]
  cases bus.writeFaults.get r.address with
  | none => rfl
  | some fault => rfl

theorem run_update (r : Register) (f : Byte -> Byte) (view : Update -> Answer n) (bus : Bus) :
    (update r f view).program.run bus =
      { (Device.updateRegister r f).run bus with
        value := view ((Device.updateRegister r f).run bus).value } :=
  BusProgram.run_map view (Device.updateRegister r f) bus

theorem transactions_read (r : Register) (view : Byte -> Answer n) (bus : Bus) :
    ((read r view).program.run bus).transactions =
      [.ofRead r.address (bus.readResult r.address)] := by
  rw [run_read, Bus.readResult]
  cases bus.readFaults.get r.address with
  | none => rfl
  | some fault => rfl

theorem transactions_write (r : Register) (value : Byte) (bus : Bus) :
    ((write r value : Request n).program.run bus).transactions =
      [.ofWrite r.address value (bus.writeResult r.address)] := by
  rw [run_write, Bus.writeResult]
  cases bus.writeFaults.get r.address with
  | none => rfl
  | some fault => rfl

theorem transactions_update (r : Register) (f : Byte -> Byte) (view : Update -> Answer n)
    (bus : Bus) :
    ((update r f view).program.run bus).transactions =
      match bus.readFaults.get r.address with
      | some fault => [.readFailed r.address fault]
      | none =>
          let current := bus.registers.get r.address
          [ .read r.address current,
            .ofWrite r.address (f current) (bus.writeResult r.address) ] := by
  rw [run_update, Device.run_updateRegister, Bus.writeResult]
  cases bus.readFaults.get r.address with
  | some fault => rfl
  | none =>
      cases bus.writeFaults.get r.address with
      | none => rfl
      | some fault => rfl

end Request
end CpldControl
