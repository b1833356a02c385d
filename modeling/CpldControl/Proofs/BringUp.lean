import CpldControl.Proofs.Transcript

/-!
# Bring-up under any faults

Bring-up makes its ten transactions whatever fails.  Each of them ends as the
faults of its register demand, since neither a read nor a write moves a fault, so
the outcome of all ten can be told from the bus that bring-up starts on.

`run_bringUp` says what bring-up does on every bus, and the main statement is
`probe_brings_up`, what comes of it for the rack.
-/

namespace CpldControl

open Chip (Field Register)
open Device (Error IdentityField)
open Smbus (Bus Fault Transaction)

/-!
# Writes in a row

A register keeps its byte if all writes to it fail or there are none, and otherwise
comes to hold the byte that they carry.
-/

namespace Smbus.Bus

def afterWrites (bus : Bus) (entries : List (Register × Byte)) : Bus :=
  entries.foldl (fun bus entry => bus.afterWrite entry.1.address entry.2) bus

theorem afterWrites_cons (bus : Bus) (entry : Register × Byte)
    (rest : List (Register × Byte)) :
    bus.afterWrites (entry :: rest) =
      (bus.afterWrite entry.1.address entry.2).afterWrites rest := rfl

theorem get_afterWrites_of_not_written {bus : Bus} {entries : List (Register × Byte)}
    {address : Byte}
    (h : forall entry, entry ∈ entries -> entry.1.address = address ->
      bus.writeFaults.get address ≠ none) :
    (bus.afterWrites entries).registers.get address = bus.registers.get address := by
  induction entries generalizing bus with
  | nil => rfl
  | cons entry rest ih =>
      have hfirst : ¬ (address = entry.1.address ∧
          bus.writeFaults.get entry.1.address = none) := by
        rintro ⟨rfl, hnone⟩
        exact h entry List.mem_cons_self rfl hnone
      rw [afterWrites_cons, ih, get_afterWrite, if_neg hfirst]
      intro e he
      rw [writeFaults_afterWrite]
      exact h e (List.mem_cons_of_mem entry he)

theorem get_afterWrites_of_held {bus : Bus} {entries : List (Register × Byte)}
    {address value : Byte} (hheld : bus.registers.get address = value)
    (hsame : forall entry, entry ∈ entries -> entry.1.address = address -> entry.2 = value) :
    (bus.afterWrites entries).registers.get address = value := by
  induction entries generalizing bus with
  | nil => exact hheld
  | cons entry rest ih =>
      rw [afterWrites_cons]
      apply ih
      · rw [get_afterWrite]
        split
        next hwritten => exact hsame entry List.mem_cons_self hwritten.1.symm
        next => exact hheld
      · intro e he
        exact hsame e (List.mem_cons_of_mem entry he)

theorem get_afterWrites_of_mem {bus : Bus} {entries : List (Register × Byte)}
    {entry : Register × Byte} (hmem : entry ∈ entries)
    (hfault : bus.writeFaults.get entry.1.address = none)
    (hsame : forall e, e ∈ entries -> e.1.address = entry.1.address -> e.2 = entry.2) :
    (bus.afterWrites entries).registers.get entry.1.address = entry.2 := by
  induction entries generalizing bus with
  | nil => cases hmem
  | cons first rest ih =>
      have hrest : forall e, e ∈ rest -> e.1.address = entry.1.address -> e.2 = entry.2 :=
        fun e he => hsame e (List.mem_cons_of_mem first he)
      rw [afterWrites_cons]
      rcases List.mem_cons.mp hmem with rfl | hlater
      · apply get_afterWrites_of_held _ hrest
        rw [get_afterWrite, if_pos ⟨rfl, hfault⟩]
      · apply ih hlater _ hrest
        rw [writeFaults_afterWrite]
        exact hfault

end Smbus.Bus

/-!
# The identity and the registers it is read from
-/

namespace Device

namespace IdentityField

def register : IdentityField -> Register
  | codeVersion => .codeRevision
  | codeKind => .codeRevision
  | codeDay => .codeDay
  | codeMonth => .codeMonth
  | codeYear => .codeYear

/-- What a field takes from the byte of its register: the version is the low six
bits, the kind is bit 7, and each part of the date is a byte of its own. -/
def part : IdentityField -> Byte -> Byte
  | codeVersion, b => (b.extractLsb' 0 6).setWidth 8
  | codeKind, b => (b.extractLsb' 7 1).setWidth 8
  | codeDay, b => b
  | codeMonth, b => b
  | codeYear, b => b

end IdentityField

def identityRegisters : List Register :=
  [.codeRevision, .codeDay, .codeMonth, .codeYear]

theorem IdentityField.register_mem (field : IdentityField) :
    field.register ∈ identityRegisters := by
  cases field <;> decide

theorem exists_field_of_mem {r : Register} (h : r ∈ identityRegisters) :
    exists field : IdentityField, field.register = r := by
  simp only [identityRegisters, List.mem_cons, List.not_mem_nil, or_false] at h
  rcases h with rfl | rfl | rfl | rfl
  · exact ⟨.codeVersion, rfl⟩
  · exact ⟨.codeDay, rfl⟩
  · exact ⟨.codeMonth, rfl⟩
  · exact ⟨.codeYear, rfl⟩

def identityOn (bus : Bus) : Identity :=
  .ofRegisters
    (bus.readResult Register.codeRevision.address).toOption
    (bus.readResult Register.codeDay.address).toOption
    (bus.readResult Register.codeMonth.address).toOption
    (bus.readResult Register.codeYear.address).toOption

theorem get?_identityOn (bus : Bus) (field : IdentityField) :
    (identityOn bus).get? field =
      (bus.readResult field.register.address).toOption.map field.part := by
  cases field with
  | codeVersion =>
      show Option.map Chip.Layout.codeVersion.read _ = _
      congr 1
      funext b
      exact Field.read_eq_extractLsb' _ b
  | codeKind =>
      show Option.map Chip.Layout.codeKind.read _ = _
      congr 1
      funext b
      exact Field.read_eq_extractLsb' _ b
  | codeDay => exact Option.map_id'.symm
  | codeMonth => exact Option.map_id'.symm
  | codeYear => exact Option.map_id'.symm

/-!
# The registers that are forced
-/

/-- The registers that bring-up writes, in order and each with its byte: every cage is held
in reset, taken out of low power mode and deselected. -/
def forcedRegisters : List (Register × Byte) :=
  [ (.cageLines .reset .low, 0xFF),
    (.cageLines .reset .high, 0xFF),
    (.cageLines .lowPower .low, 0x00),
    (.cageLines .lowPower .high, 0x00),
    (.cageLines .select .low, 0x00),
    (.cageLines .select .high, 0x00) ]

theorem baseline_eq_forcedRegisters : Register.baseline = forcedRegisters := rfl

/-!
# The steps of bring-up

A step that succeeds is logged as a transaction and once more as a step of bring-up,
one that fails only as a transaction.
-/

def identityEvents (r : Register) : Except Fault Byte -> List Log.Event
  | .ok value => [.registerRead r value, .identityRead r value]
  | .error fault => [.readFailed r fault]

def baselineEvents (r : Register) (value : Byte) : Except Fault Unit -> List Log.Event
  | .ok () => [.registerWritten r value, .baselineWritten r value]
  | .error fault => [.writeFailed r value fault]

theorem run_readIdentity (r : Register) (bus : Bus) :
    BusProgram.run (readIdentity r).run bus =
      { value := (bus.readResult r.address).mapError (.busFault r .read)
        bus := bus.afterRead
        transactions := [.ofRead r.address (bus.readResult r.address)]
        events := identityEvents r (bus.readResult r.address) } := by
  change (readIdentity r).perform bus = _
  unfold readIdentity
  rw [DeviceM.perform_bind, perform_readRegister]
  cases h : bus.readFaults.get r.address with
  | none =>
      rw [Bus.readResult_of_no_fault h]
      rfl
  | some fault =>
      rw [Bus.readResult_of_fault h]
      rfl

theorem run_writeBaseline (r : Register) (value : Byte) (bus : Bus) :
    BusProgram.run (writeBaseline r value).run bus =
      { value := (bus.writeResult r.address).mapError (.busFault r .write)
        bus := bus.afterWrite r.address value
        transactions := [.ofWrite r.address value (bus.writeResult r.address)]
        events := baselineEvents r value (bus.writeResult r.address) } := by
  change (writeBaseline r value).perform bus = _
  unfold writeBaseline
  rw [DeviceM.perform_bind, perform_writeRegister]
  cases h : bus.writeFaults.get r.address with
  | none =>
      rw [Bus.writeResult_of_no_fault h]
      rfl
  | some fault =>
      rw [Bus.writeResult_of_fault h]
      rfl

theorem run_mapM_writeBaseline (entries : List (Register × Byte)) (bus : Bus) :
    (entries.mapM fun entry => (writeBaseline entry.1 entry.2).run).run bus =
      { value := entries.map fun entry =>
          (bus.writeResult entry.1.address).mapError (.busFault entry.1 .write)
        bus := bus.afterWrites entries
        transactions := entries.map fun entry =>
          .ofWrite entry.1.address entry.2 (bus.writeResult entry.1.address)
        events := entries.flatMap fun entry =>
          baselineEvents entry.1 entry.2 (bus.writeResult entry.1.address) } := by
  induction entries generalizing bus with
  | nil => rfl
  | cons entry rest ih =>
      rw [List.mapM_cons, BusProgram.run_bind, run_writeBaseline]
      simp only [Outcome.andThen, BusProgram.run_bind, ih, Bus.writeResult_afterWrite,
        BusProgram.run_pure, List.append_nil]
      rfl

/-!
# The transactions of bring-up

Each is kept with the register it was meant for, which its error has to name.
-/

abbrev Access := Register × Transaction

namespace Access

def read (bus : Bus) (r : Register) : Access :=
  (r, .ofRead r.address (bus.readResult r.address))

def write (bus : Bus) (entry : Register × Byte) : Access :=
  (entry.1, .ofWrite entry.1.address entry.2 (bus.writeResult entry.1.address))

def error? (a : Access) : Option Error :=
  a.2.fault?.map (.busFault a.1 a.2.direction)

theorem error?_read (bus : Bus) (r : Register) :
    (read bus r).error? = errorOf? ((bus.readResult r.address).mapError (.busFault r .read)) := by
  unfold read error?
  cases bus.readResult r.address with
  | ok value => rfl
  | error fault => rfl

theorem error?_write (bus : Bus) (entry : Register × Byte) :
    (write bus entry).error? =
      errorOf? ((bus.writeResult entry.1.address).mapError (.busFault entry.1 .write)) := by
  unfold write error?
  cases bus.writeResult entry.1.address with
  | ok value => rfl
  | error fault => rfl

theorem error?_read_eq_map (bus : Bus) (r : Register) :
    (read bus r).error? = (bus.readFaults.get r.address).map (.busFault r .read) := by
  unfold read error?
  cases h : bus.readFaults.get r.address with
  | none =>
      rw [Bus.readResult_of_no_fault h]
      rfl
  | some fault =>
      rw [Bus.readResult_of_fault h]
      rfl

theorem direction_of_error?_write {bus : Bus} {entry : Register × Byte} {r : Register}
    {d : Smbus.Direction} {fault : Fault}
    (h : (write bus entry).error? = some (.busFault r d fault)) : d = .write := by
  rcases Option.map_eq_some_iff.mp h with ⟨fault', _, herror⟩
  cases herror
  exact Transaction.direction_ofWrite _ _ _

end Access

def bringUpAccesses (bus : Bus) : List Access :=
  identityRegisters.map (.read bus) ++ forcedRegisters.map (.write bus)

theorem map_error?_bringUpAccesses (bus : Bus) :
    (bringUpAccesses bus).map Access.error? =
      (identityRegisters.map fun r =>
        errorOf? ((bus.readResult r.address).mapError (.busFault r .read))) ++
      forcedRegisters.map fun entry =>
        errorOf? ((bus.writeResult entry.1.address).mapError (.busFault entry.1 .write)) := by
  simp only [bringUpAccesses, List.map_append, List.map_map, Function.comp_def,
    Access.error?_read, Access.error?_write]

theorem toOption_mapError {ε ε' α : Type} (f : ε -> ε') (result : Except ε α) :
    (result.mapError f).toOption = result.toOption := by
  cases result <;> rfl

def afterBringUp (bus : Bus) : Bus :=
  bus.afterRead.afterRead.afterRead.afterRead.afterWrites forcedRegisters

theorem run_bringUp (bus : Bus) :
    bringUp.run bus =
      { value :=
          { identity := identityOn bus
            bringUpFault := (bringUpAccesses bus).findSome? Access.error? }
        bus := afterBringUp bus
        transactions := (bringUpAccesses bus).map Prod.snd
        events :=
          .chipFound ::
            (identityRegisters.flatMap fun r =>
              identityEvents r (bus.readResult r.address)) ++
            .identityCaptured (identityOn bus) ::
            forcedRegisters.flatMap fun entry =>
              baselineEvents entry.1 entry.2 (bus.writeResult entry.1.address) } := by
  have hfault : ((bringUpAccesses bus).map Access.error?).findSome? id =
      (bringUpAccesses bus).findSome? Access.error? := List.findSome?_map
  rw [map_error?_bringUpAccesses] at hfault
  unfold bringUp
  simp only [baseline_eq_forcedRegisters, BusProgram.run_bind, BusProgram.run_record,
    run_readIdentity, run_mapM_writeBaseline, BusProgram.run_pure, Outcome.andThen,
    Bus.readResult_afterRead, Bus.writeResult_afterRead, toOption_mapError, List.map_map]
  rw [← hfault]
  simp only [identityRegisters, identityOn, List.flatMap_cons, List.flatMap_nil,
    List.cons_append, List.nil_append, List.append_nil, List.append_assoc]
  rfl

/-!
# The registers after bring-up
-/

theorem forced_value_unique {entry other : Register × Byte}
    (hentry : entry ∈ forcedRegisters) (hother : other ∈ forcedRegisters)
    (h : other.1.address = entry.1.address) : other.2 = entry.2 := by
  have hall : forall e, e ∈ forcedRegisters -> forall o, o ∈ forcedRegisters ->
      o.1.address = e.1.address -> o.2 = e.2 := by
    decide
  exact hall entry hentry other hother h

theorem get_afterBringUp_of_mem {bus : Bus} {r : Register} {value : Byte}
    (hmem : (r, value) ∈ forcedRegisters) (hfault : bus.writeFaults.get r.address = none) :
    (afterBringUp bus).registers.get r.address = value := by
  have hheld := bus.afterRead.afterRead.afterRead.afterRead.get_afterWrites_of_mem hmem hfault
    fun other hother => forced_value_unique hmem hother
  exact hheld

theorem get_afterBringUp_of_not_written {bus : Bus} {address : Byte}
    (h : forall entry, entry ∈ forcedRegisters -> entry.1.address = address ->
      bus.writeFaults.get address ≠ none) :
    (afterBringUp bus).registers.get address = bus.registers.get address := by
  unfold afterBringUp
  rw [Bus.get_afterWrites_of_not_written]
  · rfl
  · exact h

/-!
# The first error
-/

theorem findSome?_error?_eq_none_iff {accesses : List Access} :
    accesses.findSome? Access.error? = none ↔
      forall t, t ∈ accesses.map Prod.snd -> t.fault? = none := by
  simp only [List.findSome?_eq_none_iff, List.forall_mem_map, Access.error?,
    Option.map_eq_none_iff]

theorem findSome?_error?_of_first {accesses : List Access} {earlier later : List Transaction}
    {t : Transaction} {fault : Fault} (hsplit : accesses.map Prod.snd = earlier ++ t :: later)
    (hearlier : forall s, s ∈ earlier -> s.fault? = none) (hfault : t.fault? = some fault) :
    exists r, (r, t) ∈ accesses ∧
      accesses.findSome? Access.error? = some (.busFault r t.direction fault) := by
  rcases List.map_eq_append_iff.mp hsplit with ⟨front, back, haccesses, hfront, hback⟩
  rcases List.map_eq_cons_iff.mp hback with ⟨⟨r, t'⟩, rest, hrest, ht, _⟩
  change t' = t at ht
  subst ht
  have hnone : front.findSome? Access.error? = none := by
    rw [findSome?_error?_eq_none_iff, hfront]
    exact hearlier
  have herror : Access.error? (r, t') = some (.busFault r t'.direction fault) := by
    simp [Access.error?, hfault]
  refine ⟨r, ?_, ?_⟩
  · simp [haccesses, hrest]
  · rw [haccesses, List.findSome?_append, hnone, hrest, List.findSome?_cons, herror]
    rfl

theorem address_of_mem_bringUpAccesses {bus : Bus} {a : Access}
    (h : a ∈ bringUpAccesses bus) : a.1.address = a.2.address := by
  rcases List.mem_append.mp h with h | h
  · rcases List.mem_map.mp h with ⟨r, _, rfl⟩
    exact (Transaction.address_ofRead _ _).symm
  · rcases List.mem_map.mp h with ⟨entry, _, rfl⟩
    exact (Transaction.address_ofWrite _ _ _).symm

/-- Reads come before writes, so the first error is one of a read exactly when any read
failed. -/
theorem readFault_iff (bus : Bus) :
    (exists r fault, (bringUpAccesses bus).findSome? Access.error? =
        some (.busFault r .read fault)) ↔
      exists r, r ∈ identityRegisters ∧ bus.readFaults.get r.address ≠ none := by
  constructor
  · rintro ⟨r, fault, hfirst⟩
    rcases List.exists_of_findSome?_eq_some hfirst with ⟨a, ha, herror⟩
    rcases List.mem_append.mp ha with ha | ha
    · rcases List.mem_map.mp ha with ⟨r', hr', rfl⟩
      refine ⟨r', hr', ?_⟩
      intro hnone
      rw [Access.error?_read_eq_map, hnone] at herror
      cases herror
    · rcases List.mem_map.mp ha with ⟨entry, _, rfl⟩
      cases Access.direction_of_error?_write herror
  · rintro ⟨r, hr, hfault⟩
    cases hreads : (identityRegisters.map (Access.read bus)).findSome? Access.error? with
    | none =>
        have hnone := List.findSome?_eq_none_iff.mp hreads _ (List.mem_map_of_mem hr)
        rw [Access.error?_read_eq_map] at hnone
        exact absurd (Option.map_eq_none_iff.mp hnone) hfault
    | some e =>
        rcases List.exists_of_findSome?_eq_some hreads with ⟨a, ha, herror⟩
        rcases List.mem_map.mp ha with ⟨r', _, rfl⟩
        rw [Access.error?_read_eq_map] at herror
        rcases Option.map_eq_some_iff.mp herror with ⟨fault, _, rfl⟩
        refine ⟨r', fault, ?_⟩
        rw [bringUpAccesses, List.findSome?_append, hreads]
        rfl

/-!
# What bring-up makes of a bus
-/

/-- A device was brought up on a bus: which transactions that took, what was kept of
their answers, and what became of the registers. -/
structure BroughtUp (before : Bus) (device : Device) (ts : List Transaction)
    (after : Bus) : Prop where
  count : ts.length = 10
  addresses : ts.map Transaction.address =
    [0x01, 0xF0, 0xF1, 0xF2, 0x11, 0x12, 0x21, 0x22, 0x31, 0x32]
  /-- Four reads and six writes, in this order and whatever fails. -/
  transactions : ts =
    ([.codeRevision, .codeDay, .codeMonth, .codeYear].map fun r : Register =>
      .ofRead r.address (before.readResult r.address)) ++
    forcedRegisters.map fun entry =>
      .ofWrite entry.1.address entry.2 (before.writeResult entry.1.address)
  captured : forall field : IdentityField,
    device.identity.get? field =
      match before.readFaults.get field.register.address with
      | none => some (field.part (before.registers.get field.register.address))
      | some _ => none
  faultless : device.bringUpFault = none ↔ forall t, t ∈ ts -> t.fault? = none
  firstFault : forall earlier t later fault, ts = earlier ++ t :: later ->
    (forall s, s ∈ earlier -> s.fault? = none) -> t.fault? = some fault ->
    exists r : Register, r.address = t.address ∧
      device.bringUpFault = some (.busFault r t.direction fault)
  readFault : (exists r fault, device.bringUpFault = some (.busFault r .read fault)) ↔
    exists field, device.identity.get? field = none
  baseline : forall r value, (r, value) ∈ forcedRegisters ->
    before.writeFaults.get r.address = none -> after.registers.get r.address = value
  others : forall address,
    (forall r value, (r, value) ∈ forcedRegisters -> r.address = address ->
      before.writeFaults.get address ≠ none) ->
    after.registers.get address = before.registers.get address

theorem get?_identityOn_eq_match (bus : Bus) (field : IdentityField) :
    (identityOn bus).get? field =
      match bus.readFaults.get field.register.address with
      | none => some (field.part (bus.registers.get field.register.address))
      | some _ => none := by
  rw [get?_identityOn]
  cases h : bus.readFaults.get field.register.address with
  | none =>
      rw [Bus.readResult_of_no_fault h]
      rfl
  | some fault =>
      rw [Bus.readResult_of_fault h]
      rfl

theorem exists_get?_identityOn_eq_none_iff (bus : Bus) :
    (exists field, (identityOn bus).get? field = none) ↔
      exists r, r ∈ identityRegisters ∧ bus.readFaults.get r.address ≠ none := by
  constructor
  · rintro ⟨field, hfield⟩
    refine ⟨field.register, field.register_mem, ?_⟩
    intro hnone
    rw [get?_identityOn_eq_match, hnone] at hfield
    cases hfield
  · rintro ⟨r, hr, hfault⟩
    rcases exists_field_of_mem hr with ⟨field, rfl⟩
    rcases Option.ne_none_iff_exists'.mp hfault with ⟨fault, hfault⟩
    refine ⟨field, ?_⟩
    rw [get?_identityOn_eq_match, hfault]

theorem broughtUp_run (bus : Bus) :
    BroughtUp bus (bringUp.run bus).value (bringUp.run bus).transactions
      (bringUp.run bus).bus := by
  simp only [run_bringUp]
  constructor
  case count => rfl
  case addresses =>
    simp only [bringUpAccesses, List.map_append, List.map_map, Function.comp_def, Access.read,
      Access.write, Transaction.address_ofRead, Transaction.address_ofWrite]
    rfl
  case transactions =>
    simp only [bringUpAccesses, List.map_append, List.map_map]
    rfl
  case captured => exact get?_identityOn_eq_match bus
  case faultless => exact findSome?_error?_eq_none_iff
  case firstFault =>
    intro earlier t later fault hsplit hearlier hfault
    rcases findSome?_error?_of_first hsplit hearlier hfault with ⟨r, hmem, hfirst⟩
    exact ⟨r, address_of_mem_bringUpAccesses hmem, hfirst⟩
  case readFault =>
    exact (readFault_iff bus).trans (exists_get?_identityOn_eq_none_iff bus).symm
  case baseline =>
    intro r value hmem hfault
    exact get_afterBringUp_of_mem hmem hfault
  case others =>
    intro address h
    exact get_afterBringUp_of_not_written fun entry => h entry.1 entry.2

end Device

/-!
# Probing
-/

namespace Rack

variable {n : Nat}

/-- Bring-up always ends with a device on a bus that does byte data transfers, and
it leaves everything but that bus and that handle alone.  On another bus it is
refused without a transaction, and the bus is handed back as it was. -/
theorem probe_brings_up (rack : Rack n) (h : Nat) (b : Fin n) :
    let next := rack.step (.probe h b)
    ((rack.bus b).supports .byteData = true ->
      next.2.answer = .done ∧
      (exists device ts,
        next.1.handles h = some { bus := b, client := .device device } ∧
        next.2.transactions = ts.map (fun t => (b, t)) ∧
        device.BroughtUp (rack.bus b) ts (next.1.bus b)) ∧
      (forall c, c ≠ b -> next.1.bus c = rack.bus c) ∧
      (forall k, k ≠ h -> next.1.handles k = rack.handles k)) ∧
    ((rack.bus b).supports .byteData = false ->
      next.2.answer = .probeRefused b .capabilityUnavailable ∧
      next.2.transactions = [] ∧
      next.1 = rack) := by
  intro next
  constructor
  · intro hsupports
    simp only [next, step_probe_of_supports hsupports]
    refine ⟨rfl, ?_, ?_, ?_⟩
    · refine ⟨_, _, handles_setHandle_self _ _ _, rfl, ?_⟩
      rw [bus_setHandle, bus_setBus_self]
      exact Device.broughtUp_run (rack.bus b)
    · intro c hc
      exact bus_setBus_of_ne hc
    · intro k hk
      exact handles_setHandle_of_ne hk
  · intro hsupports
    simp only [next, step_probe_of_not_supports hsupports, and_self]

/-- The day cannot be read and one register cannot be written.  The first of these is
remembered, and neither stops the rest.  The other bus has no byte data transfers. -/
theorem probe_brings_up_two_faults :
    let bus := ((((Bus.idle .byteData).poke 0x01 0xA5).poke 0x21 0x5A).plantReadFault 0xF0
      .timeout).plantWriteFault 0x21 .busy
    let rack := Rack.ofBuses #v[bus, Bus.idle .wordAndRaw]
    (rack.bus 0).supports .byteData = true ∧
      (rack.bus 1).supports .byteData = false ∧
      (exists device,
        (rack.step (.probe 7 0)).1.handles 7 = some { bus := 0, client := .device device } ∧
        device.identity.get? .codeVersion = some 0x25 ∧
        device.identity.get? .codeKind = some 1 ∧
        device.identity.get? .codeDay = none ∧
        device.bringUpFault = some (.busFault .codeDay .read .timeout)) ∧
      ((rack.step (.probe 7 0)).1.bus 0).registers.get 0x11 = 0xFF ∧
      ((rack.step (.probe 7 0)).1.bus 0).registers.get 0x21 = 0x5A ∧
      (rack.step (.probe 7 1)).1 = rack := by
  intro bus rack
  have hsupports : (rack.bus 0).supports .byteData = true := rfl
  have hunsuited : (rack.bus 1).supports .byteData = false := rfl
  rcases (probe_brings_up rack 7 0).1 hsupports with
    ⟨_, ⟨device, ts, hhandle, _, hup⟩, _, _⟩
  have hsplit : ts =
      [.read 0x01 0xA5] ++ .readFailed 0xF0 .timeout :: ts.drop 2 := by
    rw [hup.transactions]
    decide +kernel
  rcases hup.firstFault _ _ _ _ hsplit (by simp [Transaction.fault?]) rfl with
    ⟨r, haddress, hfault⟩
  have hday : r = .codeDay := Register.address_injective haddress
  have hbusy : (rack.bus 0).writeFaults.get 0x21 ≠ none := by
    decide +kernel
  refine ⟨hsupports, hunsuited, ⟨device, hhandle, ?_, ?_, ?_, ?_⟩, ?_, ?_, ?_⟩
  · rw [hup.captured]
    decide +kernel
  · rw [hup.captured]
    decide +kernel
  · rw [hup.captured]
    decide +kernel
  · rw [hfault, hday]
    rfl
  · exact hup.baseline (.cageLines .reset .low) 0xFF (by decide) (by decide +kernel)
  · rw [hup.others 0x21 fun r value _ _ => hbusy]
    decide +kernel
  · exact ((probe_brings_up rack 7 1).2 hunsuited).2.2

end Rack
end CpldControl
