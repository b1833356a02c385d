import CpldControl.Proofs.Inquiries
import CpldControl.Proofs.NameLookup
import CpldControl.Proofs.SavedTexts

/-!
# The whole catalog at once

Showing the catalog comes to showing every attribute by itself, in the order of the
catalog and from the same state: a read that fails takes one line, and no line depends on
another.  What is shown tells the signals and the scratch byte, and nothing else of the
registers.

The main statement is `catalog_shown_whole`.  Programs that only read do not see one
another (`run_mapM_of_readOnly`), and each attribute has at most one register to read
(`transactions_readAttribute`).
-/

namespace CpldControl

open Chip (Register Signal)
open Device (Attribute Error Value)
open Smbus (Bus Transaction)

/-!
# Programs that only read, one after another
-/

theorem BusProgram.run_mapM_of_readOnly {α β : Type} {f : α -> BusProgram β}
    (hf : forall a, (f a).ReadOnly) (xs : List α) (bus : Bus) :
    (xs.mapM f).run bus =
      { value := xs.map fun a => ((f a).run bus).value
        bus := bus.moreReads (xs.flatMap fun a => ((f a).run bus).transactions).length
        transactions := xs.flatMap fun a => ((f a).run bus).transactions
        events := xs.flatMap fun a => ((f a).run bus).events } := by
  induction xs with
  | nil => rfl
  | cons x xs ih =>
      have hhead : ((f x).run bus).bus =
          bus.moreReads ((f x).run bus).transactions.length := (hf x).bus_run bus
      -- the rest starts from a bus that has only counted more reads
      rw [List.mapM_cons, run_bind, Outcome.andThen, hhead, run_moreReads, run_bind, ih]
      simp only [Outcome.andThen, run_pure, Bus.moreReads_moreReads, List.append_nil,
        List.map_cons, List.flatMap_cons, List.length_append, Nat.add_comm]

/-!
# Showing one attribute
-/

def Device.Attribute.register? : Attribute -> Option Register
  | identity _ => none
  | scratch => some .scratch
  | signal s => some s.register

namespace Answer

variable {n : Nat}

def line? (name : String) : Answer n -> Option String
  | value v => some (name ++ "=" ++ v.text)
  | refused e => some (name ++ ": " ++ e.message)
  | _ => none

theorem line?_ofResult (a : Attribute) (result : Except Error Value) :
    (Answer.ofResult .value result : Answer n).line? a.name =
      some (Device.attributeLine a result) := by
  cases result with
  | ok v => rfl
  | error e => rfl

end Answer

namespace Request

variable {n : Nat}

theorem run_attributeLine (device : Device) (a : Attribute) (bus : Bus) :
    let o := (Device.attributeLine a <$> (device.readAttribute a).run).run bus
    let p := (readAttribute device a : Request n).program.run bus
    some o.value = p.value.line? a.name ∧ o.transactions = p.transactions ∧
      o.events = p.events := by
  rw [← program_readAttribute, BusProgram.run_map, BusProgram.run_map]
  exact ⟨(Answer.line?_ofResult a _).symm, rfl, rfl⟩

theorem transactions_readAttribute (device : Device) (a : Attribute) (bus : Bus) :
    ((readAttribute device a : Request n).program.run bus).transactions =
      a.register?.toList.map fun r => .ofRead r.address (bus.readResult r.address) := by
  cases a with
  | identity field =>
      simp only [readAttribute]
      cases device.identity.get? field with
      | some b => rfl
      | none => rfl
  | scratch => exact transactions_read _ _ bus
  | signal s => exact transactions_read _ _ bus

end Request

/-!
# Showing the catalog
-/

namespace Device

theorem run_readCatalog (device : Device) (bus : Bus) :
    let alone := fun a => (attributeLine a <$> (device.readAttribute a).run).run bus
    device.readCatalog.run bus =
      { value := Attribute.catalog.map fun a => (alone a).value
        bus := bus.moreReads (Attribute.catalog.flatMap fun a => (alone a).transactions).length
        transactions := Attribute.catalog.flatMap fun a => (alone a).transactions
        events := Attribute.catalog.flatMap fun a => (alone a).events } :=
  BusProgram.run_mapM_of_readOnly (fun a => (readOnly_readAttribute device a).map _) _ bus

end Device

namespace Rack

variable {n : Nat}

def showAlone (rack : Rack n) (h : Nat) (a : Attribute) : Report n :=
  (rack.step (.onDevice h (.readAttribute a.name))).2

def showCatalog (rack : Rack n) (h : Nat) : Rack n × Report n :=
  rack.step (.onDevice h .readCatalog)

section Handle

variable {rack : Rack n} {h : Nat} {b : Fin n} {device : Device}

theorem showAlone_eq (hhandle : rack.handles h = some { bus := b, client := .device device })
    (a : Attribute) :
    let o := (Request.readAttribute device a : Request n).program.run (rack.bus b)
    rack.showAlone h a = .ofOutcome b o.value o := by
  have hrequest : (DeviceAction.readAttribute a.name).request? device =
      some (Request.readAttribute device a : Request n) := by
    simp only [DeviceAction.request?, Device.attributeOfName, Attribute.find?_name,
      Request.checked]
  rw [showAlone, step_of_request? hhandle hrequest]
  rfl

theorem showCatalog_eq
    (hhandle : rack.handles h = some { bus := b, client := .device device }) :
    let o := device.readCatalog.run (rack.bus b)
    rack.showCatalog h = (rack.setBus b o.bus, .ofOutcome b (.lines o.value) o) := by
  rw [showCatalog, step_onDevice hhandle, onBus]
  simp only [DeviceAction.program, BusProgram.run_map]
  rfl

theorem showCatalog_report
    (hhandle : rack.handles h = some { bus := b, client := .device device }) :
    (exists ls, (rack.showCatalog h).2.answer = .lines ls ∧
      ls.map some =
        Attribute.catalog.map fun a => (rack.showAlone h a).answer.line? a.name) ∧
    (rack.showCatalog h).2.transactions =
      Attribute.catalog.flatMap (fun a => (rack.showAlone h a).transactions) ∧
    (rack.showCatalog h).2.events =
      Attribute.catalog.flatMap (fun a => (rack.showAlone h a).events) := by
  have hline := fun a => Request.run_attributeLine (n := n) device a (rack.bus b)
  rw [showCatalog_eq hhandle, Device.run_readCatalog]
  refine ⟨⟨_, rfl, ?_⟩, ?_, ?_⟩
  · rw [List.map_map]
    apply List.map_congr_left
    intro a ha
    rw [showAlone_eq hhandle]
    exact (hline a).1
  · simp only [Report.ofOutcome, List.map_flatMap, showAlone_eq hhandle, (hline _).2.1]
  · simp only [Report.ofOutcome, showAlone_eq hhandle, (hline _).2.2]

theorem showAlone_transactions
    (hhandle : rack.handles h = some { bus := b, client := .device device }) (a : Attribute) :
    (rack.showAlone h a).transactions =
      a.register?.toList.map fun r =>
        (b, .ofRead r.address ((rack.bus b).readResult r.address)) := by
  rw [showAlone_eq hhandle]
  simp only [Report.ofOutcome, Request.transactions_readAttribute, List.map_map]
  rfl

theorem showCatalog_transactions
    (hhandle : rack.handles h = some { bus := b, client := .device device }) :
    (rack.showCatalog h).2.transactions =
      (Attribute.catalog.filterMap Attribute.register?).map fun r =>
        (b, .ofRead r.address ((rack.bus b).readResult r.address)) := by
  rw [(showCatalog_report hhandle).2.1, List.filterMap_eq_flatMap_toList, List.map_flatMap]
  simp only [showAlone_transactions hhandle]

theorem showCatalog_rack
    (hhandle : rack.handles h = some { bus := b, client := .device device }) :
    (rack.showCatalog h).1 =
      rack.setBus b
        ((rack.bus b).moreReads (Attribute.catalog.filterMap Attribute.register?).length) := by
  have htransactions := congrArg List.length (showCatalog_transactions hhandle)
  rw [showCatalog_eq hhandle] at htransactions ⊢
  rw [List.length_map] at htransactions
  rw [(Device.readOnly_readCatalog device).bus_run, ← htransactions]
  simp only [Report.ofOutcome, List.length_map]
  rfl

end Handle

end Rack

/-!
# What a line tells

Without faults, and for the same identity, a line tells what the bus holds under its
attribute.  What bring-up has kept is on no bus.
-/

namespace Device

def Attribute.SameOn (bus other : Bus) : Attribute -> Prop
  | identity _ => True
  | scratch =>
      bus.registers.get Register.scratch.address =
        other.registers.get Register.scratch.address
  | signal s =>
      (bus.registers.get s.register.address).bit s.bit =
        (other.registers.get s.register.address).bit s.bit

instance (bus other : Bus) : (a : Attribute) -> Decidable (a.SameOn bus other)
  | .identity _ => .isTrue trivial
  | .scratch => inferInstanceAs (Decidable (_ = _))
  | .signal _ => inferInstanceAs (Decidable (_ = _))

end Device

theorem Answer.line?_value_eq_iff {n m : Nat} {name : String} {v w : Value} :
    (Answer.value v : Answer n).line? name = (Answer.value w : Answer m).line? name ↔
      v.text = w.text := by
  unfold line?
  rw [Option.some.injEq, String.append_right_inj]

namespace Request

variable {n m : Nat}

theorem value_run_read_of_noFaults {bus : Bus} (hfaults : bus.NoFaults) (r : Register)
    (view : Byte -> Answer n) :
    ((read r view).program.run bus).value = view (bus.registers.get r.address) := by
  have hread : bus.readFaults.get r.address = none := hfaults .read r.address
  rw [run_read, hread]

theorem line?_readAttribute_eq_iff {device twin : Device}
    (hidentity : twin.identity = device.identity) {bus other : Bus} (hbus : bus.NoFaults)
    (hother : other.NoFaults) (a : Attribute) :
    ((readAttribute device a : Request n).program.run bus).value.line? a.name =
        ((readAttribute twin a : Request m).program.run other).value.line? a.name ↔
      a.SameOn bus other := by
  cases a with
  | identity field =>
      simp only [readAttribute, hidentity]
      cases device.identity.get? field with
      | some b => exact iff_of_true rfl trivial
      | none => exact iff_of_true rfl trivial
  | scratch =>
      simp only [readAttribute, value_run_read_of_noFaults hbus,
        value_run_read_of_noFaults hother, Answer.line?_value_eq_iff]
      exact ⟨Text.hex2_injective, congrArg Text.hex2⟩
  | signal s =>
      simp only [readAttribute, readSignal, value_run_read_of_noFaults hbus,
        value_run_read_of_noFaults hother, Answer.line?_value_eq_iff]
      exact ⟨Value.text_level_injective, congrArg fun l => (Value.level l).text⟩

end Request

namespace Rack

variable {n m : Nat}

def catalogLines? (rack : Rack n) (h : Nat) : Option (List String) :=
  match (rack.showCatalog h).2.answer with
  | .lines ls => some ls
  | _ => none

section Handles

variable {rack : Rack n} {h : Nat} {b : Fin n} {device : Device}
  {other : Rack m} {k : Nat} {c : Fin m} {twin : Device}

theorem catalogLines?_eq_iff
    (hhandle : rack.handles h = some { bus := b, client := .device device })
    (htwin : other.handles k = some { bus := c, client := .device twin }) :
    rack.catalogLines? h = other.catalogLines? k ↔
      forall a : Attribute, (rack.showAlone h a).answer.line? a.name =
        (other.showAlone k a).answer.line? a.name := by
  rcases (showCatalog_report hhandle).1 with ⟨ls, hls, hlines⟩
  rcases (showCatalog_report htwin).1 with ⟨ks, hks, hlines'⟩
  have hsome : Function.Injective (List.map (some : String -> Option String)) :=
    List.map_injective_iff.mpr (Option.some_injective String)
  rw [catalogLines?, catalogLines?, hls, hks, Option.some.injEq, ← hsome.eq_iff, hlines,
    hlines', List.map_inj_left]
  exact ⟨fun hall a => hall a (Attribute.mem_catalog a), fun hall a _ => hall a⟩

theorem catalogLines?_eq_iff_of_noFaults
    (hhandle : rack.handles h = some { bus := b, client := .device device })
    (htwin : other.handles k = some { bus := c, client := .device twin })
    (hidentity : twin.identity = device.identity) (hbus : (rack.bus b).NoFaults)
    (hother : (other.bus c).NoFaults) :
    rack.catalogLines? h = other.catalogLines? k ↔
      forall a : Attribute, a.SameOn (rack.bus b) (other.bus c) := by
  rw [catalogLines?_eq_iff hhandle htwin]
  apply forall_congr'
  intro a
  rw [showAlone_eq hhandle, showAlone_eq htwin]
  exact Request.line?_readAttribute_eq_iff hidentity hbus hother a

end Handles

structure ShowsCatalog (rack : Rack n) (h : Nat) (b : Fin n) (device : Device) : Prop where
  once : forall a, Attribute.catalog.count a = 1
  lines : exists ls, (rack.showCatalog h).2.answer = .lines ls ∧
    ls.map some = Attribute.catalog.map fun a => (rack.showAlone h a).answer.line? a.name
  transactions : (rack.showCatalog h).2.transactions =
    Attribute.catalog.flatMap fun a => (rack.showAlone h a).transactions
  events : (rack.showCatalog h).2.events =
    Attribute.catalog.flatMap fun a => (rack.showAlone h a).events
  reads : (rack.showCatalog h).2.transactions =
    (Attribute.catalog.filterMap Attribute.register?).map fun r =>
      (b, .ofRead r.address ((rack.bus b).readResult r.address))
  final : (rack.showCatalog h).1 =
    rack.setBus b
      ((rack.bus b).moreReads (Attribute.catalog.filterMap Attribute.register?).length)
  faithful : forall {m : Nat} (other : Rack m) (k : Nat) (c : Fin m) (twin : Device),
    other.handles k = some { bus := c, client := .device twin } ->
    twin.identity = device.identity -> (rack.bus b).NoFaults -> (other.bus c).NoFaults ->
    (rack.catalogLines? h = other.catalogLines? k ↔
      (forall s : Signal, Attribute.SameOn (rack.bus b) (other.bus c) (.signal s)) ∧
        Attribute.SameOn (rack.bus b) (other.bus c) .scratch)

/-- The catalog has a line for every attribute, whatever fails.  The lines, the
transactions and the events are those of the attributes shown one by one from the same
state: one read for the scratch byte and for each signal, in order, and nothing else.
Between fault-free buses and for the same identity, the lines are the same exactly if all
signals and the scratch byte are. -/
theorem catalog_shown_whole {rack : Rack n} {h : Nat} {b : Fin n} {device : Device}
    (hhandle : rack.handles h = some { bus := b, client := .device device }) :
    rack.ShowsCatalog h b device := by
  rcases showCatalog_report hhandle with ⟨hlines, htransactions, hevents⟩
  constructor
  case once =>
    intro a
    exact List.count_eq_one_of_mem Attribute.nodup_catalog (Attribute.mem_catalog a)
  case lines => exact hlines
  case transactions => exact htransactions
  case events => exact hevents
  case reads => exact showCatalog_transactions hhandle
  case final => exact showCatalog_rack hhandle
  case faithful =>
    intro m other k c twin htwin hidentity hbus hother
    rw [catalogLines?_eq_iff_of_noFaults hhandle htwin hidentity hbus hother]
    constructor
    · intro hall
      exact ⟨fun s => hall (.signal s), hall .scratch⟩
    · intro hall a
      rcases hall with ⟨hsignals, hscratch⟩
      cases a with
      | identity field => trivial
      | scratch => exact hscratch
      | signal s => exact hsignals s

/-- Three buses under one device.  The second differs from the first where no signal is, so
its catalog is the same; the third has another scratch byte, so its catalog is not.  On the
fourth the scratch byte cannot be read, and the other lines are shown all the same. -/
theorem catalog_shown_whole_four_buses :
    let device : Device :=
      { identity := .ofRegisters none (some 0x12) (some 0x05) none, bringUpFault := none }
    let idle := Bus.idle .byteData
    let rack := ((((Rack.ofBuses
      #v[idle, idle.poke 0x71 0x80, idle.poke 0x0F 0x3C, idle.plantReadFault 0x0F .timeout]
      ).setHandle 0 (some { bus := 0, client := .device device })
      ).setHandle 1 (some { bus := 1, client := .device device })
      ).setHandle 2 (some { bus := 2, client := .device device })
      ).setHandle 3 (some { bus := 3, client := .device device })
    rack.catalogLines? 0 = rack.catalogLines? 1 ∧
      rack.catalogLines? 0 ≠ rack.catalogLines? 2 ∧
      (rack.showCatalog 3).2.transactions.length = 91 ∧
      exists ls, (rack.showCatalog 3).2.answer = .lines ls ∧ ls.length = 96 := by
  intro device idle rack
  have hfirst : rack.ShowsCatalog 0 0 device := catalog_shown_whole rfl
  have hfourth : rack.ShowsCatalog 3 3 device := catalog_shown_whole rfl
  have hidle : idle.NoFaults := Bus.noFaults_clearFaults idle
  have hsignals : forall s, s ∈ Signal.all ->
      Attribute.SameOn (rack.bus 0) (rack.bus 1) (.signal s) := by
    decide +kernel
  have hscratch : Attribute.SameOn (rack.bus 0) (rack.bus 1) .scratch := by
    decide +kernel
  have hother : ¬ Attribute.SameOn (rack.bus 0) (rack.bus 2) .scratch := by
    decide +kernel
  refine ⟨?_, ?_, ?_, ?_⟩
  · rw [hfirst.faithful rack 1 1 device rfl rfl hidle hidle]
    exact ⟨fun s => hsignals s (Signal.mem_all s), hscratch⟩
  · rw [Ne, hfirst.faithful rack 2 2 device rfl rfl hidle hidle]
    exact fun hsame => hother hsame.2
  · rw [hfourth.reads, List.length_map]
    decide +kernel
  · rcases hfourth.lines with ⟨ls, hls, hlines⟩
    have hlength := congrArg List.length hlines
    rw [List.length_map, List.length_map] at hlength
    exact ⟨ls, hls, hlength⟩

end Rack
end CpldControl
