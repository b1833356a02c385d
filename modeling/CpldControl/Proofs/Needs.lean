import CpldControl.Proofs.RequestErrors
import CpldControl.Proofs.Transcript

/-!
# Steps whose input is in order

The names, numbers, texts and directions with which an action passes its checks,
with the register it has to reach and the transactions it has to make there.

The main statements are `needs_iff`, that these are all the inputs with which an
action goes to a register, and `isOk_iff`, that a step with such an input succeeds
exactly when nothing it needs is at fault.
-/

namespace CpldControl

open Chip (Cage CageLine Register Signal)
open Device (Attribute Error)
open Smbus (Direction)

inductive DeviceAction.Needs : DeviceAction -> Register -> List Direction -> Prop where
  | readSignal {name : String} {s : Signal} (hname : Signal.find? name = some s) :
      Needs (.readSignal name) s.register [.read]
  | driveSignal {name : String} {s : Signal} {level : Bool}
      (hname : Signal.find? name = some s) (hwritable : s.isWritable = true) :
      Needs (.driveSignal name level) s.register [.read, .write]
  | driveSignalNumber {name : String} {s : Signal} {number : Nat}
      (hname : Signal.find? name = some s) (hwritable : s.isWritable = true)
      (hrange : number ≤ 1) :
      Needs (.driveSignalNumber name number) s.register [.read, .write]
  | readCageLine {cage : Cage} {line : CageLine} :
      Needs (.readCageLine cage.number line) (.ofCage line cage) [.read]
  | driveCageLine {cage : Cage} {line : CageLine} {level : Bool}
      (hwritable : line.access.isWritable = true) :
      Needs (.driveCageLine cage.number line level) (.ofCage line cage) [.read, .write]
  | readScratch : Needs .readScratch .scratch [.read]
  | writeScratch {value : Byte} : Needs (.writeScratch value) .scratch [.write]
  | showScratch {name : String} (hname : Attribute.find? name = some .scratch) :
      Needs (.readAttribute name) .scratch [.read]
  | showSignal {name : String} {s : Signal} (hname : Attribute.find? name = some (.signal s)) :
      Needs (.readAttribute name) s.register [.read]
  | storeScratch {name text : String} {number : Nat}
      (hname : Attribute.find? name = some .scratch)
      (htext : Text.ByteLiteral.value? .hexadecimal text = some number)
      (hrange : number ≤ 255) :
      Needs (.storeAttribute name text) .scratch [.write]
  | storeSignal {name text : String} {s : Signal} {number : Nat}
      (hname : Attribute.find? name = some (.signal s)) (hwritable : s.isWritable = true)
      (htext : Text.ByteLiteral.value? .decimal text = some number) (hrange : number ≤ 1) :
      Needs (.storeAttribute name text) s.register [.read, .write]

def RegisterAction.needs : RegisterAction -> Register × List Direction
  | read r => (r, [.read])
  | write r _ => (r, [.write])
  | modify r _ => (r, [.read, .write])

namespace Request

theorem uses?_checked {n : Nat} {α : Type} {input : Except Error α} {a : α}
    (hinput : input = .ok a) (next : α -> Request n) :
    (checked input next).uses? = (next a).uses? := by
  rw [hinput]
  rfl

theorem uses?_driveNumber {n : Nat} {number : Nat} (hrange : number ≤ 1) (s : Signal) :
    (checked (Device.levelOfNumber number) (driveSignal s) : Request n).uses? =
      some (s.register, [.read, .write]) := by
  rw [uses?_checked (Device.levelOfNumber_eq_ok_iff.mpr ⟨hrange, rfl⟩)]
  rfl

theorem uses?_writable {n : Nat} {s : Signal} (hwritable : s.isWritable = true)
    (next : Request n) : (writable s next).uses? = next.uses? := by
  unfold writable
  rw [if_pos hwritable]

theorem uses?_checked_eq_some {n : Nat} {α : Type} {input : Except Error α}
    {next : α -> Request n} {use : Register × List Direction}
    (huses : (checked input next).uses? = some use) :
    exists a, input = .ok a ∧ (next a).uses? = some use := by
  cases input with
  | ok a => exact ⟨a, rfl, huses⟩
  | error e => cases huses

theorem uses?_named_eq_some {n : Nat} {name : String} {next : Signal -> Request n}
    {use : Register × List Direction} (huses : (named name next).uses? = some use) :
    exists s, Signal.find? name = some s ∧ (next s).uses? = some use := by
  unfold named at huses
  cases hname : Signal.find? name with
  | some s =>
      rw [hname] at huses
      exact ⟨s, rfl, huses⟩
  | none =>
      rw [hname] at huses
      cases huses

theorem uses?_writable_eq_some {n : Nat} {s : Signal} {next : Request n}
    {use : Register × List Direction} (huses : (writable s next).uses? = some use) :
    s.isWritable = true ∧ next.uses? = some use := by
  unfold writable at huses
  cases hwritable : s.isWritable with
  | true =>
      rw [if_pos hwritable] at huses
      exact ⟨rfl, huses⟩
  | false =>
      simp only [hwritable] at huses
      cases huses

end Request

theorem DeviceAction.Needs.request {n : Nat} {action : DeviceAction} {r : Register}
    {ds : List Direction} (h : action.Needs r ds) (device : Device) :
    exists q : Request n, action.request? device = some q ∧ q.uses? = some (r, ds) := by
  cases h with
  | readSignal hname =>
      refine ⟨_, rfl, ?_⟩
      simp only [Request.named, hname]
      rfl
  | driveSignal hname hwritable =>
      refine ⟨_, rfl, ?_⟩
      simp only [Request.named, hname, Request.uses?_writable hwritable]
      rfl
  | driveSignalNumber hname hwritable hrange =>
      refine ⟨_, rfl, ?_⟩
      simp only [Request.named, hname, Request.uses?_writable hwritable]
      exact Request.uses?_driveNumber hrange _
  | readCageLine =>
      refine ⟨_, rfl, ?_⟩
      rw [Request.uses?_checked (Device.cageOfNumber_eq_ok_iff.mpr (Cage.ofNumber?_number _))]
      rfl
  | driveCageLine hwritable =>
      rename_i cage line level
      rw [← Signal.isWritable_cageLine line cage] at hwritable
      refine ⟨_, rfl, ?_⟩
      rw [Request.uses?_checked (Device.cageOfNumber_eq_ok_iff.mpr (Cage.ofNumber?_number _)),
        Request.uses?_writable hwritable]
      rfl
  | readScratch => exact ⟨_, rfl, rfl⟩
  | writeScratch => exact ⟨_, rfl, rfl⟩
  | showScratch hname =>
      refine ⟨_, rfl, ?_⟩
      rw [Request.uses?_checked (Device.attributeOfName_eq_ok_iff.mpr hname)]
      rfl
  | showSignal hname =>
      refine ⟨_, rfl, ?_⟩
      rw [Request.uses?_checked (Device.attributeOfName_eq_ok_iff.mpr hname)]
      rfl
  | storeScratch hname htext hrange =>
      have hbyte := Device.byteOfText_eq_ok_iff.mpr
        (Text.ByteLiteral.parse?_of_value? htext (Nat.lt_succ_of_le hrange))
      refine ⟨_, rfl, ?_⟩
      rw [Request.uses?_checked (Device.attributeOfName_eq_ok_iff.mpr hname),
        Request.storeAttribute, Request.uses?_checked hbyte]
      rfl
  | storeSignal hname hwritable htext hrange =>
      rename_i name text s number
      have hbyte := Device.byteOfText_eq_ok_iff.mpr
        (Text.ByteLiteral.parse?_of_value? htext (Nat.lt_of_le_of_lt hrange (by decide)))
      have hnumber : (BitVec.ofNat 8 number).toNat ≤ 1 := by
        rw [BitVec.toNat_ofNat]
        omega
      refine ⟨_, rfl, ?_⟩
      rw [Request.uses?_checked (Device.attributeOfName_eq_ok_iff.mpr hname),
        Request.storeAttribute, Request.uses?_writable hwritable, Request.uses?_checked hbyte]
      exact Request.uses?_driveNumber hnumber s

theorem DeviceAction.needs_of_uses? {n : Nat} {device : Device} {action : DeviceAction}
    {q : Request n} (h : action.request? device = some q) {r : Register}
    {ds : List Direction} (huses : q.uses? = some (r, ds)) : action.Needs r ds := by
  cases action with
  | readCatalog => cases h
  | identity =>
      cases h
      cases huses
  | bringUpFault =>
      cases h
      cases huses
  | readSignal name =>
      cases h
      rcases Request.uses?_named_eq_some huses with ⟨s, hname, huses⟩
      cases huses
      exact .readSignal hname
  | driveSignal name level =>
      cases h
      rcases Request.uses?_named_eq_some huses with ⟨s, hname, huses⟩
      rcases Request.uses?_writable_eq_some huses with ⟨hwritable, huses⟩
      cases huses
      exact .driveSignal hname hwritable
  | driveSignalNumber name number =>
      cases h
      rcases Request.uses?_named_eq_some huses with ⟨s, hname, huses⟩
      rcases Request.uses?_writable_eq_some huses with ⟨hwritable, huses⟩
      rcases Request.uses?_checked_eq_some huses with ⟨level, hlevel, huses⟩
      cases huses
      exact .driveSignalNumber hname hwritable (Device.levelOfNumber_eq_ok_iff.mp hlevel).1
  | readCageLine number line =>
      cases h
      rcases Request.uses?_checked_eq_some huses with ⟨cage, hcage, huses⟩
      cases huses
      cases Cage.ofNumber?_eq_some_iff.mp (Device.cageOfNumber_eq_ok_iff.mp hcage)
      exact .readCageLine
  | driveCageLine number line level =>
      cases h
      rcases Request.uses?_checked_eq_some huses with ⟨cage, hcage, huses⟩
      rcases Request.uses?_writable_eq_some huses with ⟨hwritable, huses⟩
      cases huses
      cases Cage.ofNumber?_eq_some_iff.mp (Device.cageOfNumber_eq_ok_iff.mp hcage)
      rw [Signal.isWritable_cageLine] at hwritable
      exact .driveCageLine hwritable
  | readScratch =>
      cases h
      cases huses
      exact .readScratch
  | writeScratch value =>
      cases h
      cases huses
      exact .writeScratch
  | readAttribute name =>
      cases h
      rcases Request.uses?_checked_eq_some huses with ⟨a, ha, huses⟩
      have hname := Device.attributeOfName_eq_ok_iff.mp ha
      cases a with
      | identity field =>
          unfold Request.readAttribute at huses
          cases hfield : device.identity.get? field with
          | some b => simp [hfield, Request.uses?] at huses
          | none => simp [hfield, Request.uses?] at huses
      | scratch =>
          cases huses
          exact .showScratch hname
      | signal s =>
          cases huses
          exact .showSignal hname
  | storeAttribute name text =>
      cases h
      rcases Request.uses?_checked_eq_some huses with ⟨a, ha, huses⟩
      have hname := Device.attributeOfName_eq_ok_iff.mp ha
      cases a with
      | identity field => cases huses
      | scratch =>
          rcases Request.uses?_checked_eq_some huses with ⟨b, hb, huses⟩
          cases huses
          have hvalue := Text.ByteLiteral.parse?_eq_some_iff.mp
            (Device.byteOfText_eq_ok_iff.mp hb)
          exact .storeScratch hname hvalue (Nat.le_of_lt_succ b.isLt)
      | signal s =>
          rcases Request.uses?_writable_eq_some huses with ⟨hwritable, huses⟩
          rcases Request.uses?_checked_eq_some huses with ⟨b, hb, huses⟩
          rcases Request.uses?_checked_eq_some huses with ⟨level, hlevel, huses⟩
          cases huses
          have hvalue := Text.ByteLiteral.parse?_eq_some_iff.mp
            (Device.byteOfText_eq_ok_iff.mp hb)
          exact .storeSignal hname hwritable hvalue
            (Device.levelOfNumber_eq_ok_iff.mp hlevel).1

theorem DeviceAction.needs_iff {action : DeviceAction} {r : Register} {ds : List Direction}
    (n : Nat) (device : Device) :
    action.Needs r ds ↔
      exists q : Request n, action.request? device = some q ∧ q.uses? = some (r, ds) := by
  constructor
  · intro h
    exact h.request device
  · rintro ⟨q, hrequest, huses⟩
    exact needs_of_uses? hrequest huses

namespace Rack

variable {n : Nat}

inductive Needs (rack : Rack n) : Step n -> Fin n -> Register -> List Direction -> Prop where
  | onRegister {h : Nat} {handle : Handle n} (hhandle : rack.handles h = some handle)
      (action : RegisterAction) :
      Needs rack (.onRegister h action) handle.bus action.needs.1 action.needs.2
  | onDevice {h : Nat} {b : Fin n} {device : Device} {action : DeviceAction} {r : Register}
      {ds : List Direction}
      (hhandle : rack.handles h = some { bus := b, client := .device device })
      (hneeds : action.Needs r ds) :
      Needs rack (.onDevice h action) b r ds

theorem isOk_iff {rack : Rack n} {s : Step n} {b : Fin n} {r : Register}
    {ds : List Direction} (h : rack.Needs s b r ds) :
    (rack.step s).2.answer.isOk = true ↔
      forall d, d ∈ ds -> (rack.bus b).fault? d r.address = none := by
  cases h with
  | onRegister hhandle action =>
      rw [step_onRegister hhandle, action.program_eq]
      apply Request.isOk_iff action.wellFormed_request
      cases action <;> rfl
  | onDevice hhandle hneeds =>
      rcases (DeviceAction.needs_iff n _).mp hneeds with ⟨q, hrequest, huses⟩
      rw [step_onDevice hhandle, DeviceAction.program_eq_of_request? hrequest]
      exact Request.isOk_iff (DeviceAction.wellFormed_of_request? hrequest) huses _

end Rack
end CpldControl
