import CpldControl.Proofs.Changes
import CpldControl.Proofs.Transcript
import Mathlib.Data.List.FinRange

/-!
# Changes in another order

Changes may be carried out in another order, as long as those whose footprints
overlap keep theirs.  The rack ends up the same and every change is answered as
before, however many there are and however their handles share the buses.

A bit goes through the changes that touch it only, and these overlap pairwise, so they
come in the order they had (`Reordering.filter_eq`).  The counters do not depend on the
order, and the answers depend on the faults alone.
-/

namespace CpldControl

open Chip (Register)
open Smbus (Bus)

/-!
# Orders of a list
-/

/-- An order of the elements of a list, given by their positions, that keeps the order of
any two that are related. -/
structure Reordering {α : Type} (related : α -> α -> Prop) (xs : List α)
    (order : List (Fin xs.length)) : Prop where
  perm : order.Perm (List.finRange xs.length)
  keeps : order.Pairwise fun i j => related (xs.get i) (xs.get j) -> i < j

namespace Reordering

variable {α β : Type} {related : α -> α -> Prop} {xs : List α} {order : List (Fin xs.length)}

theorem perm_map (h : Reordering related xs order) : (order.map xs.get).Perm xs := by
  have hmap := h.perm.map xs.get
  rw [List.map_get_finRange] at hmap
  exact hmap

theorem filter_positions_eq (h : Reordering related xs order) {chosen : Fin xs.length -> Bool}
    (hrelated : forall i j, chosen i = true -> chosen j = true ->
      related (xs.get i) (xs.get j)) :
    order.filter chosen = (List.finRange xs.length).filter chosen := by
  have hsorted : (order.filter chosen).Pairwise (fun i j => i < j) := by
    rw [List.pairwise_filter]
    exact h.keeps.imp fun hkept hi hj => hkept (hrelated _ _ hi hj)
  have hrange : ((List.finRange xs.length).filter chosen).Pairwise (fun i j => i < j) :=
    (List.pairwise_lt_finRange xs.length).filter chosen
  exact (h.perm.filter chosen).eq_of_pairwise
    (fun i j _ _ hij hji => absurd hji (Nat.lt_asymm hij)) hsorted hrange

theorem filter_eq (h : Reordering related xs order) {P : α -> Bool}
    (hrelated : forall x y, P x = true -> P y = true -> related x y) :
    (order.map xs.get).filter P = xs.filter P := by
  have hpositions := h.filter_positions_eq fun i j => hrelated (xs.get i) (xs.get j)
  calc (order.map xs.get).filter P
      = (order.filter (P ∘ xs.get)).map xs.get := List.filter_map
    _ = ((List.finRange xs.length).filter (P ∘ xs.get)).map xs.get :=
        congrArg (List.map xs.get) hpositions
    _ = ((List.finRange xs.length).map xs.get).filter P := List.filter_map.symm
    _ = xs.filter P := by rw [List.map_get_finRange]

theorem foldl_eq (h : Reordering related xs order) {P : α -> Bool}
    (hrelated : forall x y, P x = true -> P y = true -> related x y) {f : β -> α -> β}
    (hignored : forall b x, P x = false -> f b x = b) (start : β) :
    (order.map xs.get).foldl f start = xs.foldl f start := by
  have hchosen (b : β) (x : α) : (if P x = true then f b x else b) = f b x := by
    cases hx : P x with
    | true => rfl
    | false => exact (hignored b x hx).symm
  have hfilter (ys : List α) : (ys.filter P).foldl f start = ys.foldl f start := by
    rw [List.foldl_filter]
    simp only [hchosen]
  rw [← hfilter, h.filter_eq hrelated, hfilter]

end Reordering

/-!
# Tasks

A task is a change together with the handle number that it is asked of.  Without a
device under that number, only a change of a register asks for anything.
-/

structure Task where
  handle : Nat
  change : Change

def Task.step {n : Nat} (task : Task) : Step n :=
  match task.change.action with
  | .inl action => .onRegister task.handle action
  | .inr action => .onDevice task.handle action

namespace Handle

variable {n : Nat}

def request (handle : Handle n) (change : Change) : Request n :=
  match change.action, handle.client with
  | .inl action, _ => action.request
  | .inr action, .device device => (action.request? device).getD (.reply .notDevice)
  | .inr _, .bare => .reply .notDevice

def footprint (handle : Handle n) (change : Change) : List (Register × Fin 8) :=
  match change.action, handle.client with
  | .inr _, .bare => []
  | _, _ => change.footprint

end Handle

theorem Change.exists_request {n : Nat} {change : Change} {action : DeviceAction}
    (haction : change.action = .inr action) (device : Device) :
    exists q : Request n, action.request? device = some q := by
  cases change with
  | write r value => cases haction
  | modify r masks => cases haction
  | _ =>
      cases haction
      exact ⟨_, rfl⟩

theorem Handle.changes_request {n : Nat} (handle : Handle n) (change : Change) :
    (handle.request change).Changes (handle.footprint change) := by
  unfold request footprint
  cases haction : change.action with
  | inl action => exact Change.changes_of_register haction
  | inr action =>
      cases handle.client with
      | bare => exact .reply _
      | device device =>
          rcases Change.exists_request haction device with ⟨q, hq⟩
          change ((action.request? device).getD _).Changes change.footprint
          rw [hq]
          exact Change.changes_of_device haction hq

namespace Rack

variable {n : Nat}

def footprint (rack : Rack n) (task : Task) : List (Fin n × Register × Fin 8) :=
  match rack.handles task.handle with
  | some handle => (handle.footprint task.change).map fun place => (handle.bus, place)
  | none => []

def Overlap (rack : Rack n) (task other : Task) : Prop :=
  exists place, place ∈ rack.footprint task ∧ place ∈ rack.footprint other

instance (rack : Rack n) (task other : Task) : Decidable (rack.Overlap task other) :=
  inferInstanceAs (Decidable (exists place, place ∈ rack.footprint task ∧ _))

def requestOn (rack : Rack n) (b : Fin n) (task : Task) : Request n :=
  match rack.handles task.handle with
  | some handle => if handle.bus = b then handle.request task.change else .reply .done
  | none => .reply .noHandle

theorem changes_requestOn (rack : Rack n) (b : Fin n) (task : Task) :
    exists footprint, (rack.requestOn b task).Changes footprint ∧
      forall place, place ∈ footprint -> (b, place) ∈ rack.footprint task := by
  unfold requestOn Rack.footprint
  cases rack.handles task.handle with
  | none => exact ⟨[], .reply _, fun _ hplace => absurd hplace List.not_mem_nil⟩
  | some handle =>
      simp only
      split
      next hbus =>
        subst hbus
        exact ⟨_, handle.changes_request task.change, fun _ => List.mem_map_of_mem⟩
      next => exact ⟨[], .reply _, fun _ hplace => absurd hplace List.not_mem_nil⟩

/-!
# One task

A task is answered by the faults on its bus, not by the bytes there.
-/

theorem step_task_of_some {rack : Rack n} {task : Task} {handle : Handle n}
    (hhandle : rack.handles task.handle = some handle) :
    rack.step task.step =
      rack.onBus handle.bus (handle.request task.change).program.run := by
  unfold Task.step Handle.request
  cases haction : task.change.action with
  | inl action =>
      simp only
      rw [step_onRegister hhandle, RegisterAction.program_eq]
  | inr action =>
      rcases handle with ⟨b, client⟩
      cases client with
      | bare =>
          simp only [step, withHandle_of_some hhandle]
          exact Prod.ext (setBus_bus rack b).symm rfl
      | device device =>
          rcases Change.exists_request (n := n) haction device with ⟨q, hq⟩
          simp only [hq, Option.getD_some]
          rw [step_onDevice hhandle, DeviceAction.program_eq_of_request? hq]

theorem step_task_of_none {rack : Rack n} {task : Task}
    (habsent : rack.handles task.handle = none) :
    rack.step task.step = (rack, .quiet .noHandle) := by
  unfold Task.step
  cases task.change.action with
  | inl action => exact withHandle_of_none habsent _
  | inr action => exact withHandle_of_none habsent _

theorem handles_step_task (rack : Rack n) (task : Task) :
    (rack.step task.step).1.handles = rack.handles := by
  cases hhandle : rack.handles task.handle with
  | none => rw [step_task_of_none hhandle]
  | some handle =>
      rw [step_task_of_some hhandle]
      rfl

theorem bus_step_task (rack : Rack n) (task : Task) (b : Fin n) :
    (rack.step task.step).1.bus b =
      ((rack.requestOn b task).program.run (rack.bus b)).bus := by
  unfold requestOn
  cases hhandle : rack.handles task.handle with
  | none =>
      rw [step_task_of_none hhandle]
      rfl
  | some handle =>
      rw [step_task_of_some hhandle]
      by_cases hbus : handle.bus = b
      · subst hbus
        simp only [if_pos]
        exact bus_onBus_self rack handle.bus _
      · simp only [if_neg hbus]
        exact bus_onBus_of_ne (Ne.symm hbus)

/-- A task is answered by the faults on its bus, not by the bytes there. -/
theorem answer_step_task {rack other : Rack n} (hhandles : other.handles = rack.handles)
    (hsame : forall b, (rack.bus b).SameSetting (other.bus b)) (task : Task) :
    (other.step task.step).2.answer.withoutBytes =
      (rack.step task.step).2.answer.withoutBytes := by
  cases hhandle : rack.handles task.handle with
  | none =>
      have hother : other.handles task.handle = none := by
        rw [hhandles]
        exact hhandle
      rw [step_task_of_none hhandle, step_task_of_none hother]
  | some handle =>
      have hother : other.handles task.handle = some handle := by
        rw [hhandles]
        exact hhandle
      rw [step_task_of_some hhandle, step_task_of_some hother]
      exact (handle.changes_request task.change).answer_run (hsame handle.bus)

/-!
# Tasks one after another
-/

theorem handles_run_tasks (rack : Rack n) (tasks : List Task) :
    (rack.run (tasks.map Task.step)).1.handles = rack.handles := by
  induction tasks generalizing rack with
  | nil => rfl
  | cons task tasks ih => exact (ih _).trans (rack.handles_step_task task)

theorem bus_run_tasks (rack : Rack n) (tasks : List Task) (b : Fin n) :
    (rack.run (tasks.map Task.step)).1.bus b =
      Request.busAfter (rack.bus b) (tasks.map (rack.requestOn b)) := by
  induction tasks generalizing rack with
  | nil => rfl
  | cons task tasks ih =>
      have hnext : (rack.step task.step).1.requestOn b = rack.requestOn b := by
        funext other
        rw [requestOn, requestOn, handles_step_task]
      have hrest := ih (rack.step task.step).1
      rw [hnext, bus_step_task] at hrest
      exact hrest

theorem answers_run_tasks (rack : Rack n) (tasks : List Task) :
    (rack.run (tasks.map Task.step)).2.map (fun report => report.answer.withoutBytes) =
      tasks.map fun task => (rack.step task.step).2.answer.withoutBytes := by
  induction tasks generalizing rack with
  | nil => rfl
  | cons task tasks ih =>
      have hsame (b : Fin n) : (rack.bus b).SameSetting ((rack.step task.step).1.bus b) := by
        rw [bus_step_task]
        exact BusProgram.sameSetting_run _ _
      have hrest := ih (rack.step task.step).1
      simp only [answer_step_task (rack.handles_step_task task) hsame] at hrest
      rw [List.map_cons, run_cons, List.map_cons, hrest, List.map_cons]

theorem answer_run_task {rack : Rack n} {tasks : List Task} {k : Nat} {task : Task}
    (hk : tasks[k]? = some task) :
    exists report, (rack.run (tasks.map Task.step)).2[k]? = some report ∧
      report.answer.withoutBytes = (rack.step task.step).2.answer.withoutBytes := by
  have hanswers := congrArg (fun answers => answers[k]?) (rack.answers_run_tasks tasks)
  simp only [List.getElem?_map, hk, Option.map_some] at hanswers
  exact Option.map_eq_some_iff.mp hanswers

/-!
# Another order
-/

def touches (rack : Rack n) (b : Fin n) (address : Byte) (i : Fin 8) (task : Task) : Bool :=
  (rack.footprint task).any fun place =>
    place.1 = b && place.2.1.address = address && place.2.2 = i

theorem touches_eq_true_iff {rack : Rack n} {b : Fin n} {address : Byte} {i : Fin 8}
    {task : Task} :
    rack.touches b address i task = true ↔
      exists r : Register, r.address = address ∧ (b, r, i) ∈ rack.footprint task := by
  simp only [touches, List.any_eq_true, Bool.and_eq_true, decide_eq_true_eq]
  constructor
  · rintro ⟨⟨c, r, j⟩, hplace, ⟨rfl, haddress⟩, rfl⟩
    exact ⟨r, haddress, hplace⟩
  · rintro ⟨r, haddress, hplace⟩
    exact ⟨(b, r, i), hplace, ⟨rfl, haddress⟩, rfl⟩

theorem overlap_of_touches {rack : Rack n} {b : Fin n} {address : Byte} {i : Fin 8}
    {task other : Task} (htask : rack.touches b address i task = true)
    (hother : rack.touches b address i other = true) : rack.Overlap task other := by
  rcases touches_eq_true_iff.mp htask with ⟨r, haddress, hplace⟩
  rcases touches_eq_true_iff.mp hother with ⟨s, haddress', hplace'⟩
  have hrs : r = s := Register.address_injective (haddress.trans haddress'.symm)
  subst hrs
  exact ⟨(b, r, i), hplace, hplace'⟩

theorem bitAfter_of_not_touches {rack : Rack n} {b : Fin n} {address : Byte} {i : Fin 8}
    {task : Task} (htask : rack.touches b address i task = false) (bus : Bus) (level : Bool) :
    (rack.requestOn b task).bitAfter bus address i level = level := by
  rcases rack.changes_requestOn b task with ⟨footprint, hchanges, hplaces⟩
  apply hchanges.bitAfter_of_outside
  intro r haddress hplace
  have htouches := touches_eq_true_iff.mpr ⟨r, haddress, hplaces _ hplace⟩
  rw [htask] at htouches
  cases htouches

theorem bit_busAfter_tasks (rack : Rack n) (b : Fin n) (tasks : List Task) (address : Byte)
    (i : Fin 8) :
    let final := Request.busAfter (rack.bus b) (tasks.map (rack.requestOn b))
    (final.registers.get address).bit i =
      tasks.foldl (fun level task => (rack.requestOn b task).bitAfter (rack.bus b) address i level)
        (((rack.bus b).registers.get address).bit i) := by
  intro final
  have hchanges : forall q, q ∈ tasks.map (rack.requestOn b) ->
      exists footprint, q.Changes footprint := by
    intro q hq
    rcases List.mem_map.mp hq with ⟨task, -, rfl⟩
    rcases rack.changes_requestOn b task with ⟨footprint, hchanges, -⟩
    exact ⟨footprint, hchanges⟩
  rw [Request.bit_busAfter hchanges, List.foldl_map]

theorem busAfter_reordered {rack : Rack n} {tasks : List Task}
    {order : List (Fin tasks.length)} (horder : Reordering rack.Overlap tasks order)
    (b : Fin n) :
    Request.busAfter (rack.bus b) ((order.map tasks.get).map (rack.requestOn b)) =
      Request.busAfter (rack.bus b) (tasks.map (rack.requestOn b)) := by
  have hperm := horder.perm_map.map (rack.requestOn b)
  apply Bus.eq_of_bits
  · exact (Request.sameSetting_busAfter _ _).symm.trans (Request.sameSetting_busAfter _ _)
  · intro address i
    have hignored (level : Bool) (task : Task) (htask : rack.touches b address i task = false) :
        (rack.requestOn b task).bitAfter (rack.bus b) address i level = level :=
      bitAfter_of_not_touches htask (rack.bus b) level
    -- the other tasks may be left out, and those that touch the bit overlap
    rw [bit_busAfter_tasks, bit_busAfter_tasks]
    exact horder.foldl_eq (fun _ _ => overlap_of_touches) hignored _
  · rw [Request.reads_busAfter, Request.reads_busAfter, hperm.countP_eq]
  · rw [Request.writes_busAfter, Request.writes_busAfter, hperm.countP_eq]

/-- Changes may be carried out in any order that keeps the order of every two whose
footprints overlap.  The rack ends up the same, with its registers and its counters, and
every change is answered as before, apart from the bytes that a modification shows. -/
theorem run_reordered (rack : Rack n) (tasks : List Task) (order : List (Fin tasks.length))
    (horder : Reordering rack.Overlap tasks order) :
    let first := rack.run (tasks.map Task.step)
    let second := rack.run ((order.map tasks.get).map Task.step)
    second.1 = first.1 ∧
      forall (k : Nat) (i : Fin tasks.length), order[k]? = some i ->
        exists before after : Report n,
          first.2[i.val]? = some before ∧ second.2[k]? = some after ∧
            after.answer.withoutBytes = before.answer.withoutBytes := by
  intro first second
  constructor
  · apply ext_bus
    · intro b
      rw [bus_run_tasks, bus_run_tasks]
      exact busAfter_reordered horder b
    · intro h
      rw [handles_run_tasks, handles_run_tasks]
  · intro k i hk
    have hfirst : tasks[i.val]? = some (tasks.get i) := List.getElem?_eq_getElem i.isLt
    have hsecond : (order.map tasks.get)[k]? = some (tasks.get i) := by
      rw [List.getElem?_map, hk, Option.map_some]
    rcases answer_run_task hfirst with ⟨before, hbefore, hanswer⟩
    rcases answer_run_task hsecond with ⟨after, hafter, hanswer'⟩
    exact ⟨before, after, hbefore, hafter, hanswer'.trans hanswer.symm⟩

/-- Five tasks, three of them on one byte.  Those of cage 17 drive one bit and keep their
order; the modification of two other bits, through bare register access, comes between
them or before.  The second bus has a write fault. -/
theorem run_reordered_shared_byte :
    let device : Device := { identity := .ofRegisters none none none none, bringUpFault := none }
    let buses := #v[Bus.idle .byteData, (Bus.idle .byteData).plantWriteFault 0x11 .dataNak]
    let rack := (((Rack.ofBuses buses).setHandle 0 (some { bus := 0, client := .device device })
      ).setHandle 1 (some { bus := 0, client := .bare })
      ).setHandle 2 (some { bus := 1, client := .device device })
    let masks : Byte.Masks := { keep := 0xBF, raise := 0x00, toggle := 0x01 }
    let tasks : List Task :=
      [ { handle := 0, change := .driveCageLine 17 .reset true },
        { handle := 1, change := .modify (.cageLines .reset .low) masks },
        { handle := 0, change := .storeAttribute "qsfp17_rst" "0" },
        { handle := 2, change := .driveSignalNumber "qsfp17_rst" 1 },
        { handle := 1, change := .writeScratch 0x3C } ]
    let order : List (Fin tasks.length) := [3, 1, 4, 0, 2]
    let first := rack.run (tasks.map Task.step)
    let second := rack.run ((order.map tasks.get).map Task.step)
    rack.Overlap (tasks.get 0) (tasks.get 2) ∧
      Reordering rack.Overlap tasks order ∧
      second.1 = first.1 ∧
      (second.1.bus 0).registers.get 0x11 = 0x01 ∧
      exists before after : Report 2,
        first.2[3]? = some before ∧ second.2[0]? = some after ∧
          after.answer.withoutBytes = before.answer.withoutBytes := by
  intro device buses rack masks tasks order first second
  have hoverlap : rack.Overlap (tasks.get 0) (tasks.get 2) := by
    decide +kernel
  have horder : Reordering rack.Overlap tasks order :=
    ⟨by decide +kernel, by decide +kernel⟩
  rcases run_reordered rack tasks order horder with ⟨hracks, hanswers⟩
  have hbyte : (second.1.bus 0).registers.get 0x11 = 0x01 := by
    decide +kernel
  exact ⟨hoverlap, horder, hracks, hbyte, hanswers 0 3 rfl⟩

end Rack
end CpldControl
