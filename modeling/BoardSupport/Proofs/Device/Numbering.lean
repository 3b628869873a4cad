/-
This file proves what the numbers of a registry stand for. Whatever is done with a
registry, it holds the devices whose registration was accepted, in that order: they
fill its first slots, the others are empty, and no two share a name. The two ways to
a device, by its name over the slots in use and by its number over all slots, then
agree with that order, and since devices are only ever added at its end, a number
stands for the same device forever.
-/

import Mathlib.Data.List.Nodup
import BoardSupport.Device.Registry

namespace BoardSupport.Device

namespace Registry

variable {Driver World : Type}

/-! ### The devices in the slots -/

/-- The registry holds some devices: they fill its first slots in their order, the other slots are
empty, and no two of them share a name. -/
structure Holds (registry : Registry Driver) (devices : List (String × Driver)) : Prop where
  slots : registry.slots =
    devices.map some ++ List.replicate (registry.capacity - devices.length) none
  count : registry.count = devices.length
  distinct : (devices.map Prod.fst).Nodup

theorem holds_empty (capacity : Nat) : (empty capacity : Registry Driver).Holds [] where
  slots := by rw [capacity_empty]; rfl
  count := rfl
  distinct := List.nodup_nil

namespace Holds

variable {registry : Registry Driver} {devices : List (String × Driver)}

theorem room (holds : registry.Holds devices) : devices.length ≤ registry.capacity := by
  have length : registry.capacity = devices.length + (registry.capacity - devices.length) := by
    simpa [capacity] using congrArg List.length holds.slots
  omega

/-- The slots in use are those of the devices. -/
theorem take_eq (holds : registry.Holds devices) :
    registry.slots.take registry.count = devices.map some := by
  rw [holds.slots, holds.count]
  exact List.take_left' (List.length_map _)

theorem getElem?_eq (holds : registry.Holds devices) (position : Nat) :
    registry.slots[position]?.join = devices[position]? := by
  rw [holds.slots]
  by_cases used : position < devices.length
  · simp [List.getElem?_append_left, used]
  · have free : devices.length ≤ position := Nat.le_of_not_lt used
    rw [List.getElem?_append_right (by simpa using free), List.getElem?_replicate,
      List.getElem?_eq_none free]
    split <;> rfl

/-! ### The two ways to a device -/

theorem driver?_eq (holds : registry.Holds devices) (number : UInt16) :
    registry.driver? number = devices[number.toNat]?.map Prod.snd := by
  rw [driver?, holds.getElem?_eq]

theorem find?_eq (holds : registry.Holds devices) (name : String) :
    registry.find? name =
      (devices.findIdx? fun device => device.1 = name).map UInt16.ofNat := by
  rw [find?, holds.take_eq, List.findIdx?_map]
  rfl

theorem find?_eq_none_iff (holds : registry.Holds devices) (name : String) :
    registry.find? name = none ↔ name ∉ devices.map Prod.fst := by
  rw [holds.find?_eq, Option.map_eq_none_iff, List.findIdx?_eq_none_iff]
  constructor
  · intro unnamed member
    obtain ⟨device, held, same⟩ := List.mem_map.mp member
    exact of_decide_eq_false (unnamed device held) same
  · intro new device held
    exact decide_eq_false fun same => new (List.mem_map.mpr ⟨device, held, same⟩)

/-- Since names are distinct, the position of a name is the only one at which it stands. -/
theorem findIdx?_eq_some_iff (holds : registry.Holds devices) (name : String) (position : Nat) :
    (devices.findIdx? fun device => device.1 = name) = some position ↔
      devices[position]?.map Prod.fst = some name := by
  rw [List.findIdx?_eq_some_iff_getElem, ← List.getElem?_map, List.getElem?_eq_some_iff]
  simp only [decide_eq_true_eq, List.length_map, List.getElem_map]
  constructor
  · rintro ⟨inside, named, -⟩
    exact ⟨inside, named⟩
  · rintro ⟨inside, named⟩
    -- An earlier device of that name would share it with this one.
    refine ⟨inside, named, fun earlier before same => ?_⟩
    have first : earlier < (devices.map Prod.fst).length := by
      rw [List.length_map]
      exact Nat.lt_trans before inside
    have second : position < (devices.map Prod.fst).length := by rwa [List.length_map]
    have equal : (devices.map Prod.fst)[earlier] = (devices.map Prod.fst)[position] := by
      rw [List.getElem_map, List.getElem_map, same, named]
    exact Nat.ne_of_lt before ((List.Nodup.getElem_inj_iff holds.distinct).mp equal)

/-- A name is found under a number exactly if it is the name of the device in that place. The number
says it all as long as sixteen bits can tell the slots apart. -/
theorem find?_eq_some_iff (holds : registry.Holds devices) (small : registry.capacity ≤ 65536)
    (name : String) (number : UInt16) :
    registry.find? name = some number ↔ devices[number.toNat]?.map Prod.fst = some name := by
  rw [holds.find?_eq, Option.map_eq_some_iff]
  constructor
  · rintro ⟨position, found, rfl⟩
    have named := (holds.findIdx?_eq_some_iff name position).mp found
    obtain ⟨device, held, -⟩ := Option.map_eq_some_iff.mp named
    have inside : position < devices.length := (List.getElem?_eq_some_iff.mp held).1
    have narrow : position < 65536 := Nat.lt_of_lt_of_le inside (Nat.le_trans holds.room small)
    rw [UInt16.toNat_ofNat_of_lt' narrow]
    exact named
  · intro named
    exact ⟨number.toNat, (holds.findIdx?_eq_some_iff name _).mpr named, UInt16.ofNat_toNat⟩

/-! ### Registering -/

theorem register_of_refused (holds : registry.Holds devices) (name : String) (driver : Driver)
    (refused : ¬ (devices.length < registry.capacity ∧ name ∉ devices.map Prod.fst)) :
    registry.register name driver = (.error .failed, registry) := by
  rw [register, if_neg]
  rwa [holds.count, holds.find?_eq_none_iff]

/-- An accepted device goes to the first slot that is free. -/
theorem register_of_accepted (holds : registry.Holds devices) (name : String) (driver : Driver)
    (free : devices.length < registry.capacity) (new : name ∉ devices.map Prod.fst) :
    (registry.register name driver).1 = .ok (.ofNat devices.length) ∧
      (registry.register name driver).2.capacity = registry.capacity ∧
      (registry.register name driver).2.Holds (devices ++ [(name, driver)]) := by
  have accepted : registry.register name driver =
      (.ok (.ofNat devices.length),
        ⟨registry.slots.set devices.length (some (name, driver)), devices.length + 1⟩) := by
    rw [register, if_pos ⟨by rwa [holds.count], (holds.find?_eq_none_iff name).mpr new⟩,
      holds.count]
  have same : (registry.register name driver).2.capacity = registry.capacity := by
    rw [accepted]
    exact List.length_set
  refine ⟨by rw [accepted], same, ?_, ?_, ?_⟩
  · rw [same, accepted]
    obtain ⟨left, more⟩ := Nat.exists_eq_add_of_lt free
    have before : registry.capacity - devices.length = left + 1 := by omega
    have after : registry.capacity - (devices ++ [(name, driver)]).length = left := by
      rw [List.length_append, List.length_singleton]
      omega
    rw [holds.slots, before, after, List.replicate_succ,
      List.set_append_right _ _ (Nat.le_of_eq (List.length_map _))]
    simp
  · rw [accepted, List.length_append, List.length_singleton]
  · rw [List.map_append, List.nodup_append]
    refine ⟨holds.distinct, List.nodup_singleton _, ?_⟩
    intro first member second last same
    rw [List.map_singleton, List.mem_singleton] at last
    rw [same, last] at member
    exact new member

end Holds

end Registry

/-! ### Histories of a registry -/

/-- One thing to do with a registry: register a driver, or send a command. -/
inductive Use (Driver : Type)
  | register (name : String) (driver : Driver)
  | command (location : Location) (command : Command) (argument : Argument)

inductive UseOutcome
  | registered (result : Except Fault UInt16)
  | replied (reply : Reply)

/-- A registry and the world its drivers live in, with what was done so far, newest entry first. -/
structure Deployment (Driver World : Type) where
  registry : Registry Driver
  world : World
  history : List (Use Driver × UseOutcome)

/-- The device that a use has added: one whose registration was accepted. -/
def Use.added? {Driver : Type} : Use Driver × UseOutcome → Option (String × Driver)
  | (.register name driver, .registered (.ok _)) => some (name, driver)
  | _ => none

namespace Deployment

variable {Driver World : Type}

/-- An empty registry with so many slots. -/
def fresh (capacity : Nat) (world : World) : Deployment Driver World :=
  ⟨.empty capacity, world, []⟩

def carryOut (invoke : Registry.Invoke Driver World) (deployment : Deployment Driver World)
    (use : Use Driver) : Deployment Driver World :=
  match use with
  | .register name driver =>
    let (result, registry) := deployment.registry.register name driver
    { deployment with registry, history := (use, .registered result) :: deployment.history }
  | .command location command argument =>
    let (reply, world) :=
      deployment.registry.command invoke location command argument deployment.world
    { deployment with world, history := (use, .replied reply) :: deployment.history }

def carryOutAll (invoke : Registry.Invoke Driver World) (deployment : Deployment Driver World)
    (uses : List (Use Driver)) : Deployment Driver World :=
  uses.foldl (carryOut invoke) deployment

/-- The devices whose registration was accepted, in the order in which that happened. -/
def devices (deployment : Deployment Driver World) : List (String × Driver) :=
  deployment.history.reverse.filterMap Use.added?

theorem devices_of_history {before after : Deployment Driver World}
    (entry : Use Driver × UseOutcome) (history : after.history = entry :: before.history) :
    after.devices = before.devices ++ (Use.added? entry).toList := by
  rw [devices, history, List.reverse_cons, List.filterMap_append]
  cases added : Use.added? entry with
  | none => simp [added, devices]
  | some device => simp [added, devices]

/-- What everything done with a registry leaves true of it: it holds the devices accepted so far,
and has the slots it was made with. -/
structure Kept (deployment : Deployment Driver World) (capacity : Nat) : Prop where
  capacity : deployment.registry.capacity = capacity
  holds : deployment.registry.Holds deployment.devices

theorem kept_fresh (capacity : Nat) (world : World) :
    (fresh capacity world : Deployment Driver World).Kept capacity :=
  ⟨Registry.capacity_empty capacity, Registry.holds_empty capacity⟩

/-- One thing done with a registry keeps that, and devices are only added, at the end. -/
theorem Kept.carryOut {deployment : Deployment Driver World} {capacity : Nat}
    (kept : deployment.Kept capacity) (invoke : Registry.Invoke Driver World) (use : Use Driver) :
    (deployment.carryOut invoke use).Kept capacity ∧
      deployment.devices <+: (deployment.carryOut invoke use).devices := by
  obtain ⟨rfl, holds⟩ := kept
  cases use with
  | register name driver =>
    have devices : (deployment.carryOut invoke (.register name driver)).devices =
        deployment.devices ++ (Use.added? (.register name driver,
          .registered (deployment.registry.register name driver).1)).toList :=
      devices_of_history _ rfl
    refine ⟨?_, by rw [devices]; exact List.prefix_append _ _⟩
    by_cases accepted : deployment.devices.length < deployment.registry.capacity ∧
        name ∉ deployment.devices.map Prod.fst
    · obtain ⟨answer, capacity, held⟩ := holds.register_of_accepted name driver accepted.1 accepted.2
      refine ⟨capacity, ?_⟩
      rw [devices, answer]
      exact held
    · have refused := holds.register_of_refused name driver accepted
      have same : (deployment.carryOut invoke (.register name driver)).registry =
          deployment.registry := congrArg Prod.snd refused
      refine ⟨by rw [same], ?_⟩
      rw [same, devices, refused]
      simpa [Use.added?] using holds
  | command location command argument =>
    have devices : (deployment.carryOut invoke (.command location command argument)).devices =
        deployment.devices ++ [] :=
      devices_of_history
        (.command location command argument, .replied (deployment.registry.command invoke location
          command argument deployment.world).1) rfl
    rw [List.append_nil] at devices
    rw [devices]
    exact ⟨⟨rfl, by rw [devices]; exact holds⟩, List.prefix_refl _⟩

theorem Kept.carryOutAll {deployment : Deployment Driver World} {capacity : Nat}
    (kept : deployment.Kept capacity) (invoke : Registry.Invoke Driver World)
    (uses : List (Use Driver)) :
    (deployment.carryOutAll invoke uses).Kept capacity ∧
      deployment.devices <+: (deployment.carryOutAll invoke uses).devices := by
  induction uses generalizing deployment with
  | nil => exact ⟨kept, List.prefix_refl _⟩
  | cons use rest inductionHypothesis =>
    obtain ⟨next, extended⟩ := kept.carryOut invoke use
    obtain ⟨final, extendedMore⟩ := inductionHypothesis next
    exact ⟨final, extended.trans extendedMore⟩

end Deployment

/-! ### What the numbers stand for -/

namespace Registry

variable {Driver World : Type}

/-- The same drivers with a record of which of them has heard what, newest entry first. -/
def Invoke.traced (invoke : Invoke Driver World) :
    Invoke Driver (World × List (Driver × Invocation)) :=
  fun driver invocation (world, heard) =>
    let (reply, world) := invoke driver invocation world
    (reply, (world, (driver, invocation) :: heard))

/-- A registry leads to some devices by the places in which they stand. -/
structure Routes (registry : Registry Driver) (capacity : Nat) (devices : List (String × Driver)) :
    Prop where
  /-- The devices fill the first slots in their order, and the other slots are empty. -/
  slots : registry.slots = devices.map some ++ List.replicate (capacity - devices.length) none
  size : registry.size = devices.length
  room : devices.length ≤ capacity
  distinct : (devices.map Prod.fst).Nodup
  /-- A device is accepted exactly if there is room and its name is free, and its number is then
  the number of devices before it. -/
  accepts : ∀ name driver number, (registry.register name driver).1 = .ok number ↔
    registry.size < capacity ∧ name ∉ devices.map Prod.fst ∧ number.toNat = registry.size
  refuses : ∀ name driver, ¬ (registry.size < capacity ∧ name ∉ devices.map Prod.fst) →
    registry.register name driver = (.error .failed, registry)
  finds : ∀ name number, registry.find? name = some number ↔
    devices[number.toNat]?.map Prod.fst = some name
  /-- A command to the number of a device reaches its driver, once and as it was sent, and no other
  driver hears of it. -/
  reaches : ∀ {World : Type} (invoke : Invoke Driver World) (location : Location)
    (command : Command) (argument : Argument) (world : World) (heard : List (Driver × Invocation))
    (inside : location.device.toNat < devices.length),
    let driver := devices[location.device.toNat].2
    let invocation := ⟨command.code, location.subsystem, location.subchannel, argument⟩
    registry.command invoke.traced location command argument (world, heard) =
      ((invoke driver invocation world).1,
        ((invoke driver invocation world).2, (driver, invocation) :: heard))
  /-- A command to any other number fails, and no driver hears of it. -/
  misses : ∀ {World : Type} (invoke : Invoke Driver World) (location : Location)
    (command : Command) (argument : Argument) (world : World) (heard : List (Driver × Invocation)),
    registry.size ≤ location.device.toNat →
    registry.command invoke.traced location command argument (world, heard) =
      (⟨-1, argument⟩, (world, heard))

theorem Holds.routes {registry : Registry Driver} {devices : List (String × Driver)}
    (holds : registry.Holds devices) (small : registry.capacity ≤ 65536) :
    registry.Routes registry.capacity devices where
  slots := holds.slots
  size := holds.count
  room := holds.room
  distinct := holds.distinct
  accepts name driver number := by
    rw [size, holds.count]
    by_cases accepted : devices.length < registry.capacity ∧ name ∉ devices.map Prod.fst
    · obtain ⟨free, new⟩ := accepted
      rw [(holds.register_of_accepted name driver free new).1, Except.ok.injEq,
        ← UInt16.toNat_inj, UInt16.toNat_ofNat_of_lt' (Nat.lt_of_lt_of_le free small)]
      exact ⟨fun same => ⟨free, new, same.symm⟩, fun ⟨_, _, same⟩ => same.symm⟩
    · rw [holds.register_of_refused name driver accepted]
      exact ⟨nofun, fun ⟨free, new, _⟩ => absurd ⟨free, new⟩ accepted⟩
  refuses name driver refused := by
    rw [size, holds.count] at refused
    exact holds.register_of_refused name driver refused
  finds := holds.find?_eq_some_iff small
  reaches invoke location command argument world heard inside := by
    rw [Registry.command, holds.driver?_eq, List.getElem?_eq_getElem inside]
    rfl
  misses invoke location command argument world heard beyond := by
    rw [size, holds.count] at beyond
    rw [Registry.command, holds.driver?_eq, List.getElem?_eq_none beyond]
    rfl

end Registry

/-- A device that was accepted is found under its number by its name, and its driver by the number,
whatever is done with the registry later. -/
theorem Deployment.Kept.registered {Driver World : Type} {deployment : Deployment Driver World}
    {capacity : Nat} (kept : deployment.Kept capacity) (small : capacity ≤ 65536)
    (invoke : Registry.Invoke Driver World) {name : String} {driver : Driver} {number : UInt16}
    (accepted : (deployment.registry.register name driver).1 = .ok number)
    (more : List (Use Driver)) :
    let later := (deployment.carryOut invoke (.register name driver)).carryOutAll invoke more
    later.registry.find? name = some number ∧ later.registry.driver? number = some driver := by
  intro later
  let middle := deployment.carryOut invoke (.register name driver)
  obtain ⟨keptLater, added, extended⟩ :=
    (kept.carryOut invoke (.register name driver)).1.carryOutAll invoke more
  have devices : middle.devices = deployment.devices ++ [(name, driver)] := by
    rw [devices_of_history (.register name driver, .registered (.ok number))
      (by rw [← accepted]; rfl)]
    rfl
  have position : number.toNat = deployment.devices.length := by
    have routes := kept.holds.routes (by rwa [kept.capacity])
    rw [((routes.accepts name driver number).mp accepted).2.2, routes.size]
  have held : later.devices[number.toNat]? = some (name, driver) := by
    rw [show later.devices = middle.devices ++ added from extended.symm, devices, position]
    simp
  constructor
  · rw [keptLater.holds.find?_eq_some_iff (by rwa [keptLater.capacity]), held]
    rfl
  · rw [keptLater.holds.driver?_eq, held]
    rfl

/-- Numbers stand for devices, forever. Whatever has been done with a registry of at most 65536
slots, it leads to the devices accepted so far by the order in which they were accepted, and
whatever is done with it later, every name keeps its number and every number its driver. -/
theorem numbers_stand_for_devices {Driver World : Type} (invoke : Registry.Invoke Driver World)
    (capacity : Nat) (small : capacity ≤ 65536) (world : World) (uses more : List (Use Driver)) :
    let now := (Deployment.fresh capacity world).carryOutAll invoke uses
    let later := now.carryOutAll invoke more
    now.registry.Routes capacity now.devices ∧
      (∀ name number, now.registry.find? name = some number →
        later.registry.find? name = some number) ∧
      ∀ number driver, now.registry.driver? number = some driver →
        later.registry.driver? number = some driver := by
  intro now later
  have kept : now.Kept capacity :=
    ((Deployment.kept_fresh capacity world).carryOutAll invoke uses).1
  obtain ⟨keptLater, added, extended⟩ := kept.carryOutAll invoke more
  have same : ∀ {number : UInt16} {device : String × Driver},
      now.devices[number.toNat]? = some device → later.devices[number.toNat]? = some device := by
    intro number device held
    rw [show later.devices = now.devices ++ added from extended.symm,
      List.getElem?_append_left (List.getElem?_eq_some_iff.mp held).1, held]
  have routes : now.registry.Routes capacity now.devices := by
    rw [← kept.capacity]
    exact kept.holds.routes (by rwa [kept.capacity])
  refine ⟨routes, fun name number found => ?_, fun number driver held => ?_⟩
  · have named := (routes.finds name number).mp found
    obtain ⟨device, held, rfl⟩ := Option.map_eq_some_iff.mp named
    rw [keptLater.holds.find?_eq_some_iff (by rwa [keptLater.capacity]), same held]
    rfl
  · rw [kept.holds.driver?_eq] at held
    obtain ⟨device, inPlace, rfl⟩ := Option.map_eq_some_iff.mp held
    rw [keptLater.holds.driver?_eq, same inPlace]
    rfl

/-- Two slots, and one driver under two names; a name that is taken and a device too many are
refused in between. -/
theorem numbers_stand_for_devices_two_slots :
    let echo : Registry.Invoke Nat Unit := fun _ invocation => pure ⟨0, invocation.argument⟩
    let now := (Deployment.fresh 2 ()).carryOutAll echo
      [.register "adc0" 4, .command ⟨0, 0, 0⟩ .noop .none, .register "adc0" 5, .register "adc1" 4]
    now.devices = [("adc0", 4), ("adc1", 4)] ∧
      now.registry.find? "adc1" = some 1 ∧
      now.registry.register "adc2" 6 = (.error .failed, now.registry) ∧
      now.registry.command echo.traced ⟨1, 2, 3⟩ .setRunning (.number 7) ((), []) =
        (⟨0, .number 7⟩, ((), [(4, ⟨1, 2, 3, .number 7⟩)])) ∧
      now.registry.command echo.traced ⟨2, 2, 3⟩ .setRunning (.number 7) ((), []) =
        (⟨-1, .number 7⟩, ((), [])) := by
  intro echo now
  obtain ⟨routes, -, -⟩ := numbers_stand_for_devices echo 2 (by decide) ()
    [.register "adc0" 4, .command ⟨0, 0, 0⟩ .noop .none, .register "adc0" 5, .register "adc1" 4] []
  have devices : now.devices = [("adc0", 4), ("adc1", 4)] := by decide
  refine ⟨devices, ?_, ?_, ?_, ?_⟩
  · exact (routes.finds "adc1" 1).mpr (by decide)
  · exact routes.refuses "adc2" 6 (by decide)
  · exact routes.reaches echo ⟨1, 2, 3⟩ .setRunning (.number 7) () [] (by decide)
  · exact routes.misses echo ⟨2, 2, 3⟩ .setRunning (.number 7) () [] (by decide)

end BoardSupport.Device
