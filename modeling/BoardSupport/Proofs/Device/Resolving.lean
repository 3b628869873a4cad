/-
This file says where a registry leads with three names. The device is looked for in the
registry and the other two names in tables of the driver behind it, and what comes back
are numbers of sixteen bits. A number is made from the place where a name stands first
by keeping its low sixteen bits, without a check; the checks further on see the number
only, which always fits. So the names are found exactly if they are there, and every
number leads back to its name if the name stands among the first 65536. A name that
stands further back gets the number of an earlier one, and no fault is reported.
-/

import Mathlib.Data.List.Basic
import BoardSupport.Device.Bench
import BoardSupport.Proofs.Device.Numbering

namespace BoardSupport.Device

variable {Driver World : Type}

/-! ### Places and numbers -/

/-- A number that a name has in a list: what sixteen bits keep of the place where the name stands
first. -/
structure Numbered (entries : List String) (name : String) (number : UInt16) : Prop where
  member : name ∈ entries
  reduced : number.toNat = entries.idxOf name % 65536

theorem exists_numbered_iff (entries : List String) (name : String) :
    (∃ number, Numbered entries name number) ↔ name ∈ entries :=
  ⟨fun ⟨_, numbered⟩ => numbered.member,
    fun member => ⟨.ofNat (entries.idxOf name), member, UInt16.toNat_ofNat'⟩⟩

/-- Looking for the first place of a name finds its number. -/
theorem map_findIdx?_eq_some_iff (entries : List String) (name : String) (number : UInt16) :
    (entries.findIdx? fun entry => entry = name).map UInt16.ofNat = some number ↔
      Numbered entries name number := by
  by_cases member : name ∈ entries
  · have first : (entries.findIdx? fun entry => entry = name) = some (entries.idxOf name) :=
      List.findIdx?_eq_some_of_exists ⟨name, member, decide_eq_true rfl⟩
    rw [first, Option.map_some, Option.some_inj, ← UInt16.toNat_inj, UInt16.toNat_ofNat']
    exact ⟨fun same => ⟨member, same.symm⟩, fun numbered => numbered.reduced.symm⟩
  · have absent : (entries.findIdx? fun entry => entry = name) = none :=
      List.findIdx?_eq_none_iff.mpr fun entry held =>
        decide_eq_false fun same => member (same ▸ held)
    rw [absent]
    exact ⟨nofun, fun numbered => absurd numbered.member member⟩

/-- A number leads back to its name if the name stands among the first 65536. Otherwise there is
another name in that place. -/
theorem Numbered.leadsBack_iff {entries : List String} {name : String} {number : UInt16}
    (numbered : Numbered entries name number) :
    entries[number.toNat]? = some name ↔ entries.idxOf name < 65536 := by
  constructor
  · intro back
    have narrow : number.toNat < 65536 := number.toNat_lt
    have early : name ∈ entries.take 65536 :=
      List.mem_of_getElem? ((List.getElem?_take_of_lt narrow).trans back)
    exact (List.mem_take_iff_idxOf_lt numbered.member).mp early
  · intro near
    rw [numbered.reduced, Nat.mod_eq_of_lt near]
    exact List.getElem?_idxOf numbered.member

theorem NameTable.lookup_eq_some_iff (table : NameTable) (name : String) (number : UInt16) :
    table.lookup name = some number ↔ Numbered table.names name number :=
  map_findIdx?_eq_some_iff table.names name number

namespace Registry

theorem Holds.find?_eq_some_iff_numbered {registry : Registry Driver}
    {devices : List (String × Driver)} (holds : registry.Holds devices) (name : String)
    (number : UInt16) :
    registry.find? name = some number ↔ Numbered (devices.map Prod.fst) name number := by
  rw [← map_findIdx?_eq_some_iff, holds.find?_eq, List.findIdx?_map]
  rfl

/-! ### Numbers as answers -/

/-- A number of sixteen bits comes through a status word as it was. -/
theorem numberOfStatus_toUInt32 (number : UInt16) :
    numberOfStatus (statusWord (.ok number.toUInt32)) = .ok number := by
  have narrow : number.toNat < 65536 := number.toNat_lt
  have small : number.toUInt32 < 0x80000000 := by
    rw [UInt32.lt_iff_toNat_lt, UInt16.toNat_toUInt32]
    exact Nat.lt_trans narrow (by decide)
  have value : number.toUInt32.toInt32.toInt = number.toNat :=
    BitVec.toInt_eq_toNat_of_lt (by
      show 2 * number.toUInt32.toNat < 2 ^ 32
      rw [UInt16.toNat_toUInt32]
      omega)
  have inside : 0 ≤ number.toUInt32.toInt32 ∧ number.toUInt32.toInt32 ≤ 0xFFFF := by
    rw [Int32.le_iff_toInt_le, Int32.le_iff_toInt_le, value]
    exact ⟨Int.natCast_nonneg _, Int.ofNat_le.mpr (Nat.le_of_lt_succ narrow)⟩
  rw [statusWord, if_pos small, numberOfStatus, if_pos inside, UInt32.toUInt32_toInt32,
    UInt16.toUInt16_toUInt32]

/-- What is made of the answer to the question for a name in a table. -/
theorem numberOfStatus_number (table : NameTable) (name : String) :
    numberOfStatus (statusWord (table.number name)) =
      match table.lookup name with
      | some number => .ok number
      | none => .error .failed := by
  rw [NameTable.number]
  cases table.lookup name with
  | some number => exact numberOfStatus_toUInt32 number
  | none => decide

/-! ### Asking a driver -/

/-- The question for the number of a name. -/
def question (lookup : Command) (name : String) : Invocation := ⟨lookup.code, 0, 0, .text name⟩

/-- A driver answers the two questions for numbers from two tables, the first in a state of the
world and the second in the state that this leaves. -/
structure AnswersFrom (invoke : Invoke Driver World) (driver : Driver)
    (subsystems subchannels : NameTable) (world : World) : Prop where
  subsystem : ∀ name, (invoke driver (question .lookupSubsystem name) world).1.status =
    statusWord (subsystems.number name)
  subchannel : ∀ earlier name,
    (invoke driver (question .lookupSubchannel name)
        (invoke driver (question .lookupSubsystem earlier) world).2).1.status =
      statusWord (subchannels.number name)

theorem run_askNumber (invoke : Invoke Driver World) (driver : Driver) (lookup : Command)
    (name : String) (world : World) :
    (askNumber invoke driver lookup name).run world =
      (numberOfStatus (invoke driver (question lookup name) world).1.status,
        (invoke driver (question lookup name) world).2) := rfl

theorem resolve_of_unknown {registry : Registry Driver} (invoke : Invoke Driver World)
    {device : String} (subsystem subchannel : String) (world : World)
    (unknown : registry.find? device = none) :
    (registry.resolve invoke device subsystem subchannel).run world = (.error .failed, world) := by
  rw [resolve, unknown]
  rfl

/-- A driver that answers from tables decides the other two numbers. -/
theorem resolve_of_answers {registry : Registry Driver} {invoke : Invoke Driver World}
    {device : String} {number : UInt16} {driver : Driver} {subsystems subchannels : NameTable}
    {world : World} (subsystem subchannel : String)
    (found : registry.find? device = some number) (held : registry.driver? number = some driver)
    (answers : AnswersFrom invoke driver subsystems subchannels world) :
    ((registry.resolve invoke device subsystem subchannel).run world).1 =
      match subsystems.lookup subsystem, subchannels.lookup subchannel with
      | some first, some second => .ok ⟨number, first, second⟩
      | _, _ => .error .failed := by
  have one := run_askNumber invoke driver .lookupSubsystem subsystem world
  have two := run_askNumber invoke driver .lookupSubchannel subchannel
    (invoke driver (question .lookupSubsystem subsystem) world).2
  rw [answers.subsystem, numberOfStatus_number] at one
  rw [answers.subchannel, numberOfStatus_number] at two
  simp only [resolve, found, held, ExceptT.run_bind, run_bind_world, one]
  cases subsystems.lookup subsystem with
  | none => rfl
  | some first =>
    simp only [run_bind_world, two]
    cases subchannels.lookup subchannel with
    | none => rfl
    | some second => rfl

end Registry

/-! ### Where three names lead -/

/-- What comes of looking for a channel among the names of devices, subsystems and subchannels. -/
structure Leads (devices subsystems subchannels : List String)
    (device subsystem subchannel : String) (resolved : Except Fault Location) : Prop where
  numbers : ∀ location, resolved = .ok location ↔
    Numbered devices device location.device ∧
      Numbered subsystems subsystem location.subsystem ∧
      Numbered subchannels subchannel location.subchannel
  found : (∃ location, resolved = .ok location) ↔
    device ∈ devices ∧ subsystem ∈ subsystems ∧ subchannel ∈ subchannels
  refused : ¬ (device ∈ devices ∧ subsystem ∈ subsystems ∧ subchannel ∈ subchannels) →
    resolved = .error .failed

theorem Leads.of_numbers {devices subsystems subchannels : List String}
    {device subsystem subchannel : String} {resolved : Except Fault Location}
    (numbers : ∀ location, resolved = .ok location ↔
      Numbered devices device location.device ∧
        Numbered subsystems subsystem location.subsystem ∧
        Numbered subchannels subchannel location.subchannel)
    (failed : ∀ fault, resolved = .error fault → fault = .failed) :
    Leads devices subsystems subchannels device subsystem subchannel resolved := by
  have found : (∃ location, resolved = .ok location) ↔
      device ∈ devices ∧ subsystem ∈ subsystems ∧ subchannel ∈ subchannels := by
    constructor
    · rintro ⟨location, answered⟩
      obtain ⟨first, second, third⟩ := (numbers location).mp answered
      exact ⟨first.member, second.member, third.member⟩
    · rintro ⟨known, hasSubsystem, hasSubchannel⟩
      obtain ⟨first, one⟩ := (exists_numbered_iff devices device).mpr known
      obtain ⟨second, two⟩ := (exists_numbered_iff subsystems subsystem).mpr hasSubsystem
      obtain ⟨third, three⟩ := (exists_numbered_iff subchannels subchannel).mpr hasSubchannel
      exact ⟨⟨first, second, third⟩, (numbers _).mpr ⟨one, two, three⟩⟩
  refine ⟨numbers, found, fun missing => ?_⟩
  cases answered : resolved with
  | ok location => exact absurd (found.mp ⟨location, answered⟩) missing
  | error fault => rw [failed fault answered]

/-- Looking for a channel in a registry that holds some devices, if the driver that is asked answers
from two tables. -/
theorem Registry.Holds.leads {registry : Registry Driver} {devices : List (String × Driver)}
    (holds : registry.Holds devices) {invoke : Registry.Invoke Driver World} {world : World}
    {subsystems subchannels : NameTable} (device subsystem subchannel : String)
    (answers : ∀ number driver, registry.find? device = some number →
      registry.driver? number = some driver →
      Registry.AnswersFrom invoke driver subsystems subchannels world) :
    Leads (devices.map Prod.fst) subsystems.names subchannels.names device subsystem subchannel
      ((registry.resolve invoke device subsystem subchannel).run world).1 := by
  cases found : registry.find? device with
  | none =>
    have unknown : device ∉ devices.map Prod.fst := (holds.find?_eq_none_iff device).mp found
    rw [Registry.resolve_of_unknown invoke subsystem subchannel world found]
    refine .of_numbers (fun location => ⟨nofun, fun numbered => ?_⟩) fun fault same => ?_
    · exact absurd numbered.1.member unknown
    · cases same
      rfl
  | some number =>
    have numbered := (holds.find?_eq_some_iff_numbered device number).mp found
    -- The number is at most the place of the device, so there is a driver to ask.
    have inside : number.toNat < devices.length := by
      have place : (devices.map Prod.fst).idxOf device < devices.length := by
        rw [← List.length_map Prod.fst]
        exact List.idxOf_lt_length_of_mem numbered.member
      rw [numbered.reduced]
      exact Nat.lt_of_le_of_lt (Nat.mod_le _ _) place
    have held : registry.driver? number = some devices[number.toNat].2 := by
      rw [holds.driver?_eq, List.getElem?_eq_getElem inside]
      rfl
    rw [Registry.resolve_of_answers subsystem subchannel found held (answers _ _ found held)]
    refine .of_numbers (fun location => ?_) fun fault same => ?_
    · rw [← holds.find?_eq_some_iff_numbered, ← NameTable.lookup_eq_some_iff,
        ← NameTable.lookup_eq_some_iff, found]
      obtain ⟨one, two, three⟩ := location
      cases subsystems.lookup subsystem <;> cases subchannels.lookup subchannel <;> simp
    · split at same <;> cases same
      rfl

/-- Three names lead to a channel exactly if the device is registered and the other two are in the
tables from which its driver answers, and in every other case the request fails. The numbers of the
channel are the places where the names stand first, reduced to sixteen bits. Each of them leads back
to its name if and only if the name stands among the first 65536. -/
theorem resolved_numbers_lead_back_iff {Driver World : Type}
    (invoke : Registry.Invoke Driver World) (capacity : Nat) (initial world : World)
    (uses : List (Use Driver)) (device subsystem subchannel : String)
    (subsystems subchannels : NameTable) :
    let now := (Deployment.fresh capacity initial).carryOutAll invoke uses
    let names := now.devices.map Prod.fst
    let resolved := ((now.registry.resolve invoke device subsystem subchannel).run world).1
    (∀ number driver, now.registry.find? device = some number →
      now.registry.driver? number = some driver →
      Registry.AnswersFrom invoke driver subsystems subchannels world) →
    Leads names subsystems.names subchannels.names device subsystem subchannel resolved ∧
      ∀ location, resolved = .ok location →
        (names[location.device.toNat]? = some device ↔ names.idxOf device < 65536) ∧
        (subsystems.names[location.subsystem.toNat]? = some subsystem ↔
          subsystems.names.idxOf subsystem < 65536) ∧
        (subchannels.names[location.subchannel.toNat]? = some subchannel ↔
          subchannels.names.idxOf subchannel < 65536) := by
  intro now names resolved answers
  have kept : now.Kept capacity :=
    ((Deployment.kept_fresh capacity initial).carryOutAll invoke uses).1
  have leads := kept.holds.leads device subsystem subchannel answers
  refine ⟨leads, fun location answered => ?_⟩
  obtain ⟨first, second, third⟩ := (leads.numbers location).mp answered
  exact ⟨first.leadsBack_iff, second.leadsBack_iff, third.leadsBack_iff⟩

/-! ### A crowded table -/

/-- Drivers that only know names, each with its tables of subsystems and subchannels. -/
def askTables : Registry.Invoke (NameTable × NameTable) Unit := fun tables invocation =>
  pure (namesReply tables.1 tables.2 invocation)

theorem answersFrom_tables (tables : NameTable × NameTable) :
    Registry.AnswersFrom askTables tables tables.1 tables.2 () where
  subsystem _ := rfl
  subchannel _ _ := rfl

/-- A table in which one name stands 65536 times, and then another one. -/
def crowded : NameTable := ⟨List.replicate 65536 "board" ++ ["rails"]⟩

theorem idxOf_crowded : crowded.names.idxOf "rails" = 65536 := by
  have absent : "rails" ∉ List.replicate 65536 "board" := fun member =>
    absurd (List.eq_of_mem_replicate member) (by decide)
  rw [crowded, List.idxOf_append_of_notMem absent, List.length_replicate, List.idxOf_cons_self]

theorem numbered_crowded : Numbered crowded.names "rails" 0 where
  member := List.mem_append_right _ (List.mem_singleton_self _)
  reduced := by rw [idxOf_crowded]; rfl

theorem getElem?_crowded : crowded.names[0]? = some "board" := by
  rw [crowded, List.getElem?_append_left (by rw [List.length_replicate]; decide),
    List.getElem?_replicate_of_lt (by decide)]

/-- Two devices, the second with the crowded table. Its last subsystem gets the number of the first
one, which does not lead back. -/
theorem resolved_numbers_lead_back_iff_crowded :
    let now := (Deployment.fresh 2 ()).carryOutAll askTables
      [.register "adc0" (⟨["board"]⟩, ⟨["3v3"]⟩),
        .register "adc1" (crowded, ⟨["5v0", "3v3", "5v0", "3v3"]⟩)]
    now.registry.driver? 1 = some (crowded, ⟨["5v0", "3v3", "5v0", "3v3"]⟩) ∧
      ((now.registry.resolve askTables "adc1" "rails" "3v3").run ()).1 = .ok ⟨1, 0, 1⟩ ∧
      ¬ crowded.names.idxOf "rails" < 65536 := by
  intro now
  have found : now.registry.find? "adc1" = some 1 := rfl
  have held : now.registry.driver? 1 = some (crowded, ⟨["5v0", "3v3", "5v0", "3v3"]⟩) := rfl
  obtain ⟨leads, leadsBack⟩ := resolved_numbers_lead_back_iff askTables 2 () ()
    [.register "adc0" (⟨["board"]⟩, ⟨["3v3"]⟩),
      .register "adc1" (crowded, ⟨["5v0", "3v3", "5v0", "3v3"]⟩)]
    "adc1" "rails" "3v3" crowded ⟨["5v0", "3v3", "5v0", "3v3"]⟩ (by
      intro number driver named driven
      cases found.symm.trans named
      cases held.symm.trans driven
      exact answersFrom_tables _)
  have answered := (leads.numbers ⟨1, 0, 1⟩).mpr
    ⟨⟨by decide, by decide⟩, numbered_crowded, ⟨by decide, by decide⟩⟩
  refine ⟨held, answered, fun near => ?_⟩
  have back := (leadsBack _ answered).2.1.mpr near
  rw [show (⟨1, 0, 1⟩ : Location).subsystem.toNat = 0 from rfl, getElem?_crowded] at back
  exact absurd back (by decide)

/-- The numbers do not always lead back: in the crowded table the last name gets the number of the
first one. -/
theorem not_resolved_numbers_lead_back :
    ¬ ∀ (capacity : Nat) (uses : List (Use (NameTable × NameTable)))
        (device subsystem subchannel : String) (location : Location)
        (tables : NameTable × NameTable),
        let registry := ((Deployment.fresh capacity ()).carryOutAll askTables uses).registry
        ((registry.resolve askTables device subsystem subchannel).run ()).1 = .ok location →
        registry.driver? location.device = some tables →
        tables.1.names[location.subsystem.toNat]? = some subsystem := by
  intro leadsBack
  have kept : ((Deployment.fresh 1 ()).carryOutAll askTables
      [.register "adc0" (crowded, ⟨["3v3"]⟩)]).Kept 1 :=
    ((Deployment.kept_fresh 1 ()).carryOutAll askTables _).1
  have leads := kept.holds.leads "adc0" "rails" "3v3" (by
    intro number driver named driven
    have found : number = 0 := (Option.some.inj named).symm
    cases found
    cases Option.some.inj driven
    exact answersFrom_tables _)
  have answered := (leads.numbers ⟨0, 0, 0⟩).mpr
    ⟨⟨by decide, by decide⟩, numbered_crowded, ⟨by decide, by decide⟩⟩
  have back := leadsBack 1 [.register "adc0" (crowded, ⟨["3v3"]⟩)] "adc0" "rails" "3v3" ⟨0, 0, 0⟩
    (crowded, ⟨["3v3"]⟩) answered rfl
  rw [show (⟨0, 0, 0⟩ : Location).subsystem.toNat = 0 from rfl, getElem?_crowded] at back
  exact absurd back (by decide)

end BoardSupport.Device
