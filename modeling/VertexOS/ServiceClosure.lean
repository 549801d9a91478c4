import Mathlib.Data.List.Perm.Subperm
import Mathlib.Logic.Relation
import VertexOS.HostedGrants

/-!
# The services of a native boot

A loop over a list that grows until it holds all that its services pull in.
-/

namespace VertexOS.Krustboot

open FailingCalls VertexIr

variable (manifest : GenerationManifest)

def pushUniqueService (services : List String) (serviceId : String) : List String :=
  if serviceId ∈ services then services else services ++ [serviceId]

/-- What a service pulls in: what it starts after, and the services that provide what it
requires. -/
def pulledIn (serviceId : String) : Except String (List String) := do
  let service ← known (manifest.service serviceId)
    s!"activation references unknown service {serviceId}"
  let dependencies ← service.startAfter.mapM fun dependency =>
    (known (manifest.service dependency)
      s!"service {service.id} depends on unknown service {dependency}").map fun _ => dependency
  let providers ← service.requires.mapM fun requirement =>
    (known (manifest.capability requirement.capability)
      s!"service {service.id} requires unknown capability {requirement.capability}").map
      (·.provider)
  return dependencies ++ providers.filter fun provider => (manifest.service provider).isSome

/-- The loop over the order, which grows while the cursor moves; nothing if `fuel` runs out. -/
def closeFrom : (fuel cursor : Nat) → List String → Option (Except String (List String))
  | 0, _, _ => none
  | fuel + 1, cursor, order =>
    match order[cursor]? with
    | none => some (.ok order)
    | some serviceId =>
      match pulledIn manifest serviceId with
      | .error message => some (.error message)
      | .ok pulled => closeFrom fuel (cursor + 1) (pulled.foldl pushUniqueService order)

def startServices : List String :=
  if manifest.startOrder.isEmpty then manifest.services.map (·.id) else manifest.startOrder

def startWithRoot (rootServiceId : String) : List String :=
  if rootServiceId ∈ startServices manifest then startServices manifest
  else rootServiceId :: startServices manifest

def nativeServiceClosure (rootServiceId : String) : Option (Except String (List String)) :=
  let order := startWithRoot manifest rootServiceId
  closeFrom manifest (order.length + manifest.services.length + 1) 0 order

/-- A service starts after another one or requires a capability that the other provides. -/
def Pulls (first second : String) : Prop :=
  (manifest.service second).isSome ∧ ∃ service, manifest.service first = some service ∧
    (second ∈ service.startAfter ∨ ∃ requirement ∈ service.requires, ∃ capability,
      manifest.capability requirement.capability = some capability ∧ capability.provider = second)

variable {manifest}

theorem map_known_ok {α β : Type} {value : Option α} {message : String} {change : α → β}
    {result : β} : (known value message).map change = .ok result ↔
      ∃ found, value = some found ∧ change found = result := by
  cases value <;> simp [known, Except.map]

theorem pulledIn_ok {serviceId : String} {pulled : List String}
    (ok : pulledIn manifest serviceId = .ok pulled) (id : String) :
    id ∈ pulled ↔ Pulls manifest serviceId id := by
  obtain ⟨service, found, ok⟩ := outcome_bind_ok.mp ok
  obtain ⟨dependencies, after, ok⟩ := outcome_bind_ok.mp ok
  obtain ⟨providers, provided, ok⟩ := outcome_bind_ok.mp ok
  cases ok
  simp only [List.mem_append, List.mem_filter, mem_mapM after, mem_mapM provided, map_known_ok,
    Pulls, known_ok.mp found, Option.isSome_iff_exists]
  grind

section

variable {start new more : List String}

theorem pushAll_eq (order pulled : List String) :
    ∃ new, pulled.foldl pushUniqueService order = order ++ new ∧ new.Nodup ∧
      ∀ id, id ∈ new ↔ id ∈ pulled ∧ id ∉ order := by
  induction pulled generalizing order with
  | nil => exact ⟨[], by simp⟩
  | cons first rest ih =>
    rw [List.foldl_cons, pushUniqueService]
    split
    · obtain ⟨new, same, once, members⟩ := ih order
      refine ⟨new, same, once, fun id => ?_⟩
      rw [members, List.mem_cons]
      grind
    · obtain ⟨new, same, once, members⟩ := ih (order ++ [first])
      refine ⟨first :: new, by simp [same], List.nodup_cons.mpr ⟨by simp [members], once⟩,
        fun id => ?_⟩
      rw [List.mem_cons, members, List.mem_append, List.mem_singleton]
      grind

def Reached (manifest : GenerationManifest) (start : List String) (id : String) : Prop :=
  ∃ first ∈ start, Relation.ReflTransGen (Pulls manifest) first id

/-- Services behind the start, each once, that it leads to. -/
structure Behind (manifest : GenerationManifest) (start new : List String) : Prop where
  once : new.Nodup
  apart : ∀ id ∈ new, id ∉ start
  known : ∀ id ∈ new, (manifest.service id).isSome
  reached : ∀ id ∈ start ++ new, Reached manifest start id

theorem Behind.length_le (behind : Behind manifest start new) :
    (start ++ new).length ≤ start.length + manifest.services.length := by
  have inside : new ⊆ manifest.services.map (·.id) := by
    intro id member
    obtain ⟨service, found⟩ := Option.isSome_iff_exists.mp (behind.known id member)
    obtain ⟨isService, same⟩ := GenerationManifest.mem_of_service found
    exact List.mem_map.mpr ⟨service, isService, same⟩
  have bound := (List.subperm_of_subset behind.once inside).length_le
  rw [List.length_map] at bound
  rw [List.length_append]
  omega

theorem Behind.append {serviceId : String} (behind : Behind manifest start new)
    (member : serviceId ∈ start ++ new) (once : more.Nodup)
    (pulls : ∀ id ∈ more, Pulls manifest serviceId id ∧ id ∉ start ++ new) :
    Behind manifest start (new ++ more) := by
  obtain ⟨first, isFirst, path⟩ := behind.reached serviceId member
  refine ⟨List.nodup_append.mpr ⟨behind.once, once, ?_⟩, ?_, ?_, ?_⟩
  · rintro id isNew _ isMore rfl
    exact (pulls id isMore).2 (List.mem_append_right start isNew)
  · exact List.forall_mem_append.mpr ⟨behind.apart, fun id isMore isStart =>
      (pulls id isMore).2 (List.mem_append_left new isStart)⟩
  · exact List.forall_mem_append.mpr ⟨behind.known, fun id isMore => (pulls id isMore).1.1⟩
  · rw [← List.append_assoc]
    exact List.forall_mem_append.mpr ⟨behind.reached, fun id isMore =>
      ⟨first, isFirst, path.tail (pulls id isMore).1⟩⟩

/-- What services in the list pull in is in the order. -/
def ClosedIn (manifest : GenerationManifest) (services order : List String) : Prop :=
  ∀ first ∈ services, ∀ second, Pulls manifest first second → second ∈ order

theorem closeFrom_ends {fuel cursor : Nat} (behind : Behind manifest start new)
    (closed : ClosedIn manifest ((start ++ new).take cursor) (start ++ new))
    (inside : cursor ≤ (start ++ new).length)
    (enough : start.length + manifest.services.length < fuel + cursor) :
    ∃ outcome, closeFrom manifest fuel cursor (start ++ new) = some outcome ∧
      ∀ closure, outcome = .ok closure →
        ∃ all, closure = start ++ all ∧ Behind manifest start all ∧
          ClosedIn manifest closure closure := by
  induction fuel generalizing cursor new with
  | zero =>
    have bound := behind.length_le
    omega
  | succ fuel ih =>
    rw [closeFrom]
    cases here : (start ++ new)[cursor]? with
    | none =>
      rw [List.take_of_length_le (List.getElem?_eq_none_iff.mp here)] at closed
      refine ⟨_, rfl, ?_⟩
      rintro _ ⟨⟩
      exact ⟨new, rfl, behind, closed⟩
    | some serviceId =>
      cases pulls : pulledIn manifest serviceId with
      | error message => exact ⟨.error message, by simp [pulls], by simp⟩
      | ok pulled =>
        have below := (List.getElem?_eq_some_iff.mp here).1
        obtain ⟨more, same, once, members⟩ := pushAll_eq (start ++ new) pulled
        have known id := pulledIn_ok pulls id
        have next : Behind manifest start (new ++ more) :=
          behind.append (List.mem_of_getElem? here) once fun id isMore =>
            ((members id).mp isMore).imp_left (known id).mp
        rw [List.append_assoc] at same
        have closedNext : ClosedIn manifest ((start ++ (new ++ more)).take (cursor + 1))
            (start ++ (new ++ more)) := by
          rw [← List.append_assoc, List.take_append_of_le_length below, List.take_add_one, here]
          intro one member two link
          by_cases present : two ∈ start ++ new
          · exact List.mem_append_left more present
          · rcases List.mem_append.mp member with member | member
            · exact absurd (closed one member two link) present
            · cases List.eq_of_mem_singleton member
              exact List.mem_append_right _ ((members two).mpr ⟨(known two).mpr link, present⟩)
        have longer : cursor + 1 ≤ (start ++ (new ++ more)).length := by
          rw [← List.append_assoc, List.length_append]
          omega
        obtain ⟨outcome, ends, good⟩ := ih next closedNext longer (by omega)
        exact ⟨outcome, by simpa [pulls, same] using ends, good⟩

end

/-- The closure is found within the bound.  It has what the start leads to and nothing else,
and each service once if that is so of the list it starts with. -/
theorem native_service_closure_exact (manifest : GenerationManifest) (rootServiceId : String) :
    ∃ outcome, nativeServiceClosure manifest rootServiceId = some outcome ∧
      ∀ closure, outcome = .ok closure →
        (∀ id, id ∈ closure ↔ Reached manifest (startWithRoot manifest rootServiceId) id) ∧
        ((startServices manifest).Nodup → closure.Nodup) := by
  set start := startWithRoot manifest rootServiceId
  have nothing : Behind manifest start [] :=
    ⟨.nil, by simp, by simp, by simpa using fun id member => ⟨id, member, .refl⟩⟩
  obtain ⟨outcome, ends, good⟩ := closeFrom_ends nothing (by simp [ClosedIn])
    (Nat.zero_le _) (Nat.lt_succ_self _)
  rw [List.append_nil] at ends
  refine ⟨outcome, ends, fun closure ok => ?_⟩
  obtain ⟨all, rfl, behind, closed⟩ := good closure ok
  refine ⟨fun id => ⟨behind.reached id, ?_⟩, fun once => ?_⟩
  · rintro ⟨first, member, path⟩
    induction path with
    | refl => exact List.mem_append_left all member
    | tail _ pulls ih => exact closed _ ih _ pulls
  · refine List.nodup_append.mpr ⟨?_, behind.once, ?_⟩
    · unfold start startWithRoot
      split
      · exact once
      · exact List.nodup_cons.mpr ⟨‹_›, once⟩
    · rintro id isStart _ isNew rfl
      exact behind.apart id isNew isStart

/-- A service that the manifest has twice is in the closure twice, with no start order that
names it. -/
theorem native_service_closure_repeats : let owner := Supervisor.volumeOwner "svc:left" "vol:a"
    let manifest := { Supervisor.twoOwners "vol:a" "vol:b" with
      startOrder := [], services := [owner, owner] }
    manifest.startOrder.Nodup ∧
      nativeServiceClosure manifest "svc:left" = some (.ok ["svc:left", "svc:left"]) := by
  decide +kernel

end VertexOS.Krustboot
