import VertexOS.CapabilityCreation
import VertexOS.ObjectLookup

/-!
# The lineage of capabilities

Identifiers are handed out again once a creation was rolled back, and both walks over the
ancestors of a capability are loops without a bound.  They end because an entry of the lineage
only names an earlier one as its parent.
-/

namespace VertexOS

open FailingCalls ParentForest

namespace CapabilityLedger

/-- A capability is made from nothing or from one that exists: it was made before and not
rolled back. -/
inductive LineageStep (ledger : CapabilityLedger) : CapabilityLedger → Prop
  | create {parent id : Nat} {after : CapabilityLedger} :
      (parent = 0 ∨ ∃ entry ∈ ledger.capLineage, entry.child = parent) →
      ledger.allocate parent = .ok (id, after) → LineageStep ledger after
  | rollback {front : List CapabilityLineage} {last : CapabilityLineage} :
      ledger.capLineage = front ++ [last] →
      LineageStep ledger (ledger.rollbackLastCapability last.child)
  | revoke (capId : Nat) : LineageStep ledger (exec (revokeDescendants capId) ledger).2
  | reset (config : BootRuntimeConfig) :
      LineageStep ledger (RuntimeState.resetCapabilityLifecycle config).ledger

/-- Derivation, copy, transfer and the resolution of a name or a path make the new capability by
this call, and give it the one that they looked up as its parent. -/
theorem lineageStep_createCapability {runtime : RuntimeState} {object : KernelObjectId}
    {rights : Rights} {owner delegatedBy : ProcessId} {parent : Nat}
    (known : parent = 0 ∨ ∃ entry ∈ runtime.ledger.capLineage, entry.child = parent) :
    Ends (Lands (fun _ after => LineageStep runtime.ledger after.ledger)
      fun _ after => after = runtime)
      (createCapability object rights owner parent delegatedBy) runtime := by
  refine .get_bind (.fromExcept_bind (fun _ _ => rfl) ?_)
  rintro ⟨cap, after⟩ made
  exact .set_bind (.pure (.create known (newCapability_ok made).1))

structure Lineage (ledger : CapabilityLedger) : Prop where
  grown : Grown 0 ledger.capLineage
  below : ∀ entry ∈ ledger.capLineage, entry.child < ledger.nextCapId

theorem lineage_empty : Lineage .empty := ⟨.nil, by simp [empty]⟩

def KeepsLineage (before after : CapabilityLedger) : Prop := before.Lineage → after.Lineage

instance : Std.Refl KeepsLineage := ⟨fun _ => id⟩

instance : IsTrans CapabilityLedger KeepsLineage := ⟨fun _ _ _ first second => second ∘ first⟩

theorem keepsLineage_addRevokedCap (capId : Nat) : Always KeepsLineage (addRevokedCap capId) := by
  refine .get_bind fun ledger => .ite (fun _ => .pure _) fun _ => ?_
  split
  · exact .set_bind (fun lineage => ⟨lineage.grown, lineage.below⟩) (.pure _)
  · exact .throw _

theorem keepsLineage_revokePass (entries : List CapabilityLineage) :
    Always KeepsLineage (revokePass entries) := by
  induction entries with
  | nil => exact .pure _
  | cons entry rest ih =>
    refine .bind (.get_bind fun _ => .ite ?_ fun _ => .pure _) fun _ => .bind ih fun _ => .pure _
    exact fun _ => (keepsLineage_addRevokedCap _).evolves _

theorem keepsLineage_revokePasses (passes : Nat) : Always KeepsLineage (revokePasses passes) := by
  induction passes with
  | zero => exact .throw _
  | succ passes ih =>
    exact .get_bind fun ledger => .bind ((keepsLineage_revokePass _).evolves _) fun _ middle _ =>
      .ite (fun _ => ih.evolves middle) fun _ => .pure _

theorem keepsLineage_revokeDescendants (capId : Nat) :
    Always KeepsLineage (revokeDescendants capId) :=
  .bind (.require ..) fun _ => .bind (keepsLineage_addRevokedCap _) fun _ =>
    keepsLineage_revokePasses _

variable {ledger after : CapabilityLedger}

theorem Lineage.create (lineage : ledger.Lineage) {parent id : Nat}
    (known : parent = 0 ∨ ∃ entry ∈ ledger.capLineage, entry.child = parent)
    (allocated : ledger.allocate parent = .ok (id, after)) : after.Lineage := by
  unfold allocate at allocated
  split at allocated
  · cases allocated
  · split at allocated
    · cases allocated
      refine ⟨lineage.grown.snoc lineage.below known, ?_⟩
      intro entry member
      have older := lineage.below entry
      grind
    · cases allocated

theorem Lineage.rollback (lineage : ledger.Lineage) {front : List CapabilityLineage}
    {last : CapabilityLineage} (whole : ledger.capLineage = front ++ [last]) :
    (ledger.rollbackLastCapability last.child).Lineage := by
  have shorter : (ledger.rollbackLastCapability last.child).capLineage = front := by
    simp [rollbackLastCapability, whole]
  obtain ⟨grown, greatest⟩ := (whole ▸ lineage.grown).of_snoc
  refine ⟨shorter ▸ grown, ?_⟩
  rw [shorter]
  intro entry member
  have older := lineage.below entry (whole ▸ List.mem_append_left _ member)
  have newer := greatest entry member
  unfold rollbackLastCapability
  grind

theorem LineageStep.lineage (step : LineageStep ledger after) : KeepsLineage ledger after := by
  intro lineage
  cases step with
  | create known allocated => exact lineage.create known allocated
  | rollback whole => exact lineage.rollback whole
  | revoke capId => exact (keepsLineage_revokeDescendants capId).evolves ledger lineage
  | reset => exact lineage_empty

theorem Lineage.of_reached (reached : Relation.ReflTransGen LineageStep .empty ledger) :
    ledger.Lineage := by
  induction reached with
  | refl => exact lineage_empty
  | tail _ step lineage => exact step.lineage lineage

theorem Lineage.capParentFromLineage (lineage : ledger.Lineage) :
    ∀ entry ∈ ledger.capLineage, ledger.capParentFromLineage entry.child = some entry.parent := by
  intro entry member
  have isFound : (ledger.capLineage.find? fun other => other.child = entry.child).isSome :=
    List.find?_isSome.mpr ⟨entry, member, by simp⟩
  obtain ⟨found, here⟩ := Option.isSome_iff_exists.mp isFound
  have same : found.child = entry.child := by simpa using List.find?_some here
  obtain rfl :=
    List.inj_on_of_nodup_map lineage.grown.nodup (List.mem_of_find?_eq_some here) member same
  rw [CapabilityLedger.capParentFromLineage, here, Option.map_some]

end CapabilityLedger

open CapabilityLedger

/-- Identifiers in the lineage are unique and parents older than their children, so that both
walks over ancestors end within as many steps as the lineage has entries. -/
theorem lineage_well_founded {runtime : RuntimeState}
    (reached : Relation.ReflTransGen LineageStep .empty runtime.ledger) :
    (runtime.ledger.capLineage.map Link.child).Nodup ∧
      ∀ entry ∈ runtime.ledger.capLineage, (entry.parent ≠ 0 → entry.parent < entry.child) ∧
        (climb runtime.findCapParent runtime.ledger.capIdRevoked 0
          (runtime.ledger.capLineage.length + 1) entry.parent).isSome ∧
        (climb runtime.ledger.capParentFromLineage runtime.ledger.capIdRevoked 0
          (runtime.ledger.capLineage.length + 1) entry.child).isSome := by
  have lineage := Lineage.of_reached reached
  have parents := lineage.capParentFromLineage
  refine ⟨lineage.grown.nodup, fun entry member => ?_⟩
  have earlier := lineage.grown.parent_earlier entry member
  refine ⟨?_, ?_, lineage.grown.climb_isSome parents (.inr ⟨entry, member, rfl⟩)⟩
  · intro notRoot
    obtain ⟨above, -, same, less⟩ := earlier.resolve_left notRoot
    exact same ▸ less
  · apply lineage.grown.climb_isSome
    · intro link inside
      simp [RuntimeState.findCapParent, parents link inside]
    · refine earlier.imp_right ?_
      rintro ⟨above, inside, same, -⟩
      exact ⟨above, inside, same⟩

def twoCapabilities : RuntimeState :=
  { RuntimeState.new with
    ledger := { empty with
      nextCapId := 3, capLineage := [⟨1, 0⟩, ⟨2, 1⟩], lineage_le := by decide } }

theorem lineage_well_founded_twoCapabilities :
    (climb twoCapabilities.findCapParent twoCapabilities.ledger.capIdRevoked 0 3 1).isSome := by
  have reached : Relation.ReflTransGen LineageStep .empty twoCapabilities.ledger :=
    .tail (.single (.create (.inl rfl) rfl)) (.create (.inr ⟨⟨1, 0⟩, List.mem_cons_self, rfl⟩) rfl)
  exact ((lineage_well_founded reached).2 ⟨2, 1⟩ (by decide)).2.1

namespace CapabilityLedger

/-- `id` was made from `above`, over any number of capabilities in between. -/
def Descends (ledger : CapabilityLedger) : Nat → Nat → Prop :=
  Relation.ReflTransGen fun above id => above ≠ 0 ∧ id ≠ 0 ∧ ⟨id, above⟩ ∈ ledger.capLineage

section

variable (falls : Nat → Prop) (entries : List CapabilityLineage) (before : CapabilityLedger)

def Inherits : Prop :=
  ∀ entry ∈ entries, entry.parent ≠ 0 → entry.child ≠ 0 → falls entry.parent → falls entry.child

/-- More is revoked, but only what falls. -/
structure Spreads (after : CapabilityLedger) : Prop where
  lineage : after.capLineage = before.capLineage
  kept : ∀ id ∈ before.revokedCaps, id ∈ after.revokedCaps
  falls : (∀ id ∈ before.revokedCaps, falls id) → ∀ id ∈ after.revokedCaps, falls id

/-- What looking at some entries does: either more is revoked, or no child was missing. -/
def Advances (changed : Bool) (after : CapabilityLedger) : Prop :=
  Spreads falls before after ∧
    if changed then before.revokedCaps.length < after.revokedCaps.length
    else after = before ∧ Inherits (· ∈ before.revokedCaps) entries

def Full (_ : IpcError) (ledger : CapabilityLedger) : Prop :=
  ledger.revokedCaps.length = maxRevokedCaps

variable {falls entries} {ledger middle after : CapabilityLedger}

theorem Spreads.refl : Spreads falls ledger ledger := ⟨rfl, fun _ => id, id⟩

theorem Spreads.trans (one : Spreads falls ledger middle) (two : Spreads falls middle after) :
    Spreads falls ledger after :=
  ⟨two.lineage.trans one.lineage, fun id => two.kept id ∘ one.kept id, two.falls ∘ one.falls⟩

theorem addRevokedCap_lands (capId : Nat) : Ends (Lands
    (fun added after => if added then after.capLineage = ledger.capLineage ∧ capId ≠ 0 ∧
        after.revokedCaps = ledger.revokedCaps ++ [capId]
      else after = ledger ∧ (capId = 0 ∨ capId ∈ ledger.revokedCaps)) Full)
    (addRevokedCap capId) ledger := by
  have fits := ledger.revoked_le
  refine .get_bind (.ite (fun known => .pure ?_) fun unknown => ?_)
  · simpa [Lands, capIdRevoked] using known
  · split
    · exact .set_bind (.pure ⟨rfl, (not_or.mp unknown).1, rfl⟩)
    · exact (by omega : ledger.revokedCaps.length = maxRevokedCaps)

theorem revokeChild_lands {entry : CapabilityLineage} (inherits : Inherits falls [entry]) :
    Ends (Lands (Advances falls [entry] ledger) Full) (revokeChild entry) ledger := by
  refine .get_bind (.ite (fun revoked => ?_) fun spared => .pure ⟨.refl, rfl, ?_⟩)
  · refine .lands_imp (addRevokedCap_lands entry.child) (fun added after outcome => ?_) fun _ _ => id
    cases added
    · obtain ⟨rfl, known⟩ := outcome
      exact ⟨.refl, rfl, by grind [Inherits]⟩
    · obtain ⟨lineage, notZero, more⟩ := outcome
      exact ⟨⟨lineage, by simp_all, by grind [Inherits, capIdRevoked]⟩, by simp [more]⟩
  · grind [Inherits, capIdRevoked]

theorem revokePass_lands (inherits : Inherits falls entries) :
    Ends (Lands (Advances falls entries ledger) Full) (revokePass entries) ledger := by
  induction entries generalizing ledger with
  | nil => exact .pure ⟨.refl, rfl, nofun⟩
  | cons entry rest ih =>
    obtain ⟨here, later⟩ := List.forall_mem_cons.mp inherits
    refine .lands_bind (revokeChild_lands (List.forall_mem_singleton.mpr here)) (fun _ _ => id) ?_
    rintro added middle ⟨one, first⟩
    refine .lands_bind (ih later) (fun _ _ => id) ?_
    rintro changed after ⟨two, second⟩
    refine .pure ⟨one.trans two, ?_⟩
    cases added <;> cases changed <;> grind [Inherits]

/-- Each pass but the last fills a place of the table, so that the passes never run out. -/
theorem revokePasses_lands {passes : Nat} (inherits : Inherits falls ledger.capLineage)
    (enough : maxRevokedCaps < ledger.revokedCaps.length + passes) :
    Ends (Lands (fun _ after => Spreads falls ledger after ∧
      Inherits (· ∈ after.revokedCaps) ledger.capLineage) Full) (revokePasses passes) ledger := by
  induction passes generalizing ledger with
  | zero => exact absurd ledger.revoked_le (by omega)
  | succ passes ih =>
    refine .get_bind (.lands_bind (revokePass_lands inherits) (fun _ _ => id) ?_)
    rintro changed middle ⟨one, progress⟩
    refine .ite (fun more => ?_) fun same => ?_
    · rw [more] at progress
      have longer : ledger.revokedCaps.length < middle.revokedCaps.length := progress
      refine .lands_imp (ih (one.lineage ▸ inherits) (by omega)) ?_ fun _ _ => id
      exact fun _ after two => ⟨one.trans two.1, one.lineage ▸ two.2⟩
    · rw [Bool.eq_false_iff.mpr same] at progress
      obtain ⟨rfl, closed⟩ := progress
      exact .pure ⟨one, closed⟩

theorem Inherits.descends (inherits : Inherits falls ledger.capLineage) {above id : Nat}
    (descends : ledger.Descends above id) (first : falls above) : falls id := by
  induction descends with
  | refl => exact first
  | tail _ made ih => exact inherits _ made.2.2 made.1 made.2.1 ih

theorem revokeDescendants_lands (capId : Nat) : Ends (Lands
    (fun _ after => ∀ id, after.capIdRevoked id ↔
      ∃ above, (above = capId ∨ ledger.capIdRevoked above) ∧ ledger.Descends above id)
    fun error after => capId = 0 ∨ Full error after) (revokeDescendants capId) ledger := by
  refine .require_bind (fun zero => .inl (not_not.mp zero)) fun _ =>
    .lands_bind (addRevokedCap_lands capId) (fun _ _ => .inr) fun added middle first => ?_
  obtain ⟨lineage, begun⟩ : middle.capLineage = ledger.capLineage ∧
      ∀ id, id ∈ middle.revokedCaps ↔ id = capId ∨ id ∈ ledger.revokedCaps := by
    cases added <;> grind
  let falls (id : Nat) : Prop := ∃ above ∈ middle.revokedCaps, ledger.Descends above id
  have inherits : Inherits falls ledger.capLineage := by
    rintro entry member notRoot notZero ⟨above, revoked, descends⟩
    exact ⟨above, revoked, descends.tail ⟨notRoot, notZero, member⟩⟩
  refine .lands_imp (revokePasses_lands (lineage ▸ inherits) (by omega)) ?_ fun _ _ => .inr
  rintro - after ⟨spreads, closed⟩ id
  simp only [capIdRevoked, decide_eq_true_eq, ← begun]
  refine ⟨spreads.falls (fun id member => ⟨id, member, .refl⟩) id, ?_⟩
  rintro ⟨above, revoked, descends⟩
  exact (lineage ▸ closed).descends descends (spreads.kept above revoked)

end

end CapabilityLedger

/-- A revocation that succeeds has revoked exactly the capability, what was revoked before, and
all that descends from these, and no descendant can be used any more.  It fails for the
capability zero, or with a full table. -/
theorem revokeCapId_exact (capId : Nat) (runtime : RuntimeState) : Ends (Lands
    (fun _ after => (∀ id, after.ledger.capIdRevoked id ↔
        ∃ above, (above = capId ∨ runtime.ledger.capIdRevoked above) ∧
          runtime.ledger.Descends above id) ∧
      ∀ cap, after.CapLive cap → ¬runtime.ledger.Descends capId cap.id)
    fun _ after => capId = 0 ∨ after.ledger.revokedCaps.length = maxRevokedCaps)
    (revokeCapId capId) runtime := by
  have revoked : Ends _ (revokeDescendants capId) runtime.ledger := revokeDescendants_lands capId
  unfold Ends at revoked ⊢
  rw [revokeCapId, exec_bind, onLedger, exec_onPart]
  rcases outcome : exec (revokeDescendants capId) runtime.ledger with ⟨error | _, after⟩ <;>
    rw [outcome] at revoked
  · exact revoked
  · refine ⟨revoked, fun cap live descends => ?_⟩
    have isRevoked : after.capIdRevoked cap.id := (revoked cap.id).mpr ⟨capId, .inl rfl, descends⟩
    exact Bool.false_ne_true (live.2.1.symm.trans isRevoked)

end VertexOS
