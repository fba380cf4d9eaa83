import CloudStackLB.Validation

/-! # Host reconciliation of UpdateLoadBalancer

`UpdateLoadBalancer` (`loadbalancer.go:395-439`) gives every rule it finds the hosts of the nodes:
for each rule it lists the assigned VMs, splits them with `symmetricDifference` (lines 814-837),
assigns the missing hosts and removes the others. On a platform where the VMs of every rule form a
set, a run that returns nil leaves every rule it found with exactly the hosts `verifyHosts`
returned, and never removes or assigns again a VM that was assigned and is wanted. Every run,
returned or not, changes nothing else than the VMs of the rules the locator can list.
-/

namespace CloudStackLB

/-! ### Runs that returned -/

theorem CloudM.bind_eq_ok {α β : Type} {x : CloudM α} {f : α → CloudM β} {rt : Runtime} {w w'' : World}
    {b : β} : (x >>= f) rt w = (.ok b, w'') ↔ ∃ a w', x rt w = (.ok a, w') ∧ f a rt w' = (.ok b, w'') := by
  rw [CloudM.run_bind]
  rcases x rt w with ⟨_ | a, w'⟩
  · simp
  · simp only [Prod.mk.injEq, Except.ok.injEq]
    exact ⟨fun h => ⟨a, w', ⟨rfl, rfl⟩, h⟩, fun ⟨_, _, ⟨h₁, h₂⟩, h⟩ => by subst h₁ h₂; exact h⟩

theorem withPrefix_eq_ok {α : Type} {pre : String} {x : CloudM α} {rt : Runtime} {w w' : World} {a : α} :
    withPrefix pre x rt w = (.ok a, w') ↔ x rt w = (.ok a, w') := by
  unfold withPrefix
  rcases x rt w with ⟨_ | b, w₁⟩ <;> simp

theorem remote_eq_ok {α : Type} {call : Call} {op : Cloud → α × Cloud} {rt : Runtime} {w w' : World} {a : α}
    (h : remote call op rt w = (.ok a, w')) :
    a = (op w.cloud).1 ∧ w' = { w with cloud := (op w.cloud).2, log := w.log ++ [(call, true)] } := by
  unfold remote at h
  split at h
  · cases h
  · simp only [Prod.mk.injEq, Except.ok.injEq] at h
    exact ⟨h.1.symm, h.2.symm⟩

theorem pure_eq_ok {α : Type} {a b : α} {rt : Runtime} {w w' : World} (h : (pure a : CloudM α) rt w = (.ok b, w')) :
    w' = w := by
  cases h
  rfl

theorem verifyHosts_readOnly (nodes : List Node) : ReadOnly (verifyHosts nodes) := by
  refine ReadOnly.bind (ReadOnly.withPrefix _ (ReadOnly.query _ _ rfl)) fun vms => ?_
  split
  · exact ReadOnly.throw _
  · split
    · exact ReadOnly.throw _
    · exact ReadOnly.pure _

/-! ### The assigned VMs of a rule -/

namespace Cloud

variable (c : Cloud)

theorem find?_modifyRow (id : String) (f : LbRow → LbRow) (hf : ∀ r, (f r).id = r.id) {hk : ∀ r, (f r).publicipid = r.publicipid ∧ (f r).publicport = r.publicport} (id' : String) :
    (c.modifyRow id f hf hk).lbRules.find? (·.id = id') =
      (c.lbRules.find? (·.id = id')).map fun r => if r.id = id then f r else r := by
  simp only [modifyRow, List.find?_map]
  rw [show ((fun x : LbRow => decide (x.id = id')) ∘ fun r => if r.id = id then f r else r) =
    fun x => decide (x.id = id') from funext fun r => by by_cases h : r.id = id <;> simp [h, hf]]

theorem modifyRow_ids (id : String) (f : LbRow → LbRow) (hf : ∀ r, (f r).id = r.id) {hk : ∀ r, (f r).publicipid = r.publicipid ∧ (f r).publicport = r.publicport} :
    (c.modifyRow id f hf hk).lbRules.map LbRow.id = c.lbRules.map LbRow.id := by
  simp only [modifyRow, List.map_map]
  exact List.map_congr_left fun r _ => by by_cases h : r.id = id <;> simp [h, hf]

theorem listLoadBalancerRuleInstances_modifyRow_of_ne {id id' : String} (f : LbRow → LbRow)
    (hf : ∀ r, (f r).id = r.id) {hk : ∀ r, (f r).publicipid = r.publicipid ∧ (f r).publicport = r.publicport} (hne : id' ≠ id) :
    (c.modifyRow id f hf hk).listLoadBalancerRuleInstances id' = c.listLoadBalancerRuleInstances id' := by
  simp only [listLoadBalancerRuleInstances, find?_modifyRow]
  cases hfind : c.lbRules.find? (·.id = id') with
  | none => rfl
  | some r =>
    have hr : r.id = id' := by simpa using List.find?_some hfind
    simp [hr, hne]

end Cloud

/-- After the calls of one iteration for the rule `id`, with the assignment made when `assign`
is not empty and the removal when `remove` is not: the rule has its VMs and `assign`, less
`remove`, and no other rule changed. -/
def afterHostCalls (c : Cloud) (id : String) (assign remove : List String) : Cloud :=
  let c := if assign.length > 0 then c.assignToLoadBalancerRule id assign else c
  if remove.length > 0 then c.removeFromLoadBalancerRule id remove else c

theorem afterHostCalls_ids (c : Cloud) (id : String) (assign remove : List String) :
    (afterHostCalls c id assign remove).lbRules.map LbRow.id = c.lbRules.map LbRow.id := by
  unfold afterHostCalls Cloud.assignToLoadBalancerRule Cloud.removeFromLoadBalancerRule
  dsimp only
  split_ifs <;> simp only [Cloud.modifyRow_ids]

theorem afterHostCalls_of_ne (c : Cloud) {id id' : String} (assign remove : List String) (hne : id' ≠ id) :
    (afterHostCalls c id assign remove).listLoadBalancerRuleInstances id' = c.listLoadBalancerRuleInstances id' := by
  unfold afterHostCalls Cloud.assignToLoadBalancerRule Cloud.removeFromLoadBalancerRule
  dsimp only
  split_ifs <;> simp only [Cloud.listLoadBalancerRuleInstances_modifyRow_of_ne _ _ _ hne]

theorem afterHostCalls_self (c : Cloud) (id : String) (assign remove : List String) :
    (afterHostCalls c id assign remove).listLoadBalancerRuleInstances id =
      ((c.lbRules.find? (·.id = id)).map fun r => (r.instances ++ assign).filter (· ∉ remove)).getD [] := by
  unfold afterHostCalls Cloud.assignToLoadBalancerRule Cloud.removeFromLoadBalancerRule
    Cloud.listLoadBalancerRuleInstances
  dsimp only
  cases hfind : c.lbRules.find? (·.id = id) with
  | none => split_ifs <;> simp [Cloud.find?_modifyRow, hfind]
  | some r =>
    have hr : r.id = id := by simpa using List.find?_some hfind
    split_ifs with ha hr' <;> simp_all [Cloud.find?_modifyRow]

theorem find?_of_mem_ids {c : Cloud} {id : String} (h : id ∈ c.lbRules.map LbRow.id) :
    ∃ r, c.lbRules.find? (·.id = id) = some r := by
  obtain ⟨r, hr, rfl⟩ := List.mem_map.mp h
  exact Option.isSome_iff_exists.mp (List.find?_isSome.mpr ⟨r, hr, by simp⟩)

theorem find?_eq_none_of_not_mem_ids {c : Cloud} {id : String} (h : id ∉ c.lbRules.map LbRow.id) :
    c.lbRules.find? (·.id = id) = none :=
  List.find?_eq_none.mpr fun r hr hid => h (List.mem_map.mpr ⟨r, hr, by simpa using hid⟩)

theorem listLoadBalancerRuleInstances_of_not_mem {c : Cloud} {id : String} (h : id ∉ c.lbRules.map LbRow.id) :
    c.listLoadBalancerRuleInstances id = [] := by
  rw [Cloud.listLoadBalancerRuleInstances, find?_eq_none_of_not_mem_ids h]
  rfl

theorem afterHostCalls_self_of_mem {c : Cloud} {id : String} (assign remove : List String)
    (h : id ∈ c.lbRules.map LbRow.id) :
    (afterHostCalls c id assign remove).listLoadBalancerRuleInstances id =
      (c.listLoadBalancerRuleInstances id ++ assign).filter (· ∉ remove) := by
  obtain ⟨r, hfind⟩ := find?_of_mem_ids h
  rw [afterHostCalls_self, hfind]
  simp [Cloud.listLoadBalancerRuleInstances, hfind]

theorem afterHostCalls_self_of_not_mem {c : Cloud} {id : String} (assign remove : List String)
    (h : id ∉ c.lbRules.map LbRow.id) : (afterHostCalls c id assign remove).listLoadBalancerRuleInstances id = [] := by
  rw [afterHostCalls_self, find?_eq_none_of_not_mem_ids h]
  rfl

/-! ### One iteration -/

theorem updateRuleHost_ok {hostIDs : List String} {lbRule : LoadBalancerRule} {rt : Runtime} {w w' : World}
    (hI : (w.cloud.listLoadBalancerRuleInstances lbRule.id).Nodup)
    (h : updateRuleHost hostIDs lbRule rt w = (.ok (), w')) :
    ∃ assign remove, assign.Nodup ∧
      (∀ v, v ∈ assign ↔ v ∈ hostIDs ∧ v ∉ w.cloud.listLoadBalancerRuleInstances lbRule.id) ∧
      (∀ v, v ∈ remove ↔ v ∈ w.cloud.listLoadBalancerRuleInstances lbRule.id ∧ v ∉ hostIDs) ∧
      w'.cloud = afterHostCalls w.cloud lbRule.id assign remove ∧
      w'.log = w.log ++ (.listLoadBalancerRuleInstances lbRule.id, true) ::
        ((if assign.length > 0 then [(.assignToLoadBalancerRule lbRule.id assign, true)] else []) ++
          (if remove.length > 0 then [(.removeFromLoadBalancerRule lbRule.id remove, true)] else [])) := by
  unfold updateRuleHost at h
  obtain ⟨l, w₁, hl, h⟩ := CloudM.bind_eq_ok.mp h
  obtain ⟨rfl, rfl⟩ := remote_eq_ok (withPrefix_eq_ok.mp hl)
  obtain ⟨p, w₂, hsd, h⟩ := CloudM.bind_eq_ok.mp h
  obtain ⟨assign, remove, hsd', hnd, ha, hr⟩ := symmetricDifference_spec hostIDs _ hI rt _
  rw [hsd'] at hsd
  cases hsd
  refine ⟨assign, remove, hnd, ha, hr, ?_⟩
  dsimp only at h
  by_cases hA : assign.length > 0 <;> by_cases hR : remove.length > 0 <;>
    simp only [hA, hR, if_true, if_false] at h <;> obtain ⟨_, w₃, h₁, h₂⟩ := CloudM.bind_eq_ok.mp h
  · obtain ⟨-, rfl⟩ := remote_eq_ok (withPrefix_eq_ok.mp h₁)
    obtain ⟨-, rfl⟩ := remote_eq_ok (withPrefix_eq_ok.mp h₂)
    simp [afterHostCalls, hA, hR]
  · obtain ⟨-, rfl⟩ := remote_eq_ok (withPrefix_eq_ok.mp h₁)
    cases pure_eq_ok h₂
    simp [afterHostCalls, hA, hR]
  · cases pure_eq_ok h₁
    obtain ⟨-, rfl⟩ := remote_eq_ok (withPrefix_eq_ok.mp h₂)
    simp [afterHostCalls, hA, hR]
  · cases pure_eq_ok h₁
    cases pure_eq_ok h₂
    simp [afterHostCalls, hA, hR]

/-! ### The loop -/

/-- What a call of `UpdateLoadBalancer` may do to the VMs of a rule, against the platform `c₀` the
run started from: assign only VMs the rule did not have, and remove only VMs that are not wanted. -/
def KeepsWanted (hostIDs : List String) (c₀ : Cloud) : Call → Prop
  | .assignToLoadBalancerRule id vms => ∀ v ∈ vms, v ∉ c₀.listLoadBalancerRuleInstances id
  | .removeFromLoadBalancerRule _ vms => ∀ v ∈ vms, v ∉ hostIDs
  | _ => True

theorem keepsWanted_of_read {hostIDs : List String} {c₀ : Cloud} {call : Call} (h : call.mutating = false) :
    KeepsWanted hostIDs c₀ call := by
  cases call <;> simp_all [Call.mutating, KeepsWanted]

/-- The invariant of the loop started in world `w₀`, once the rules with ids `done` are handled:
rules are neither added nor deleted, the VMs of every rule form a set, the handled rules that
exist have the wanted hosts, the others their VMs of `w₀`, and every call kept the wanted VMs. -/
structure HostsSynced (hostIDs : List String) (w₀ : World) (done : List String) (w : World) : Prop where
  ids : w.cloud.lbRules.map LbRow.id = w₀.cloud.lbRules.map LbRow.id
  sets : ∀ id, (w.cloud.listLoadBalancerRuleInstances id).Nodup
  synced : ∀ id ∈ done, id ∈ w₀.cloud.lbRules.map LbRow.id →
    ∀ v, v ∈ w.cloud.listLoadBalancerRuleInstances id ↔ v ∈ hostIDs
  untouched : ∀ id, id ∉ done → w.cloud.listLoadBalancerRuleInstances id = w₀.cloud.listLoadBalancerRuleInstances id
  calls : ∃ calls, w.log = w₀.log ++ calls ∧ ∀ call ∈ calls, KeepsWanted hostIDs w₀.cloud call.1

theorem updateRuleHost_synced {hostIDs : List String} {w₀ w w' : World} {done : List String}
    {lbRule : LoadBalancerRule} {rt : Runtime} (h : HostsSynced hostIDs w₀ done w)
    (hrun : updateRuleHost hostIDs lbRule rt w = (.ok (), w')) :
    HostsSynced hostIDs w₀ (lbRule.id :: done) w' := by
  obtain ⟨assign, remove, hnd, ha, hr, hcloud, hlog⟩ := updateRuleHost_ok (h.sets lbRule.id) hrun
  have hother : ∀ id, id ≠ lbRule.id → w'.cloud.listLoadBalancerRuleInstances id =
      w.cloud.listLoadBalancerRuleInstances id := fun id hne => hcloud ▸ afterHostCalls_of_ne _ _ _ hne
  -- an assigned VM was not on the rule when the loop started
  have hassign : ∀ v ∈ assign, v ∉ w₀.cloud.listLoadBalancerRuleInstances lbRule.id := fun v hv => by
    obtain ⟨hwant, hnot⟩ := (ha v).mp hv
    by_cases hdone : lbRule.id ∈ done
    · by_cases hrow : lbRule.id ∈ w₀.cloud.lbRules.map LbRow.id
      · exact absurd ((h.synced _ hdone hrow v).mpr hwant) hnot
      · simp [listLoadBalancerRuleInstances_of_not_mem hrow]
    · rwa [← h.untouched _ hdone]
  refine ⟨hcloud ▸ (afterHostCalls_ids _ _ _ _).trans h.ids, fun i => ?_, fun i hi hrow v => ?_,
    fun i hi => ?_, ?_⟩
  · by_cases hne : i = lbRule.id
    · subst hne
      by_cases hrow : lbRule.id ∈ w.cloud.lbRules.map LbRow.id
      · rw [hcloud, afterHostCalls_self_of_mem _ _ hrow]
        exact (List.nodup_append.mpr ⟨h.sets _, hnd, fun v hv hv' => ((ha v).mp hv').2 hv⟩).filter _
      · rw [hcloud, afterHostCalls_self_of_not_mem _ _ hrow]
        exact List.nodup_nil
    · exact (hother i hne).symm ▸ h.sets i
  · by_cases hne : i = lbRule.id
    · subst hne
      rw [hcloud, afterHostCalls_self_of_mem _ _ (h.ids.symm ▸ hrow)]
      simp only [List.mem_filter, List.mem_append, decide_eq_true_eq, ha, hr]
      tauto
    · rw [hother i hne]
      exact h.synced i ((List.mem_cons.mp hi).resolve_left hne) hrow v
  · have hne : i ≠ lbRule.id := fun he => hi (he ▸ List.mem_cons_self _ _)
    rw [hother i hne]
    exact h.untouched i fun hd => hi (List.mem_cons_of_mem _ hd)
  · obtain ⟨calls, hl, hgood⟩ := h.calls
    refine ⟨calls ++ _, by rw [hlog, hl, List.append_assoc], fun call hcall => ?_⟩
    simp only [List.mem_append, List.mem_cons, List.mem_ite_nil_right, List.not_mem_nil, or_false] at hcall
    rcases hcall with hc | rfl | ⟨-, rfl⟩ | ⟨-, rfl⟩
    · exact hgood call hc
    · trivial
    · exact hassign
    · exact fun v hv => ((hr v).mp hv).2

theorem listLoadBalancerRuleInstances_nodup {c : Cloud} (hsets : ∀ row ∈ c.lbRules, row.instances.Nodup)
    (id : String) : (c.listLoadBalancerRuleInstances id).Nodup := by
  rw [Cloud.listLoadBalancerRuleInstances]
  cases hfind : c.lbRules.find? (·.id = id) with
  | none => exact List.nodup_nil
  | some r => exact hsets r (List.mem_of_find?_eq_some hfind)

theorem HostsSynced.start {hostIDs : List String} {w : World} (hsets : ∀ row ∈ w.cloud.lbRules, row.instances.Nodup) :
    HostsSynced hostIDs w [] w :=
  ⟨rfl, listLoadBalancerRuleInstances_nodup hsets, fun _ h => absurd h (List.not_mem_nil _), fun _ _ => rfl,
    [], (List.append_nil _).symm, fun _ h => absurd h (List.not_mem_nil _)⟩

theorem updateRuleHosts_synced {hostIDs : List String} {w₀ : World} {rt : Runtime} (rules : List LoadBalancerRule) :
    ∀ {done : List String} {w w' : World}, HostsSynced hostIDs w₀ done w →
      updateRuleHosts hostIDs rules rt w = (.ok (), w') →
      HostsSynced hostIDs w₀ (rules.reverse.map LoadBalancerRule.id ++ done) w' := by
  induction rules with
  | nil =>
    intro done w w' h hrun
    cases pure_eq_ok hrun
    exact h
  | cons x rest ih =>
    intro done w w' h hrun
    obtain ⟨_, w₁, h₁, h₂⟩ := CloudM.bind_eq_ok.mp hrun
    simpa using ih (updateRuleHost_synced h h₁) h₂

/-! ### UpdateLoadBalancer -/

/-- After `UpdateLoadBalancer` returns, every rule of the load balancer it located has as VMs
exactly the hosts `verifyHosts` gave, and no call of the run assigned a VM the rule already had or
removed a wanted one. -/
theorem updateLoadBalancer_sets_hosts (clusterName : String) (svc : Service) (nodes : List Node) (rt : Runtime)
    (w : World) (hsets : ∀ row ∈ w.cloud.lbRules, row.instances.Nodup)
    (hok : (updateLoadBalancer clusterName svc nodes rt w).1 = .ok ()) :
    ∃ lb w₁ hostIDs networkID w₂,
      getLoadBalancerByName (getLoadBalancerName clusterName svc) (getLoadBalancerLegacyName svc) rt w =
        (.ok lb, w₁) ∧
      verifyHosts nodes rt w₁ = (.ok (hostIDs, networkID), w₂) ∧
      (∀ x ∈ lb.rules, ∀ v,
        v ∈ (updateLoadBalancer clusterName svc nodes rt w).2.cloud.listLoadBalancerRuleInstances x.id ↔
          v ∈ hostIDs) ∧
      ∃ calls, (updateLoadBalancer clusterName svc nodes rt w).2.log = w.log ++ calls ∧
        ∀ call ∈ calls, KeepsWanted hostIDs w.cloud call.1 := by
  generalize hw' : (updateLoadBalancer clusterName svc nodes rt w).2 = w'
  have h : updateLoadBalancer clusterName svc nodes rt w = (.ok (), w') := Prod.ext hok hw'
  unfold updateLoadBalancer at h
  obtain ⟨lb, w₁, hlb, h⟩ := CloudM.bind_eq_ok.mp h
  obtain ⟨⟨hostIDs, networkID⟩, w₂, hv, h⟩ := CloudM.bind_eq_ok.mp h
  obtain ⟨rules, w₃, hr, h⟩ := CloudM.bind_eq_ok.mp h
  obtain ⟨rfl, rfl⟩ : rt.sched.visit w₂.loops lb.rules = rules ∧ { w₂ with loops := w₂.loops + 1 } = w₃ := by
    simpa [rangeOver] using hr
  have hread : ReadsOnly w w₂ := by
    have h₁ := getLoadBalancerByName_readOnly (getLoadBalancerName clusterName svc) (getLoadBalancerLegacyName svc) rt w
    have h₂ := verifyHosts_readOnly nodes rt w₁
    rw [hlb] at h₁
    rw [hv] at h₂
    exact h₁.trans h₂
  have hsync := updateRuleHosts_synced _ (HostsSynced.start (hread.1 ▸ hsets)) h
  have hfound := (getLoadBalancerByName_found _ _ w.cloud).of_ok rfl (congrArg Prod.fst hlb)
  rw [hlb] at hfound
  refine ⟨lb, w₁, hostIDs, networkID, w₂, hlb, hv, fun x hx v => hsync.synced x.id ?_ ?_ v, ?_⟩
  · simpa using ⟨x, (rt.sched.visit_perm _ _).mem_iff.mpr hx, rfl⟩
  · obtain ⟨r, hr, rfl, -⟩ := hfound.2.rules_match x hx
    simpa [hread.1, Cloud.view] using ⟨r, hr, rfl⟩
  · obtain ⟨hcloud, reads, hl₀, hm₀⟩ := hread
    obtain ⟨calls, hl, hgood⟩ := hsync.calls
    refine ⟨reads ++ calls, by rw [hl]; simp [hl₀], fun call hcall => ?_⟩
    rcases List.mem_append.mp hcall with hc | hc
    · exact keepsWanted_of_read (hm₀ call hc)
    · simpa [hcloud] using hgood call hc

/-! ### What UpdateLoadBalancer leaves alone

Every run of `UpdateLoadBalancer`, whichever calls fail, changes the platform at most in the VMs
of the rules the locator can list: the rules the Service's names list.
-/

/-- A stored rule with its VMs left out. -/
def LbRow.withoutInstances (r : LbRow) : LbRow := { r with instances := [] }

/-- `c` is `c₀` but for the VMs of the rules with ids in `ids`. -/
structure HostsOnly (ids : List String) (c₀ c : Cloud) : Prop where
  rows : c.lbRules.map LbRow.withoutInstances = c₀.lbRules.map LbRow.withoutInstances
  instances : ∀ id ∉ ids, c.listLoadBalancerRuleInstances id = c₀.listLoadBalancerRuleInstances id
  fwRules : c.fwRules = c₀.fwRules
  ips : c.ips = c₀.ips
  networks : c.networks = c₀.networks
  vms : c.vms = c₀.vms

section HostsOnly

variable {ids : List String} {c₀ : Cloud}

theorem HostsOnly.refl (ids : List String) (c : Cloud) : HostsOnly ids c c :=
  ⟨rfl, fun _ _ => rfl, rfl, rfl, rfl, rfl⟩

theorem HostsOnly.modifyRow {c : Cloud} (h : HostsOnly ids c₀ c) {id : String} (hid : id ∈ ids)
    (f : LbRow → LbRow) (hf : ∀ r, (f r).id = r.id)
    (hk : ∀ r, (f r).publicipid = r.publicipid ∧ (f r).publicport = r.publicport)
    (hvms : ∀ r, (f r).withoutInstances = r.withoutInstances) :
    HostsOnly ids c₀ (c.modifyRow id f hf hk) := by
  refine ⟨?_, fun id' hid' => ?_, h.fwRules, h.ips, h.networks, h.vms⟩
  · rw [← h.rows]
    simp only [Cloud.modifyRow, List.map_map]
    exact List.map_congr_left fun r _ => by by_cases hr : r.id = id <;> simp [hr, hvms]
  · rw [Cloud.listLoadBalancerRuleInstances_modifyRow_of_ne c f hf fun he : id' = id => hid' (he ▸ hid)]
    exact h.instances id' hid'

theorem updateRuleHost_hostsOnly (hostIDs : List String) {lbRule : LoadBalancerRule} (hid : lbRule.id ∈ ids) :
    Triple (HostsOnly ids c₀) (updateRuleHost hostIDs lbRule) (fun _ => HostsOnly ids c₀) (HostsOnly ids c₀) := by
  have hassign : ∀ vms, Triple (HostsOnly ids c₀) (assignHostsToRule lbRule vms) (fun _ => HostsOnly ids c₀)
      (HostsOnly ids c₀) := fun vms =>
    Triple.withPrefix _ (Triple.remote _ _ (fun _ h => h.modifyRow hid (fun r => { r with instances := r.instances ++ vms })
      (fun _ => rfl) (fun _ => ⟨rfl, rfl⟩) fun _ => rfl) fun _ h => h)
  have hremove : ∀ vms, Triple (HostsOnly ids c₀) (removeHostsFromRule lbRule vms) (fun _ => HostsOnly ids c₀)
      (HostsOnly ids c₀) := fun vms =>
    Triple.withPrefix _ (Triple.remote _ _ (fun _ h => h.modifyRow hid
      (fun r => { r with instances := r.instances.filter (· ∉ vms) }) (fun _ => rfl) (fun _ => ⟨rfl, rfl⟩)
      fun _ => rfl) fun _ h => h)
  refine Triple.bind (Triple.withPrefix _ (Triple.query_keeps _ _ fun _ h => h)) fun l => ?_
  refine Triple.bind (symmetricDifference_keeps _ _) fun _ => ?_
  refine Triple.ite (Triple.bind (hassign _) fun _ => ?_) (Triple.pure_bind _ ?_) <;>
    exact Triple.ite (hremove _) (Triple.pure _ fun _ h => h)

theorem updateRuleHosts_hostsOnly (hostIDs : List String) (rules : List LoadBalancerRule)
    (hrules : ∀ x ∈ rules, x.id ∈ ids) :
    Triple (HostsOnly ids c₀) (updateRuleHosts hostIDs rules) (fun _ => HostsOnly ids c₀) (HostsOnly ids c₀) := by
  induction rules with
  | nil => exact Triple.pure _ fun _ h => h
  | cons x rest ih =>
    exact Triple.bind (updateRuleHost_hostsOnly hostIDs (hrules x (List.mem_cons_self _ _))) fun _ =>
      ih fun y hy => hrules y (List.mem_cons_of_mem _ hy)

end HostsOnly

/-- A run of `UpdateLoadBalancer` changes only the VMs of the rules its names list. -/
theorem updateLoadBalancer_changes_only_hosts (clusterName : String) (svc : Service) (nodes : List Node)
    (rt : Runtime) (w : World) :
    HostsOnly ((reachedRows (getLoadBalancerName clusterName svc) (getLoadBalancerLegacyName svc) w.cloud).map
      LbRow.id) w.cloud (updateLoadBalancer clusterName svc nodes rt w).2.cloud := by
  set ids := (reachedRows (getLoadBalancerName clusterName svc) (getLoadBalancerLegacyName svc) w.cloud).map
    LbRow.id
  refine Triple.run_post (?_ : Triple (fun c => c = w.cloud) _ _ _) rt w rfl
  unfold updateLoadBalancer
  refine Triple.bind (Triple.conseq (getLoadBalancerByName_found _ _ w.cloud) (fun _ h => h) (fun _ _ h => h)
    fun _ h => h ▸ HostsOnly.refl _ _) fun lb => Triple.of_forall_eq fun c ⟨hc, hfound⟩ => ?_
  subst hc
  refine Triple.bind (verifyHosts_keeps _ fun _ h => h ▸ HostsOnly.refl _ _) fun ⟨hostIDs, _⟩ => ?_
  refine Triple.bind (Triple.rangeOver _ fun c hc rules hperm =>
    (⟨hc ▸ HostsOnly.refl ids _, fun x hx => ?_⟩ : HostsOnly ids w.cloud c ∧ ∀ x ∈ rules, x.id ∈ ids))
    fun rules => Triple.of_pre fun hrules => updateRuleHosts_hostsOnly _ rules hrules
  obtain ⟨r, hr, rfl⟩ := hfound.rules_mem_reachedRows x (hperm.mem_iff.mp hx)
  exact List.mem_map_of_mem _ hr

/-- A platform where the rule of `default/web` has VM `vm-2` but not `vm-1`, the VM of its node. -/
def driftedCloud : Cloud :=
  ⟨[⟨"1", "K8s_svc_c_default_web-tcp-80", "", "roundrobin", "tcp", "9", "30080", "80", ["vm-2"]⟩], [],
    [⟨"9", "10.0.0.9"⟩], [⟨"net-1", "", []⟩], [⟨"vm-1", "node-1", [⟨"net-1"⟩]⟩, ⟨"vm-2", "node-2", [⟨"net-1"⟩]⟩],
    by decide, by decide, by decide, by decide, by decide⟩

theorem updateLoadBalancer_sets_hosts_on_drifted_rule :
    (∀ row ∈ driftedCloud.lbRules, row.instances.Nodup) ∧
      (updateLoadBalancer "c" webService sampleNodes (Runtime.reliable .inOrder) (World.init driftedCloud)).1 =
        .ok () ∧
      ∃ lb w₁ hostIDs networkID w₂,
        getLoadBalancerByName (getLoadBalancerName "c" webService) (getLoadBalancerLegacyName webService)
            (Runtime.reliable .inOrder) (World.init driftedCloud) = (.ok lb, w₁) ∧
        verifyHosts sampleNodes (Runtime.reliable .inOrder) w₁ = (.ok (hostIDs, networkID), w₂) ∧
        (∀ x ∈ lb.rules, ∀ v,
          v ∈ (updateLoadBalancer "c" webService sampleNodes (Runtime.reliable .inOrder)
            (World.init driftedCloud)).2.cloud.listLoadBalancerRuleInstances x.id ↔ v ∈ hostIDs) ∧
        ∃ calls, (updateLoadBalancer "c" webService sampleNodes (Runtime.reliable .inOrder)
            (World.init driftedCloud)).2.log = (World.init driftedCloud).log ++ calls ∧
          ∀ call ∈ calls, KeepsWanted hostIDs driftedCloud call.1 :=
  ⟨by decide, by decide, updateLoadBalancer_sets_hosts _ _ _ _ _ (by decide) (by decide)⟩

end CloudStackLB
