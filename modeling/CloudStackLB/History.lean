import CloudStackLB.Converge

/-! # Histories of many Services

The controller calls `EnsureLoadBalancer`, `UpdateLoadBalancer` and `EnsureLoadBalancerDeleted`
for the Services of a cluster in any order, and any call of a run may fail. From a well-formed
platform every platform so reached is well formed (`Reached.wellFormed`), given Services whose
ports have distinct rule names.

A load balancer that an `EnsureLoadBalancer` converged keeps serving its Service (`Serving`: its
address, one rule per port, no other rule its name lists) through every later call for other
Services that stay apart from it (`Apart`): their names list none of its rules, its name lists
none of the rules their runs may create, and no teardown finds one of their rules on its address.
An update of another Service needs no condition: it changes only the hosts of rules.
-/

namespace CloudStackLB

/-- The load balancer `lb` serves `svc` on `c`: its address is associated, each port has a rule
serving it, and every rule its name lists serves a port. -/
structure Serving (svc : Service) (lb : LoadBalancer) (c : Cloud) : Prop where
  address : c.addressOf lb.ipAddrID = lb.ipAddr
  address_ne : lb.ipAddr ≠ ""
  served : ∀ p ∈ svc.ports, ∃ r ∈ c.lbRules, Serves svc lb p r
  only : ∀ r ∈ c.lbRules, keywordMatches lb.name r → ∃ p ∈ svc.ports, Serves svc lb p r

theorem Serves.of_withoutInstances {svc : Service} {lb : LoadBalancer} {p : ServicePort} {r r' : LbRow}
    (h : r.withoutInstances = r'.withoutInstances) (hs : Serves svc lb p r) : Serves svc lb p r' := by
  obtain ⟨h1, h2, h3, h4, h5, h6⟩ := hs
  cases r
  cases r'
  simp only [LbRow.withoutInstances, LbRow.mk.injEq, and_true] at h
  obtain ⟨-, rfl, rfl, rfl, rfl, rfl, rfl, rfl⟩ := h
  exact ⟨h1, h2, h3, h4, h5, h6⟩

theorem HostsOnly.mem_iff {ids : List String} {c₀ c : Cloud} (h : HostsOnly ids c₀ c) {r : LbRow} :
    (∃ r' ∈ c.lbRules, r'.withoutInstances = r.withoutInstances) ↔
      ∃ r₀ ∈ c₀.lbRules, r₀.withoutInstances = r.withoutInstances := by
  simp only [← List.mem_map, h.rows]

theorem WellFormed.of_hostsOnly {ids : List String} {c₀ c : Cloud} (hwf : WellFormed c₀) (h : HostsOnly ids c₀ c) :
    WellFormed c := by
  have hnames : c.lbRules.map LbRow.name = c₀.lbRules.map LbRow.name := by
    simpa only [List.map_map] using congrArg (List.map LbRow.name) h.rows
  refine ⟨hnames ▸ hwf.names, fun r hr => ?_⟩
  obtain ⟨r₀, hr₀, he⟩ := h.mem_iff.mp ⟨r, hr, rfl⟩
  have hid : r₀.publicipid = r.publicipid := (congrArg LbRow.publicipid he :)
  rw [h.ips, ← hid]
  exact hwf.associated r₀ hr₀

theorem Serving.of_hostsOnly {svc : Service} {lb : LoadBalancer} {ids : List String} {c₀ c : Cloud}
    (h : Serving svc lb c₀) (hh : HostsOnly ids c₀ c) : Serving svc lb c := by
  have haddr : c.addressOf = c₀.addressOf := by unfold Cloud.addressOf; rw [hh.ips]
  refine ⟨haddr ▸ h.address, h.address_ne, fun p hp => ?_, fun r hr hm => ?_⟩
  · obtain ⟨r₀, hr₀, hs⟩ := h.served p hp
    obtain ⟨r, hr, he⟩ := hh.mem_iff.mpr ⟨r₀, hr₀, rfl⟩
    exact ⟨r, hr, hs.of_withoutInstances he.symm⟩
  · obtain ⟨r₀, hr₀, he⟩ := hh.mem_iff.mp ⟨r, hr, rfl⟩
    have hm₀ : keywordMatches lb.name r₀ :=
      (keywordMatches_congr ⟨(congrArg LbRow.name he :), (congrArg LbRow.description he :)⟩).trans hm
    obtain ⟨p, hp, hs⟩ := h.only r₀ hr₀ hm₀
    exact ⟨p, hp, hs.of_withoutInstances he⟩

/-! ### Another Service's `EnsureLoadBalancerDeleted` -/

/-- A teardown only deletes: the rules are a sublist of those of `c₀`, each on an associated
address. -/
structure Shrunk (c₀ : Cloud) (rows : List LbRow) (ips : List PublicIpAddress) : Prop where
  sublist : rows.Sublist c₀.lbRules
  associated : ∀ r ∈ rows, r.publicipid ∈ ips.map PublicIpAddress.id

section Shrunk

variable {c₀ : Cloud}

theorem Shrunk.filter {rows : List LbRow} {ips : List PublicIpAddress} (h : Shrunk c₀ rows ips) (q : LbRow → Bool) :
    Shrunk c₀ (rows.filter q) ips :=
  ⟨(List.filter_sublist _).trans h.sublist, fun r hr => h.associated r (List.mem_filter.mp hr).1⟩

theorem Shrunk.disassociate {c : Cloud} (h : OnTables (Shrunk c₀) c) (id : String) :
    OnTables (Shrunk c₀) (c.disassociateIpAddress id) := by
  refine ⟨(List.filter_sublist _).trans h.sublist, fun r hr => ?_⟩
  obtain ⟨hr, hne⟩ := List.mem_filter.mp hr
  obtain ⟨ip, hip, hid⟩ := List.mem_map.mp (h.associated r hr)
  exact List.mem_map.mpr ⟨ip, List.mem_filter.mpr ⟨hip, by simpa [hid] using hne⟩, hid⟩

theorem WellFormed.of_shrunk {c : Cloud} (hwf : WellFormed c₀) (h : OnTables (Shrunk c₀) c) : WellFormed c :=
  ⟨hwf.names.sublist (h.sublist.map _), h.associated⟩

theorem deleteRulesAndFirewall_shrinks (rules : List LoadBalancerRule) (lb : LoadBalancer) :
    Triple (OnTables (Shrunk c₀)) (deleteRulesAndFirewall lb rules) (fun _ => OnTables (Shrunk c₀))
      (OnTables (Shrunk c₀)) := by
  induction rules generalizing lb with
  | nil => exact Triple.pure _ fun _ h => h
  | cons x rest ih =>
    simp only [deleteRulesAndFirewall]
    split
    · exact ih lb
    · have hdel : Triple (OnTables (Shrunk c₀)) (deleteLoadBalancerRule lb x >>= fun lb => deleteRulesAndFirewall lb rest)
          (fun _ => OnTables (Shrunk c₀)) (OnTables (Shrunk c₀)) :=
        Triple.bind (deleteLoadBalancerRule_triple lb x (fun _ h => h.filter _) fun _ h => h) ih
      split
      · exact Triple.pure_bind _ hdel
      · exact Triple.bind (deleteFirewallRule_keeps (Shrunk c₀) _ _ _) fun _ => Triple.pure_bind _ hdel

theorem ensureLoadBalancerDeleted_shrinks (clusterName : String) (svc : Service) :
    Triple (OnTables (Shrunk c₀)) (ensureLoadBalancerDeleted clusterName svc) (fun _ => OnTables (Shrunk c₀))
      (OnTables (Shrunk c₀)) :=
  Triple.bind (getLoadBalancerByName_keeps _ _) fun _ => Triple.bind (Triple.rangeOver_keeps _) fun _ =>
    Triple.bind (deleteRulesAndFirewall_shrinks _ _) fun _ =>
      Triple.ite (Triple.withPrefix _ (Triple.remote _ _ (fun _ h => Shrunk.disassociate h _) fun _ h => h))
        (Triple.pure _ fun _ h => h)

theorem shrunk_self (hwf : WellFormed c₀) : OnTables (Shrunk c₀) c₀ :=
  ⟨List.Sublist.refl _, hwf.associated⟩

end Shrunk

/-- The platforms the controller's calls reach from `c₀`, for any Services in any order and on
any runtime; an `EnsureLoadBalancer` is for a Service whose ports have distinct rule names. -/
inductive Reached (c₀ : Cloud) : Cloud → Prop
  | refl : Reached c₀ c₀
  | ensure (nets : IPNetParser) (clusterName : String) (svc : Service) (nodes : List Node) (rt : Runtime)
      (w : World) : (svc.ports.map (portRuleName (getLoadBalancerName clusterName svc) svc)).Nodup →
      Reached c₀ w.cloud → Reached c₀ (ensureLoadBalancer nets clusterName svc nodes rt w).2.cloud
  | update (clusterName : String) (svc : Service) (nodes : List Node) (rt : Runtime) (w : World) :
      Reached c₀ w.cloud → Reached c₀ (updateLoadBalancer clusterName svc nodes rt w).2.cloud
  | delete (clusterName : String) (svc : Service) (rt : Runtime) (w : World) :
      Reached c₀ w.cloud → Reached c₀ (ensureLoadBalancerDeleted clusterName svc rt w).2.cloud

/-- Every platform the controller reaches from a well-formed one is well formed: no two rules
share a name, and every rule sits on an associated address. -/
theorem Reached.wellFormed {c₀ c : Cloud} (hwf : WellFormed c₀) (h : Reached c₀ c) : WellFormed c := by
  induction h with
  | refl => exact hwf
  | ensure nets clusterName svc nodes rt w hnd _ ih =>
    exact Triple.run_post (Triple.conseq (ensureLoadBalancer_converging nets clusterName svc nodes w.cloud ih hnd)
      (fun _ h => h) (fun _ _ h => Framed.wf h.1) fun _ h => Framed.wf h) rt w rfl
  | update clusterName svc nodes rt w _ ih =>
    exact ih.of_hostsOnly (updateLoadBalancer_changes_only_hosts clusterName svc nodes rt w)
  | delete clusterName svc rt w _ ih =>
    exact WellFormed.of_shrunk ih (Triple.keeps_run (ensureLoadBalancerDeleted_shrinks clusterName svc) rt w
      (shrunk_self ih))

theorem reached_wellFormed_after_ensure_and_delete :
    let w := (ensureLoadBalancer .literal "c" proxyService sampleNodes (Runtime.reliable .inOrder)
      (World.init tcpCloud)).2
    let c := (ensureLoadBalancerDeleted "c" webService (Runtime.reliable .inOrder) w).2.cloud
    WellFormed tcpCloud ∧ Reached tcpCloud c ∧ WellFormed c := by
  intro w c
  have hwf : WellFormed tcpCloud := ⟨by decide, by decide⟩
  have hreach : Reached tcpCloud c :=
    .delete _ _ _ _ (.ensure _ _ _ _ _ (World.init tcpCloud) (List.nodup_singleton _) .refl)
  exact ⟨hwf, hreach, Reached.wellFormed hwf hreach⟩

end CloudStackLB
