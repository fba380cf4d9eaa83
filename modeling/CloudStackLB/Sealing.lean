import CloudStackLB.Exposure

/-! # One firewall rule per port

Where no `DeleteFirewallRule` fails, each `updateFirewallRule` of the port loop of
`EnsureLoadBalancer` (`loadbalancer.go:334-355`) leaves exactly one firewall rule of its port,
allowing exactly the Service's source ranges (`Exact`), and every firewall rule of another port
as it was (`SameOffPort`). The cleanup (lines 358-378) deletes the firewall rules of each stale
rule's address, port and protocol, which no port of the Service shares (`Converging.not_hits`).
So a run that returns a status leaves one rule per port and one firewall rule per port.

The map of the locator is keyed by rule name (line 546): of two rules that share a name only the
last listed is in it, and the first outlives every run.
-/

namespace CloudStackLB

/-- The runtimes that fail no `DeleteFirewallRule`. -/
def DeletesSucceed (rt : Runtime) : Prop := ∀ n id, rt.fails n (.deleteFirewallRule id) = none

/-- What the port loop leaves for the port `q`: its protocol is supported, the network `networkID`
exists, the source ranges parse, and where the firewall is due exactly one firewall rule of the
port is on the address `ipid`, allowing exactly the wanted ranges. -/
structure PortSealed (nets : IPNetParser) (svc : Service) (ipid networkID : String) (c : Cloud)
    (q : ServicePort) : Prop where
  valid : protocolFromServicePort q svc ≠ .invalid
  network : ∃ n, c.getNetworkByID networkID = some n
  ranges : ∃ ranges, getLoadBalancerSourceRanges nets svc = .ok ranges
  exact : ∀ ranges, FirewallDue nets svc networkID ranges c →
    Exact ipid (wantedCIDRs ranges) q.port.toInt (protocolFromServicePort q svc) c

/-- Every port of `ports` is sealed. -/
def PortsSealed (nets : IPNetParser) (svc : Service) (ipid networkID : String) (ports : List ServicePort)
    (c : Cloud) : Prop :=
  ∀ q ∈ ports, PortSealed nets svc ipid networkID c q

section Sealed

variable {nets : IPNetParser} {svc : Service} {ipid networkID : String} {ports : List ServicePort} {c c' : Cloud}
  {q : ServicePort}

theorem Cloud.getNetworkByID_congr (hn : c'.networks = c.networks) (id : String) :
    c'.getNetworkByID id = c.getNetworkByID id := by
  unfold Cloud.getNetworkByID
  rw [hn]

/-- A port stays sealed on the same networks where its firewall rule is carried over. -/
theorem PortSealed.transfer (h : PortSealed nets svc ipid networkID c q) (hn : c'.networks = c.networks)
    (hexact : ∀ ranges, FirewallDue nets svc networkID ranges c' →
      Exact ipid (wantedCIDRs ranges) q.port.toInt (protocolFromServicePort q svc) c →
      Exact ipid (wantedCIDRs ranges) q.port.toInt (protocolFromServicePort q svc) c') :
    PortSealed nets svc ipid networkID c' q :=
  ⟨h.valid, Cloud.getNetworkByID_congr hn networkID ▸ h.network, h.ranges,
    fun ranges hdue => hexact ranges hdue (h.exact ranges ((FirewallDue.congr hn).mp hdue))⟩

theorem PortsSealed.kept (h : PortsSealed nets svc ipid networkID ports c) (hk : FirewallKept c c') :
    PortsSealed nets svc ipid networkID ports c' := fun q hq =>
  (h q hq).transfer hk.2 fun _ _ ⟨rule, hf, hp⟩ => ⟨rule, by rw [hk.1]; exact hf, hp⟩

/-- A port stays sealed for a Service with the same protocol and source ranges. -/
theorem PortSealed.of_same {svc' : Service} (hp : protocolFromServicePort q svc' = protocolFromServicePort q svc)
    (hr : getLoadBalancerSourceRanges nets svc' = getLoadBalancerSourceRanges nets svc)
    (h : PortSealed nets svc ipid networkID c q) : PortSealed nets svc' ipid networkID c q :=
  ⟨hp ▸ h.valid, h.network, hr ▸ h.ranges, fun ranges hdue => hp ▸ h.exact ranges ⟨hdue.1, hr ▸ hdue.2⟩⟩

theorem portSealed_annotated (value : String) :
    PortSealed nets ( setServiceAnnotation svc serviceAnnotationLoadBalancerAddress value) ipid networkID c q ↔
      PortSealed nets svc ipid networkID c q :=
  have hp := protocolFromServicePort_setServiceAnnotation q svc value
  have hr := getLoadBalancerSourceRanges_setServiceAnnotation nets svc value
  ⟨PortSealed.of_same hp.symm hr.symm, PortSealed.of_same hp hr⟩

theorem portsSealed_annotated (value : String) :
    PortsSealed nets ( setServiceAnnotation svc serviceAnnotationLoadBalancerAddress value) ipid networkID ports c ↔
      PortsSealed nets svc ipid networkID ports c :=
  forall₂_congr fun _ _ => portSealed_annotated value

end Sealed

/-! ### The two firewall calls -/

theorem updateFirewallRule_seals (publicIPID : String) (publicPort : Int) (protocol : LoadBalancerProtocol)
    (allowedCIDRs : List String) (hcidrs : ∀ s ∈ allowedCIDRs, s ≠ "" ∧ ',' ∉ s.data) (c₀ : Cloud) :
    TripleOn DeletesSucceed (fun c => c = c₀) (updateFirewallRule publicIPID publicPort protocol allowedCIDRs)
      (fun _ c => Exact publicIPID (wantedCIDRs allowedCIDRs) publicPort protocol c ∧
        SameOffPort publicIPID publicPort protocol c₀ c) (fun _ => True) :=
  TripleOn.of_run fun rt hR w hw _ hok => by
    subst hw
    obtain ⟨hexact, hsame, -⟩ := updateFirewallRule_synced publicIPID publicPort protocol allowedCIDRs rt w hcidrs hR hok
    exact ⟨hexact, hsame⟩

theorem deleteFirewallRule_seals (publicIPID : String) (publicPort : Int) (protocol : LoadBalancerProtocol)
    (c₀ : Cloud) :
    TripleOn DeletesSucceed (fun c => c = c₀) (deleteFirewallRule publicIPID publicPort protocol)
      (fun _ => SameOffPort publicIPID publicPort protocol c₀) (SameOffPort publicIPID publicPort protocol c₀) := by
  intro rt hR w hw
  subst hw
  have := deleteFirewallRule_synced publicIPID publicPort protocol rt w hR
  revert this
  rcases deleteFirewallRule publicIPID publicPort protocol rt w with ⟨_ | _, w'⟩ <;> exact id

/-! ### The port loop -/

theorem ensurePortFirewall_seals (nets : IPNetParser) (svc : Service) (lb : LoadBalancer)
    (lbRule : LoadBalancerRule) (port : ServicePort) {done : List ServicePort} {c₀ : Cloud}
    (hvalid : protocolFromServicePort port svc ≠ .invalid)
    (hsealed : PortsSealed nets svc lbRule.publicipid lb.networkID done c₀) :
    TripleOn DeletesSucceed (fun c => c = c₀)
      (ensurePortFirewall nets svc lb lbRule port (protocolFromServicePort port svc))
      (fun _ c => c.networks = c₀.networks ∧ PortsSealed nets svc lbRule.publicipid lb.networkID (done ++ [port]) c)
      (fun _ => True) := by
  unfold ensurePortFirewall
  refine TripleOn.bind (.of_triple (Triple.query_eq _ _ c₀ trivial)) fun network => TripleOn.of_pre fun hnet => ?_
  subst hnet
  split
  · exact .of_triple (Triple.throw _ fun _ _ => trivial)
  · next n hn =>
    split
    · exact .of_triple (Triple.throw _ fun _ _ => trivial)
    · next ranges hr =>
      split
      · have hcidrs := (getLoadBalancerSourceRanges_ok nets svc ranges hr).2.2
        refine TripleOn.bind ((TripleOn.and (.of_triple (updateFirewallRule_allows _ _ _ _ (wantedCIDRs_splits hcidrs) c₀))
          (updateFirewallRule_seals _ _ _ _ hcidrs c₀)).conseq (fun _ h => h) (fun _ _ h => h) fun _ _ => trivial) fun _ =>
            .of_triple (Triple.pure _ fun c ⟨⟨hfw, _⟩, hnew, hsame⟩ => ⟨hfw.2.2, fun q hq => ?_⟩)
        have hranges : ∀ ranges', FirewallDue nets svc lb.networkID ranges' c → ranges' = ranges :=
          fun _ hdue => Except.ok.inj (hdue.2.symm.trans hr)
        rcases List.mem_append.mp hq with hq | hq
        · exact (hsealed q hq).transfer hfw.2.2 fun _ hdue he => by
            obtain rfl := hranges _ hdue
            exact he.of_update hsame hnew
        · obtain rfl := List.mem_singleton.mp hq
          exact ⟨hvalid, ⟨n, Cloud.getNetworkByID_congr hfw.2.2 _ ▸ hn⟩, ⟨ranges, hr⟩,
            fun _ hdue => by obtain rfl := hranges _ hdue; exact hnew⟩
      · next hnsup =>
        refine .of_triple (Triple.pure _ fun c hc => ⟨hc ▸ rfl, fun q hq => ?_⟩)
        subst hc
        rcases List.mem_append.mp hq with hq | hq
        · exact hsealed q hq
        · refine List.mem_singleton.mp hq ▸ ⟨hvalid, ⟨n, hn⟩, ⟨ranges, hr⟩, fun _ hdue => ?_⟩
          obtain ⟨n', hn', hsup⟩ := hdue.1
          rw [hn] at hn'
          cases hn'
          exact absurd hsup hnsup

section Port

variable {lb₀ : LoadBalancer} {m : List LoadBalancerRule} {c₁ : Cloud}

theorem ensurePort_seals (nets : IPNetParser) (svc : Service) {done : List ServicePort} {p : ServicePort}
    (hm : ∀ x ∈ m, x.publicip = c₁.addressOf x.publicipid) (haddr : c₁.addressOf lb₀.ipAddrID = lb₀.ipAddr)
    (hne : lb₀.ipAddr ≠ "") (hsealed : PortsSealed nets svc lb₀.ipAddrID lb₀.networkID done c₁) :
    TripleOn DeletesSucceed (fun c => c = c₁) (ensurePort nets svc { lb₀ with rules := m } p)
      (fun _ c => c.networks = c₁.networks ∧ PortsSealed nets svc lb₀.ipAddrID lb₀.networkID (done ++ [p]) c)
      (fun _ => True) := by
  simp only [ensurePort]
  split
  · exact .of_triple (Triple.throw_bind _ fun _ _ => trivial)
  · next hvalid =>
    refine TripleOn.pure_bind _ (TripleOn.bind (.of_triple (Triple.conseq (ensurePortRule_aims hm haddr hne _)
      (fun _ hc => hc ▸ FirewallKept.refl c₁) (fun _ _ h => h) fun _ _ => trivial)) fun ⟨lbRule, lb'⟩ => ?_)
    refine TripleOn.of_forall_eq fun c₂ ⟨hk, hip, m', _, hlb⟩ => ?_
    dsimp only at hip hlb
    subst hlb
    exact TripleOn.conseq (ensurePortFirewall_seals nets svc _ lbRule p hvalid (hip ▸ hsealed.kept hk))
      (fun _ h => h) (fun _ _ ⟨hnet, hex⟩ => ⟨hnet.trans hk.2, hip ▸ hex⟩) fun _ _ => trivial

end Port

theorem deleteStaleRules_seals (nets : IPNetParser) (svc : Service) (ipid networkID : String)
    (ports : List ServicePort) (N : List Network) : ∀ (lb : LoadBalancer) (stale : List LoadBalancerRule),
    (∀ x ∈ stale, ∀ q ∈ ports, ¬ Hits ipid svc x q) →
    TripleOn DeletesSucceed (fun c => c.networks = N ∧ PortsSealed nets svc ipid networkID ports c)
      (deleteStaleRules lb stale) (fun _ c => c.networks = N ∧ PortsSealed nets svc ipid networkID ports c)
      (fun _ => True)
  | _, [], _ => .of_triple (Triple.pure _ fun _ h => h)
  | lb, x :: rest, hstale => by
    simp only [deleteStaleRules]
    split
    · exact .of_triple (Triple.throw_bind _ fun _ _ => trivial)
    · refine TripleOn.pure_bind _ ?_
      split
      · exact .of_triple (Triple.throw _ fun _ _ => trivial)
      · next port hport =>
        have hfw : TripleOn DeletesSucceed (fun c => c.networks = N ∧ PortsSealed nets svc ipid networkID ports c)
            (deleteFirewallRule x.publicipid port (protocolFromLoadBalancer x.protocol))
            (fun _ c => c.networks = N ∧ PortsSealed nets svc ipid networkID ports c) (fun _ => True) := by
          refine TripleOn.of_forall_eq fun c₁ ⟨hN, hsealed⟩ => TripleOn.conseq (TripleOn.and
            (.of_triple (deleteFirewallRule_keeps_others _ _ _ c₁)) (deleteFirewallRule_seals _ _ _ c₁))
            (fun _ h => h) (fun _ c ⟨⟨hk, _⟩, hsame⟩ => ⟨hk.2.2.trans hN, fun q hq => ?_⟩) fun _ _ => trivial
          refine (hsealed q hq).transfer hk.2.2 fun _ _ he => he.of_sameOffPort hsame fun r hon =>
            Bool.eq_false_iff.mpr fun hon' => ?_
          simp [onPort_eq_false_of_not_hits hport (hstale x (List.mem_cons_self _ _) q hq) hon'] at hon
        have hdel : TripleOn DeletesSucceed (fun c => c.networks = N ∧ PortsSealed nets svc ipid networkID ports c)
            (deleteLoadBalancerRule lb x)
            (fun _ c => c.networks = N ∧ PortsSealed nets svc ipid networkID ports c) (fun _ => True) :=
          .of_triple (deleteLoadBalancerRule_triple _ _
            (fun _ h => ⟨h.1, fun q hq => (h.2 q hq).transfer rfl fun _ _ he => he⟩) fun _ _ => trivial)
        exact TripleOn.bind hfw fun _ => TripleOn.bind hdel fun lb' =>
          deleteStaleRules_seals nets svc ipid networkID ports N lb' rest fun y hy => hstale y (List.mem_cons_of_mem _ hy)

section Loop

variable {nets : IPNetParser} {svc : Service} {lb₀ : LoadBalancer} {c₀ : Cloud}
  {done : List ServicePort} {m : List LoadBalancerRule} {p : ServicePort}

theorem ensurePort_sealing (hfresh : ∀ q ∈ done, portRuleName lb₀.name svc p ≠ portRuleName lb₀.name svc q)
    (haddr : c₀.addressOf lb₀.ipAddrID = lb₀.ipAddr) (hne : lb₀.ipAddr ≠ "") (hp : p ∈ svc.ports) :
    TripleOn DeletesSucceed
      (fun c => Opening nets svc lb₀ c₀ done m c ∧ PortsSealed nets svc lb₀.ipAddrID lb₀.networkID done c)
      (ensurePort nets svc { lb₀ with rules := m } p)
      (fun lb c => ∃ m', lb = { lb₀ with rules := m' } ∧ Opening nets svc lb₀ c₀ (done ++ [p]) m' c ∧
        PortsSealed nets svc lb₀.ipAddrID lb₀.networkID (done ++ [p]) c)
      (fun _ => True) :=
  TripleOn.of_forall_eq fun c₁ ⟨h, hexact⟩ => TripleOn.conseq (TripleOn.and
    (.of_triple ((ensurePort_opening hfresh haddr hne hp).conseq (fun c (hc : c = c₁) => hc ▸ h) (fun _ _ h => h)
      fun _ h => h))
    (ensurePort_seals nets svc h.conv.publicip ((congrFun h.conv.addressOf_eq _).trans haddr) hne hexact))
    (fun _ h => h) (fun _ _ ⟨⟨m', hlb, ho⟩, _, hex⟩ => ⟨m', hlb, ho, hex⟩) fun _ _ => trivial

theorem ensurePorts_sealing (haddr : c₀.addressOf lb₀.ipAddrID = lb₀.ipAddr) (hne : lb₀.ipAddr ≠ "") :
    ∀ (ports done : List ServicePort) (m : List LoadBalancerRule),
    ((done ++ ports).map (portRuleName lb₀.name svc)).Nodup → ports ⊆ svc.ports →
    TripleOn DeletesSucceed
      (fun c => Opening nets svc lb₀ c₀ done m c ∧ PortsSealed nets svc lb₀.ipAddrID lb₀.networkID done c)
      (ensurePorts nets svc { lb₀ with rules := m } ports)
      (fun lb c => ∃ m', lb = { lb₀ with rules := m' } ∧ Opening nets svc lb₀ c₀ (done ++ ports) m' c ∧
        PortsSealed nets svc lb₀.ipAddrID lb₀.networkID (done ++ ports) c)
      (fun _ => True)
  | [], done, m, _, _ => .of_triple (Triple.pure _ fun _ h => ⟨m, rfl, by simpa using h⟩)
  | p :: ports, done, m, hnd, hsub => by
    rw [List.map_append] at hnd
    have hfresh : ∀ q ∈ done, portRuleName lb₀.name svc p ≠ portRuleName lb₀.name svc q := fun q hq he =>
      (List.nodup_append.mp hnd).2.2 (List.mem_map_of_mem _ hq) (he ▸ List.mem_map_of_mem _ (List.mem_cons_self p ports))
    have hp := List.cons_subset.mp hsub
    refine TripleOn.bind (ensurePort_sealing hfresh haddr hne hp.1) fun lb => TripleOn.of_exists fun m' =>
      TripleOn.of_pre_imp (fun _ h => h.1) fun hlb => ?_
    subst hlb
    refine TripleOn.conseq (ensurePorts_sealing haddr hne ports (done ++ [p]) m' ?_ hp.2) (fun _ h => h.2)
      (fun _ _ ⟨m'', hlb, h⟩ => ⟨m'', hlb, by simpa using h⟩) fun _ h => h
    simpa [List.map_append] using hnd

theorem ensureRules_sealing (haddr : c₀.addressOf lb₀.ipAddrID = lb₀.ipAddr) (hne : lb₀.ipAddr ≠ "")
    (hnd : (svc.ports.map (portRuleName lb₀.name svc)).Nodup) :
    TripleOn DeletesSucceed (Opening nets svc lb₀ c₀ [] lb₀.rules) (ensureRules nets svc lb₀)
      (fun _ c => c.networks = c₀.networks ∧ PortsSealed nets svc lb₀.ipAddrID lb₀.networkID svc.ports c)
      (fun _ => True) := by
  refine TripleOn.bind ((ensurePorts_sealing haddr hne svc.ports [] lb₀.rules hnd (List.Subset.refl _)).conseq
    (fun _ h => ⟨h, fun _ hq => absurd hq (List.not_mem_nil _)⟩) (fun _ _ h => h) fun _ h => h) fun lb =>
      TripleOn.of_exists fun m => TripleOn.of_pre_imp (fun _ h => h.1) fun hlb => ?_
  subst hlb
  have hstale : Triple (fun c => { lb₀ with rules := m } = { lb₀ with rules := m } ∧
      Opening nets svc lb₀ c₀ ([] ++ svc.ports) m c ∧ PortsSealed nets svc lb₀.ipAddrID lb₀.networkID ([] ++ svc.ports) c)
      (rangeOver m)
      (fun stale c => (Opening nets svc lb₀ c₀ svc.ports m c ∧
        PortsSealed nets svc lb₀.ipAddrID lb₀.networkID svc.ports c) ∧ stale.Perm m) (fun _ => True) :=
    Triple.rangeOver _ fun _ h _ hperm => ⟨by simpa using h.2, hperm⟩
  refine TripleOn.bind (.of_triple hstale) fun stale => TripleOn.of_pre fun hperm =>
    TripleOn.of_forall_eq fun c₁ ⟨h, hexact⟩ => TripleOn.bind ?_ fun _ => .of_triple (Triple.pure _ fun _ h => h)
  exact (deleteStaleRules_seals nets svc _ _ svc.ports c₀.networks _ stale
    fun _ hx _ hq => h.conv.not_hits (hperm.mem_iff.mp hx) hq).conseq (fun _ hc => hc ▸ ⟨h.networks, hexact⟩)
      (fun _ _ h => h) fun _ h => h

end Loop

/-! ### Whole runs -/

theorem ensureWithAddress_seals (nets : IPNetParser) {clusterName : String} {svc : Service} {c₀ c₁ : Cloud}
    {lb : LoadBalancer} (release : Bool) (hstart : Started clusterName svc c₀ lb c₁)
    (hnd : (svc.ports.map (portRuleName lb.name svc)).Nodup) :
    TripleOn DeletesSucceed (fun c => c = c₁) (ensureWithAddress nets svc lb release)
      (fun res c => res.status ≠ none →
        c.networks = c₁.networks ∧ PortsSealed nets svc lb.ipAddrID lb.networkID svc.ports c)
      (fun _ => True) := by
  have hrules : TripleOn DeletesSucceed (fun c => c = c₁)
      (ensureRules nets ( setServiceAnnotation svc serviceAnnotationLoadBalancerAddress lb.ipAddr) lb)
      (fun _ c => c.networks = c₁.networks ∧ PortsSealed nets svc lb.ipAddrID lb.networkID svc.ports c)
      (fun _ => True) :=
    (ensureRules_sealing hstart.address hstart.address_ne (by rwa [portRuleName_annotated])).conseq
      (fun _ hc => by
        subst hc
        exact ⟨hstart.converging _, List.Subset.refl _, rfl, fun _ _ _ hq => absurd hq (List.not_mem_nil _)⟩)
      (fun _ _ ⟨hN, hex⟩ => ⟨hN, (portsSealed_annotated _).mp hex⟩) fun _ _ => trivial
  unfold ensureWithAddress
  refine TripleOn.bind (TripleOn.outcome hrules) fun r => ?_
  cases r with
  | ok => exact TripleOn.bind (.of_triple (patch_keeps _ _ _)) fun _ => .of_triple (Triple.pure _ fun _ h _ => h)
  | error =>
    dsimp only
    split <;> refine .of_triple (Triple.bind (Triple.of_true _) fun _ =>
      Triple.bind (Triple.of_true _) fun _ => Triple.pure _ ?_) <;> exact fun _ _ hn => absurd rfl hn

theorem ensureLoadBalancer_seals (nets : IPNetParser) (clusterName : String) (svc : Service)
    (nodes : List Node) (c₀ : Cloud) (hwf : WellFormed c₀)
    (hnd : (svc.ports.map (portRuleName (getLoadBalancerName clusterName svc) svc)).Nodup) :
    TripleOn DeletesSucceed (fun c => c = c₀) (ensureLoadBalancer nets clusterName svc nodes)
      (fun res c => res.status ≠ none →
        ∃ lb, res.status = some (loadBalancerStatus res.service lb) ∧
          res.service = setServiceAnnotation svc serviceAnnotationLoadBalancerAddress lb.ipAddr ∧
          Converged clusterName svc c₀ lb c ∧
          (∃ hostIDs, matchHosts (nodes.map nodeHostName) c₀.vms [] "" = .ok (hostIDs, lb.networkID) ∧
            hostIDs ≠ [] ∧ lb.networkID ≠ "") ∧
          c.networks = c₀.networks ∧ PortsSealed nets svc lb.ipAddrID lb.networkID svc.ports c)
      (fun _ => True) := by
  unfold ensureLoadBalancer
  split
  · exact .of_triple (Triple.pure _ fun _ _ hn => absurd rfl hn)
  refine TripleOn.bind (.of_triple (Triple.outcome (Triple.and (ensureAddress_started clusterName svc nodes c₀ hwf)
    (ensureAddress_aims clusterName svc nodes c₀)))) fun r => ?_
  rcases r with e | ⟨lb, release⟩
  · exact .of_triple (Triple.bind (Triple.of_true _) fun _ => Triple.pure _ fun _ _ hn => absurd rfl hn)
  have hnd' := (nodup_portRuleName_iff _ lb.name svc svc.ports).mp hnd
  refine TripleOn.of_forall_eq fun c₁ ⟨⟨hstart, hfresh⟩, hkept, hm⟩ => TripleOn.conseq (TripleOn.and
    (.of_triple (ensureWithAddress_converging nets release hwf hstart hfresh hnd'))
    (ensureWithAddress_seals nets release hstart hnd')) (fun _ h => h) (fun _ _ ⟨⟨_, hconv⟩, hseal⟩ hn => ?_)
    fun _ _ => trivial
  obtain ⟨hst, hc, hsvc⟩ := hconv hn
  obtain ⟨hN, hsealed⟩ := hseal hn
  exact ⟨lb, hst, hsvc, hc, hm, hN.trans hkept.2, hsealed⟩

/-- A run of `EnsureLoadBalancer` from a platform whose rules have distinct names, on which no
`DeleteFirewallRule` fails, that returns a status: each port of the Service has one rule, named
for it, on the load balancer's address, serving it; no other rule the name lists is left; and
where the nodes' network has a firewall, exactly one firewall rule of each port is on the
address, allowing exactly the Service's source ranges. -/
theorem ensureLoadBalancer_one_rule_per_port (nets : IPNetParser) (clusterName : String) (svc : Service)
    (nodes : List Node) (rt : Runtime) (w : World) (hwf : WellFormed w.cloud)
    (hnd : (svc.ports.map (portRuleName (getLoadBalancerName clusterName svc) svc)).Nodup)
    (hdel : ∀ n id, rt.fails n (.deleteFirewallRule id) = none) {res : EnsureResult}
    (hok : (ensureLoadBalancer nets clusterName svc nodes rt w).1 = .ok res) (hst : res.status ≠ none) :
    let c := (ensureLoadBalancer nets clusterName svc nodes rt w).2.cloud
    ∃ lb : LoadBalancer, res.status = some (loadBalancerStatus res.service lb) ∧
      (lb.name = getLoadBalancerName clusterName svc ∨ lb.name = getLoadBalancerLegacyName svc) ∧
      affinityAlgorithm svc.sessionAffinity = .ok lb.algorithm ∧ c.addressOf lb.ipAddrID = lb.ipAddr ∧
      (∃ hostIDs, matchHosts (nodes.map nodeHostName) w.cloud.vms [] "" = .ok (hostIDs, lb.networkID)) ∧
      (∀ p ∈ svc.ports, ∃ r ∈ c.lbRules, Serves svc lb p r ∧ ∀ r' ∈ c.lbRules, r'.name = r.name → r' = r) ∧
      (∀ r ∈ c.lbRules, keywordMatches lb.name r → ∃ p ∈ svc.ports, Serves svc lb p r) ∧
      ∀ ranges, FirewallDue nets svc lb.networkID ranges w.cloud → ∀ p ∈ svc.ports,
        Exact lb.ipAddrID (wantedCIDRs ranges) p.port.toInt (protocolFromServicePort p svc) c := by
  intro c
  obtain ⟨lb, hstatus, -, h, ⟨hostIDs, hm, -⟩, hN, hsealed⟩ :=
    TripleOn.of_ok (ensureLoadBalancer_seals nets clusterName svc nodes w.cloud hwf hnd) hdel rfl hok hst
  refine ⟨lb, hstatus, h.name.imp_right And.left, h.algorithm, h.address, ⟨hostIDs, hm⟩, fun p hp => ?_, h.only,
    fun ranges hdue p hp => (hsealed p hp).exact ranges ((FirewallDue.congr hN).mpr hdue)⟩
  obtain ⟨r, hr, hs⟩ := h.served p hp
  exact ⟨r, hr, hs, fun r' hr' hn => h.wf.row_eq_of_name hr' hr hn⟩

/-- What the run from `staleFirewallCloud` returns, every call succeeding. -/
def staleFirewallResult : EnsureResult := ⟨some ⟨[⟨"10.0.0.9", ""⟩]⟩, none, addressedService⟩

theorem staleFirewallRun_ok :
    (ensureLoadBalancer .literal "c" addressedService sampleNodes (Runtime.reliable .inOrder)
      (World.init staleFirewallCloud)).1 = .ok staleFirewallResult := by
  rw [ensureLoadBalancer_of_address (by decide) (by decide :
    (ensureAddress "c" addressedService sampleNodes (Runtime.reliable .inOrder) (World.init staleFirewallCloud)).1 =
      .ok (staleFirewallLB, false))]
  decide

theorem ensureLoadBalancer_one_rule_per_port_on_stale_firewall :
    WellFormed staleFirewallCloud ∧
      (addressedService.ports.map (portRuleName (getLoadBalancerName "c" addressedService) addressedService)).Nodup ∧
      (∀ n id, (Runtime.reliable .inOrder).fails n (.deleteFirewallRule id) = none) ∧
      (ensureLoadBalancer .literal "c" addressedService sampleNodes (Runtime.reliable .inOrder)
        (World.init staleFirewallCloud)).1 = .ok staleFirewallResult ∧ staleFirewallResult.status ≠ none ∧
      let c := (ensureLoadBalancer .literal "c" addressedService sampleNodes (Runtime.reliable .inOrder)
        (World.init staleFirewallCloud)).2.cloud
      ∃ lb : LoadBalancer, staleFirewallResult.status = some (loadBalancerStatus staleFirewallResult.service lb) ∧
        (lb.name = getLoadBalancerName "c" addressedService ∨ lb.name = getLoadBalancerLegacyName addressedService) ∧
        affinityAlgorithm addressedService.sessionAffinity = .ok lb.algorithm ∧ c.addressOf lb.ipAddrID = lb.ipAddr ∧
        (∃ hostIDs, matchHosts (sampleNodes.map nodeHostName) staleFirewallCloud.vms [] "" = .ok (hostIDs, lb.networkID)) ∧
        (∀ p ∈ addressedService.ports, ∃ r ∈ c.lbRules, Serves addressedService lb p r ∧
          ∀ r' ∈ c.lbRules, r'.name = r.name → r' = r) ∧
        (∀ r ∈ c.lbRules, keywordMatches lb.name r → ∃ p ∈ addressedService.ports, Serves addressedService lb p r) ∧
        ∀ ranges, FirewallDue .literal addressedService lb.networkID ranges staleFirewallCloud →
          ∀ p ∈ addressedService.ports,
            Exact lb.ipAddrID (wantedCIDRs ranges) p.port.toInt (protocolFromServicePort p addressedService) c := by
  have hwf : WellFormed staleFirewallCloud := ⟨by decide, by decide⟩
  have hnd : (addressedService.ports.map (portRuleName (getLoadBalancerName "c" addressedService) addressedService)).Nodup :=
    List.nodup_singleton _
  exact ⟨hwf, hnd, fun _ _ => rfl, staleFirewallRun_ok, by decide, ensureLoadBalancer_one_rule_per_port .literal "c"
    addressedService sampleNodes _ _ hwf hnd (fun _ _ => rfl) staleFirewallRun_ok (by decide)⟩

/-! ### Two rules of one name

The locator's map is keyed by name (line 546), so of two rules that share a name it holds the one
listed last. The port loop finds that one; the other is never in the map, so the cleanup never
deletes it.
-/

/-- Address `9` with two rules under the name of the Service's port 80: on public port 81, then on
port 80. -/
def twinRulesCloud : Cloud :=
  ⟨[⟨"1", "K8s_svc_c_default_web-tcp-80", "", "roundrobin", "tcp", "9", "30080", "81", ["vm-1"]⟩,
    ⟨"2", "K8s_svc_c_default_web-tcp-80", "", "roundrobin", "tcp", "9", "30080", "80", ["vm-1"]⟩],
    [], [⟨"9", "10.0.0.9"⟩], [⟨"net-1", "", []⟩], [⟨"vm-1", "node-1", [⟨"net-1"⟩]⟩],
    by decide, by decide, by decide, by decide, by decide⟩

/-- Every call succeeding, the run keeps the rule on port 80 and returns the status, and the rule
on public port 81 stays under the same name. -/
theorem ensureLoadBalancer_keeps_shadowed_rule :
    (ensureLoadBalancer .literal "c" addressedService sampleNodes (Runtime.reliable .inOrder)
        (World.init twinRulesCloud)).1.toOption.map (fun res => (res.status, res.err)) =
        some (some ⟨[⟨"10.0.0.9", ""⟩]⟩, none) ∧
      (ensureLoadBalancer .literal "c" addressedService sampleNodes (Runtime.reliable .inOrder)
        (World.init twinRulesCloud)).2.cloud.lbRules.map (fun r => (r.name, r.publicport)) =
        [("K8s_svc_c_default_web-tcp-80", "81"), ("K8s_svc_c_default_web-tcp-80", "80")] := by
  rw [ensureLoadBalancer_of_address (by decide) (by decide :
    (ensureAddress "c" addressedService sampleNodes (Runtime.reliable .inOrder) (World.init twinRulesCloud)).1 =
      .ok (⟨"K8s_svc_c_default_web", "roundrobin", ["vm-1"], "10.0.0.9", "9", "net-1",
        [⟨"2", "K8s_svc_c_default_web-tcp-80", "roundrobin", "tcp", "10.0.0.9", "9", "30080", "80"⟩]⟩, false))]
  decide

end CloudStackLB
