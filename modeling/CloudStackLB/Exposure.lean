import CloudStackLB.Footprint

/-! # The firewall after a run

Each iteration of the port loop of `EnsureLoadBalancer` (`loadbalancer.go:334-355`) opens its
port in the firewall, when the load balancer's network has one, to the Service's source ranges;
the cleanup (lines 358-378) then deletes, with every stale rule, the firewall rules of that
rule's address, public port and protocol. A stale rule that hits a port (`Hits`) would take the
port's firewall rule with it, but the platform keeps no two load-balancer rules on one address and
port. So a run that returns a status leaves, for every port of the Service, a firewall rule that
allows exactly the wanted ranges (`Allowed`). It does not close the port to other ranges: another
firewall rule of the port, such as an allow-all rule whose deletion failed, may remain.
-/

namespace CloudStackLB

/-! ### Open ports -/

/-- The network `networkID` has a firewall and the Service's source ranges parse to `ranges`:
the port loop then sets each port's firewall rule. -/
def FirewallDue (nets : IPNetParser) (svc : Service) (networkID : String) (ranges : List String) (c : Cloud) :
    Prop :=
  (∃ n, c.getNetworkByID networkID = some n ∧ isFirewallSupported n.service = true) ∧
    getLoadBalancerSourceRanges nets svc = .ok ranges

/-- The cleanup of the stale rule `x` deletes the firewall rules of the port `q` on the address
`ipid`: same address, public port and IP protocol. -/
def Hits (ipid : String) (svc : Service) (x : LoadBalancerRule) (q : ServicePort) : Prop :=
  x.publicipid = ipid ∧ parseInt32 x.publicport = .ok q.port.toInt ∧
    (protocolFromLoadBalancer x.protocol).ipProtocol = (protocolFromServicePort q svc).ipProtocol

/-- Where the firewall is due, each port of `ports` that no rule of `gone` hits has a firewall rule
on the address `ipid` that allows exactly the wanted ranges. -/
def PortsOpen (nets : IPNetParser) (svc : Service) (ipid networkID : String) (ports : List ServicePort)
    (gone : List LoadBalancerRule) (c : Cloud) : Prop :=
  ∀ ranges, FirewallDue nets svc networkID ranges c → ∀ q ∈ ports, (∀ x ∈ gone, ¬ Hits ipid svc x q) →
    Allowed ipid (wantedCIDRs ranges) q.port.toInt (protocolFromServicePort q svc) c

/-- `c'` has the firewall rules and the networks of `c`. -/
def FirewallKept (c c' : Cloud) : Prop := c'.fwRules = c.fwRules ∧ c'.networks = c.networks

theorem FirewallKept.refl (c : Cloud) : FirewallKept c c := ⟨rfl, rfl⟩

theorem FirewallKept.trans {c₁ c₂ c₃ : Cloud} (h₁ : FirewallKept c₁ c₂) (h₂ : FirewallKept c₂ c₃) :
    FirewallKept c₁ c₃ :=
  ⟨h₂.1.trans h₁.1, h₂.2.trans h₁.2⟩

section Open

variable {nets : IPNetParser} {svc : Service} {ipid networkID : String} {ports : List ServicePort}
  {gone : List LoadBalancerRule} {c c' : Cloud}

theorem FirewallDue.congr {ranges : List String} (hn : c'.networks = c.networks) :
    FirewallDue nets svc networkID ranges c' ↔ FirewallDue nets svc networkID ranges c := by
  unfold FirewallDue Cloud.getNetworkByID
  rw [hn]

theorem PortsOpen.kept (h : PortsOpen nets svc ipid networkID ports gone c) (hk : FirewallKept c c') :
    PortsOpen nets svc ipid networkID ports gone c' := fun ranges hdue q hq hgone => by
  obtain ⟨r, hr, hon, hperm⟩ := h ranges ((FirewallDue.congr hk.2).mp hdue) q hq hgone
  exact ⟨r, hk.1 ▸ hr, hon, hperm⟩

theorem PortsOpen.mono {gone' : List LoadBalancerRule} (h : PortsOpen nets svc ipid networkID ports gone c)
    (hsub : gone ⊆ gone') : PortsOpen nets svc ipid networkID ports gone' c :=
  fun ranges hdue q hq hgone => h ranges hdue q hq fun x hx => hgone x (hsub hx)

theorem portsOpen_annotated (value : String) :
    PortsOpen nets ( setServiceAnnotation svc serviceAnnotationLoadBalancerAddress value) ipid networkID ports gone c ↔
      PortsOpen nets svc ipid networkID ports gone c := by
  simp only [PortsOpen, FirewallDue, Hits, getLoadBalancerSourceRanges_setServiceAnnotation,
    protocolFromServicePort_setServiceAnnotation]

end Open

theorem onPort_eq_false_of_not_hits {ipid : String} {svc : Service} {x : LoadBalancerRule} {q : ServicePort}
    {port : Int} (hport : parseInt32 x.publicport = .ok port) (hx : ¬ Hits ipid svc x q) {r : FirewallRule}
    (hon : onPort ipid q.port.toInt (protocolFromServicePort q svc) r = true) :
    onPort x.publicipid port (protocolFromLoadBalancer x.protocol) r = false := by
  simp only [onPort, FirewallRule.Matches, Bool.and_eq_true, decide_eq_true_eq] at hon
  rw [Bool.eq_false_iff]
  intro hon'
  simp only [onPort, FirewallRule.Matches, Bool.and_eq_true, decide_eq_true_eq] at hon'
  exact hx ⟨hon'.1.symm.trans hon.1, hport.trans (congrArg _ (hon'.2.2.1.symm.trans hon.2.2.1)),
    hon'.2.1.symm.trans hon.2.1⟩

/-! ### The port loop -/

theorem ensurePortFirewall_opens (nets : IPNetParser) (svc : Service) (lb : LoadBalancer)
    (lbRule : LoadBalancerRule) (port : ServicePort) {done : List ServicePort} {c₀ : Cloud}
    (hopen : PortsOpen nets svc lbRule.publicipid lb.networkID done [] c₀) :
    Triple (fun c => c = c₀) (ensurePortFirewall nets svc lb lbRule port (protocolFromServicePort port svc))
      (fun lb' c => lb' = lb ∧ FwOnly c₀ c ∧ PortsOpen nets svc lbRule.publicipid lb.networkID (done ++ [port]) [] c)
      (FwOnly c₀) := by
  unfold ensurePortFirewall
  refine Triple.bind (Triple.query_eq _ _ c₀ (FwOnly.refl c₀)) fun network => Triple.of_pre fun hnet => ?_
  subst hnet
  split
  · exact Triple.throw _ fun _ h => h ▸ FwOnly.refl c₀
  · next n hn =>
    split
    · exact Triple.throw _ fun _ h => h ▸ FwOnly.refl c₀
    · next ranges hr =>
      split
      · refine Triple.bind (updateFirewallRule_allows _ _ _ _
          (wantedCIDRs_splits (getLoadBalancerSourceRanges_ok nets svc ranges hr).2.2) c₀) fun _ =>
            Triple.pure _ fun c ⟨hfw, hallow, hspare⟩ => ⟨rfl, hfw, fun ranges' hdue q hq hg => ?_⟩
        obtain rfl : ranges' = ranges := Except.ok.inj (hdue.2.symm.trans hr)
        rcases List.mem_append.mp hq with hq | hq
        · exact (hopen _ ((FirewallDue.congr hfw.2.2).mp hdue) q hq hg).of_spared hspare hallow
        · exact List.mem_singleton.mp hq ▸ hallow
      · next hnsup =>
        refine Triple.pure _ fun c hc => ⟨rfl, hc ▸ FwOnly.refl c₀, fun ranges' hdue => ?_⟩
        subst hc
        obtain ⟨n', hn', hsup⟩ := hdue.1
        rw [hn] at hn'
        cases hn'
        exact absurd hsup hnsup

section Port

variable {lb₀ : LoadBalancer} {m : List LoadBalancerRule} {port : ServicePort} {protocol : LoadBalancerProtocol}
  {c₁ : Cloud}

theorem createRule_kept (lb : LoadBalancer) (lbRuleName : String) :
    Triple (FirewallKept c₁)
      (do
        let lbRule ← createLoadBalancerRule lb lbRuleName port protocol
        assignHostsToRule lbRule lb.hostIDs
        pure (lbRule, lb))
      (fun r c => FirewallKept c₁ c ∧ r.1.publicipid = lb.ipAddrID ∧ r.2 = lb) (FirewallKept c₁) :=
  Triple.bind (Triple.withPrefix _ (Triple.remoteTry _ _ (fun c _ _ h hc => by
    obtain ⟨-, -, rfl, rfl⟩ := c.createLoadBalancerRule_ok hc
    exact (⟨h, rfl⟩ : _ ∧ _)) fun _ h => h)) fun _ =>
    Triple.of_pre fun hip => Triple.bind (Triple.withPrefix _ (Triple.remote _ _ (fun _ h => h) fun _ h => h))
      fun _ => Triple.pure _ fun _ h => ⟨h, hip, rfl⟩

theorem ensurePortRule_aims (hm : ∀ x ∈ m, x.publicip = c₁.addressOf x.publicipid)
    (haddr : c₁.addressOf lb₀.ipAddrID = lb₀.ipAddr) (hne : lb₀.ipAddr ≠ "") (lbRuleName : String) :
    Triple (FirewallKept c₁) (ensurePortRule { lb₀ with rules := m } lbRuleName port protocol)
      (fun r c => FirewallKept c₁ c ∧ r.1.publicipid = lb₀.ipAddrID ∧ ∃ m' ⊆ m, r.2 = { lb₀ with rules := m' })
      (FirewallKept c₁) := by
  refine Triple.conseq (ensurePortRule_acts lbRuleName (fun _ _ => Triple.remote _ _ (fun _ h => h) fun _ h => h)
    (fun _ _ _ _ => Triple.remote _ _ (fun _ h => h) fun _ h => h) fun _ _ => createRule_kept _ lbRuleName)
      (fun _ h => h) (fun r _ ⟨hk, hrule, hlb⟩ => ⟨hk, ?_, hlb⟩) fun _ h => h
  rcases hrule with ⟨hx, hpub⟩ | hid
  · -- the check compares addresses, and an address has one id
    have hip : c₁.addressOf r.1.publicipid = c₁.addressOf lb₀.ipAddrID := by rw [← hm _ hx, hpub, haddr]
    exact c₁.addressOf_inj hip (hip ▸ haddr ▸ hne)
  · exact hid

theorem ensurePort_aims (nets : IPNetParser) (svc : Service) {done : List ServicePort} {p : ServicePort}
    (hm : ∀ x ∈ m, x.publicip = c₁.addressOf x.publicipid) (haddr : c₁.addressOf lb₀.ipAddrID = lb₀.ipAddr)
    (hne : lb₀.ipAddr ≠ "") (hopen : PortsOpen nets svc lb₀.ipAddrID lb₀.networkID done [] c₁) :
    Triple (fun c => c = c₁) (ensurePort nets svc { lb₀ with rules := m } p)
      (fun lb c => lb.rules ⊆ m ∧ c.networks = c₁.networks ∧
        PortsOpen nets svc lb₀.ipAddrID lb₀.networkID (done ++ [p]) [] c) (fun _ => True) := by
  simp only [ensurePort]
  split
  · exact Triple.throw_bind _ fun _ _ => trivial
  · refine Triple.pure_bind _ (Triple.bind (Triple.conseq (ensurePortRule_aims hm haddr hne _)
      (fun _ hc => hc ▸ FirewallKept.refl c₁) (fun _ _ h => h) fun _ _ => trivial) fun ⟨lbRule, lb'⟩ => ?_)
    refine Triple.of_forall_eq fun c₂ ⟨hk, hip, m', hsub, hlb⟩ => ?_
    dsimp only at hip hlb
    subst hlb
    exact Triple.conseq (ensurePortFirewall_opens nets svc _ lbRule p (hip ▸ hopen.kept hk)) (fun _ h => h)
      (fun _ _ ⟨hlb, hfw, hopen'⟩ => ⟨hlb ▸ hsub, hfw.2.2.trans hk.2, hip ▸ hopen'⟩) fun _ _ => trivial

end Port

theorem deleteStaleRules_opens (nets : IPNetParser) (svc : Service) (ipid networkID : String)
    (ports : List ServicePort) (N : List Network) : ∀ (lb : LoadBalancer) (stale gone : List LoadBalancerRule),
    Triple (fun c => c.networks = N ∧ PortsOpen nets svc ipid networkID ports gone c) (deleteStaleRules lb stale)
      (fun _ c => c.networks = N ∧ PortsOpen nets svc ipid networkID ports (gone ++ stale) c) (fun _ => True)
  | _, [], _ => Triple.pure _ fun _ h => by rwa [List.append_nil]
  | lb, x :: rest, gone => by
    simp only [deleteStaleRules]
    split
    · exact Triple.throw_bind _ fun _ _ => trivial
    · refine Triple.pure_bind _ ?_
      split
      · exact Triple.throw _ fun _ _ => trivial
      · next port hport =>
        have hfw : Triple (fun c => c.networks = N ∧ PortsOpen nets svc ipid networkID ports gone c)
            (deleteFirewallRule x.publicipid port (protocolFromLoadBalancer x.protocol))
            (fun _ c => c.networks = N ∧ PortsOpen nets svc ipid networkID ports (gone ++ [x]) c) (fun _ => True) := by
          refine Triple.of_forall_eq fun c₁ ⟨hN, hopen⟩ => Triple.conseq (deleteFirewallRule_keeps_others _ _ _ c₁)
            (fun _ h => h) (fun _ c ⟨hk, hspare⟩ => ⟨hk.2.2.trans hN, fun ranges hdue q hq hg => ?_⟩) fun _ _ => trivial
          obtain ⟨r, hr, hon, hperm⟩ := hopen ranges ((FirewallDue.congr hk.2.2).mp hdue) q hq
            fun y hy => hg y (List.mem_append_left _ hy)
          exact ⟨r, hspare r hr (onPort_eq_false_of_not_hits hport
            (hg x (List.mem_append_right _ (List.mem_singleton_self x))) hon), hon, hperm⟩
        have hdel : Triple (fun c => c.networks = N ∧ PortsOpen nets svc ipid networkID ports (gone ++ [x]) c)
            (deleteLoadBalancerRule lb x)
            (fun _ c => c.networks = N ∧ PortsOpen nets svc ipid networkID ports (gone ++ [x]) c) (fun _ => True) :=
          deleteLoadBalancerRule_triple _ _ (fun _ h => h) fun _ _ => trivial
        refine Triple.bind hfw fun _ => Triple.bind hdel fun lb' => ?_
        exact Triple.conseq (deleteStaleRules_opens nets svc ipid networkID ports N lb' rest (gone ++ [x]))
          (fun _ h => h) (fun _ _ h => by rwa [List.append_assoc] at h) fun _ h => h

section Loop

variable {nets : IPNetParser} {svc : Service} {lb₀ : LoadBalancer} {c₀ : Cloud}

variable (nets svc lb₀ c₀) in
/-- The port loop's invariant with its firewall: `Converging`, a map that only lost entries of the
locator's, the networks of `c₀`, and every port done open as wanted. -/
structure Opening (done : List ServicePort) (m : List LoadBalancerRule) (c : Cloud) : Prop where
  conv : Converging svc lb₀ c₀ done m c
  sub : m ⊆ lb₀.rules
  networks : c.networks = c₀.networks
  opened : PortsOpen nets svc lb₀.ipAddrID lb₀.networkID done [] c

variable {done : List ServicePort} {m : List LoadBalancerRule} {c : Cloud} {p : ServicePort}

theorem parseInt32_itoa_port (q : ServicePort) : parseInt32 (itoa q.port.toInt) = .ok q.port.toInt := by
  have := q.port.isLt
  apply parseInt32_itoa <;> rw [BitVec.toInt_eq_toNat_cond] <;> split <;> omega

/-- No map entry hits a port done: the platform keeps no second rule on the port's address and port. -/
theorem Converging.not_hits (h : Converging svc lb₀ c₀ done m c) {x : LoadBalancerRule} (hx : x ∈ m)
    {q : ServicePort} (hq : q ∈ done) : ¬ Hits lb₀.ipAddrID svc x q := fun ⟨hip, hport, _⟩ => by
  obtain ⟨r, hr, rfl, -⟩ := h.mapped x hx
  obtain ⟨s, hs, hserve⟩ := h.served q hq
  obtain rfl : r = s := c.eq_of_portsClash hr hs
    ⟨hip.trans hserve.publicipid.symm, by rw [hserve.publicport, parseInt32_itoa_port]; exact hport⟩
  exact h.pending _ hx q hq hserve.name

theorem Converging.publicip (h : Converging svc lb₀ c₀ done m c) :
    ∀ x ∈ m, x.publicip = c.addressOf x.publicipid := fun x hx => by
  obtain ⟨r, -, rfl, -⟩ := h.mapped x hx
  rfl

theorem Converging.addressOf_eq (h : Converging svc lb₀ c₀ done m c) : c.addressOf = c₀.addressOf := by
  unfold Cloud.addressOf
  rw [h.ips]

theorem ensurePort_opening (hfresh : ∀ q ∈ done, portRuleName lb₀.name svc p ≠ portRuleName lb₀.name svc q)
    (haddr : c₀.addressOf lb₀.ipAddrID = lb₀.ipAddr) (hne : lb₀.ipAddr ≠ "") (hp : p ∈ svc.ports) :
    Triple (Opening nets svc lb₀ c₀ done m) (ensurePort nets svc { lb₀ with rules := m } p)
      (fun lb c => ∃ m', lb = { lb₀ with rules := m' } ∧ Opening nets svc lb₀ c₀ (done ++ [p]) m' c)
      (LoopFramed svc lb₀ c₀) := by
  refine Triple.of_forall_eq fun c₁ h => ?_
  have hconv : Triple (fun c => c = c₁) (ensurePort nets svc { lb₀ with rules := m } p)
      (fun lb c => ∃ m', lb = { lb₀ with rules := m' } ∧ Converging svc lb₀ c₀ (done ++ [p]) m' c)
      (LoopFramed svc lb₀ c₀) :=
    Triple.conseq (ensurePort_converging nets hfresh haddr hne hp) (fun _ hc => hc ▸ h.conv) (fun _ _ h => h)
      fun _ h => h
  refine Triple.conseq (Triple.and hconv (ensurePort_aims nets svc h.conv.publicip
    ((congrFun h.conv.addressOf_eq _).trans haddr) hne h.opened)) (fun _ h => h)
      (fun lb _ ⟨⟨m', hlb, hc⟩, hsub, hnet, hopen⟩ => ⟨m', hlb, hc, ?_, hnet.trans h.networks, hopen⟩) fun _ h => h.1
  subst hlb
  exact List.Subset.trans hsub h.sub

theorem ensurePorts_opening (haddr : c₀.addressOf lb₀.ipAddrID = lb₀.ipAddr) (hne : lb₀.ipAddr ≠ "") :
    ∀ (ports done : List ServicePort) (m : List LoadBalancerRule),
    ((done ++ ports).map (portRuleName lb₀.name svc)).Nodup → ports ⊆ svc.ports →
    Triple (Opening nets svc lb₀ c₀ done m) (ensurePorts nets svc { lb₀ with rules := m } ports)
      (fun lb c => ∃ m', lb = { lb₀ with rules := m' } ∧ Opening nets svc lb₀ c₀ (done ++ ports) m' c)
      (LoopFramed svc lb₀ c₀)
  | [], done, m, _, _ => Triple.pure _ fun _ h => ⟨m, rfl, by simpa using h⟩
  | p :: ports, done, m, hnd, hsub => by
    rw [List.map_append] at hnd
    have hfresh : ∀ q ∈ done, portRuleName lb₀.name svc p ≠ portRuleName lb₀.name svc q := fun q hq he =>
      (List.nodup_append.mp hnd).2.2 (List.mem_map_of_mem _ hq) (he ▸ List.mem_map_of_mem _ (List.mem_cons_self p ports))
    have hp := List.cons_subset.mp hsub
    refine Triple.bind (ensurePort_opening hfresh haddr hne hp.1) fun lb => Triple.of_exists fun m' =>
      Triple.of_pre_imp (fun _ h => h.1) fun hlb => ?_
    subst hlb
    refine Triple.conseq (ensurePorts_opening haddr hne ports (done ++ [p]) m' ?_ hp.2) (fun _ h => h.2)
      (fun _ _ ⟨m'', hlb, h⟩ => ⟨m'', hlb, by simpa using h⟩) fun _ h => h
    simpa [List.map_append] using hnd

theorem ensureRules_opening (haddr : c₀.addressOf lb₀.ipAddrID = lb₀.ipAddr) (hne : lb₀.ipAddr ≠ "")
    (hnd : (svc.ports.map (portRuleName lb₀.name svc)).Nodup) :
    Triple (Opening nets svc lb₀ c₀ [] lb₀.rules) (ensureRules nets svc lb₀)
      (fun _ c => Converging svc lb₀ c₀ svc.ports [] c ∧ c.networks = c₀.networks ∧
        PortsOpen nets svc lb₀.ipAddrID lb₀.networkID svc.ports [] c)
      (LoopFramed svc lb₀ c₀) := by
  refine Triple.bind (ensurePorts_opening haddr hne svc.ports [] lb₀.rules hnd (List.Subset.refl _)) fun lb =>
    Triple.of_exists fun m => Triple.of_pre_imp (fun _ h => h.1) fun hlb => ?_
  subst hlb
  have hstale : Triple (fun c => { lb₀ with rules := m } = { lb₀ with rules := m } ∧
      Opening nets svc lb₀ c₀ ([] ++ svc.ports) m c) (rangeOver m)
      (fun stale c => Opening nets svc lb₀ c₀ svc.ports m c ∧ stale.Perm m) (LoopFramed svc lb₀ c₀) :=
    Triple.rangeOver _ fun _ h _ hperm => ⟨h.2, hperm⟩
  refine Triple.bind hstale fun stale => Triple.of_pre fun hperm => Triple.of_forall_eq fun c₁ h => ?_
  have hconv : Triple (fun c => c = c₁) (deleteStaleRules { lb₀ with rules := m } stale)
      (fun lb c => lb = { lb₀ with rules := [] } ∧ Converging svc lb₀ c₀ svc.ports [] c) (LoopFramed svc lb₀ c₀) :=
    Triple.conseq (deleteStaleRules_converging stale m ((hperm.map _).nodup_iff.mpr h.conv.keys)
      fun x => hperm.mem_iff.symm) (fun _ hc => hc ▸ h.conv) (fun _ _ h => h) fun _ h => h
  have hfw : Triple (fun c => c = c₁) (deleteStaleRules { lb₀ with rules := m } stale)
      (fun _ c => c.networks = c₀.networks ∧
        PortsOpen nets svc lb₀.ipAddrID lb₀.networkID svc.ports ([] ++ stale) c) (fun _ => True) :=
    Triple.conseq (deleteStaleRules_opens nets svc _ _ svc.ports c₀.networks _ stale [])
      (fun _ hc => hc ▸ ⟨h.networks, h.opened⟩) (fun _ _ h => h) fun _ h => h
  exact Triple.bind (Triple.conseq (Triple.and hconv hfw) (fun _ h => h) (fun _ _ h => h) fun _ h => h.1) fun _ =>
    Triple.pure _ fun _ ⟨⟨_, hconv⟩, hN, hopen⟩ => ⟨hconv, hN, fun ranges hdue q hq _ =>
      hopen ranges hdue q hq fun _ hx => h.conv.not_hits (hperm.mem_iff.mp hx) hq⟩

end Loop

/-! ### Whole runs -/

theorem Triple.of_true {α : Type} {P : Cloud → Prop} (x : CloudM α) : Triple P x (fun _ _ => True) (fun _ => True) :=
  fun rt w _ => by split <;> trivial

theorem ensureAddress_aims (clusterName : String) (svc : Service) (nodes : List Node) (c₀ : Cloud) :
    Triple (fun c => c = c₀) (ensureAddress clusterName svc nodes)
      (fun r c => FirewallKept c₀ c ∧ ∃ hostIDs, matchHosts (nodes.map nodeHostName) c₀.vms [] "" =
        .ok (hostIDs, r.1.networkID) ∧ hostIDs ≠ [] ∧ r.1.networkID ≠ "")
      (fun _ => True) := by
  unfold ensureAddress
  refine Triple.bind (Triple.conseq (getLoadBalancerByName_found _ _ c₀) (fun _ h => h) (fun _ _ h => h.1)
    fun _ _ => trivial) fun lb => ?_
  split
  · exact Triple.throw _ fun _ _ => trivial
  · refine Triple.bind (Triple.conseq (verifyHosts_matched nodes c₀) (fun _ h => h) (fun _ _ h => h)
      fun _ _ => trivial) fun ⟨hostIDs, networkID⟩ => Triple.of_pre_imp (fun _ h => h.2) fun hm => ?_
    refine Triple.ite (Triple.pure _ fun _ h => ⟨h.1 ▸ FirewallKept.refl c₀, hostIDs, hm⟩) ?_
    refine Triple.bind (Triple.conseq (getLoadBalancerIP_addressed _ _ c₀) (fun _ h => h.1) (fun _ _ h => h)
      fun _ _ => trivial) fun lb' => Triple.pure _ fun c ⟨hc, hlb, _⟩ => ⟨?_, hostIDs, by rw [hlb]; exact hm⟩
    rcases hc with rfl | rfl
    exacts [FirewallKept.refl _, ⟨rfl, rfl⟩]

theorem ensureWithAddress_opening (nets : IPNetParser) {clusterName : String} {svc : Service} {c₀ c₁ : Cloud}
    {lb : LoadBalancer} (release : Bool) (hstart : Started clusterName svc c₀ lb c₁)
    (hnd : (svc.ports.map (portRuleName lb.name svc)).Nodup) :
    Triple (fun c => c = c₁) (ensureWithAddress nets svc lb release)
      (fun res c => res.status ≠ none →
        res.service = setServiceAnnotation svc serviceAnnotationLoadBalancerAddress lb.ipAddr ∧
        c.addressOf lb.ipAddrID = lb.ipAddr ∧ c.networks = c₁.networks ∧
        PortsOpen nets svc lb.ipAddrID lb.networkID svc.ports [] c)
      (fun _ => True) := by
  have hrules : Triple (fun c => c = c₁)
      (ensureRules nets ( setServiceAnnotation svc serviceAnnotationLoadBalancerAddress lb.ipAddr) lb)
      (fun _ c => c.addressOf lb.ipAddrID = lb.ipAddr ∧ c.networks = c₁.networks ∧
        PortsOpen nets svc lb.ipAddrID lb.networkID svc.ports [] c)
      (fun _ => True) := by
    refine Triple.conseq (ensureRules_opening hstart.address hstart.address_ne (by rwa [portRuleName_annotated]))
      (fun _ hc => by
        subst hc
        exact ⟨hstart.converging _, List.Subset.refl _, rfl, fun _ _ _ hq => absurd hq (List.not_mem_nil _)⟩)
      (fun _ _ ⟨hconv, hN, hopen⟩ => ⟨(congrFun hconv.addressOf_eq _).trans hstart.address, hN, ?_⟩) fun _ _ => trivial
    exact (portsOpen_annotated _).mp hopen
  unfold ensureWithAddress
  refine Triple.bind (Triple.outcome hrules) fun r => ?_
  cases r with
  | ok => exact Triple.bind (patch_keeps _ _ _) fun _ => Triple.pure _ fun _ h _ => ⟨rfl, h⟩
  | error =>
    dsimp only
    split <;> refine Triple.bind (Triple.of_true _) fun _ => Triple.bind (Triple.of_true _) fun _ => Triple.pure _ ?_ <;>
      exact fun _ _ hn => absurd rfl hn

theorem ensureLoadBalancer_opening (nets : IPNetParser) (clusterName : String) (svc : Service)
    (nodes : List Node) (c₀ : Cloud) (hwf : WellFormed c₀)
    (hnd : (svc.ports.map (portRuleName (getLoadBalancerName clusterName svc) svc)).Nodup) :
    Triple (fun c => c = c₀) (ensureLoadBalancer nets clusterName svc nodes)
      (fun res c => res.status ≠ none →
        ∃ lb : LoadBalancer, res.service = setServiceAnnotation svc serviceAnnotationLoadBalancerAddress lb.ipAddr ∧
          c.addressOf lb.ipAddrID = lb.ipAddr ∧
          (∃ hostIDs, matchHosts (nodes.map nodeHostName) c₀.vms [] "" = .ok (hostIDs, lb.networkID)) ∧
          ∀ q ∈ svc.ports, ∀ ranges, FirewallDue nets svc lb.networkID ranges c₀ →
            Allowed lb.ipAddrID (wantedCIDRs ranges) q.port.toInt (protocolFromServicePort q svc) c)
      (fun _ => True) := by
  unfold ensureLoadBalancer
  refine Triple.ite (Triple.pure _ fun _ _ hn => absurd rfl hn) ?_
  refine Triple.bind (Triple.outcome (Triple.and (ensureAddress_started clusterName svc nodes c₀ hwf)
    (ensureAddress_aims clusterName svc nodes c₀))) fun r => ?_
  rcases r with e | ⟨lb, release⟩
  · exact Triple.bind (Triple.of_true _) fun _ => Triple.pure _ fun _ _ hn => absurd rfl hn
  refine Triple.of_forall_eq fun c₁ ⟨⟨hstart, _⟩, hkept, hostIDs, hm, _⟩ => Triple.conseq
    (ensureWithAddress_opening nets release hstart ((nodup_portRuleName_iff _ _ svc svc.ports).mp hnd)) (fun _ h => h)
    (fun _ c h hn => ?_) fun _ _ => trivial
  obtain ⟨hsvc, haddr, hN, hopen⟩ := h hn
  exact ⟨lb, hsvc, haddr, ⟨hostIDs, hm⟩, fun q hq ranges hdue =>
    hopen ranges ((FirewallDue.congr (hN.trans hkept.2)).mpr hdue) q hq fun _ hx => absurd hx (List.not_mem_nil _)⟩

/-- A run of `EnsureLoadBalancer` from a well-formed platform that returns a status leaves, for each
port of the Service, a firewall rule on the address it annotated that allows exactly the Service's
source ranges, where the network of the nodes has a firewall: whichever deletions of other
firewall rules failed on the way. Other firewall rules of the port may remain beside it. The ports
a stale rule under the load balancer's name hits are set apart, as the cleanup deletes that rule's
firewall rules; the platform refuses a second rule on one address and port, so there are none
(`Converging.not_hits`). -/
theorem ensureLoadBalancer_opens_ports (nets : IPNetParser) (clusterName : String) (svc : Service)
    (nodes : List Node) (rt : Runtime) (w : World) (hwf : WellFormed w.cloud)
    (hnd : (svc.ports.map (portRuleName (getLoadBalancerName clusterName svc) svc)).Nodup)
    {res : EnsureResult} (hok : (ensureLoadBalancer nets clusterName svc nodes rt w).1 = .ok res)
    (hst : res.status ≠ none) :
    ∃ lb : LoadBalancer, res.service = setServiceAnnotation svc serviceAnnotationLoadBalancerAddress lb.ipAddr ∧
      (ensureLoadBalancer nets clusterName svc nodes rt w).2.cloud.addressOf lb.ipAddrID = lb.ipAddr ∧
      (∃ hostIDs, matchHosts (nodes.map nodeHostName) w.cloud.vms [] "" = .ok (hostIDs, lb.networkID)) ∧
      ∀ q ∈ svc.ports, (∀ r ∈ w.cloud.lbRules, lb.name.data <:+: r.name.data →
          r.name ∉ svc.ports.map (portRuleName lb.name svc) → ¬ Hits lb.ipAddrID svc (w.cloud.view r) q) →
        ∀ ranges, FirewallDue nets svc lb.networkID ranges w.cloud →
          Allowed lb.ipAddrID (wantedCIDRs ranges) q.port.toInt (protocolFromServicePort q svc)
            (ensureLoadBalancer nets clusterName svc nodes rt w).2.cloud :=
  (Triple.of_ok (ensureLoadBalancer_opening nets clusterName svc nodes w.cloud hwf hnd) rfl hok hst).imp
    fun _ ⟨hsvc, haddr, hm, hopen⟩ => ⟨hsvc, haddr, hm, fun q hq _ => hopen q hq⟩

theorem ensureLoadBalancer_opens_ports_on_proxied_rule :
    WellFormed proxiedCloud ∧
      (proxyService.ports.map (portRuleName (getLoadBalancerName "c" proxyService) proxyService)).Nodup ∧
      (ensureLoadBalancer .literal "c" proxyService sampleNodes (Runtime.reliable .inOrder)
        (World.init proxiedCloud)).1 = .ok proxyResult ∧ proxyResult.status ≠ none ∧
      ∃ lb : LoadBalancer,
        proxyResult.service = setServiceAnnotation proxyService serviceAnnotationLoadBalancerAddress lb.ipAddr ∧
        (ensureLoadBalancer .literal "c" proxyService sampleNodes (Runtime.reliable .inOrder)
          (World.init proxiedCloud)).2.cloud.addressOf lb.ipAddrID = lb.ipAddr ∧
        (∃ hostIDs, matchHosts (sampleNodes.map nodeHostName) proxiedCloud.vms [] "" = .ok (hostIDs, lb.networkID)) ∧
        ∀ q ∈ proxyService.ports, (∀ r ∈ proxiedCloud.lbRules, lb.name.data <:+: r.name.data →
            r.name ∉ proxyService.ports.map (portRuleName lb.name proxyService) →
              ¬ Hits lb.ipAddrID proxyService (proxiedCloud.view r) q) →
          ∀ ranges, FirewallDue .literal proxyService lb.networkID ranges proxiedCloud →
            Allowed lb.ipAddrID (wantedCIDRs ranges) q.port.toInt (protocolFromServicePort q proxyService)
              (ensureLoadBalancer .literal "c" proxyService sampleNodes (Runtime.reliable .inOrder)
                (World.init proxiedCloud)).2.cloud := by
  have hwf : WellFormed proxiedCloud := ⟨by decide, by decide⟩
  have hnd : (proxyService.ports.map (portRuleName (getLoadBalancerName "c" proxyService) proxyService)).Nodup :=
    List.nodup_singleton _
  have hok := ensureLoadBalancer_proxiedCloud
  exact ⟨hwf, hnd, hok, by decide, ensureLoadBalancer_opens_ports .literal "c" proxyService sampleNodes
    (Runtime.reliable .inOrder) (World.init proxiedCloud) hwf hnd hok (by decide)⟩

end CloudStackLB
