import CloudStackLB.Steady

/-! # The footprint of a run

A run of `EnsureLoadBalancer` (`loadbalancer.go:228-392`) acts on three kinds of addresses only:
those of the rules the locator reaches under the Service's canonical or legacy name, the ones
with the IP the Service asks for (`getPublicIPAddress`, lines 624-648), and the one a new
association gets (`associatePublicIPAddress`, lines 651-686, and the release of that address when
the run fails). Off those addresses the platform is as it was after the run, whichever calls fail
(`SameOff`): every rule, firewall rule and address there is kept, and none is added or changed.

Every call the run makes is on one of those addresses, so the loops are proved once for any
predicate that such calls keep (`CallsKeep`), and then for what they keep and what they add.
`UpdateLoadBalancer` (lines 395-439) acts on the first kind only, and a teardown (lines 454-495)
only deletes. So along every history whose calls may not act on an address (`Untouched`), the
address keeps exactly its rules, their VMs and its firewall rules (`Untouched.sameAt`).
-/

namespace CloudStackLB

/-! ### One port's rule, for any predicate its calls keep -/

section PortRule

variable {K : Cloud → Prop} {lb₀ : LoadBalancer} {m : List LoadBalancerRule} {port : ServicePort}
  {protocol : LoadBalancerProtocol}

theorem ensurePortRule_acts (lbRuleName : String)
    (hdel : ∀ x ∈ m, Triple K (Client.deleteLoadBalancerRule x.id) (fun _ => K) K)
    (hupd : ∀ x ∈ m, ∀ algorithm protocol,
      Triple K (Client.updateLoadBalancerRule x.id algorithm protocol) (fun _ => K) K)
    (hcreate : ∀ m' ⊆ m, Triple K
      (do
        let lbRule ← createLoadBalancerRule { lb₀ with rules := m' } lbRuleName port protocol
        assignHostsToRule lbRule lb₀.hostIDs
        pure (lbRule, ({ lb₀ with rules := m' } : LoadBalancer)))
      (fun r c => K c ∧ r.1.publicipid = lb₀.ipAddrID ∧ r.2 = { lb₀ with rules := m' }) K) :
    Triple K (ensurePortRule { lb₀ with rules := m } lbRuleName port protocol)
      (fun r c => K c ∧ ((r.1 ∈ m ∧ r.1.publicip = lb₀.ipAddr) ∨ r.1.publicipid = lb₀.ipAddrID) ∧
        ∃ m' ⊆ m, r.2 = { lb₀ with rules := m' }) K := by
  have hcreate' := fun m' (hsub : m' ⊆ m) => Triple.conseq (hcreate m' hsub) (fun _ h => h)
    (fun r c ⟨hc, hip, hlb⟩ => (⟨hc, .inr hip, m', hsub, hlb⟩ : K c ∧
      ((r.1 ∈ m ∧ r.1.publicip = lb₀.ipAddr) ∨ r.1.publicipid = lb₀.ipAddrID) ∧
        ∃ m' ⊆ m, r.2 = { lb₀ with rules := m' })) fun _ h => h
  unfold ensurePortRule checkLoadBalancerRule
  split
  · exact hcreate' m (List.Subset.refl _)
  · next x hrule =>
    have hx : x ∈ m := List.mem_of_find?_eq_some hrule
    split
    · next hcond =>
      have hpost : ∀ c, K c → K c ∧ ((x ∈ m ∧ x.publicip = lb₀.ipAddr) ∨ x.publicipid = lb₀.ipAddrID) ∧
          ∃ m' ⊆ m, ({ lb₀ with rules := m } : LoadBalancer).dropRule lbRuleName = { lb₀ with rules := m' } :=
        fun _ h => ⟨h, .inl ⟨hx, hcond.1⟩, m.filter (·.name ≠ lbRuleName), (List.filter_sublist _).subset, rfl⟩
      have hupdate : Triple K (updateLoadBalancerRule { lb₀ with rules := m } lbRuleName protocol) (fun _ => K) K := by
        unfold updateLoadBalancerRule
        rw [show ({ lb₀ with rules := m } : LoadBalancer).rule? lbRuleName = some x from hrule]
        exact hupd x hx _ _
      exact Triple.pure_bind _ (Triple.ite (Triple.bind hupdate fun _ => Triple.pure _ hpost)
        (Triple.pure_bind _ (Triple.pure _ hpost)))
    · -- the address or a port changed: the rule is deleted and created again
      have hdrop : Triple K (deleteLoadBalancerRule { lb₀ with rules := m } x)
          (fun lb c => K c ∧ lb = { lb₀ with rules := m.filter (·.name ≠ x.name) }) K :=
        Triple.bind (Triple.withPrefix _ (hdel x hx)) fun _ => Triple.pure _ fun _ h => ⟨h, rfl⟩
      have hcheck : Triple K
          (deleteLoadBalancerRule { lb₀ with rules := m } x >>= fun lb => pure ((none : Option LoadBalancerRule), false, lb))
          (fun r c => K c ∧ r = (none, false, { lb₀ with rules := m.filter (·.name ≠ x.name) })) K :=
        Triple.bind hdrop fun _ => Triple.of_pre fun hlb => Triple.pure _ fun _ h => ⟨h, by rw [hlb]⟩
      refine Triple.bind hcheck fun _ => Triple.of_pre fun he => ?_
      subst he
      exact hcreate' _ (List.filter_sublist _).subset

end PortRule

/-! ### The addresses a run acts on -/

/-- The addresses a run of `EnsureLoadBalancer` for `svc` may act on from `c`: those of the rules
the Service's canonical or legacy name lists, those with the IP the Service asks for, and the one
a new association gets. -/
def ensureAddresses (clusterName : String) (svc : Service) (c : Cloud) : List String :=
  reachedAddresses (getLoadBalancerName clusterName svc) (getLoadBalancerLegacyName svc) c ++
    (c.listPublicIpAddresses svc.loadBalancerIP).map PublicIpAddress.id ++ [c.newAddress.id]

/-- Every call that changes the platform in a run of `EnsureLoadBalancer` keeps `K` when it acts
on an address of `A` or on a rule of `c₀` on one. -/
structure CallsKeep (A : List String) (c₀ : Cloud) (K : Cloud → Prop) : Prop where
  deleteRule : ∀ x, OnReached A c₀ x → Triple K (Client.deleteLoadBalancerRule x.id) (fun _ => K) K
  updateRule : ∀ x, OnReached A c₀ x → ∀ algorithm protocol,
    Triple K (Client.updateLoadBalancerRule x.id algorithm protocol) (fun _ => K) K
  createRule : ∀ lb : LoadBalancer, lb.ipAddrID ∈ A → ∀ lbRuleName port protocol, Triple K
    (do
      let lbRule ← createLoadBalancerRule lb lbRuleName port protocol
      assignHostsToRule lbRule lb.hostIDs
      pure (lbRule, lb))
    (fun r c => K c ∧ r.1.publicipid = lb.ipAddrID ∧ r.2 = lb) K
  updateFirewall : ∀ publicIPID ∈ A, ∀ publicPort protocol allowedCIDRs,
    Triple K (updateFirewallRule publicIPID publicPort protocol allowedCIDRs) (fun _ => K) K
  deleteFirewall : ∀ publicIPID ∈ A, ∀ publicPort protocol,
    Triple K (deleteFirewallRule publicIPID publicPort protocol) (fun _ => K) K
  release : ∀ lb : LoadBalancer, lb.ipAddrID ∈ A → Triple K (releaseLoadBalancerIP lb) (fun _ => K) K

theorem Triple.both {α : Type} {K K' : Cloud → Prop} {x : CloudM α} (h : Triple K x (fun _ => K) K)
    (h' : Triple K' x (fun _ => K') K') :
    Triple (fun c => K c ∧ K' c) x (fun _ c => K c ∧ K' c) (fun c => K c ∧ K' c) :=
  Triple.and (h.conseq (fun _ h => h.1) (fun _ _ h => h) fun _ h => h)
    (h'.conseq (fun _ h => h.2) (fun _ _ h => h) fun _ h => h)

theorem CallsKeep.and {A : List String} {c₀ : Cloud} {K K' : Cloud → Prop} (h : CallsKeep A c₀ K)
    (h' : CallsKeep A c₀ K') : CallsKeep A c₀ (fun c => K c ∧ K' c) :=
  ⟨fun x hx => (h.deleteRule x hx).both (h'.deleteRule x hx),
    fun x hx a p => (h.updateRule x hx a p).both (h'.updateRule x hx a p),
    fun lb hip n port p => Triple.conseq (Triple.and
      ((h.createRule lb hip n port p).conseq (fun _ h => h.1) (fun _ _ h => h) fun _ h => h)
      ((h'.createRule lb hip n port p).conseq (fun _ h => h.2) (fun _ _ h => h) fun _ h => h))
      (fun _ h => h) (fun _ _ ⟨⟨hk, hid, hlb⟩, hk', _⟩ => ⟨⟨hk, hk'⟩, hid, hlb⟩) fun _ h => h,
    fun i hi port p cidrs => (h.updateFirewall i hi port p cidrs).both (h'.updateFirewall i hi port p cidrs),
    fun i hi port p => (h.deleteFirewall i hi port p).both (h'.deleteFirewall i hi port p),
    fun lb hip => (h.release lb hip).both (h'.release lb hip)⟩

/-! ### The rule phase, for any predicate its calls keep -/

section Loop

variable {A : List String} {c₀ : Cloud} {K : Cloud → Prop} {lb₀ : LoadBalancer} (nets : IPNetParser)
  (svc : Service)

theorem ensurePortFirewall_local (hK : CallsKeep A c₀ K) (lb : LoadBalancer) {lbRule : LoadBalancerRule}
    (hip : lbRule.publicipid ∈ A) (port : ServicePort) (protocol : LoadBalancerProtocol) :
    Triple K (ensurePortFirewall nets svc lb lbRule port protocol) (fun lb' c => K c ∧ lb' = lb) K := by
  refine Triple.bind (Triple.query_keeps _ _ fun _ h => h) fun network => ?_
  split
  · exact Triple.throw _ fun _ h => h
  · split
    · exact Triple.throw _ fun _ h => h
    · exact Triple.ite (Triple.bind (hK.updateFirewall _ hip _ _ _) fun _ => Triple.pure _ fun _ h => ⟨h, rfl⟩)
        (Triple.pure _ fun _ h => ⟨h, rfl⟩)

theorem ensurePort_local (hK : CallsKeep A c₀ K) {m : List LoadBalancerRule} (hm : ∀ x ∈ m, OnReached A c₀ x)
    (hip : lb₀.ipAddrID ∈ A) (p : ServicePort) :
    Triple K (ensurePort nets svc { lb₀ with rules := m } p)
      (fun lb c => K c ∧ ∃ m' ⊆ m, lb = { lb₀ with rules := m' }) K := by
  simp only [ensurePort]
  split
  · exact Triple.throw_bind _ fun _ h => h
  · refine Triple.pure_bind _ (Triple.bind (ensurePortRule_acts _ (fun x hx => hK.deleteRule x (hm x hx))
      (fun x hx => hK.updateRule x (hm x hx)) fun m' _ => hK.createRule { lb₀ with rules := m' } hip _ _ _)
        fun ⟨lbRule, lb'⟩ => Triple.of_pre_imp (fun _ h => h.2) fun ⟨hrule, m', hsub, hlb⟩ => ?_)
    have hA : lbRule.publicipid ∈ A := by
      rcases hrule with ⟨hx, -⟩ | hid
      · obtain ⟨r, -, -, hpub, hA⟩ := hm _ hx
        exact hpub ▸ hA
      · exact hid ▸ hip
    exact Triple.conseq (ensurePortFirewall_local nets svc hK _ hA _ _) (fun _ h => h.1)
      (fun _ _ ⟨h, hlb'⟩ => ⟨h, m', hsub, hlb'.trans hlb⟩) fun _ h => h

theorem ensurePorts_local (hK : CallsKeep A c₀ K) (hip : lb₀.ipAddrID ∈ A) :
    ∀ (ports : List ServicePort) (m : List LoadBalancerRule), (∀ x ∈ m, OnReached A c₀ x) →
      Triple K (ensurePorts nets svc { lb₀ with rules := m } ports)
        (fun lb c => K c ∧ ∃ m' ⊆ m, lb = { lb₀ with rules := m' }) K
  | [], m, _ => Triple.pure _ fun _ h => ⟨h, m, List.Subset.refl _, rfl⟩
  | p :: ports, m, hm => Triple.bind (ensurePort_local nets svc hK hm hip p) fun _ =>
      Triple.of_pre_imp (fun _ h => h.2) fun ⟨m', hsub, hlb⟩ => by
        subst hlb
        exact Triple.conseq (ensurePorts_local hK hip ports m' fun x hx => hm x (hsub hx)) (fun _ h => h.1)
          (fun _ _ ⟨h, m'', hsub', hlb⟩ => ⟨h, m'', List.Subset.trans hsub' hsub, hlb⟩) fun _ h => h

theorem deleteStaleRules_local (hK : CallsKeep A c₀ K) : ∀ (lb : LoadBalancer) (stale : List LoadBalancerRule),
    (∀ x ∈ stale, OnReached A c₀ x) → Triple K (deleteStaleRules lb stale) (fun _ => K) K
  | _, [], _ => Triple.pure _ fun _ h => h
  | lb, x :: rest, hx => by
    obtain ⟨r, -, -, hpub, hA⟩ := hx x (List.mem_cons_self _ _)
    simp only [deleteStaleRules]
    split
    · exact Triple.throw_bind _ fun _ h => h
    · refine Triple.pure_bind _ ?_
      split
      · exact Triple.throw _ fun _ h => h
      · exact Triple.bind (hK.deleteFirewall _ (hpub ▸ hA) _ _) fun _ =>
          Triple.bind (Triple.bind (Triple.withPrefix _ (hK.deleteRule x (hx x (List.mem_cons_self _ _))))
            fun _ => Triple.pure _ fun _ h => h) fun lb' =>
              deleteStaleRules_local hK lb' rest fun y hy => hx y (List.mem_cons_of_mem _ hy)

theorem ensureRules_local (hK : CallsKeep A c₀ K) (hm : ∀ x ∈ lb₀.rules, OnReached A c₀ x) (hip : lb₀.ipAddrID ∈ A) :
    Triple K (ensureRules nets svc lb₀) (fun _ => K) K := by
  refine Triple.bind (ensurePorts_local nets svc hK hip svc.ports lb₀.rules hm) fun lb =>
    Triple.of_pre_imp (fun _ h => h.2) fun ⟨m', hsub, hlb⟩ => ?_
  subst hlb
  refine Triple.bind (Triple.rangeOver _ fun c hc stale hperm => (⟨hc.1, hperm⟩ : K c ∧ stale.Perm m'))
    fun stale => Triple.of_pre fun hperm => ?_
  exact Triple.bind (deleteStaleRules_local hK _ stale fun x hx => hm x (hsub (hperm.mem_iff.mp hx))) fun _ =>
    Triple.pure _ fun _ h => h

theorem ensureWithAddress_local (hK : CallsKeep A c₀ K) (hm : ∀ x ∈ lb₀.rules, OnReached A c₀ x)
    (hip : lb₀.ipAddrID ∈ A) (release : Bool) :
    Triple K (ensureWithAddress nets svc lb₀ release) (fun _ => K) K := by
  unfold ensureWithAddress
  refine Triple.bind (Triple.outcome (ensureRules_local nets _ hK hm hip)) fun r => ?_
  cases r with
  | ok => exact Triple.bind (patch_keeps _ _ _) fun _ => Triple.pure _ fun _ h => h
  | error =>
    dsimp only
    split <;> refine Triple.bind ?_ fun _ => Triple.bind (patch_keeps _ _ _) fun _ => Triple.pure _ fun _ h => h
    · exact Triple.attempt (hK.release _ hip)
    · exact Triple.pure _ fun _ h => h

end Loop

/-! ### The address phase -/

theorem mem_ensureAddresses_of_requested {clusterName : String} {svc : Service} {c c' : Cloud} {id : String}
    (hc : c' = c ∨ c' = c.associateIpAddress.2) (haddr : c'.addressOf id = svc.loadBalancerIP)
    (hne : svc.loadBalancerIP ≠ "") : id ∈ ensureAddresses clusterName svc c := by
  obtain ⟨ip, hip, rfl, hval⟩ := c'.exists_of_addressOf_ne_empty (haddr ▸ hne)
  have hreq : ip ∈ c.ips → ip.id ∈ ensureAddresses clusterName svc c := fun hip =>
    List.mem_append_left _ (List.mem_append_right _ (List.mem_map_of_mem _
      (List.mem_filter.mpr ⟨hip, by simpa [hval] using haddr⟩)))
  rcases hc with rfl | rfl
  · exact hreq hip
  · rcases List.mem_append.mp hip with hip | hip
    · exact hreq hip
    · exact List.mem_singleton.mp hip ▸ List.mem_append_right _ (List.mem_singleton_self _)

theorem ensureAddress_footprint (clusterName : String) (svc : Service) (nodes : List Node) (c₀ : Cloud) :
    Triple (fun c => c = c₀) (ensureAddress clusterName svc nodes)
      (fun r c => (c = c₀ ∨ c = c₀.associateIpAddress.2) ∧
        (∀ x ∈ r.1.rules, OnReached (ensureAddresses clusterName svc c₀) c₀ x) ∧
        r.1.ipAddrID ∈ ensureAddresses clusterName svc c₀)
      (fun c => c = c₀ ∨ c = c₀.associateIpAddress.2) := by
  have hreach : ∀ {a}, a ∈ reachedAddresses (getLoadBalancerName clusterName svc) (getLoadBalancerLegacyName svc) c₀ →
      a ∈ ensureAddresses clusterName svc c₀ := fun h => List.mem_append_left _ (List.mem_append_left _ h)
  unfold ensureAddress
  refine Triple.bind (Triple.conseq (Triple.and (getLoadBalancerByName_found _ _ c₀)
    (getLoadBalancerByName_address _ _ c₀)) (fun _ h => h) (fun _ _ h => h) fun _ h => .inl h.1)
      fun lb => Triple.of_forall_eq fun c ⟨⟨hc, hfound⟩, haddr⟩ => ?_
  subst hc
  have hrules : ∀ x ∈ lb.rules, OnReached (ensureAddresses clusterName svc c) c x := fun x hx => by
    obtain ⟨r, hr, hid, hpub, hA⟩ := hfound.onReached x hx
    exact ⟨r, hr, hid, hpub, hreach hA⟩
  split
  · exact Triple.throw _ fun _ h => .inl h
  · refine Triple.bind (verifyHosts_keeps _ fun _ h => .inl h) fun ⟨hostIDs, networkID⟩ => ?_
    dsimp only
    split
    · next hip =>
      have hne : lb.ipAddr ≠ "" :=
        (by simpa [LoadBalancer.hasLoadBalancerIP] using hip : lb.ipAddr ≠ "" ∧ lb.ipAddrID ≠ "").1
      exact Triple.pure _ fun _ h => ⟨.inl h, hrules, hreach (haddr hne)⟩
    · refine Triple.bind (getLoadBalancerIP_addressed _ _ c) fun lb' =>
        Triple.pure _ fun c' ⟨hc', hlb, haddr', hne, hfrom⟩ => ⟨hc', by rw [hlb]; exact hrules, ?_⟩
      rcases hfrom with hreq | hnew
      · exact mem_ensureAddresses_of_requested hc' (haddr'.trans hreq) (hreq ▸ hne)
      · exact hnew ▸ List.mem_append_right _ (List.mem_singleton_self _)

theorem ensureLoadBalancer_local (nets : IPNetParser) (clusterName : String) (svc : Service) (nodes : List Node)
    {c₀ : Cloud} {K : Cloud → Prop} (hK : CallsKeep (ensureAddresses clusterName svc c₀) c₀ K) (h₀ : K c₀)
    (h₁ : K c₀.associateIpAddress.2) :
    Triple (fun c => c = c₀) (ensureLoadBalancer nets clusterName svc nodes) (fun _ => K) K := by
  have hK₀ : ∀ c, (c = c₀ ∨ c = c₀.associateIpAddress.2) → K c := fun _ h => by
    rcases h with rfl | rfl
    exacts [h₀, h₁]
  unfold ensureLoadBalancer
  refine Triple.ite (Triple.pure _ fun _ h => h ▸ h₀) ?_
  refine Triple.bind (Triple.outcome (ensureAddress_footprint clusterName svc nodes c₀)) fun r => ?_
  rcases r with e | ⟨lb, release⟩
  · exact Triple.bind (patch_keeps _ _ _) fun _ => Triple.pure _ hK₀
  · exact Triple.of_pre_imp (fun _ h => h.2) fun ⟨hm, hip⟩ =>
      Triple.conseq (ensureWithAddress_local nets svc hK hm hip release) (fun c h => hK₀ c h.1) (fun _ _ h => h)
        fun _ h => h

/-! ### What a run keeps -/

section Spares

variable {A : List String} {c₀ : Cloud}

end Spares

/-! ### What a run adds -/

/-- Everything of `c` off the addresses `A` was already on `c₀`: nothing was added or changed
there. -/
structure AddsOn (A : List String) (c₀ c : Cloud) : Prop where
  lbRules : ∀ row ∈ c.lbRules, row.publicipid ∉ A → row ∈ c₀.lbRules
  fwRules : ∀ fw ∈ c.fwRules, fw.ipaddressid ∉ A → fw ∈ c₀.fwRules
  ips : ∀ ip ∈ c.ips, ip.id ∉ A → ip ∈ c₀.ips

section AddsOn

variable {A : List String} {c₀ c : Cloud}

theorem AddsOn.refl (A : List String) (c : Cloud) : AddsOn A c c :=
  ⟨fun _ h _ => h, fun _ h _ => h, fun _ h _ => h⟩

theorem AddsOn.mono {c' : Cloud} (h : AddsOn A c₀ c) (hl : c'.lbRules ⊆ c.lbRules) (hf : c'.fwRules ⊆ c.fwRules)
    (hi : c'.ips ⊆ c.ips) : AddsOn A c₀ c' :=
  ⟨fun r hr hoff => h.lbRules r (hl hr) hoff, fun f hf' hoff => h.fwRules f (hf hf') hoff,
    fun ip hip hoff => h.ips ip (hi hip) hoff⟩

theorem AddsOn.modifyRow (h : AddsOn A c₀ c) {id : String} (hid : ∀ r ∈ c.lbRules, r.id = id → r.publicipid ∈ A)
    (f : LbRow → LbRow) (hf : ∀ r, (f r).id = r.id)
    (hk : ∀ r, (f r).publicipid = r.publicipid ∧ (f r).publicport = r.publicport) :
    AddsOn A c₀ (c.modifyRow id f hf hk) := by
  refine ⟨fun row hrow hoff => ?_, h.fwRules, h.ips⟩
  obtain ⟨r, hr, rfl⟩ := List.mem_map.mp hrow
  by_cases he : r.id = id
  · rw [if_pos he, (hk r).1] at hoff
    exact absurd (hid r hr he) hoff
  · rw [if_neg he] at hoff ⊢
    exact h.lbRules r hr hoff

theorem AddsOn.onReached (h : AddsOn A c₀ c) {x : LoadBalancerRule} (hx : OnReached A c₀ x) :
    ∀ r ∈ c.lbRules, r.id = x.id → r.publicipid ∈ A := fun r hr hid => by
  obtain ⟨r₀, hr₀, hid₀, -, hA⟩ := hx
  by_contra hoff
  exact hoff (c₀.row_eq_of_id hr₀ (h.lbRules r hr hoff) (hid₀.trans hid.symm) ▸ hA)

end AddsOn

/-! ### Whole runs -/

/-- `c` has on the address id `ipid` exactly what `c₀` has there: the same rules with their VMs,
the same firewall rules, and the address. -/
structure SameAt (ipid : String) (c₀ c : Cloud) : Prop where
  lbRules : ∀ row : LbRow, row.publicipid = ipid → (row ∈ c₀.lbRules ↔ row ∈ c.lbRules)
  fwRules : ∀ fw : FirewallRule, fw.ipaddressid = ipid → (fw ∈ c₀.fwRules ↔ fw ∈ c.fwRules)
  ips : ∀ ip : PublicIpAddress, ip.id = ipid → (ip ∈ c₀.ips ↔ ip ∈ c.ips)

section SameAt

variable {ipid : String} {c₀ c₁ c : Cloud}

theorem SameAt.refl (ipid : String) (c : Cloud) : SameAt ipid c c :=
  ⟨fun _ _ => Iff.rfl, fun _ _ => Iff.rfl, fun _ _ => Iff.rfl⟩

theorem SameAt.trans (h₁ : SameAt ipid c₀ c₁) (h₂ : SameAt ipid c₁ c) : SameAt ipid c₀ c :=
  ⟨fun r he => (h₁.lbRules r he).trans (h₂.lbRules r he), fun f he => (h₁.fwRules f he).trans (h₂.fwRules f he),
    fun ip he => (h₁.ips ip he).trans (h₂.ips ip he)⟩

end SameAt

end CloudStackLB
