import CloudStackLB.Sealing

/-! # A second run changes nothing

Run again for the Service it has just served, from the platform it left, `EnsureLoadBalancer`
(`loadbalancer.go:228-392`) lists the rules of the load balancer's name, finds each port's rule in
place (`Pending`) and each port's firewall rule with the wanted ranges (`PortSealed`), and finds
nothing stale: every call it makes is a read (`Quiet`). The Service carries the address the
first run set, so `servicePatcher.Patch` sends nothing; where no call fails, the run returns the
first run's status.

The locator lists by the legacy name only where the canonical name lists nothing. A legacy load
balancer stays legacy where the canonical name, as a `LIKE` pattern, matches none of its rule
names. Of two rules that share a stale name, the first run deletes the one its map holds, and
the second run finds the other.
-/

namespace CloudStackLB

/-- A call that neither changes the platform nor patches the Service. -/
def Call.idle : Call → Bool
  | .patchService _ => false
  | call => !call.mutating

/-- A runtime that fails no call. -/
def Reliable (rt : Runtime) : Prop := ∀ n call, rt.fails n call = none

/-- `w'` follows `w` by idle calls: the platform is as it was, and no call logged since changes it
or patches the Service. -/
def Quiet (w w' : World) : Prop :=
  w'.cloud = w.cloud ∧ ∃ calls, w'.log = w.log ++ calls ∧ ∀ call ∈ calls, call.1.idle = true

theorem Quiet.refl (w : World) : Quiet w w :=
  ⟨rfl, [], (List.append_nil _).symm, fun _ h => absurd h (List.not_mem_nil _)⟩

theorem Quiet.trans {w₁ w₂ w₃ : World} (h₁ : Quiet w₁ w₂) (h₂ : Quiet w₂ w₃) : Quiet w₁ w₃ := by
  obtain ⟨hc₁, calls₁, hl₁, hm₁⟩ := h₁
  obtain ⟨hc₂, calls₂, hl₂, hm₂⟩ := h₂
  exact ⟨hc₂.trans hc₁, calls₁ ++ calls₂, by rw [hl₂, hl₁, List.append_assoc],
    fun call h => (List.mem_append.mp h).elim (hm₁ call) (hm₂ call)⟩

/-! ### Runs that only read -/

/-- Every run of `x` from the platform `c` is quiet and returns only values of which `Q` holds; on
a reliable runtime it returns. -/
def Idle {α : Type} (c : Cloud) (x : CloudM α) (Q : α → Prop) : Prop :=
  ∀ rt w, w.cloud = c → Quiet w (x rt w).2 ∧ (∀ a, (x rt w).1 = .ok a → Q a) ∧
    (Reliable rt → ∃ a, (x rt w).1 = .ok a)

namespace Idle

variable {α β : Type} {c : Cloud} {Q : α → Prop}

theorem pure (a : α) (h : Q a) : Idle c (Pure.pure a : CloudM α) Q :=
  fun _ w _ => ⟨Quiet.refl w, fun _ ha => Except.ok.inj ha ▸ h, fun _ => ⟨a, rfl⟩⟩

theorem imp {x : CloudM α} {Q' : α → Prop} (h : Idle c x Q) (hq : ∀ a, Q a → Q' a) : Idle c x Q' :=
  fun rt w hw => (h rt w hw).imp_right (And.imp_left fun hQ a ha => hq a (hQ a ha))

theorem bind {x : CloudM α} {f : α → CloudM β} {R : β → Prop} (hx : Idle c x Q)
    (hf : ∀ a, Q a → Idle c (f a) R) : Idle c (x >>= f) R := by
  intro rt w hw
  obtain ⟨hq, hQ, hret⟩ := hx rt w hw
  rw [CloudM.run_bind]
  rcases hrun : x rt w with ⟨_ | a, w₁⟩ <;> rw [hrun] at hq hQ hret
  · exact ⟨hq, fun _ h => (nomatch h), fun hR => (hret hR).elim fun _ h => nomatch h⟩
  · obtain ⟨hq', hR, hret'⟩ := hf a (hQ a rfl) rt w₁ (hq.1.trans hw)
    exact ⟨hq.trans hq', hR, hret'⟩

theorem pure_bind (a : α) {f : α → CloudM β} {R : β → Prop} (h : Idle c (f a) R) :
    Idle c (Pure.pure a >>= f) R :=
  h

theorem query (call : Call) (answer : Cloud → α) (hcall : call.idle = true) :
    Idle c (CloudStackLB.query call answer) fun a => a = answer c := by
  intro rt w hw
  unfold CloudStackLB.query CloudStackLB.remote
  cases hf : rt.fails w.log.length call with
  | some e =>
    exact ⟨⟨rfl, [(call, false)], rfl, by simpa using hcall⟩, fun _ h => (nomatch h),
      fun hR => Option.noConfusion (hf.symm.trans (hR _ _))⟩
  | none =>
    refine ⟨⟨rfl, [(call, true)], rfl, by simpa using hcall⟩, fun _ h => ?_, fun _ => ⟨_, rfl⟩⟩
    rw [← hw]
    exact (Except.ok.inj h).symm

theorem withPrefix (pre : String) {x : CloudM α} (h : Idle c x Q) : Idle c (CloudStackLB.withPrefix pre x) Q := by
  intro rt w hw
  obtain ⟨hq, hQ, hret⟩ := h rt w hw
  unfold CloudStackLB.withPrefix
  rcases hrun : x rt w with ⟨_ | a, w'⟩ <;> rw [hrun] at hq hQ hret
  · exact ⟨hq, fun _ h => (nomatch h), fun hR => (hret hR).elim fun _ h => nomatch h⟩
  · exact ⟨hq, hQ, hret⟩

theorem outcome {x : CloudM α} (h : Idle c x Q) :
    Idle c (CloudStackLB.outcome x) fun r => ∀ a, r = .ok a → Q a := by
  intro rt w hw
  obtain ⟨hq, hQ, -⟩ := h rt w hw
  exact ⟨hq, fun r hr a ha => hQ a ((Except.ok.inj hr).trans ha), fun _ => ⟨_, rfl⟩⟩

theorem rangeOver (l : List α) : Idle c (CloudStackLB.rangeOver l) fun l' => l'.Perm l :=
  fun rt _ _ => ⟨⟨rfl, [], (List.append_nil _).symm, fun _ h => absurd h (List.not_mem_nil _)⟩,
    fun _ h => Except.ok.inj h ▸ rt.sched.visit_perm _ l, fun _ => ⟨_, rfl⟩⟩

/-- What a triple from `c` says of the result holds of an idle run's result. -/
theorem triple {x : CloudM α} {Q' : α → Cloud → Prop} {E : Cloud → Prop} (h : Idle c x Q)
    (ht : Triple (fun c' => c' = c) x Q' E) : Idle c x fun a => Q a ∧ Q' a c := fun rt w hw => by
  obtain ⟨hq, hQ, hret⟩ := h rt w hw
  exact ⟨hq, fun a ha => ⟨hQ a ha, hq.1.trans hw ▸ Triple.of_ok ht hw ha⟩, hret⟩

end Idle

/-! ### The locator on a converged platform -/

theorem likeMatch_nil {ch : Char} (hne : ch ≠ '%') : ∀ {p : List Char}, ch ∈ p → likeMatch p [] = false
  | c :: p, hch => by
    by_cases hc : c = '%'
    · subst hc
      simp only [likeMatch, if_true, anySuffix]
      exact likeMatch_nil hne ((List.mem_cons.mp hch).resolve_left hne)
    · simp [likeMatch, hc]

theorem underscore_mem_getLoadBalancerName (clusterName : String) (svc : Service) :
    '_' ∈ (getLoadBalancerName clusterName svc).data := by
  unfold getLoadBalancerName sprintf255
  dsimp only
  split <;> simp

theorem getLoadBalancerByName_reads (name legacyName : String) (c : Cloud) :
    Idle c (getLoadBalancerByName name legacyName) fun _ => True := by
  unfold getLoadBalancerByName
  refine Idle.bind (Idle.withPrefix _ (Idle.query _ _ rfl)) fun _ _ => ?_
  split
  · split
    · exact Idle.bind (Idle.withPrefix _ (Idle.query _ _ rfl)) fun _ _ => Idle.pure _ trivial
    · exact Idle.pure _ trivial
  · exact Idle.pure _ trivial

theorem verifyHosts_idle (nodes : List Node) {c : Cloud} {hostIDs : List String} {networkID : String}
    (hm : matchHosts (nodes.map nodeHostName) c.vms [] "" = .ok (hostIDs, networkID)) (hne : hostIDs ≠ [])
    (hnet : networkID ≠ "") :
    Idle c (verifyHosts nodes) fun r => r = (hostIDs, networkID) := by
  unfold verifyHosts
  refine Idle.bind (Idle.withPrefix _ (Idle.query _ _ rfl)) fun vms hvms => ?_
  subst hvms
  rw [hm]
  dsimp only
  rw [if_neg (by simpa [String.isEmpty_iff] using And.intro hne hnet)]
  exact Idle.pure _ rfl

/-- The load balancer the address phase finds on `c` for the converged `lb`: the locator's, with
the algorithm, the hosts and the network. -/
def relocated (lb : LoadBalancer) (hostIDs : List String) (c : Cloud) : LoadBalancer :=
  { addRules ⟨lb.name, "", [], "", "", "", []⟩ (c.listLoadBalancerRules lb.name) with
    algorithm := lb.algorithm, hostIDs, networkID := lb.networkID }

section Converged

variable {clusterName : String} {svc : Service} {c₀ : Cloud} {lb : LoadBalancer} {c : Cloud}

-- the canonical name, as a `LIKE` pattern, matches no rule name of the legacy load balancer
variable (hlike : ∀ p ∈ svc.ports, likeMatch ('%' :: ((getLoadBalancerName clusterName svc).data ++ ['%']))
    (portRuleName (getLoadBalancerLegacyName svc) svc p).data = false)

include hlike

/-- The canonical name still lists nothing on `c`: the run's new rules have no description. -/
theorem Converged.canonical_nil (h : Converged clusterName svc c₀ lb c) (hL : lb.name = getLoadBalancerLegacyName svc)
    (hc₀ : c₀.listLoadBalancerRules (getLoadBalancerName clusterName svc) = []) :
    c.listLoadBalancerRules (getLoadBalancerName clusterName svc) = [] := by
  refine List.eq_nil_iff_forall_not_mem.mpr fun x hx => ?_
  obtain ⟨r, hr, rfl, hm⟩ := mem_listLoadBalancerRules hx
  rcases h.named r hr with ⟨r₀, hr₀, hn, hd⟩ | ⟨hn, hd⟩
  · exact List.not_mem_nil _ (hc₀ ▸ view_mem_listLoadBalancerRules hr₀ ((keywordMatches_congr ⟨hn, hd⟩).trans hm))
  · obtain ⟨p, hp, hpn⟩ := List.mem_map.mp hn
    have hdesc := likeMatch_nil (by decide : '_' ≠ '%')
      (List.mem_cons_of_mem '%' (List.mem_append_left ['%'] (underscore_mem_getLoadBalancerName clusterName svc)))
    simp [keywordMatches, ← hpn, hL, hd, hlike p hp, hdesc] at hm

/-- The locator finds the load balancer's own rules, under its name. -/
theorem getLoadBalancerByName_finds (h : Converged clusterName svc c₀ lb c) (hports : svc.ports ≠ []) :
    Idle c (getLoadBalancerByName (getLoadBalancerName clusterName svc) (getLoadBalancerLegacyName svc))
      fun lb' => lb' = addRules ⟨lb.name, "", [], "", "", "", []⟩ (c.listLoadBalancerRules lb.name) := by
  refine ((getLoadBalancerByName_reads _ _ c).triple (getLoadBalancerByName_converged h hports)).imp
    fun lb' ⟨_, _, K, hK, hne, hlb⟩ => ?_
  rcases h.keyword_cases hports hK with rfl | ⟨rfl, hL, hc₀⟩
  · exact hlb
  · exact absurd (h.canonical_nil hlike hL hc₀) hne

theorem Converged.listed_name (h : Converged clusterName svc c₀ lb c) :
    lb.name = getLoadBalancerName clusterName svc ∨ (lb.name = getLoadBalancerLegacyName svc ∧
      c.listLoadBalancerRules (getLoadBalancerName clusterName svc) = []) :=
  h.name.imp_right fun ⟨hL, hc₀⟩ => ⟨hL, h.canonical_nil hlike hL hc₀⟩

theorem Converged.relocated_address (h : Converged clusterName svc c₀ lb c) (hports : svc.ports ≠ [])
    (hostIDs : List String) :
    (relocated lb hostIDs c).ipAddr = lb.ipAddr ∧ (relocated lb hostIDs c).ipAddrID = lb.ipAddrID :=
  (h.addRules_keyword hports (h.listed_name hlike) (h.listing_ne_nil hports)).2

/-- The address phase finds the load balancer at its address, with its algorithm and network, and
takes no address. -/
theorem ensureAddress_idle (h : Converged clusterName svc c₀ lb c) (hports : svc.ports ≠ [])
    (hid : lb.ipAddrID ≠ "") {nodes : List Node} {hostIDs : List String}
    (hm : matchHosts (nodes.map nodeHostName) c.vms [] "" = .ok (hostIDs, lb.networkID)) (hne : hostIDs ≠ [])
    (hnet : lb.networkID ≠ "") :
    Idle c (ensureAddress clusterName svc nodes) fun r => r = (relocated lb hostIDs c, false) := by
  obtain ⟨-, hip, hipid⟩ := h.addRules_keyword hports (h.listed_name hlike) (h.listing_ne_nil hports)
  unfold ensureAddress
  refine Idle.bind (getLoadBalancerByName_finds hlike h hports) fun _ hlb => ?_
  subst hlb
  rw [h.algorithm]
  refine Idle.bind (verifyHosts_idle nodes hm hne hnet) fun _ hr => ?_
  subst hr
  dsimp only
  rw [if_pos (by simp [LoadBalancer.hasLoadBalancerIP, hip, hipid, h.address_ne, hid])]
  exact Idle.pure _ rfl

end Converged

/-! ### The port loop on a converged platform -/

theorem syncPortRules_kept {publicIPID : String} {publicPort : Int} {protocol : LoadBalancerProtocol}
    {wanted : List String} {rule : FirewallRule} {c : Cloud} (hperm : (stringsSplit rule.cidrlist ',').Perm wanted) :
    Idle c (syncPortRules publicIPID publicPort protocol wanted [rule]) fun _ => True := by
  have hkept : keptRule [rule] wanted = some rule := by
    simp [keptRule, (compareStringSlice_eq_true_iff _ _).mpr hperm.symm]
  unfold syncPortRules
  refine Idle.bind (Idle.rangeOver _) fun _ hc => ?_
  obtain rfl := List.perm_singleton.mp hc
  simp only [hkept, staleRules, List.erase_cons_head]
  refine Idle.bind (Idle.rangeOver _) fun _ ho => ?_
  obtain rfl := List.perm_nil.mp ho
  exact Idle.pure _ trivial

/-- On a port with exactly one firewall rule, allowing exactly the wanted ranges, the synchronizer
only lists. -/
theorem updateFirewallRule_idle {publicIPID : String} {publicPort : Int} {protocol : LoadBalancerProtocol}
    {allowedCIDRs : List String} {c : Cloud} (h : Exact publicIPID (wantedCIDRs allowedCIDRs) publicPort protocol c) :
    Idle c (updateFirewallRule publicIPID publicPort protocol allowedCIDRs) fun _ => True := by
  obtain ⟨rule, hport, hperm⟩ := h
  unfold updateFirewallRule
  refine Idle.bind (Idle.withPrefix _ (Idle.query _ _ rfl)) fun _ hl => ?_
  subst hl
  have hfiltered : (c.listFirewallRules publicIPID).filter (FirewallRule.Matches protocol publicPort) = [rule] :=
    (portRules_eq _ _ _ c).trans hport
  rw [hfiltered]
  exact syncPortRules_kept hperm

theorem ensurePortFirewall_idle (nets : IPNetParser) (svc : Service) (lb : LoadBalancer) (lbRule : LoadBalancerRule)
    (port : ServicePort) {c : Cloud} (hs : PortSealed nets svc lbRule.publicipid lb.networkID c port) :
    Idle c (ensurePortFirewall nets svc lb lbRule port (protocolFromServicePort port svc)) fun lb' => lb' = lb := by
  obtain ⟨n, hn⟩ := hs.network
  obtain ⟨ranges, hr⟩ := hs.ranges
  unfold ensurePortFirewall
  refine Idle.bind (Idle.query _ _ rfl) fun _ hnet => ?_
  subst hnet
  simp only [hn, hr]
  split
  · next hsup => exact Idle.bind (updateFirewallRule_idle (hs.exact ranges ⟨⟨n, hn, hsup⟩, hr⟩)) fun _ _ => Idle.pure _ rfl
  · exact Idle.pure _ rfl

section Pending

variable {nets : IPNetParser} {svc : Service} {lb₁ : LoadBalancer} {c : Cloud}

theorem ensurePort_idle (hwf : WellFormed c) (haddr : c.addressOf lb₁.ipAddrID = lb₁.ipAddr)
    {p : ServicePort} {ports : List ServicePort} {m : List LoadBalancerRule} (h : Pending svc lb₁ c (p :: ports) m)
    (hs : PortSealed nets svc lb₁.ipAddrID lb₁.networkID c p) :
    Idle c (ensurePort nets svc { lb₁ with rules := m } p)
      fun lb => lb = { lb₁ with rules := m.filter (·.name ≠ portRuleName lb₁.name svc p) } := by
  obtain ⟨r, -, hsv, heq⟩ := ensurePortRule_pending hwf haddr h
  have hrule : Idle c (ensurePortRule { lb₁ with rules := m } (portRuleName lb₁.name svc p) p
      (protocolFromServicePort p svc))
      fun x => x = (c.view r, { lb₁ with rules := m.filter (·.name ≠ portRuleName lb₁.name svc p) }) :=
    heq ▸ Idle.pure _ rfl
  simp only [ensurePort]
  split
  · next hinv => exact absurd hinv hs.valid
  · refine Idle.pure_bind _ (Idle.bind hrule fun _ hx => ?_)
    subst hx
    exact ensurePortFirewall_idle nets svc _ _ p (hsv.publicipid ▸ hs)

theorem ensurePorts_idle (hwf : WellFormed c) (haddr : c.addressOf lb₁.ipAddrID = lb₁.ipAddr) :
    ∀ (ports : List ServicePort) (m : List LoadBalancerRule), (ports.map (portRuleName lb₁.name svc)).Nodup →
      Pending svc lb₁ c ports m → PortsSealed nets svc lb₁.ipAddrID lb₁.networkID ports c →
      Idle c (ensurePorts nets svc { lb₁ with rules := m } ports) fun lb => lb = { lb₁ with rules := [] }
  | [], _, _, h, _ => Idle.pure _ (by rw [h.nil])
  | p :: ports, _, hnd, h, hs => Idle.bind (ensurePort_idle hwf haddr h (hs p (List.mem_cons_self _ _))) fun _ hlb => by
      subst hlb
      exact ensurePorts_idle hwf haddr ports _ (List.nodup_cons.mp hnd).2 (h.next hnd)
        fun q hq => hs q (List.mem_cons_of_mem _ hq)

/-- Every port finds its rule and its firewall rule in place, and the map is empty after the loop:
the cleanup deletes nothing. -/
theorem ensureRules_idle (hwf : WellFormed c) (haddr : c.addressOf lb₁.ipAddrID = lb₁.ipAddr)
    (hnd : (svc.ports.map (portRuleName lb₁.name svc)).Nodup) (h : Pending svc lb₁ c svc.ports lb₁.rules)
    (hs : PortsSealed nets svc lb₁.ipAddrID lb₁.networkID svc.ports c) :
    Idle c (ensureRules nets svc lb₁) fun status => status = loadBalancerStatus svc lb₁ := by
  refine Idle.bind (ensurePorts_idle hwf haddr svc.ports lb₁.rules hnd h hs) fun _ hlb => ?_
  subst hlb
  refine Idle.bind (Idle.rangeOver _) fun _ hperm => ?_
  obtain rfl := List.perm_nil.mp hperm
  exact Idle.pure _ rfl

end Pending

/-! ### Whole runs -/

theorem setServiceAnnotation_idem (svc : Service) (key value : String) :
    setServiceAnnotation ( setServiceAnnotation svc key value) key value = setServiceAnnotation svc key value := by
  simp [ setServiceAnnotation, List.filter_append, List.filter_filter]

/-- A run for a Service that already carries the load balancer's address sends no patch, whatever
the rules' phase does. -/
theorem ensureWithAddress_idle (nets : IPNetParser) {svc : Service} {lb : LoadBalancer} {c : Cloud}
    (hsvc : setServiceAnnotation svc serviceAnnotationLoadBalancerAddress lb.ipAddr = svc)
    (h : Idle c (ensureRules nets svc lb) fun _ => True) :
    Idle c (ensureWithAddress nets svc lb false) fun _ => True := by
  unfold ensureWithAddress
  simp only [hsvc, patch_self]
  refine Idle.bind (Idle.outcome h) fun r _ => ?_
  cases r <;> exact Idle.pure _ trivial

theorem ensureLoadBalancer_idle (nets : IPNetParser) {clusterName : String} {svc : Service} {nodes : List Node}
    {lb : LoadBalancer} {c : Cloud} (hports : svc.ports ≠ [])
    (haddr : Idle c (ensureAddress clusterName svc nodes) fun r => r = (lb, false))
    (hsvc : setServiceAnnotation svc serviceAnnotationLoadBalancerAddress lb.ipAddr = svc)
    (hrules : Idle c (ensureRules nets svc lb) fun _ => True) :
    Idle c (ensureLoadBalancer nets clusterName svc nodes) fun _ => True := by
  unfold ensureLoadBalancer
  rw [if_neg (by simpa [List.isEmpty_iff] using hports)]
  refine Idle.bind (Idle.outcome haddr) fun r hr => ?_
  rcases r with e | a
  · simp only [patch_self]
    exact Idle.pure _ trivial
  · obtain rfl := hr a rfl
    exact ensureWithAddress_idle nets hsvc hrules

theorem ensureWithAddress_ok {nets : IPNetParser} {svc : Service} {lb : LoadBalancer} {release : Bool} {rt : Runtime}
    {w : World} {status : LoadBalancerStatus}
    (hsvc : setServiceAnnotation svc serviceAnnotationLoadBalancerAddress lb.ipAddr = svc)
    (h : (ensureRules nets svc lb rt w).1 = .ok status) :
    (ensureWithAddress nets svc lb release rt w).1 = .ok ⟨some status, none, svc⟩ := by
  simp only [ensureWithAddress, hsvc, patch_self, CloudM.run_bind, outcome, h, CloudM.run_pure]

theorem createRule_keeps_vms (c₀ : Cloud) (lb : LoadBalancer) (lbRuleName : String) (port : ServicePort)
    (protocol : LoadBalancerProtocol) :
    Triple (fun c => c.vms = c₀.vms)
      (do
        let lbRule ← createLoadBalancerRule lb lbRuleName port protocol
        assignHostsToRule lbRule lb.hostIDs
        pure (lbRule, lb))
      (fun r c => c.vms = c₀.vms ∧ r.1.publicipid = lb.ipAddrID ∧ r.2 = lb) fun c => c.vms = c₀.vms := by
  refine Triple.bind (R := fun lbRule c => c.vms = c₀.vms ∧ lbRule.publicipid = lb.ipAddrID)
    (Triple.withPrefix _ (Triple.remoteTry _ _ (fun c _ _ h hc => ?_) fun _ h => h)) fun lbRule => ?_
  · obtain ⟨-, -, rfl, rfl⟩ := c.createLoadBalancerRule_ok hc
    exact ⟨h, rfl⟩
  · exact Triple.bind (R := fun _ c => c.vms = c₀.vms ∧ lbRule.publicipid = lb.ipAddrID)
      (Triple.withPrefix _ (Triple.remote _ _ (fun _ h => h) fun _ h => h.1)) fun _ =>
        Triple.pure _ fun _ h => ⟨h.1, h.2, rfl⟩

/-- No call of a run changes the VMs. -/
theorem CallsKeep.vms (A : List String) (c₀ : Cloud) : CallsKeep A c₀ fun c => c.vms = c₀.vms :=
  ⟨fun _ _ => Triple.remote _ _ (fun _ h => h) fun _ h => h,
    fun _ _ _ _ => Triple.remote _ _ (fun _ h => h) fun _ h => h,
    fun lb _ => createRule_keeps_vms c₀ lb,
    fun _ _ _ _ _ => updateFirewallRule_frame _ (fun _ h _ _ => h) _ _ _ _,
    fun _ _ _ _ => deleteFirewallRule_frame _ (fun _ h _ _ => h) _ _ _,
    fun _ _ => Triple.withPrefix _ (Triple.remote _ _ (fun _ h => h) fun _ h => h)⟩

theorem ensureLoadBalancer_keeps_vms (nets : IPNetParser) (clusterName : String) (svc : Service) (nodes : List Node)
    (c₀ : Cloud) :
    Triple (fun c => c = c₀) (ensureLoadBalancer nets clusterName svc nodes) (fun _ c => c.vms = c₀.vms)
      fun c => c.vms = c₀.vms :=
  ensureLoadBalancer_local nets clusterName svc nodes (CallsKeep.vms _ _) rfl rfl

/-- A run of `EnsureLoadBalancer` from a platform whose rules have distinct names and sit on
associated addresses with non-empty ids, on which no `DeleteFirewallRule` fails, that returns a
status: a second run for the Service as the first left it, with the same nodes and whichever calls
fail, only reads, and leaves the platform as it is; where no call fails, it returns the first
run's status, with no error. The canonical name, as a `LIKE` pattern, matches no rule name of the
legacy load balancer. -/
theorem ensureLoadBalancer_second_run_idle (nets : IPNetParser) (clusterName : String) (svc : Service)
    (nodes : List Node) (rt : Runtime) (w : World) (hwf : WellFormed w.cloud)
    (hnd : (svc.ports.map (portRuleName (getLoadBalancerName clusterName svc) svc)).Nodup)
    (hids : ∀ ip ∈ w.cloud.ips, ip.id ≠ "")
    (hlike : ∀ p ∈ svc.ports, likeMatch ('%' :: ((getLoadBalancerName clusterName svc).data ++ ['%']))
      (portRuleName (getLoadBalancerLegacyName svc) svc p).data = false)
    (hdel : ∀ n id, rt.fails n (.deleteFirewallRule id) = none) {res : EnsureResult}
    (hok : (ensureLoadBalancer nets clusterName svc nodes rt w).1 = .ok res) (hst : res.status ≠ none)
    (rt' : Runtime) :
    let w₁ := (ensureLoadBalancer nets clusterName svc nodes rt w).2
    let run := ensureLoadBalancer nets clusterName res.service nodes rt' w₁
    Quiet w₁ run.2 ∧ ((∀ n call, rt'.fails n call = none) → run.1 = .ok ⟨res.status, none, res.service⟩) := by
  obtain ⟨lb, hstatus, hres, h, ⟨hostIDs, hm, hne, hnet⟩, -, hsealed⟩ :=
    TripleOn.of_ok (ensureLoadBalancer_seals nets clusterName svc nodes w.cloud hwf hnd) hdel rfl hok hst
  have hvms := Triple.of_ok (ensureLoadBalancer_keeps_vms nets clusterName svc nodes w.cloud) rfl hok
  have hports : ( setServiceAnnotation svc serviceAnnotationLoadBalancerAddress lb.ipAddr).ports ≠ [] :=
    (ports_ne_nil_of_status hok hst :)
  dsimp only
  rw [hstatus, hres]
  set w₁ := (ensureLoadBalancer nets clusterName svc nodes rt w).2
  -- the second run's load balancer, found by the locator and the host check
  have h₁ := h.annotated lb.ipAddr
  have hlike₁ : ∀ p ∈ ( setServiceAnnotation svc serviceAnnotationLoadBalancerAddress lb.ipAddr).ports,
      likeMatch ('%' :: ((getLoadBalancerName clusterName svc).data ++ ['%']))
        (portRuleName (getLoadBalancerLegacyName svc) ( setServiceAnnotation svc serviceAnnotationLoadBalancerAddress
          lb.ipAddr) p).data = false := by
    rwa [portRuleName_annotated]
  have haddr := ensureAddress_idle hlike₁ h₁ hports (h.ipAddrID_ne hids) (hvms ▸ hm) hne hnet
  obtain ⟨hip, hipid⟩ := h₁.relocated_address hlike₁ hports hostIDs
  have hsvc : setServiceAnnotation ( setServiceAnnotation svc serviceAnnotationLoadBalancerAddress lb.ipAddr)
      serviceAnnotationLoadBalancerAddress (relocated lb hostIDs w₁.cloud).ipAddr =
        setServiceAnnotation svc serviceAnnotationLoadBalancerAddress lb.ipAddr := by
    rw [hip, setServiceAnnotation_idem]
  -- every port's rule and firewall rule are in place
  have hrules := ensureRules_idle h.wf (by rw [hipid, hip]; exact h.address)
    (by rw [portRuleName_annotated]; exact (nodup_portRuleName_iff _ _ _ _).mp hnd)
    (h.pending (show (relocated lb hostIDs w₁.cloud).name = lb.name from addRules_name _ _) hipid rfl
      rfl lb.ipAddr)
    (by rw [hipid]; exact (portsSealed_annotated _).mpr hsealed)
  refine ⟨(ensureLoadBalancer_idle nets hports haddr hsvc (hrules.imp fun _ _ => trivial) rt' w₁ rfl).1,
    fun hR => ?_⟩
  obtain ⟨hq, hQ, hret⟩ := haddr rt' w₁ rfl
  obtain ⟨a, ha⟩ := hret hR
  obtain rfl := hQ a ha
  rw [ensureLoadBalancer_of_address hports ha]
  obtain ⟨-, hQ', hret'⟩ := hrules rt' _ hq.1
  obtain ⟨status, hS⟩ := hret' hR
  rw [ensureWithAddress_ok hsvc hS, hQ' status hS]
  simp only [loadBalancerStatus, hip]

theorem ensureLoadBalancer_second_run_idle_on_stale_firewall :
    WellFormed staleFirewallCloud ∧
      (addressedService.ports.map (portRuleName (getLoadBalancerName "c" addressedService) addressedService)).Nodup ∧
      (∀ ip ∈ staleFirewallCloud.ips, ip.id ≠ "") ∧
      (∀ p ∈ addressedService.ports, likeMatch ('%' :: ((getLoadBalancerName "c" addressedService).data ++ ['%']))
        (portRuleName (getLoadBalancerLegacyName addressedService) addressedService p).data = false) ∧
      (∀ n id, (Runtime.reliable .inOrder).fails n (.deleteFirewallRule id) = none) ∧
      (ensureLoadBalancer .literal "c" addressedService sampleNodes (Runtime.reliable .inOrder)
        (World.init staleFirewallCloud)).1 = .ok staleFirewallResult ∧ staleFirewallResult.status ≠ none ∧
      let w₁ := (ensureLoadBalancer .literal "c" addressedService sampleNodes (Runtime.reliable .inOrder)
        (World.init staleFirewallCloud)).2
      let run := ensureLoadBalancer .literal "c" staleFirewallResult.service sampleNodes (Runtime.reliable .inOrder) w₁
      Quiet w₁ run.2 ∧ ((∀ n call, (Runtime.reliable .inOrder).fails n call = none) →
        run.1 = .ok ⟨staleFirewallResult.status, none, staleFirewallResult.service⟩) :=
  ⟨⟨by decide, by decide⟩, List.nodup_singleton _, by decide, by decide, fun _ _ => rfl, staleFirewallRun_ok,
    by decide, ensureLoadBalancer_second_run_idle .literal "c" addressedService sampleNodes (Runtime.reliable .inOrder)
      (World.init staleFirewallCloud) ⟨by decide, by decide⟩ (List.nodup_singleton _) (by decide) (by decide)
      (fun _ _ => rfl) staleFirewallRun_ok (by decide) (Runtime.reliable .inOrder)⟩

/-! ### Two rules of one stale name

The locator's map holds, of two rules that share a name, the one listed last. The cleanup of the
first run deletes that one when the name is stale; the second run's map holds the other, and its
cleanup deletes it.
-/

/-- Address `9` with the Service's rule on port 80, and two rules under the stale name of port 81,
on public ports 81 and 82. -/
def twinStaleCloud : Cloud :=
  ⟨[⟨"1", "K8s_svc_c_default_web-tcp-80", "", "roundrobin", "tcp", "9", "30080", "80", ["vm-1"]⟩,
    ⟨"2", "K8s_svc_c_default_web-tcp-81", "", "roundrobin", "tcp", "9", "30081", "81", ["vm-1"]⟩,
    ⟨"3", "K8s_svc_c_default_web-tcp-81", "", "roundrobin", "tcp", "9", "30081", "82", ["vm-1"]⟩],
    [], [⟨"9", "10.0.0.9"⟩], [⟨"net-1", "", []⟩], [⟨"vm-1", "node-1", [⟨"net-1"⟩]⟩],
    by decide, by decide, by decide, by decide, by decide⟩

/-- Every call succeeding, the first run returns the status, having deleted rule `3`; the second,
for the Service the first returned, lists, finds rule `2` stale and deletes it. -/
theorem ensureLoadBalancer_second_run_deletes_twin :
    ¬ (twinStaleCloud.lbRules.map LbRow.name).Nodup ∧
      (ensureLoadBalancer .literal "c" addressedService sampleNodes (Runtime.reliable .inOrder)
        (World.init twinStaleCloud)).1 = .ok staleFirewallResult ∧
      ((ensureLoadBalancer .literal "c" staleFirewallResult.service sampleNodes (Runtime.reliable .inOrder)
          (ensureLoadBalancer .literal "c" addressedService sampleNodes (Runtime.reliable .inOrder)
            (World.init twinStaleCloud)).2).2.log.drop 5).map Prod.fst =
        [.listLoadBalancerRules "K8s_svc_c_default_web", .listVirtualMachines, .getNetworkByID "net-1",
          .listFirewallRules "9", .deleteLoadBalancerRule "2"] := by
  decide

end CloudStackLB
