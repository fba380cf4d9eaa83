import CloudStackLB.History

/-! # The converged platform

What the provider finds where `EnsureLoadBalancer` has converged. The locator
(`loadbalancer.go:508-559`) lists by the canonical name, and by the legacy name only when that
listing is empty; on a converged platform the listing it keeps holds only rules that serve a
port, so `GetLoadBalancer` (lines 203-225) reports the address that `EnsureLoadBalancer` put in
its status.
-/

namespace CloudStackLB

/-- The locator keeps the canonical listing, else a non-empty legacy one, or no rule. -/
theorem getLoadBalancerByName_picks (name legacyName : String) (c₀ : Cloud) :
    Triple (fun c => c = c₀) (getLoadBalancerByName name legacyName)
      (fun lb c => c = c₀ ∧
        ((∃ K, (K = name ∨ (K = legacyName ∧ c₀.listLoadBalancerRules name = [])) ∧
            c₀.listLoadBalancerRules K ≠ [] ∧ lb = addRules ⟨K, "", [], "", "", "", []⟩ (c₀.listLoadBalancerRules K)) ∨
          (c₀.listLoadBalancerRules name = [] ∧ (legacyName = "" ∨ c₀.listLoadBalancerRules legacyName = []) ∧
            lb.rules = [])))
      (fun c => c = c₀) := by
  unfold getLoadBalancerByName
  refine Triple.bind (Triple.withPrefix _ (Triple.query_eq _ _ c₀ rfl)) fun l => Triple.of_pre fun hl => ?_
  subst hl
  split
  · next hnil =>
    have hnil := List.isEmpty_iff.mp hnil
    split
    · refine Triple.bind (Triple.withPrefix _ (Triple.query_eq _ _ c₀ rfl)) fun l => Triple.of_pre fun hl => ?_
      subst hl
      refine Triple.pure _ fun _ hc => ⟨hc, ?_⟩
      by_cases hleg : c₀.listLoadBalancerRules legacyName = []
      · rw [hleg]
        exact .inr ⟨hnil, .inr rfl, rfl⟩
      · refine .inl ⟨legacyName, .inr ⟨rfl, hnil⟩, hleg, ?_⟩
        rw [if_neg (by simpa [List.isEmpty_iff] using hleg)]
    · next hlen =>
      have hlen : legacyName.length = 0 := by simpa using hlen
      exact Triple.pure _ fun _ hc => ⟨hc, .inr ⟨hnil, .inl (String.ext (List.eq_nil_of_length_eq_zero hlen)), rfl⟩⟩
  · next hne => exact Triple.pure _ fun _ hc => ⟨hc, .inl ⟨name, .inl rfl, by simpa [List.isEmpty_iff] using hne, rfl⟩⟩

theorem getLoadBalancerLegacyName_ne_empty (svc : Service) : getLoadBalancerLegacyName svc ≠ "" := by
  simp [getLoadBalancerLegacyName, String.ext_iff]

section Converged

variable {clusterName : String} {svc : Service} {c₀ : Cloud} {lb : LoadBalancer} {c : Cloud}

theorem Converged.listing_ne_nil (h : Converged clusterName svc c₀ lb c) (hports : svc.ports ≠ []) :
    c.listLoadBalancerRules lb.name ≠ [] := by
  obtain ⟨p, hp⟩ := List.exists_mem_of_ne_nil _ hports
  obtain ⟨r, hr, hs⟩ := h.served p hp
  exact List.ne_nil_of_mem (view_mem_listLoadBalancerRules hr (keywordMatches_of_portRuleName hs.name))

theorem Converged.named_of_legacy (h : Converged clusterName svc c₀ lb c)
    (hc₀ : c₀.listLoadBalancerRules (getLoadBalancerName clusterName svc) = []) {r : LbRow} (hr : r ∈ c.lbRules)
    (hm : keywordMatches (getLoadBalancerName clusterName svc) r) :
    ∃ p ∈ svc.ports, portRuleName lb.name svc p = r.name := by
  rcases h.named r hr with ⟨r₀, hr₀, hn, hd⟩ | ⟨hn, -⟩
  · have hm₀ := view_mem_listLoadBalancerRules hr₀ ((keywordMatches_congr ⟨hn, hd⟩).trans hm)
    exact absurd (hc₀ ▸ hm₀) (List.not_mem_nil _)
  · exact List.mem_map.mp hn

theorem Converged.serves_of_keyword (h : Converged clusterName svc c₀ lb c) (hports : svc.ports ≠ []) {K : String}
    (hK : K = getLoadBalancerName clusterName svc ∨
      (K = getLoadBalancerLegacyName svc ∧ c.listLoadBalancerRules (getLoadBalancerName clusterName svc) = []))
    {r : LbRow} (hr : r ∈ c.lbRules) (hm : keywordMatches K r) : ∃ p ∈ svc.ports, Serves svc lb p r := by
  rcases h.name with hN | ⟨hL, hc₀⟩
  · rcases hK with rfl | ⟨-, hnil⟩
    · exact h.only r hr (hN ▸ hm)
    · exact absurd (hN ▸ hnil) (h.listing_ne_nil hports)
  rcases hK with rfl | ⟨rfl, -⟩
  · obtain ⟨p, -, hp⟩ := h.named_of_legacy hc₀ hr hm
    exact h.only r hr (keywordMatches_of_portRuleName hp.symm)
  · exact h.only r hr (hL ▸ hm)

theorem getLoadBalancerByName_converged (h : Converged clusterName svc c₀ lb c) (hports : svc.ports ≠ []) :
    Triple (fun c' => c' = c) (getLoadBalancerByName (getLoadBalancerName clusterName svc) (getLoadBalancerLegacyName svc))
      (fun lb' c' => c' = c ∧ ∃ K, (K = getLoadBalancerName clusterName svc ∨
        (K = getLoadBalancerLegacyName svc ∧ c.listLoadBalancerRules (getLoadBalancerName clusterName svc) = [])) ∧
          c.listLoadBalancerRules K ≠ [] ∧ lb' = addRules ⟨K, "", [], "", "", "", []⟩ (c.listLoadBalancerRules K))
      (fun c' => c' = c) := by
  refine Triple.conseq (getLoadBalancerByName_picks _ _ c) (fun _ h => h) (fun lb' c' ⟨hc, hpick⟩ => ⟨hc, ?_⟩)
    fun _ h => h
  refine hpick.resolve_right fun ⟨hnil, hleg, _⟩ => ?_
  rcases h.name with hN | ⟨hL, -⟩
  · exact h.listing_ne_nil hports (hN ▸ hnil)
  · rcases hleg with hleg | hleg
    · exact getLoadBalancerLegacyName_ne_empty svc hleg
    · exact h.listing_ne_nil hports (hL ▸ hleg)

theorem Converged.addRules_keyword (h : Converged clusterName svc c₀ lb c) (hports : svc.ports ≠ []) {K : String}
    (hK : K = getLoadBalancerName clusterName svc ∨
      (K = getLoadBalancerLegacyName svc ∧ c.listLoadBalancerRules (getLoadBalancerName clusterName svc) = []))
    (hne : c.listLoadBalancerRules K ≠ []) :
    (addRules ⟨K, "", [], "", "", "", []⟩ (c.listLoadBalancerRules K)).rules ≠ [] ∧
      (addRules ⟨K, "", [], "", "", "", []⟩ (c.listLoadBalancerRules K)).ipAddr = lb.ipAddr ∧
      (addRules ⟨K, "", [], "", "", "", []⟩ (c.listLoadBalancerRules K)).ipAddrID = lb.ipAddrID := by
  obtain ⟨x, hx⟩ := List.exists_mem_of_ne_nil _ hne
  obtain ⟨y, hy, hip, hid⟩ := addRules_address ⟨K, "", [], "", "", "", []⟩ _ hne
  obtain ⟨r, hr, rfl, hm⟩ := mem_listLoadBalancerRules hy
  obtain ⟨p, -, hs⟩ := h.serves_of_keyword hports hK hr hm
  refine ⟨List.ne_nil_of_mem (mem_addRules _ _ (h.wf.keys_listLoadBalancerRules K) x hx), ?_, hid.trans hs.publicipid⟩
  rw [hip, ← h.address, ← hs.publicipid]
  rfl

/-- The locator lists by `lb`'s name, or by the canonical one where `_` matches a legacy rule's name. -/
theorem Converged.keyword_cases (h : Converged clusterName svc c₀ lb c) (hports : svc.ports ≠ []) {K : String}
    (hK : K = getLoadBalancerName clusterName svc ∨
      (K = getLoadBalancerLegacyName svc ∧ c.listLoadBalancerRules (getLoadBalancerName clusterName svc) = [])) :
    K = lb.name ∨ (K = getLoadBalancerName clusterName svc ∧ lb.name = getLoadBalancerLegacyName svc ∧
      c₀.listLoadBalancerRules (getLoadBalancerName clusterName svc) = []) := by
  rcases h.name with hN | ⟨hL, hc₀⟩ <;> rcases hK with rfl | ⟨rfl, hnil⟩
  · exact .inl hN.symm
  · exact absurd (hN ▸ hnil) (h.listing_ne_nil hports)
  · exact .inr ⟨rfl, hL, hc₀⟩
  · exact .inl hL.symm

theorem Converged.ne_portRuleName_of_legacy (h : Converged clusterName svc c₀ lb c)
    (hc₀ : c₀.listLoadBalancerRules (getLoadBalancerName clusterName svc) = [])
    (hlegacy : ∀ p ∈ svc.ports, ¬ (getLoadBalancerName clusterName svc).data <:+: (portRuleName lb.name svc p).data)
    {x : LoadBalancerRule} (hx : x ∈ c.listLoadBalancerRules (getLoadBalancerName clusterName svc))
    (p : ServicePort) : x.name ≠ portRuleName (getLoadBalancerName clusterName svc) svc p := fun hxN => by
  obtain ⟨r, hr, rfl, hm⟩ := mem_listLoadBalancerRules hx
  obtain ⟨q, hq, hqN⟩ := h.named_of_legacy hc₀ hr hm
  have heq : portRuleName lb.name svc q = portRuleName (getLoadBalancerName clusterName svc) svc p := hqN.trans hxN
  exact hlegacy q hq (by rw [heq]; exact infix_portRuleName _ svc p)

end Converged

theorem ports_ne_nil_of_status {nets : IPNetParser} {clusterName : String} {svc : Service} {nodes : List Node}
    {rt : Runtime} {w : World} {res : EnsureResult} (hok : (ensureLoadBalancer nets clusterName svc nodes rt w).1 = .ok res)
    (hst : res.status ≠ none) : svc.ports ≠ [] := by
  rintro hnil
  simp only [ensureLoadBalancer, hnil, List.isEmpty_nil, if_true, CloudM.run_pure, Except.ok.injEq] at hok
  exact hst (hok ▸ rfl)

/-- After a run of `EnsureLoadBalancer` that returns a status, every run of `GetLoadBalancer` for the
Service that returns reports the load balancer as existing, at the address of the load balancer
in the status. -/
theorem getLoadBalancer_after_ensure (nets : IPNetParser) (clusterName : String) (svc : Service)
    (nodes : List Node) (rt : Runtime) (w : World) (hwf : WellFormed w.cloud)
    (hnd : (svc.ports.map (portRuleName (getLoadBalancerName clusterName svc) svc)).Nodup) {res : EnsureResult}
    (hok : (ensureLoadBalancer nets clusterName svc nodes rt w).1 = .ok res) (hst : res.status ≠ none)
    (rt' : Runtime) {st : Option LoadBalancerStatus}
    (hget : (getLoadBalancer clusterName svc rt' (ensureLoadBalancer nets clusterName svc nodes rt w).2).1 = .ok st) :
    ∃ lb, res.status = some (loadBalancerStatus res.service lb) ∧ st = some ⟨[⟨lb.ipAddr, ""⟩]⟩ := by
  obtain ⟨lb, hres, h, -⟩ := (Triple.of_ok (ensureLoadBalancer_converging nets clusterName svc nodes w.cloud hwf hnd)
    rfl hok).2 hst
  refine ⟨lb, hres, Triple.of_ok (?_ : Triple (fun c => c = _) (getLoadBalancer clusterName svc)
    (fun st _ => st = some ⟨[⟨lb.ipAddr, ""⟩]⟩) (fun _ => True)) rfl hget⟩
  have hports := ports_ne_nil_of_status hok hst
  refine Triple.bind (Triple.conseq (getLoadBalancerByName_converged h hports)
    (fun _ h => h) (fun _ _ h => h) fun _ _ => trivial) fun lb' =>
      Triple.of_pre_imp (fun _ h => h.2) fun ⟨K, hK, hne, hlb⟩ => ?_
  obtain ⟨hrules, hip, -⟩ := h.addRules_keyword hports hK hne
  rw [← hlb] at hrules hip
  rw [if_neg (by simpa [List.isEmpty_iff] using hrules), hip]
  exact Triple.pure _ fun _ _ => rfl

theorem getLoadBalancer_after_ensure_on_sample :
    let w := ensureLoadBalancer .literal "c" webService sampleNodes (Runtime.reliable .inOrder) (World.init sampleCloud)
    let res : EnsureResult :=
      ⟨some ⟨[⟨"0", ""⟩]⟩, none, setServiceAnnotation webService serviceAnnotationLoadBalancerAddress "0"⟩
    WellFormed sampleCloud ∧ (webService.ports.map (portRuleName (getLoadBalancerName "c" webService) webService)).Nodup ∧
      w.1 = .ok res ∧ res.status ≠ none ∧
      (getLoadBalancer "c" webService (Runtime.reliable .inOrder) w.2).1 = .ok (some ⟨[⟨"0", ""⟩]⟩) ∧
      ∃ lb, res.status = some (loadBalancerStatus res.service lb) ∧
        (some ⟨[⟨"0", ""⟩]⟩ : Option LoadBalancerStatus) = some ⟨[⟨lb.ipAddr, ""⟩]⟩ := by
  intro w res
  have hwf : WellFormed sampleCloud := ⟨by decide, by decide⟩
  have hnd : (webService.ports.map (portRuleName (getLoadBalancerName "c" webService) webService)).Nodup :=
    List.nodup_singleton _
  have hrun : w.1 = .ok res ∧ (getLoadBalancer "c" webService (Runtime.reliable .inOrder) w.2).1 =
      .ok (some ⟨[⟨"0", ""⟩]⟩) := by
    simp only [w, res]
    rw [ensureLoadBalancer_of_address (by decide) (by decide :
      (ensureAddress "c" webService sampleNodes (Runtime.reliable .inOrder) (World.init sampleCloud)).1 =
        .ok (⟨"K8s_svc_c_default_web", "roundrobin", ["vm-1"], "0", "0", "net-1", []⟩, true))]
    decide
  exact ⟨hwf, hnd, hrun.1, by decide, hrun.2, getLoadBalancer_after_ensure .literal "c" webService sampleNodes _
    (World.init sampleCloud) hwf hnd hrun.1 (by decide) _ hrun.2⟩

/-! ### A second run on a converged platform

On a converged platform a run of `EnsureLoadBalancer` for the same Service finds the address and
every rule in place: each port's check keeps its rule, the map is empty after the loop, and the
cleanup has nothing to delete. Where the load balancer took the legacy name and the canonical name
lists its rules (`_` matches any character), the locator lists by the canonical name; the first
port's rule under it is missing, and its create is refused, as the legacy rule holds the port.
Whichever calls fail, the rules and the addresses stay as they were; only firewall rules may
change.
-/

/-- The rules and the addresses of `c`. -/
def Unchanged (c : Cloud) (rows : List LbRow) (ips : List PublicIpAddress) : Prop :=
  rows = c.lbRules ∧ ips = c.ips

theorem Serves.congr_lb {svc : Service} {lb lb' : LoadBalancer} {p : ServicePort} {r : LbRow}
    (hn : lb'.name = lb.name) (hi : lb'.ipAddrID = lb.ipAddrID) (ha : lb'.algorithm = lb.algorithm) :
    Serves svc lb p r ↔ Serves svc lb' p r := by
  constructor <;> rintro ⟨h1, h2, h3, h4, h5, h6⟩
  exacts [⟨hn ▸ h1, hi ▸ h2, h3, h4, ha ▸ h5, h6⟩, ⟨hn ▸ h1, hi ▸ h2, h3, h4, ha ▸ h5, h6⟩]

theorem Converged.annotated {clusterName : String} {svc : Service} {c₀ : Cloud} {lb : LoadBalancer} {c : Cloud}
    (h : Converged clusterName svc c₀ lb c) (value : String) :
    Converged clusterName ( setServiceAnnotation svc serviceAnnotationLoadBalancerAddress value) c₀ lb c :=
  ⟨h.name, h.algorithm, h.address, h.address_ne,
    fun p hp => (h.served p hp).imp fun _ ⟨hr, hs⟩ => ⟨hr, (serves_annotated value).mpr hs⟩,
    fun r hr hm => (h.only r hr hm).imp fun _ ⟨hp, hs⟩ => ⟨hp, (serves_annotated value).mpr hs⟩, h.wf, h.frame,
    by rw [portRuleName_annotated]; exact h.named, h.id_mem⟩

/-- A rule of the name that the map holds in place, with the load balancer's algorithm and the
port's protocol, is kept with no call. -/
theorem ensurePortRule_kept {lb : LoadBalancer} {lbRuleName : String} {port : ServicePort}
    {protocol : LoadBalancerProtocol} {x : LoadBalancerRule} (hx : lb.rule? lbRuleName = some x)
    (hplace : x.publicip = lb.ipAddr ∧ x.privateport = itoa port.nodePort.toInt ∧ x.publicport = itoa port.port.toInt)
    (hcurrent : x.algorithm = lb.algorithm ∧ x.protocol = protocol.csProtocol) :
    ensurePortRule lb lbRuleName port protocol = pure (x, lb.dropRule lbRuleName) := by
  simp only [ensurePortRule, checkLoadBalancerRule, hx, if_pos hplace, hcurrent, bne_self_eq_false, Bool.or_false]
  rfl

section Pending

variable {svc : Service} {lb₁ : LoadBalancer} {c : Cloud}

variable (svc lb₁ c) in
/-- The port loop's invariant on a converged platform, for the ports still to do: each has a rule
serving it, and the map holds the views of exactly those rules. -/
structure Pending (ports : List ServicePort) (m : List LoadBalancerRule) : Prop where
  served : ∀ p ∈ ports, ∃ r ∈ c.lbRules, Serves svc lb₁ p r
  mapped : ∀ x ∈ m, ∃ p ∈ ports, ∃ r ∈ c.lbRules, x = c.view r ∧ Serves svc lb₁ p r
  complete : ∀ p ∈ ports, ∀ r ∈ c.lbRules, Serves svc lb₁ p r → c.view r ∈ m

variable {p : ServicePort} {ports : List ServicePort} {m : List LoadBalancerRule}

theorem Pending.next (h : Pending svc lb₁ c (p :: ports) m)
    (hnd : ((p :: ports).map (portRuleName lb₁.name svc)).Nodup) :
    Pending svc lb₁ c ports (m.filter (·.name ≠ portRuleName lb₁.name svc p)) := by
  have hne : ∀ q ∈ ports, portRuleName lb₁.name svc q ≠ portRuleName lb₁.name svc p := fun q hq he =>
    (List.nodup_cons.mp hnd).1 (he ▸ List.mem_map_of_mem _ hq)
  refine ⟨fun q hq => h.served q (List.mem_cons_of_mem _ hq), fun x hx => ?_, fun q hq r hr hs => ?_⟩
  · obtain ⟨hx, hxN⟩ := List.mem_filter.mp hx
    obtain ⟨q, hq, r, hr, rfl, hs⟩ := h.mapped x hx
    rcases List.mem_cons.mp hq with rfl | hq
    · simp [Cloud.view, hs.name] at hxN
    · exact ⟨q, hq, r, hr, rfl, hs⟩
  · exact List.mem_filter.mpr ⟨h.complete q (List.mem_cons_of_mem _ hq) r hr hs,
      by simpa [Cloud.view, hs.name] using hne q hq⟩

theorem Pending.nil (h : Pending svc lb₁ c [] m) : m = [] :=
  List.eq_nil_iff_forall_not_mem.mpr fun x hx => by
    obtain ⟨p, hp, -⟩ := h.mapped x hx
    exact List.not_mem_nil p hp

/-- The map holds the view of the rule serving the next port, under the port's name. -/
theorem Pending.find_rule (hwf : WellFormed c) (h : Pending svc lb₁ c (p :: ports) m) :
    ∃ r ∈ c.lbRules, Serves svc lb₁ p r ∧
      ({ lb₁ with rules := m } : LoadBalancer).rule? (portRuleName lb₁.name svc p) = some (c.view r) := by
  obtain ⟨r, hr, hs⟩ := h.served p (List.mem_cons_self _ _)
  refine ⟨r, hr, hs, ?_⟩
  have hmem := h.complete p (List.mem_cons_self _ _) r hr hs
  cases hfind : ({ lb₁ with rules := m } : LoadBalancer).rule? (portRuleName lb₁.name svc p) with
  | none => exact absurd (List.find?_eq_none.mp hfind _ hmem) (by simp [Cloud.view, hs.name])
  | some x =>
    have hxN : x.name = portRuleName lb₁.name svc p := by simpa using List.find?_some hfind
    obtain ⟨q, -, r', hr', rfl, -⟩ := h.mapped x (List.mem_of_find?_eq_some hfind)
    rw [hwf.row_eq_of_name hr' hr (hxN.trans hs.name.symm)]

/-- The port's rule is kept, with no call. -/
theorem ensurePortRule_pending (hwf : WellFormed c) (haddr : c.addressOf lb₁.ipAddrID = lb₁.ipAddr)
    (h : Pending svc lb₁ c (p :: ports) m) :
    ∃ r ∈ c.lbRules, Serves svc lb₁ p r ∧
      ensurePortRule { lb₁ with rules := m } (portRuleName lb₁.name svc p) p (protocolFromServicePort p svc) =
        pure (c.view r, { lb₁ with rules := m.filter (·.name ≠ portRuleName lb₁.name svc p) }) := by
  obtain ⟨r, hr, hs, hx⟩ := h.find_rule hwf
  exact ⟨r, hr, hs, ensurePortRule_kept hx ⟨hs.publicipid ▸ haddr, hs.privateport, hs.publicport⟩
    ⟨hs.algorithm, hs.protocol⟩⟩

theorem ensurePortRule_steady (hwf : WellFormed c) (haddr : c.addressOf lb₁.ipAddrID = lb₁.ipAddr)
    (h : Pending svc lb₁ c (p :: ports) m) :
    Triple (OnTables (Unchanged c))
      (ensurePortRule { lb₁ with rules := m } (portRuleName lb₁.name svc p) p (protocolFromServicePort p svc))
      (fun r c' => r.2 = { lb₁ with rules := m.filter (·.name ≠ portRuleName lb₁.name svc p) } ∧
        OnTables (Unchanged c) c') (OnTables (Unchanged c)) := by
  obtain ⟨r, -, -, heq⟩ := ensurePortRule_pending hwf haddr h
  rw [heq]
  exact Triple.pure _ fun _ hc => ⟨rfl, hc⟩

theorem ensurePort_steady (nets : IPNetParser) (hwf : WellFormed c) (haddr : c.addressOf lb₁.ipAddrID = lb₁.ipAddr)
    (h : Pending svc lb₁ c (p :: ports) m) :
    Triple (OnTables (Unchanged c)) (ensurePort nets svc { lb₁ with rules := m } p)
      (fun lb c' => lb = { lb₁ with rules := m.filter (·.name ≠ portRuleName lb₁.name svc p) } ∧
        OnTables (Unchanged c) c') (OnTables (Unchanged c)) := by
  simp only [ensurePort]
  split
  · exact Triple.throw_bind _ fun _ h => h
  · refine Triple.pure_bind _ (Triple.bind (ensurePortRule_steady hwf haddr h) fun ⟨lbRule, lb'⟩ =>
      Triple.of_pre_imp (fun _ h => h.1) fun hlb => ?_)
    subst hlb
    exact Triple.conseq (ensurePortFirewall_keeps _ _ _ _ _ _) (fun _ h => h.2) (fun _ _ ⟨h, hlb⟩ => ⟨hlb, h⟩)
      fun _ h => h

theorem ensurePorts_steady (nets : IPNetParser) (hwf : WellFormed c) (haddr : c.addressOf lb₁.ipAddrID = lb₁.ipAddr) :
    ∀ (ports : List ServicePort) (m : List LoadBalancerRule), (ports.map (portRuleName lb₁.name svc)).Nodup →
      Pending svc lb₁ c ports m →
      Triple (OnTables (Unchanged c)) (ensurePorts nets svc { lb₁ with rules := m } ports)
        (fun lb c' => lb.rules = [] ∧ OnTables (Unchanged c) c') (OnTables (Unchanged c))
  | [], _, _, h => Triple.pure _ fun _ hc => ⟨h.nil, hc⟩
  | _ :: ports, _, hnd, h => Triple.bind (ensurePort_steady nets hwf haddr h) fun _ =>
      Triple.of_pre_imp (fun _ h => h.1) fun hlb => by
        subst hlb
        exact Triple.conseq (ensurePorts_steady nets hwf haddr ports _ (List.nodup_cons.mp hnd).2 (h.next hnd))
          (fun _ h => h.2) (fun _ _ h => h) fun _ h => h

theorem ensureRules_steady (nets : IPNetParser) (hwf : WellFormed c) (haddr : c.addressOf lb₁.ipAddrID = lb₁.ipAddr)
    (hnd : (svc.ports.map (portRuleName lb₁.name svc)).Nodup) (h : Pending svc lb₁ c svc.ports lb₁.rules) :
    Triple (OnTables (Unchanged c)) (ensureRules nets svc lb₁) (fun _ => OnTables (Unchanged c))
      (OnTables (Unchanged c)) := by
  refine Triple.bind (ensurePorts_steady nets hwf haddr svc.ports lb₁.rules hnd h) fun lb =>
    Triple.of_pre_imp (fun _ h => h.1) fun hnil => ?_
  have hstale : Triple (fun c' => lb.rules = [] ∧ OnTables (Unchanged c) c') (rangeOver lb.rules)
      (fun stale c' => OnTables (Unchanged c) c' ∧ stale.Perm lb.rules) (OnTables (Unchanged c)) :=
    Triple.rangeOver _ fun _ h _ hperm => ⟨h.2, hperm⟩
  refine Triple.bind hstale fun stale => Triple.of_pre fun hperm => ?_
  rw [hnil, List.perm_nil] at hperm
  subst hperm
  exact Triple.pure_bind _ (Triple.pure _ fun _ h => h)

theorem ensureWithAddress_keeps_of_rules (nets : IPNetParser) {I : Cloud → Prop}
    (h : Triple I (ensureRules nets ( setServiceAnnotation svc serviceAnnotationLoadBalancerAddress lb₁.ipAddr) lb₁)
      (fun _ => I) I) :
    Triple I (ensureWithAddress nets svc lb₁ false) (fun _ => I) I := by
  unfold ensureWithAddress
  refine Triple.bind (Triple.outcome h) fun r => ?_
  cases r with
  | ok => exact Triple.bind (patch_keeps _ _ _) fun _ => Triple.pure _ fun _ h => h
  | error e => exact Triple.pure_bind _ (Triple.bind (patch_keeps _ _ _) fun _ => Triple.pure _ fun _ h => h)

/-- A first port whose rule is missing and whose create is refused fails the run, changing no rule. -/
theorem ensureRules_refused (nets : IPNetParser) (hports : svc.ports = p :: ports)
    (hmiss : ∀ x ∈ lb₁.rules, x.name ≠ portRuleName lb₁.name svc p) {r : LbRow} (hr : r ∈ c.lbRules)
    (hip : r.publicipid = lb₁.ipAddrID) (hport : r.publicport = itoa p.port.toInt) :
    Triple (OnTables (Unchanged c)) (ensureRules nets svc lb₁) (fun _ _ => False) (OnTables (Unchanged c)) := by
  unfold ensureRules
  rw [hports]
  refine Triple.bind (Triple.bind (?_ : Triple _ (ensurePort nets svc lb₁ p) (fun _ _ => False) _)
    fun _ => Triple.of_false) fun _ => Triple.of_false
  simp only [ensurePort]
  split
  · exact Triple.throw_bind _ fun _ h => h
  refine Triple.pure_bind _ (Triple.bind ?_ fun _ => Triple.of_false)
  have hnone : lb₁.rule? (portRuleName lb₁.name svc p) = none :=
    List.find?_eq_none.mpr fun x hx => by simpa using hmiss x hx
  unfold ensurePortRule checkLoadBalancerRule
  unfold portRuleName at hnone
  rw [hnone]
  refine Triple.pure_bind _ (Triple.bind (Triple.withPrefix _ (Triple.remoteTry _ _ (fun c' _ _ hc hop => ?_)
    fun _ h => h)) fun _ => Triple.of_false)
  exact c'.createLoadBalancerRule_refused (hc.1 ▸ hr) hip hport hop

end Pending

theorem Converged.pending {clusterName : String} {svc : Service} {c₀ : Cloud} {lb : LoadBalancer} {c : Cloud}
    (h : Converged clusterName svc c₀ lb c) {lb₁ : LoadBalancer} (hname : lb₁.name = lb.name)
    (hipid : lb₁.ipAddrID = lb.ipAddrID) (halg : lb₁.algorithm = lb.algorithm)
    (hrules : lb₁.rules = (addRules ⟨lb.name, "", [], "", "", "", []⟩ (c.listLoadBalancerRules lb.name)).rules)
    (value : String) :
    Pending ( setServiceAnnotation svc serviceAnnotationLoadBalancerAddress value) lb₁ c svc.ports lb₁.rules := by
  have hserves : ∀ p r, Serves svc lb p r ↔
      Serves ( setServiceAnnotation svc serviceAnnotationLoadBalancerAddress value) lb₁ p r := fun _ _ =>
    (Serves.congr_lb hname hipid halg).trans (serves_annotated _).symm
  refine ⟨fun p hp => (h.served p hp).imp fun r ⟨hr, hs⟩ => ⟨hr, (hserves p r).mp hs⟩, fun x hx => ?_,
    fun p _ r hr hs => ?_⟩
  · rcases addRules_rules _ _ x (hrules ▸ hx) with hx | hx
    · exact absurd hx (List.not_mem_nil _)
    · obtain ⟨r, hr, rfl, hm⟩ := mem_listLoadBalancerRules hx
      obtain ⟨p, hp, hs⟩ := h.only r hr hm
      exact ⟨p, hp, r, hr, rfl, (hserves p r).mp hs⟩
  · rw [hrules]
    exact mem_addRules _ _ (h.wf.keys_listLoadBalancerRules _) _
      (view_mem_listLoadBalancerRules hr (keywordMatches_of_portRuleName ((hserves p r).mpr hs).name))

theorem Converged.ipAddrID_ne {clusterName : String} {svc : Service} {c₀ : Cloud} {lb : LoadBalancer} {c : Cloud}
    (h : Converged clusterName svc c₀ lb c) (hids : ∀ ip ∈ c₀.ips, ip.id ≠ "") : lb.ipAddrID ≠ "" := by
  rcases h.id_mem with hm | he
  · obtain ⟨ip, hip, hid⟩ := List.mem_map.mp hm
    exact hid ▸ hids ip hip
  · exact he ▸ fresh_ne_empty _

theorem ensureAddress_steady {clusterName : String} {svc : Service} {c₀ : Cloud} {lb : LoadBalancer} {c : Cloud}
    (h : Converged clusterName svc c₀ lb c) (hports : svc.ports ≠ []) (hid : lb.ipAddrID ≠ "") (nodes : List Node) :
    Triple (fun c' => c' = c) (ensureAddress clusterName svc nodes)
      (fun r c' => c' = c ∧ r.2 = false ∧ r.1.algorithm = lb.algorithm ∧ r.1.ipAddr = lb.ipAddr ∧
        r.1.ipAddrID = lb.ipAddrID ∧
        (r.1.name = lb.name ∨ (r.1.name = getLoadBalancerName clusterName svc ∧
          lb.name = getLoadBalancerLegacyName svc ∧ c₀.listLoadBalancerRules (getLoadBalancerName clusterName svc) = [])) ∧
        r.1.rules = (addRules ⟨r.1.name, "", [], "", "", "", []⟩ (c.listLoadBalancerRules r.1.name)).rules)
      (fun c' => c' = c) := by
  unfold ensureAddress
  refine Triple.bind (getLoadBalancerByName_converged h hports) fun lb' =>
    Triple.of_pre_imp (fun _ h => h.2) fun ⟨K, hK, hne, hlb⟩ => ?_
  obtain ⟨-, hip, hipid⟩ := h.addRules_keyword hports hK hne
  have hname : lb'.name = K := by rw [hlb, addRules_name]
  rw [← hlb] at hip hipid
  split
  · exact Triple.throw _ fun _ h => h.1
  · next algorithm halg =>
    have halg : algorithm = lb.algorithm := Except.ok.inj (halg.symm.trans h.algorithm)
    refine Triple.bind (verifyHosts_keeps _ fun _ h => h.1) fun ⟨hostIDs, networkID⟩ => ?_
    dsimp only
    rw [if_pos (by simp [LoadBalancer.hasLoadBalancerIP, hip, hipid, h.address_ne, hid])]
    exact Triple.pure _ fun _ hc => ⟨hc.1, rfl, halg, hip, hipid, hname ▸ h.keyword_cases hports hK,
      by rw [hname, hlb]⟩

/-- On a converged platform a run keeps every rule and every address, whichever calls fail. -/
theorem ensureLoadBalancer_steady (nets : IPNetParser) {clusterName : String} {svc : Service} {c₀ : Cloud}
    {lb : LoadBalancer} {c : Cloud} (h : Converged clusterName svc c₀ lb c) (hports : svc.ports ≠ [])
    (hnd : (svc.ports.map (portRuleName (getLoadBalancerName clusterName svc) svc)).Nodup)
    (hlegacy : ∀ p ∈ svc.ports,
      ¬ (getLoadBalancerName clusterName svc).data <:+: (portRuleName (getLoadBalancerLegacyName svc) svc p).data)
    (hid : lb.ipAddrID ≠ "") (nodes : List Node) :
    Triple (fun c' => c' = c) (ensureLoadBalancer nets clusterName svc nodes) (fun _ => OnTables (Unchanged c))
      (OnTables (Unchanged c)) := by
  unfold ensureLoadBalancer
  rw [if_neg (by simpa [List.isEmpty_iff] using hports)]
  refine Triple.bind (Triple.outcome (ensureAddress_steady h hports hid nodes)) fun r => ?_
  rcases r with e | ⟨lb₁, release⟩
  · exact Triple.bind (patch_keeps _ _ _) fun _ => Triple.pure _ fun _ hc => hc ▸ ⟨rfl, rfl⟩
  refine Triple.of_pre_imp (fun _ h => h.2) fun ⟨hrel, halg, hip, hipid, hname, hrules⟩ => ?_
  dsimp only at hrel
  subst hrel
  refine Triple.conseq (ensureWithAddress_keeps_of_rules nets ?_) (fun _ hc => hc.1 ▸ ⟨rfl, rfl⟩)
    (fun _ _ h => h) fun _ h => h
  rcases hname with hname | ⟨hN, hL, hc₀⟩
  · -- every port finds its rule in place
    have haddr : c.addressOf lb₁.ipAddrID = lb₁.ipAddr := by rw [hipid, hip]; exact h.address
    rw [hname] at hrules
    exact ensureRules_steady nets h.wf haddr (by rw [portRuleName_annotated]; exact (nodup_portRuleName_iff _ _ _ _).mp hnd)
      (h.pending hname hipid halg hrules _)
  · -- the first port's rule under the canonical name is missing, and its create is refused
    obtain ⟨p, ports, hps⟩ := List.exists_cons_of_ne_nil hports
    obtain ⟨r, hr, hs⟩ := h.served p (hps ▸ List.mem_cons_self _ _)
    refine (ensureRules_refused nets
      (show ( setServiceAnnotation svc serviceAnnotationLoadBalancerAddress lb₁.ipAddr).ports = p :: ports from hps)
      (fun x hx => ?_) hr (hs.publicipid.trans hipid.symm) hs.publicport).conseq
      (fun _ h => h) (fun _ _ h => h.elim) fun _ h => h
    rw [portRuleName_annotated, hN]
    rw [hrules, hN] at hx
    rcases addRules_rules _ _ x hx with hx | hx
    · exact absurd hx (List.not_mem_nil _)
    · exact h.ne_portRuleName_of_legacy hc₀ (hL ▸ hlegacy) hx p

/-- Running `EnsureLoadBalancer` again, for the same Service or for the Service the first run
returned, with any nodes and whichever calls fail, leaves the rules and the addresses as the first
run left them, provided the platform's address ids are not empty. -/
theorem ensureLoadBalancer_idempotent (nets : IPNetParser) (clusterName : String) (svc : Service)
    (nodes : List Node) (rt : Runtime) (w : World) (hwf : WellFormed w.cloud)
    (hnd : (svc.ports.map (portRuleName (getLoadBalancerName clusterName svc) svc)).Nodup)
    (hids : ∀ ip ∈ w.cloud.ips, ip.id ≠ "")
    (hlegacy : ∀ p ∈ svc.ports,
      ¬ (getLoadBalancerName clusterName svc).data <:+: (portRuleName (getLoadBalancerLegacyName svc) svc p).data)
    {res : EnsureResult} (hok : (ensureLoadBalancer nets clusterName svc nodes rt w).1 = .ok res)
    (hst : res.status ≠ none) (svc' : Service) (hsvc : svc' = svc ∨ svc' = res.service) (nodes' : List Node)
    (rt' : Runtime) :
    (ensureLoadBalancer nets clusterName svc' nodes' rt' (ensureLoadBalancer nets clusterName svc nodes rt w).2).2.cloud.lbRules =
        (ensureLoadBalancer nets clusterName svc nodes rt w).2.cloud.lbRules ∧
      (ensureLoadBalancer nets clusterName svc' nodes' rt' (ensureLoadBalancer nets clusterName svc nodes rt w).2).2.cloud.ips =
        (ensureLoadBalancer nets clusterName svc nodes rt w).2.cloud.ips := by
  obtain ⟨lb, -, h, hres⟩ := (Triple.of_ok (ensureLoadBalancer_converging nets clusterName svc nodes w.cloud hwf hnd)
    rfl hok).2 hst
  have hid := h.ipAddrID_ne hids
  have hports := ports_ne_nil_of_status hok hst
  rcases hsvc with rfl | rfl
  · exact Triple.run_post (ensureLoadBalancer_steady nets h hports hnd hlegacy hid nodes') rt' _ rfl
  · rw [hres]
    exact Triple.run_post (ensureLoadBalancer_steady nets (h.annotated _) hports
      (by rwa [portRuleName_annotated]) (by rwa [portRuleName_annotated]) hid nodes') rt' _ rfl

theorem ensureLoadBalancer_idempotent_on_sample :
    WellFormed sampleCloud ∧ (webService.ports.map (portRuleName (getLoadBalancerName "c" webService) webService)).Nodup ∧
      (∀ ip ∈ sampleCloud.ips, ip.id ≠ "") ∧
      (∀ p ∈ webService.ports, ¬ (getLoadBalancerName "c" webService).data <:+:
        (portRuleName (getLoadBalancerLegacyName webService) webService p).data) ∧
      (ensureLoadBalancer .literal "c" webService sampleNodes (Runtime.reliable .inOrder) (World.init sampleCloud)).1 =
        .ok ⟨some ⟨[⟨"0", ""⟩]⟩, none, setServiceAnnotation webService serviceAnnotationLoadBalancerAddress "0"⟩ ∧
      (ensureLoadBalancer .literal "c" ( setServiceAnnotation webService serviceAnnotationLoadBalancerAddress "0") sampleNodes
          (Runtime.reliable .inOrder) (ensureLoadBalancer .literal "c" webService sampleNodes (Runtime.reliable .inOrder)
            (World.init sampleCloud)).2).2.cloud.lbRules =
          (ensureLoadBalancer .literal "c" webService sampleNodes (Runtime.reliable .inOrder)
            (World.init sampleCloud)).2.cloud.lbRules ∧
        (ensureLoadBalancer .literal "c" ( setServiceAnnotation webService serviceAnnotationLoadBalancerAddress "0") sampleNodes
          (Runtime.reliable .inOrder) (ensureLoadBalancer .literal "c" webService sampleNodes (Runtime.reliable .inOrder)
            (World.init sampleCloud)).2).2.cloud.ips =
          (ensureLoadBalancer .literal "c" webService sampleNodes (Runtime.reliable .inOrder)
            (World.init sampleCloud)).2.cloud.ips := by
  have hwf : WellFormed sampleCloud := ⟨by decide, by decide⟩
  have hnd : (webService.ports.map (portRuleName (getLoadBalancerName "c" webService) webService)).Nodup :=
    List.nodup_singleton _
  have hok : (ensureLoadBalancer .literal "c" webService sampleNodes (Runtime.reliable .inOrder)
      (World.init sampleCloud)).1 =
        .ok ⟨some ⟨[⟨"0", ""⟩]⟩, none, setServiceAnnotation webService serviceAnnotationLoadBalancerAddress "0"⟩ := by
    rw [ensureLoadBalancer_of_address (by decide) (by decide :
      (ensureAddress "c" webService sampleNodes (Runtime.reliable .inOrder) (World.init sampleCloud)).1 =
        .ok (⟨"K8s_svc_c_default_web", "roundrobin", ["vm-1"], "0", "0", "net-1", []⟩, true))]
    decide
  have hlegacy : ∀ p ∈ webService.ports, ¬ (getLoadBalancerName "c" webService).data <:+:
      (portRuleName (getLoadBalancerLegacyName webService) webService p).data := by decide
  have hids : ∀ ip ∈ sampleCloud.ips, ip.id ≠ "" := by decide
  exact ⟨hwf, hnd, hids, hlegacy, hok, ensureLoadBalancer_idempotent .literal "c" webService sampleNodes
    (Runtime.reliable .inOrder) (World.init sampleCloud) hwf hnd hids hlegacy hok (by decide)
    ( setServiceAnnotation webService serviceAnnotationLoadBalancerAddress "0") (.inr rfl) sampleNodes (Runtime.reliable .inOrder)⟩

/-! ### A second UpdateLoadBalancer

`UpdateLoadBalancer` (lines 395-439) only assigns the wanted hosts a rule lacks and removes the
VMs that are not wanted. Once a call has returned, every rule the locator finds has exactly the
hosts of the nodes, so another call with the same nodes makes no change, whichever of its
calls fail.
-/

theorem verifyHosts_matched (nodes : List Node) (c₀ : Cloud) :
    Triple (fun c => c = c₀) (verifyHosts nodes)
      (fun r c => c = c₀ ∧ matchHosts (nodes.map nodeHostName) c₀.vms [] "" = .ok r ∧ r.1 ≠ [] ∧ r.2 ≠ "")
      (fun c => c = c₀) := by
  refine Triple.bind (Triple.withPrefix _ (Triple.query_eq _ _ c₀ rfl)) fun vms => Triple.of_pre fun hvms => ?_
  subst hvms
  split
  · exact Triple.throw _ fun _ h => h
  · next hm =>
    split
    · exact Triple.throw _ fun _ h => h
    · next hne => exact Triple.pure _ fun _ h => ⟨h, hm, by simpa [String.isEmpty_iff, not_or] using hne⟩

theorem symmetricDifference_triple {P E : Cloud → Prop} (hostIDs lbInstances : List String)
    (hI : lbInstances.Nodup) :
    Triple P (symmetricDifference hostIDs lbInstances)
      (fun r c => P c ∧ (∀ v, v ∈ r.1 ↔ v ∈ hostIDs ∧ v ∉ lbInstances) ∧
        ∀ v, v ∈ r.2 ↔ v ∈ lbInstances ∧ v ∉ hostIDs) E := by
  intro rt w hw
  obtain ⟨assign, remove, hrun, -, ha, hr⟩ := symmetricDifference_spec hostIDs lbInstances hI rt w
  rw [hrun]
  exact ⟨hw, ha, hr⟩

theorem keyword_eq_of_listed {name legacyName K K' : String} {c : Cloud}
    (hK : K = name ∨ (K = legacyName ∧ c.listLoadBalancerRules name = []))
    (hK' : K' = name ∨ (K' = legacyName ∧ c.listLoadBalancerRules name = []))
    (hne : c.listLoadBalancerRules K ≠ []) (hne' : c.listLoadBalancerRules K' ≠ []) : K = K' := by
  rcases hK with rfl | ⟨rfl, hN⟩ <;> rcases hK' with rfl | ⟨rfl, hN'⟩
  · rfl
  · exact absurd hN' hne
  · exact absurd hN hne'
  · rfl

theorem HostsOnly.listLoadBalancerRules_eq {ids : List String} {c₀ c : Cloud} (h : HostsOnly ids c₀ c)
    (keyword : String) : c.listLoadBalancerRules keyword = c₀.listLoadBalancerRules keyword := by
  have hlist : ∀ d : Cloud, d.listLoadBalancerRules keyword =
      ((d.lbRules.map LbRow.withoutInstances).filter (keywordMatches keyword)).map d.view :=
    fun d => by simp only [Cloud.listLoadBalancerRules, List.filter_map, List.map_map]; rfl
  have hview : c.view = c₀.view := by unfold Cloud.view Cloud.addressOf; rw [h.ips]
  rw [hlist, hlist, h.rows, hview]

/-- Every rule the locator may return on `c` has as VMs exactly `hostIDs`, each once. -/
def HostsInPlace (name legacyName : String) (hostIDs : List String) (c : Cloud) : Prop :=
  ∀ K, (K = name ∨ (K = legacyName ∧ c.listLoadBalancerRules name = [])) →
    ∀ x ∈ (addRules ⟨K, "", [], "", "", "", []⟩ (c.listLoadBalancerRules K)).rules,
      (c.listLoadBalancerRuleInstances x.id).Nodup ∧
        ∀ v, v ∈ c.listLoadBalancerRuleInstances x.id ↔ v ∈ hostIDs

section HostsInPlace

variable {hostIDs : List String} {c : Cloud}

theorem updateRuleHost_steady {x : LoadBalancerRule} (hnd : (c.listLoadBalancerRuleInstances x.id).Nodup)
    (hset : ∀ v, v ∈ c.listLoadBalancerRuleInstances x.id ↔ v ∈ hostIDs) :
    Triple (fun c' => c' = c) (updateRuleHost hostIDs x) (fun _ c' => c' = c) (fun c' => c' = c) := by
  refine Triple.bind (Triple.withPrefix _ (Triple.query_eq _ _ c rfl)) fun l => Triple.of_pre fun hl => ?_
  subst hl
  refine Triple.bind (symmetricDifference_triple _ _ hnd) fun ⟨assign, remove⟩ =>
    Triple.of_pre_imp (fun _ h => h.2) fun ⟨ha, hr⟩ => ?_
  obtain rfl : assign = [] := List.eq_nil_iff_forall_not_mem.mpr fun v hv =>
    ((ha v).mp hv).2 ((hset v).mpr ((ha v).mp hv).1)
  obtain rfl : remove = [] := List.eq_nil_iff_forall_not_mem.mpr fun v hv =>
    ((hr v).mp hv).2 ((hset v).mp ((hr v).mp hv).1)
  exact Triple.pure_bind _ (Triple.pure _ fun _ h => h.1)

theorem updateRuleHosts_steady : ∀ rules : List LoadBalancerRule,
    (∀ x ∈ rules, (c.listLoadBalancerRuleInstances x.id).Nodup ∧
      ∀ v, v ∈ c.listLoadBalancerRuleInstances x.id ↔ v ∈ hostIDs) →
    Triple (fun c' => c' = c) (updateRuleHosts hostIDs rules) (fun _ c' => c' = c) (fun c' => c' = c)
  | [], _ => Triple.pure _ fun _ h => h
  | x :: rest, h => Triple.bind (updateRuleHost_steady (h x (List.mem_cons_self _ _)).1 (h x (List.mem_cons_self _ _)).2)
      fun _ => updateRuleHosts_steady rest fun y hy => h y (List.mem_cons_of_mem _ hy)

theorem updateLoadBalancer_steady {clusterName : String} {svc : Service} {nodes : List Node} {networkID : String}
    (hmatch : matchHosts (nodes.map nodeHostName) c.vms [] "" = .ok (hostIDs, networkID))
    (h : HostsInPlace (getLoadBalancerName clusterName svc) (getLoadBalancerLegacyName svc) hostIDs c) :
    Triple (fun c' => c' = c) (updateLoadBalancer clusterName svc nodes) (fun _ c' => c' = c)
      (fun c' => c' = c) := by
  unfold updateLoadBalancer
  refine Triple.bind (getLoadBalancerByName_picks _ _ c) fun lb =>
    Triple.of_pre_imp (fun _ h => h.2) fun hlb => Triple.conseq (?_ : Triple (fun c' => c' = c) _ _ _)
      (fun _ h => h.1) (fun _ _ h => h) fun _ h => h
  refine Triple.bind (verifyHosts_matched nodes c) fun ⟨hostIDs', networkID'⟩ =>
    Triple.of_pre_imp (fun _ h => h.2.1) fun hm => ?_
  rw [hmatch] at hm
  cases hm
  refine Triple.bind (Triple.rangeOver _ fun c' hc rules hperm =>
    (⟨hc.1, hperm⟩ : c' = c ∧ rules.Perm lb.rules)) fun rules => Triple.of_pre fun hperm => ?_
  refine updateRuleHosts_steady rules fun x hx => ?_
  replace hx := hperm.mem_iff.mp hx
  rcases hlb with ⟨K, hK, -, rfl⟩ | ⟨-, -, hnil⟩
  · exact h K hK x hx
  · exact absurd (hnil ▸ hx) (List.not_mem_nil _)

end HostsInPlace

/-- A second call of `UpdateLoadBalancer` with the same nodes, after one that returned, leaves
the platform as the first left it, whichever of its calls fail. -/
theorem updateLoadBalancer_idempotent (clusterName : String) (svc : Service) (nodes : List Node) (rt : Runtime)
    (w : World) (hsets : ∀ row ∈ w.cloud.lbRules, row.instances.Nodup)
    (hok : (updateLoadBalancer clusterName svc nodes rt w).1 = .ok ()) (rt' : Runtime) :
    (updateLoadBalancer clusterName svc nodes rt' (updateLoadBalancer clusterName svc nodes rt w).2).2.cloud =
      (updateLoadBalancer clusterName svc nodes rt w).2.cloud := by
  have hhosts := updateLoadBalancer_changes_only_hosts clusterName svc nodes rt w
  generalize hw' : (updateLoadBalancer clusterName svc nodes rt w).2 = w' at hhosts ⊢
  have h : updateLoadBalancer clusterName svc nodes rt w = (.ok (), w') := Prod.ext hok hw'
  unfold updateLoadBalancer at h
  obtain ⟨lb, w₁, hlb, h⟩ := CloudM.bind_eq_ok.mp h
  obtain ⟨⟨hostIDs, networkID⟩, w₂, hv, h⟩ := CloudM.bind_eq_ok.mp h
  obtain ⟨rules, w₃, hr, h⟩ := CloudM.bind_eq_ok.mp h
  obtain ⟨rfl, rfl⟩ : rt.sched.visit w₂.loops lb.rules = rules ∧ { w₂ with loops := w₂.loops + 1 } = w₃ := by
    simpa [rangeOver] using hr
  have hpick := Triple.of_ok (getLoadBalancerByName_picks _ _ w.cloud) rfl (congrArg Prod.fst hlb)
  have hmatch := Triple.of_ok (verifyHosts_matched nodes w₁.cloud) rfl (congrArg Prod.fst hv)
  rw [hlb] at hpick
  rw [hv] at hmatch
  have hcloud : w₂.cloud = w.cloud := hmatch.1.trans hpick.1
  have hsets₃ : ∀ row ∈ ({ w₂ with loops := w₂.loops + 1 } : World).cloud.lbRules, row.instances.Nodup :=
    hcloud ▸ hsets
  have hsync := updateRuleHosts_synced _ (HostsSynced.start hsets₃) h
  have hvms : matchHosts (nodes.map nodeHostName) w'.cloud.vms [] "" = .ok (hostIDs, networkID) := by
    rw [hhosts.vms, ← hpick.1]
    exact hmatch.2.1
  refine Triple.run_post (updateLoadBalancer_steady hvms fun K hK x hx => ?_) rt' w' rfl
  rw [hhosts.listLoadBalancerRules_eq] at hK hx
  have hxK : x ∈ w.cloud.listLoadBalancerRules K := by
    simpa using addRules_rules _ _ x hx
  -- the first run located the same rules
  have hxlb : x ∈ lb.rules := by
    rcases hpick.2 with ⟨K₀, hK₀, hne₀, rfl⟩ | ⟨hN, hL, -⟩
    · rwa [keyword_eq_of_listed hK₀ hK hne₀ (List.ne_nil_of_mem hxK)]
    · rcases hK with rfl | ⟨rfl, -⟩
      · exact absurd (hN ▸ hxK) (List.not_mem_nil _)
      · rcases hL with hL | hL
        · exact absurd hL (getLoadBalancerLegacyName_ne_empty svc)
        · exact absurd (hL ▸ hxK) (List.not_mem_nil _)
  obtain ⟨r, hr, rfl, -⟩ := mem_listLoadBalancerRules hxK
  refine ⟨hsync.sets _, hsync.synced _ ?_ ?_⟩
  · simpa using ⟨_, (rt.sched.visit_perm _ _).mem_iff.mpr hxlb, rfl⟩
  · simpa [hcloud] using ⟨r, hr, rfl⟩

theorem updateLoadBalancer_idempotent_on_drifted_rule :
    (∀ row ∈ driftedCloud.lbRules, row.instances.Nodup) ∧
      (updateLoadBalancer "c" webService sampleNodes (Runtime.reliable .inOrder) (World.init driftedCloud)).1 =
        .ok () ∧
      (updateLoadBalancer "c" webService sampleNodes (Runtime.reliable .inOrder)
          (updateLoadBalancer "c" webService sampleNodes (Runtime.reliable .inOrder) (World.init driftedCloud)).2).2.cloud =
        (updateLoadBalancer "c" webService sampleNodes (Runtime.reliable .inOrder) (World.init driftedCloud)).2.cloud :=
  ⟨by decide, by decide, updateLoadBalancer_idempotent _ _ _ _ _ (by decide) (by decide) _⟩

end CloudStackLB
