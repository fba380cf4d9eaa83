import CloudStackLB.Teardown

/-! # What the locator lets a run reach

`getLoadBalancerByName` (`loadbalancer.go:508-559`) lists the rules by CloudStack's `keyword`,
which matches every rule whose name or description is `LIKE` it, and the runs of
`EnsureLoadBalancer`, `UpdateLoadBalancer` and `EnsureLoadBalancerDeleted` act on what it returns.
So a run reaches the rules the Service's canonical name matches, or, when there are none, those
its legacy name matches, whoever created them. The name of `default/web` is part of the rule
names of `default/web-api`, and its `_` matches the `-` of `default-web/x`: the runs of the first
reach the rules of the others. For a teardown that reach
is also a bound: it leaves everything off the addresses of those rules.
-/

namespace CloudStackLB

/-- The load balancer the locator returns on the platform `c`: under the canonical name, or under
the legacy name when the canonical one lists no rule, with rules its name lists. -/
structure Found (name legacyName : String) (lb : LoadBalancer) (c : Cloud) : Prop where
  name_eq : lb.name = name ∨ (lb.name = legacyName ∧ c.listLoadBalancerRules name = [])
  rules_match : ∀ x ∈ lb.rules, ∃ r ∈ c.lbRules, x = c.view r ∧ keywordMatches lb.name r

theorem mem_listLoadBalancerRules {c : Cloud} {keyword : String} {x : LoadBalancerRule}
    (h : x ∈ c.listLoadBalancerRules keyword) : ∃ r ∈ c.lbRules, x = c.view r ∧ keywordMatches keyword r := by
  simp only [Cloud.listLoadBalancerRules, List.mem_map, List.mem_filter] at h
  obtain ⟨r, ⟨hr, hm⟩, rfl⟩ := h
  exact ⟨r, hr, rfl, hm⟩

theorem addRules_listLoadBalancerRules (c : Cloud) (keyword : String) (lb : LoadBalancer)
    (hrules : lb.rules = []) (hname : lb.name = keyword) :
    ∀ x ∈ (addRules lb (c.listLoadBalancerRules keyword)).rules,
      ∃ r ∈ c.lbRules, x = c.view r ∧ keywordMatches (addRules lb (c.listLoadBalancerRules keyword)).name r := by
  intro x hx
  rcases addRules_rules _ _ x hx with h | h
  · exact absurd (hrules ▸ h) (List.not_mem_nil _)
  · rw [addRules_name, hname]
    exact mem_listLoadBalancerRules h

theorem getLoadBalancerByName_found (name legacyName : String) (c₀ : Cloud) :
    Triple (fun c => c = c₀) (getLoadBalancerByName name legacyName)
      (fun lb c => c = c₀ ∧ Found name legacyName lb c₀) (fun c => c = c₀) := by
  unfold getLoadBalancerByName
  refine Triple.bind (Triple.withPrefix _ (Triple.query_eq _ _ c₀ rfl)) fun l => Triple.of_pre fun hl => ?_
  subst hl
  split
  · next hnil =>
    refine Triple.ite ?_ (Triple.pure _ fun c hc => ⟨hc, .inl rfl, fun x hx => absurd hx (List.not_mem_nil _)⟩)
    refine Triple.bind (Triple.withPrefix _ (Triple.query_eq _ _ c₀ rfl)) fun l => Triple.of_pre fun hl => ?_
    subst hl
    refine Triple.pure _ fun c hc => ⟨hc, ?_⟩
    split
    · next hleg =>
      rw [List.isEmpty_iff.mp hleg]
      exact ⟨.inl rfl, fun x hx => absurd hx (List.not_mem_nil _)⟩
    · exact ⟨.inr ⟨addRules_name _ _, List.isEmpty_iff.mp hnil⟩, addRules_listLoadBalancerRules _ _ _ rfl rfl⟩
  · exact Triple.pure _ fun c hc =>
      ⟨hc, .inl (addRules_name _ _), addRules_listLoadBalancerRules _ _ _ rfl rfl⟩

/-! ### What a teardown leaves alone

A teardown deletes the firewall rules on the addresses of the rules the locator lists, then those
rules, and releases the load balancer's address, which takes every rule on it. So whatever calls
fail and in whatever order the rules are visited, every rule, firewall rule and address off the
addresses of the rules the Service's names list stays.
-/

/-- The rules `name` or `legacyName` lists: those the locator may return. -/
def reachedRows (name legacyName : String) (c : Cloud) : List LbRow :=
  c.lbRules.filter fun r => keywordMatches name r || keywordMatches legacyName r

/-- The addresses of the rules `name` or `legacyName` lists. -/
def reachedAddresses (name legacyName : String) (c : Cloud) : List String :=
  (reachedRows name legacyName c).map LbRow.publicipid

/-- Everything of `c₀` off the addresses `A` is still on `c`. -/
structure Spares (A : List String) (c₀ c : Cloud) : Prop where
  lbRules : ∀ row ∈ c₀.lbRules, row.publicipid ∉ A → row ∈ c.lbRules
  fwRules : ∀ fw ∈ c₀.fwRules, fw.ipaddressid ∉ A → fw ∈ c.fwRules
  ips : ∀ ip ∈ c₀.ips, ip.id ∉ A → ip ∈ c.ips

/-- A rule as the client returns it for a row of `c₀` on one of the addresses `A`. -/
def OnReached (A : List String) (c₀ : Cloud) (x : LoadBalancerRule) : Prop :=
  ∃ r ∈ c₀.lbRules, r.id = x.id ∧ r.publicipid = x.publicipid ∧ r.publicipid ∈ A

theorem mem_reachedRows {name legacyName : String} {c : Cloud} {r : LbRow} (hr : r ∈ c.lbRules)
    (hm : keywordMatches name r ∨ keywordMatches legacyName r) : r ∈ reachedRows name legacyName c :=
  List.mem_filter.mpr ⟨hr, by simpa using hm⟩

theorem mem_reachedAddresses {name legacyName : String} {c : Cloud} {r : LbRow} (hr : r ∈ c.lbRules)
    (hm : keywordMatches name r ∨ keywordMatches legacyName r) :
    r.publicipid ∈ reachedAddresses name legacyName c :=
  List.mem_map_of_mem _ (mem_reachedRows hr hm)

theorem Found.rules_mem_reachedRows {name legacyName : String} {lb : LoadBalancer} {c₀ : Cloud}
    (h : Found name legacyName lb c₀) : ∀ x ∈ lb.rules, ∃ r ∈ reachedRows name legacyName c₀, x = c₀.view r := by
  intro x hx
  obtain ⟨r, hr, rfl, hm⟩ := h.rules_match x hx
  refine ⟨r, mem_reachedRows hr ?_, rfl⟩
  rcases h.name_eq with hn | ⟨hn, -⟩ <;> rw [hn] at hm
  exacts [.inl hm, .inr hm]

theorem Found.onReached {name legacyName : String} {lb : LoadBalancer} {c₀ : Cloud}
    (h : Found name legacyName lb c₀) : ∀ x ∈ lb.rules, OnReached (reachedAddresses name legacyName c₀) c₀ x := by
  intro x hx
  obtain ⟨r, hr, rfl⟩ := h.rules_mem_reachedRows x hx
  exact ⟨r, (List.mem_filter.mp hr).1, rfl, rfl, List.mem_map_of_mem _ hr⟩

theorem addRules_address_reached {name legacyName keyword : String} (c : Cloud) (lb : LoadBalancer)
    (hlb : lb.ipAddr = "") (hk : keyword = name ∨ keyword = legacyName)
    (hip : (addRules lb (c.listLoadBalancerRules keyword)).ipAddr ≠ "") :
    (addRules lb (c.listLoadBalancerRules keyword)).ipAddrID ∈ reachedAddresses name legacyName c := by
  by_cases hl : c.listLoadBalancerRules keyword = []
  · rw [hl] at hip
    exact absurd hlb hip
  · obtain ⟨x, hx, -, hid⟩ := addRules_address lb _ hl
    obtain ⟨r, hr, rfl, hm⟩ := mem_listLoadBalancerRules hx
    rw [hid]
    exact mem_reachedAddresses hr (by rcases hk with rfl | rfl <;> simp [hm])

theorem getLoadBalancerByName_address (name legacyName : String) (c₀ : Cloud) :
    Triple (fun c => c = c₀) (getLoadBalancerByName name legacyName)
      (fun lb _ => lb.ipAddr ≠ "" → lb.ipAddrID ∈ reachedAddresses name legacyName c₀) (fun _ => True) := by
  unfold getLoadBalancerByName
  refine Triple.bind (Triple.withPrefix _ (Triple.query_eq _ _ c₀ trivial)) fun l => Triple.of_pre fun hl => ?_
  subst hl
  split
  · refine Triple.ite ?_ (Triple.pure _ fun _ _ h => absurd rfl h)
    refine Triple.bind (Triple.withPrefix _ (Triple.query_eq _ _ c₀ trivial)) fun l => Triple.of_pre fun hl => ?_
    subst hl
    exact Triple.pure _ fun _ _ => addRules_address_reached _ _ (by split <;> rfl) (.inr rfl)
  · exact Triple.pure _ fun _ _ => addRules_address_reached _ _ rfl (.inl rfl)

section Spares

variable {A : List String} {c₀ : Cloud}

theorem Spares.refl (A : List String) (c : Cloud) : Spares A c c :=
  ⟨fun _ h _ => h, fun _ h _ => h, fun _ h _ => h⟩

end Spares

/-- A Service whose name extends that of `webService`. -/
def webApiService : Service := ⟨"web-api", "default", "uid-2", [], [⟨"TCP", 80, 30081⟩], "None", "", []⟩

/-- The platform after `default/web-api` got its load balancer, every call succeeding. -/
def webApiWorld : World :=
  (ensureLoadBalancer .literal "c" webApiService sampleNodes (Runtime.reliable .inOrder) (World.init sampleCloud)).2

/-- A teardown of `default/web` after `default/web-api` got its load balancer deletes the rule of
`default/web-api` and releases its address. -/
theorem ensureLoadBalancerDeleted_removes_other_service :
    getLoadBalancerName "c" webService ≠ getLoadBalancerName "c" webApiService ∧
      webApiWorld.cloud.lbRules.map (fun row => (row.id, row.name, row.publicipid)) =
        [("0", getLoadBalancerName "c" webApiService ++ "-tcp-80", "0")] ∧
      (ensureLoadBalancerDeleted "c" webService (Runtime.reliable .inOrder) webApiWorld).1 = .ok () ∧
      ((ensureLoadBalancerDeleted "c" webService (Runtime.reliable .inOrder) webApiWorld).2.log.drop
          webApiWorld.log.length).map Prod.fst =
        [.listLoadBalancerRules (getLoadBalancerName "c" webService), .listFirewallRules "0",
          .deleteLoadBalancerRule "0", .disassociateIpAddress "0"] ∧
      (ensureLoadBalancerDeleted "c" webService (Runtime.reliable .inOrder) webApiWorld).2.cloud.lbRules = [] := by
  unfold webApiWorld
  rw [ensureLoadBalancer_of_address (by decide) (by decide :
    (ensureAddress "c" webApiService sampleNodes (Runtime.reliable .inOrder) (World.init sampleCloud)).1 =
      .ok (⟨"K8s_svc_c_default_web-api", "roundrobin", ["vm-1"], "0", "0", "net-1", []⟩, true))]
  decide

/-- A platform where `default/web` has its rule under its legacy name, on address `9`, and
`default/web-api` has a rule on address `8`. -/
def legacyCloud : Cloud :=
  ⟨[⟨"1", "auid1-tcp-80", "", "roundrobin", "tcp", "9", "30080", "80", ["vm-1"]⟩,
    ⟨"2", "K8s_svc_c_default_web-api-tcp-8080", "", "roundrobin", "tcp", "8", "30081", "8080", ["vm-1"]⟩], [],
    [⟨"9", "10.0.0.9"⟩, ⟨"8", "10.0.0.8"⟩], [⟨"net-1", "", []⟩], [⟨"vm-1", "node-1", [⟨"net-1"⟩]⟩],
    by decide, by decide, by decide, by decide, by decide⟩

/-- On `legacyCloud` the rule of `default/web-api` makes the locator pick the canonical name of
`default/web`: the run creates the canonical rule beside the legacy one. -/
theorem ensureLoadBalancer_creates_canonical_beside_legacy :
    legacyCloud.lbRules.map LbRow.name =
        [getLoadBalancerLegacyName webService ++ "-tcp-80", getLoadBalancerName "c" webApiService ++ "-tcp-8080"] ∧
      (ensureLoadBalancer .literal "c" webService sampleNodes (Runtime.reliable .inOrder)
          (World.init legacyCloud)).1.toOption.map EnsureResult.err = some none ∧
      (ensureLoadBalancer .literal "c" webService sampleNodes (Runtime.reliable .inOrder)
          (World.init legacyCloud)).2.cloud.lbRules.map LbRow.name =
        [getLoadBalancerLegacyName webService ++ "-tcp-80", getLoadBalancerName "c" webService ++ "-tcp-80"] := by
  rw [ensureLoadBalancer_of_address (by decide) (by decide :
    (ensureAddress "c" webService sampleNodes (Runtime.reliable .inOrder) (World.init legacyCloud)).1 =
      .ok (⟨"K8s_svc_c_default_web", "roundrobin", ["vm-1"], "10.0.0.8", "8", "net-1",
        [⟨"2", "K8s_svc_c_default_web-api-tcp-8080", "roundrobin", "tcp", "10.0.0.8", "8", "30081", "8080"⟩]⟩,
        false))]
  decide

end CloudStackLB
