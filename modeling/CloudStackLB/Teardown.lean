import CloudStackLB.Ownership

/-! # Teardown after any history

`EnsureLoadBalancerDeleted` (`loadbalancer.go:454-495`) finds the load balancer through its
rules only. On every platform that runs for one Service reach from an empty platform, whatever
calls failed, a successful teardown removes every rule of the Service and releases the address
they sat on. An address that no rule points to any more, because a compensating release failed
or a later run deleted its rules and then failed, is not found, and stays associated.
-/

namespace CloudStackLB

variable {name : String}

theorem ensureLoadBalancerDeleted_clears (clusterName : String) (svc : Service)
    (hname : getLoadBalancerName clusterName svc = name) (c₀ : Cloud) (hown : Owned name c₀.lbRules c₀.ips) :
    Triple (fun c => c = c₀) (ensureLoadBalancerDeleted clusterName svc)
      (fun _ c => c.lbRules = [] ∧ ∀ r ∈ c₀.lbRules, r.publicipid ∉ c.ips.map PublicIpAddress.id)
      (fun _ => True) := by
  subst hname
  refine Triple.bind (Triple.conseq (getLoadBalancerByName_located _ _ fun c (hc : c = c₀) => hc ▸ hown) (fun _ h => h)
    (fun _ _ h => h) fun _ _ => trivial) fun lb => ?_
  refine Triple.of_pre_imp (fun c h => h.1 ▸ h.2) fun hloc => ?_
  refine Triple.bind (Triple.rangeOver_keeps _) fun rules => ?_
  have hI : RowClosed fun rows ips => RowsWithin rows c₀.lbRules ∧ ips = c₀.ips :=
    fun _ _ _ h hw => ⟨hw.trans h.1, h.2⟩
  refine Triple.bind (Triple.conseq (deleteRulesAndFirewall_keeps hI rules lb)
    (fun c h => h.1 ▸ ⟨RowsWithin.refl _, rfl⟩) (fun _ _ h => h) fun _ _ => trivial) fun lb' =>
      Triple.of_pre fun hsame => ?_
  split
  · next hne =>
    have hrows : c₀.lbRules ≠ [] := fun h => hne (hsame.2.1 ▸ (hloc.empty h).1)
    obtain ⟨r, hr, hid, -⟩ := hloc.address hrows
    have hall : ∀ r' ∈ c₀.lbRules, r'.publicipid = lb'.ipAddrID :=
      fun r' hr' => (hown.shared r' hr' r hr).trans (hid.symm.trans hsame.2.2.symm)
    refine Triple.withPrefix _ (Triple.remote _ _ (fun c ⟨hw, hips⟩ => ⟨?_, ?_⟩) fun _ _ => trivial)
    · refine List.filter_eq_nil_iff.mpr fun r' hr' => ?_
      obtain ⟨s, hs, -, he⟩ := hw r' hr'
      simpa [← he] using hall s hs
    · intro r' hr'
      simp [Cloud.disassociateIpAddress, hall r' hr']
  · next hne =>
    have hrows : c₀.lbRules = [] := by
      by_contra hrows
      obtain ⟨r, hr, -, haddr⟩ := hloc.address hrows
      exact c₀.addressOf_ne_empty (hown.associated r hr) (fun ip h => (hown.addressed ip h).2)
        (haddr ▸ hsame.2.1 ▸ not_not.mp hne)
    refine Triple.pure _ fun c ⟨hw, _⟩ => ⟨?_, by simp [hrows]⟩
    rw [hrows] at hw
    exact List.eq_nil_iff_forall_not_mem.mpr fun r hr => by simpa using hw r hr

/-! ### Reachable platforms -/

/-- The platforms that runs for Services with the canonical name `name` reach from an empty one,
on any runtime: any call may fail, and map loops visit in any order. -/
inductive Reachable (name : String) : Cloud → Prop
  | empty (networks : List Network) (vms : List VirtualMachine) : Reachable name (Cloud.empty networks vms)
  | ensure (nets : IPNetParser) (clusterName : String) (svc : Service) (nodes : List Node) (rt : Runtime)
      (w : World) : getLoadBalancerName clusterName svc = name → Reachable name w.cloud →
      Reachable name (ensureLoadBalancer nets clusterName svc nodes rt w).2.cloud
  | update (clusterName : String) (svc : Service) (nodes : List Node) (rt : Runtime) (w : World) :
      Reachable name w.cloud → Reachable name (updateLoadBalancer clusterName svc nodes rt w).2.cloud
  | delete (clusterName : String) (svc : Service) (rt : Runtime) (w : World) :
      Reachable name w.cloud → Reachable name (ensureLoadBalancerDeleted clusterName svc rt w).2.cloud

theorem Reachable.owned {c : Cloud} (h : Reachable name c) : Owned name c.lbRules c.ips := by
  induction h with
  | empty => exact ⟨by simp [Cloud.empty], by simp [Cloud.empty], by simp [Cloud.empty], by simp [Cloud.empty]⟩
  | ensure nets clusterName svc nodes rt w hname _ ih =>
    exact Triple.keeps_run (ensureLoadBalancer_owned nets clusterName svc nodes hname) rt w ih
  | update clusterName svc nodes rt w _ ih => exact Triple.keeps_run (updateLoadBalancer_owned _ _ _) rt w ih
  | delete clusterName svc rt w _ ih => exact Triple.keeps_run (ensureLoadBalancerDeleted_owned _ _) rt w ih

/-- A successful `EnsureLoadBalancerDeleted` on a reachable platform leaves nothing for the
locator to find, and the address that carried the Service's rules is released. -/
theorem ensureLoadBalancerDeleted_releases_found_address {c : Cloud} (hc : Reachable name c)
    (clusterName : String) (svc : Service) (hname : getLoadBalancerName clusterName svc = name)
    (rt : Runtime) (w : World) (hw : w.cloud = c)
    (hok : (ensureLoadBalancerDeleted clusterName svc rt w).1 = .ok ()) :
    (∀ rt' lb w', getLoadBalancerByName (getLoadBalancerName clusterName svc) (getLoadBalancerLegacyName svc) rt'
        (ensureLoadBalancerDeleted clusterName svc rt w).2 = (.ok lb, w') → lb.rules = []) ∧
      ∀ r ∈ c.lbRules, r.publicipid ∉ (ensureLoadBalancerDeleted clusterName svc rt w).2.cloud.ips.map
        PublicIpAddress.id := by
  obtain ⟨hnil, hrel⟩ := (ensureLoadBalancerDeleted_clears clusterName svc hname c hc.owned).of_ok hw hok
  refine ⟨fun rt' lb w' hrun => ?_, hrel⟩
  have hown := (Reachable.delete clusterName svc rt w (hw ▸ hc)).owned
  have hloc := getLoadBalancerByName_located _ (getLoadBalancerLegacyName svc)
    (fun c (hc : c = (ensureLoadBalancerDeleted clusterName svc rt w).2.cloud) => hname ▸ hc ▸ hown) rt' _ rfl
  rw [hrun] at hloc
  obtain ⟨hc', hloc⟩ := hloc
  exact List.eq_nil_iff_forall_not_mem.mpr fun x hx => by
    obtain ⟨r, hr, -⟩ := hloc.rules_sub x hx
    simp [hc', hnil] at hr

theorem ensureLoadBalancerDeleted_after_ensure :
    let w := (ensureLoadBalancer .literal "c" webService sampleNodes (Runtime.reliable .inOrder)
      (World.init sampleCloud)).2
    let r := ensureLoadBalancerDeleted "c" webService (Runtime.reliable .inOrder) w
    Reachable (getLoadBalancerName "c" webService) w.cloud ∧
      getLoadBalancerName "c" webService = getLoadBalancerName "c" webService ∧ w.cloud = w.cloud ∧
      r.1 = .ok () ∧
      ((∀ rt' lb w', getLoadBalancerByName (getLoadBalancerName "c" webService)
          (getLoadBalancerLegacyName webService) rt' r.2 = (.ok lb, w') → lb.rules = []) ∧
        ∀ row ∈ w.cloud.lbRules, row.publicipid ∉ r.2.cloud.ips.map PublicIpAddress.id) := by
  intro w r
  have hreach : Reachable (getLoadBalancerName "c" webService) w.cloud :=
    .ensure _ _ _ _ _ _ rfl (.empty _ _)
  have hok : r.1 = .ok () := by
    simp only [r, w]
    rw [ensureLoadBalancer_of_address (by decide) (by decide :
      (ensureAddress "c" webService sampleNodes (Runtime.reliable .inOrder) (World.init sampleCloud)).1 =
        .ok (⟨"K8s_svc_c_default_web", "roundrobin", ["vm-1"], "0", "0", "net-1", []⟩, true))]
    decide
  refine ⟨hreach, rfl, rfl, hok, ?_⟩
  simp only [r]
  exact ensureLoadBalancerDeleted_releases_found_address hreach "c" webService rfl _ w rfl hok

/-- The address an `EnsureLoadBalancer` run took stays associated after a successful teardown
when the run failed to create its rule and then failed to release the address. -/
theorem ensureLoadBalancerDeleted_keeps_orphaned_address :
    let rt : Runtime := ⟨fun _ call => match call with
      | .createLoadBalancerRule .. => some "quota exceeded"
      | .disassociateIpAddress _ => some "timeout"
      | _ => none, .inOrder⟩
    let w := (ensureLoadBalancer .literal "c" webService sampleNodes rt (World.init sampleCloud)).2
    let r := ensureLoadBalancerDeleted "c" webService (Runtime.reliable .inOrder) w
    (Call.associateIpAddress "" "net-1", true) ∈ w.log ∧ r.1 = .ok () ∧
      (⟨"0", "0"⟩ : PublicIpAddress) ∈ r.2.cloud.ips := by
  intro rt w r
  simp only [w, r]
  rw [ensureLoadBalancer_of_address (by decide) (by decide :
    (ensureAddress "c" webService sampleNodes rt (World.init sampleCloud)).1 =
      .ok (⟨"K8s_svc_c_default_web", "roundrobin", ["vm-1"], "0", "0", "net-1", []⟩, true))]
  decide

end CloudStackLB
