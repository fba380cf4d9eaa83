import CloudStackLB.Calls

/-! # The deferred release and patch of EnsureLoadBalancer

`EnsureLoadBalancer` (`loadbalancer.go:236-288`) defers two calls. The patcher's comes first; the
release of an address the run associated (lines 276-283) comes second, guarded by the named
result `err`. Deferred calls run last-in first-out, so the release runs first and sees the
error of the port loop or of the cleanup, and the patch runs after it, with the address
annotation set before the port loop.

The port loop and the cleanup never touch an address (`ensureRules_makes`), and `AddressPhase`
says that the address phase associates a fresh address exactly when it asks for the release.
Together they place every `DisassociateIpAddress` of a run, and the patch that follows it.
-/

namespace CloudStackLB

/-! ### The deferred calls -/

theorem patch_run (base updated : Service) (err : Option String) (rt : Runtime) (w : World) :
    ∃ r calls, patch base updated err rt w = (.ok r, { w with log := w.log ++ calls }) ∧
      (err ≠ none → r ≠ none) ∧ (∀ call ∈ calls, OffAddress call.1) ∧
      (annotationsEqual base.annotations updated.annotations = false →
        ∃ b, calls = [(.patchService updated.annotations, b)]) := by
  have hagg : ∀ perr, err ≠ none → aggregate err perr ≠ none := fun perr h => by
    cases err with
    | none => exact absurd rfl h
    | some e => exact aggregate_some e perr
  unfold patch
  split
  · next heq => exact ⟨err, [], by simp [CloudM.run_pure], id, by simp, fun h => absurd heq (by simp [h])⟩
  · simp only [CloudM.run_bind, attempt, patchService, withPrefix, remote]
    cases rt.fails w.log.length (.patchService updated.annotations) with
    | some e => exact ⟨_, [(.patchService updated.annotations, false)], rfl, hagg _, by simp [OffAddress, Call.onAddress],
        fun _ => ⟨false, rfl⟩⟩
    | none => exact ⟨_, [(.patchService updated.annotations, true)], rfl, hagg _, by simp [OffAddress, Call.onAddress],
        fun _ => ⟨true, rfl⟩⟩

theorem attempt_releaseLoadBalancerIP (lb : LoadBalancer) (rt : Runtime) (w : World) :
    ∃ o b, (attempt (releaseLoadBalancerIP lb) rt w).1 = .ok o ∧
      (attempt (releaseLoadBalancerIP lb) rt w).2.log = w.log ++ [(.disassociateIpAddress lb.ipAddrID, b)] := by
  simp only [attempt, releaseLoadBalancerIP, withPrefix, Client.disassociateIpAddress, remote]
  cases rt.fails w.log.length (.disassociateIpAddress lb.ipAddrID) with
  | some e => exact ⟨_, false, rfl, rfl⟩
  | none => exact ⟨_, true, rfl, rfl⟩

/-! ### The address phase -/

/-- What the address phase does with addresses, from the platform `c₀`: it never releases one,
it associates one successfully exactly when it returns a load balancer flagged for release, and
that load balancer then has the address the platform gives a new association on `c₀`. -/
def TakesFresh (c₀ : Cloud) (r : Except String (LoadBalancer × Bool)) (calls : List (Call × Bool)) : Prop :=
  (∀ call ∈ calls, ∀ id, call.1 ≠ .disassociateIpAddress id) ∧
    ((∃ v n, (Call.associateIpAddress v n, true) ∈ calls) ↔ ∃ lb, r = .ok (lb, true)) ∧
    ∀ lb, r = .ok (lb, true) → lb.ipAddrID = c₀.newAddress.id ∧ lb.ipAddr = c₀.newAddress.ipaddress

/-- Every run of `x` satisfies `TakesFresh` from the platform it starts on. -/
def AddressPhase (x : CloudM (LoadBalancer × Bool)) : Prop :=
  ∀ rt w, ∃ calls, (x rt w).2.log = w.log ++ calls ∧ TakesFresh w.cloud (x rt w).1 calls

theorem TakesFresh.reads_append {c₀ : Cloud} {r : Except String (LoadBalancer × Bool)} {reads calls : List (Call × Bool)}
    (hreads : ∀ call ∈ reads, call.1.mutating = false) (h : TakesFresh c₀ r calls) : TakesFresh c₀ r (reads ++ calls) := by
  obtain ⟨hnd, hassoc, hfresh⟩ := h
  have hnot : ∀ c b, c.mutating = true → (c, b) ∉ reads := fun c b hc hm => by simpa [hc] using hreads _ hm
  refine ⟨fun call hm id => ?_, ?_, hfresh⟩
  · rcases List.mem_append.mp hm with hm | hm
    · obtain ⟨c, b⟩ := call
      intro he
      dsimp only at he
      subst he
      exact hnot (.disassociateIpAddress id) b rfl hm
    · exact hnd call hm id
  · rw [← hassoc]
    simp only [List.mem_append]
    exact ⟨fun ⟨v, n, h⟩ => ⟨v, n, h.resolve_left (hnot _ _ rfl)⟩, fun ⟨v, n, h⟩ => ⟨v, n, .inr h⟩⟩

namespace AddressPhase

theorem throw (e : String) : AddressPhase (MonadExcept.throw e) :=
  fun _ w => ⟨[], (List.append_nil _).symm, by simp [TakesFresh, CloudM.run_throw]⟩

theorem pure_keep (lb : LoadBalancer) : AddressPhase (Pure.pure (lb, false)) :=
  fun _ w => ⟨[], (List.append_nil _).symm, by simp [TakesFresh, CloudM.run_pure]⟩

theorem of_readOnly {x : CloudM (LoadBalancer × Bool)} (hx : ReadOnly x)
    (hkeep : ∀ rt w lb, (x rt w).1 ≠ .ok (lb, true)) : AddressPhase x := by
  intro rt w
  obtain ⟨-, calls, hl, hreads⟩ := hx rt w
  refine ⟨calls, hl, ?_⟩
  rw [← List.append_nil calls]
  exact TakesFresh.reads_append hreads ⟨by simp, by simp [hkeep rt w], fun lb h => absurd h (hkeep rt w lb)⟩

theorem bind_readOnly {α : Type} {x : CloudM α} {f : α → CloudM (LoadBalancer × Bool)} (hx : ReadOnly x)
    (hf : ∀ a, AddressPhase (f a)) : AddressPhase (x >>= f) := by
  intro rt w
  obtain ⟨hc, reads, hl, hreads⟩ := hx rt w
  rw [CloudM.run_bind]
  rcases hrun : x rt w with ⟨e | a, w₁⟩ <;> rw [hrun] at hl hc
  · have h0 : TakesFresh w.cloud (.error e) [] := ⟨by simp, by simp, by simp⟩
    exact ⟨reads, hl, by simpa using TakesFresh.reads_append hreads h0⟩
  · obtain ⟨calls, hl₂, hfresh⟩ := hf a rt w₁
    refine ⟨reads ++ calls, by rw [hl₂, hl, List.append_assoc], ?_⟩
    rw [← hc]
    exact TakesFresh.reads_append hreads hfresh

end AddressPhase

theorem getPublicIPAddress_readOnly (lb : LoadBalancer) (loadBalancerIP : String) :
    ReadOnly (getPublicIPAddress lb loadBalancerIP) := by
  refine ReadOnly.bind (ReadOnly.withPrefix _ (ReadOnly.query _ _ rfl)) fun l => ?_
  split
  · exact ReadOnly.pure _
  · exact ReadOnly.throw _

theorem getPublicIPAddress_ipAddr (lb : LoadBalancer) (loadBalancerIP : String) (rt : Runtime) (w : World)
    {lb' : LoadBalancer} (h : (getPublicIPAddress lb loadBalancerIP rt w).1 = .ok lb') :
    lb'.ipAddr = loadBalancerIP := by
  simp only [getPublicIPAddress, CloudM.run_bind, withPrefix, Client.listPublicIpAddresses, query, remote] at h
  cases hf : rt.fails w.log.length (.listPublicIpAddresses loadBalancerIP) with
  | some e => simp [hf] at h
  | none =>
    simp only [hf] at h
    rcases hl : w.cloud.listPublicIpAddresses loadBalancerIP with _ | ⟨ip, _ | ⟨ip₂, rest⟩⟩ <;>
      simp only [hl, CloudM.run_throw, CloudM.run_pure, reduceCtorEq, Except.ok.injEq] at h
    subst h
    have hmem : ip ∈ w.cloud.listPublicIpAddresses loadBalancerIP := by simp [hl]
    simpa [Cloud.listPublicIpAddresses] using (List.mem_filter.mp hmem).2

theorem associatePublicIPAddress_run (lb : LoadBalancer) (rt : Runtime) (w : World) :
    (∃ e calls, associatePublicIPAddress lb rt w = (.error e, { w with log := w.log ++ calls }) ∧
        ∀ call ∈ calls, call.1 = .getNetworkByID lb.networkID ∨ ∃ v n, call = (.associateIpAddress v n, false)) ∨
      ∃ v n, associatePublicIPAddress lb rt w =
        (.ok { lb with ipAddr := w.cloud.newAddress.ipaddress, ipAddrID := w.cloud.newAddress.id },
          { w with
            cloud := w.cloud.associateIpAddress.2
            log := w.log ++ [(.getNetworkByID lb.networkID, true), (.associateIpAddress v n, true)] }) := by
  simp only [associatePublicIPAddress, CloudM.run_bind, withPrefix, Client.getNetworkByID, query, remote]
  cases rt.fails w.log.length (.getNetworkByID lb.networkID) with
  | some e => exact .inl ⟨_, [(.getNetworkByID lb.networkID, false)], rfl, by simp⟩
  | none =>
    cases w.cloud.getNetworkByID lb.networkID with
    | none => exact .inl ⟨_, [(.getNetworkByID lb.networkID, true)], rfl, by simp⟩
    | some network =>
      dsimp only
      obtain ⟨v, n, hc⟩ : ∃ v n, (if network.vpcid ≠ "" then Client.associateIpAddress network.vpcid ""
          else Client.associateIpAddress "" lb.networkID) = Client.associateIpAddress v n := by
        split <;> exact ⟨_, _, rfl⟩
      rw [hc]
      simp only [CloudM.run_bind, withPrefix, Client.associateIpAddress, remote]
      cases rt.fails (w.log ++ [(Call.getNetworkByID lb.networkID, true)]).length (.associateIpAddress v n) with
      | some e =>
        exact .inl ⟨"error associating new IP address: " ++ e,
          [(.getNetworkByID lb.networkID, true), (.associateIpAddress v n, false)], by simp, by simp⟩
      | none => exact .inr ⟨v, n, by simp [CloudM.run_pure, Cloud.associateIpAddress]⟩

theorem getLoadBalancerIP_takesFresh (lb : LoadBalancer) (loadBalancerIP : String) :
    AddressPhase (do
      let lb ← getLoadBalancerIP lb loadBalancerIP
      Pure.pure (lb, lb.ipAddr ≠ "" && lb.ipAddr ≠ loadBalancerIP)) := by
  unfold getLoadBalancerIP
  split
  · refine AddressPhase.of_readOnly (ReadOnly.bind (getPublicIPAddress_readOnly _ _) fun _ => ReadOnly.pure _)
      fun rt w lb' h => ?_
    rw [CloudM.run_bind] at h
    rcases hrun : getPublicIPAddress lb loadBalancerIP rt w with ⟨_ | a, w₁⟩ <;> rw [hrun] at h
    · cases h
    · have ha := getPublicIPAddress_ipAddr lb loadBalancerIP rt w (by rw [hrun])
      simp [CloudM.run_pure, ha] at h
  · next hip =>
    have hip : loadBalancerIP = "" := not_not.mp hip
    intro rt w
    rw [CloudM.run_bind]
    rcases associatePublicIPAddress_run lb rt w with ⟨e, calls, hrun, hcalls⟩ | ⟨v, n, hrun⟩ <;> rw [hrun]
    · refine ⟨calls, rfl, fun call hm id he => ?_, iff_of_false (fun ⟨v, n, hm⟩ => ?_) (fun ⟨_, h⟩ => by cases h),
        fun _ h => by cases h⟩
      · rcases hcalls call hm with h | ⟨v, n, rfl⟩
        · rw [he] at h
          cases h
        · cases he
      · rcases hcalls _ hm with h | ⟨v', n', h⟩ <;> cases h
    · refine ⟨_, rfl, ?_⟩
      have hne : w.cloud.newAddress.ipaddress ≠ "" := fresh_ne_empty _
      simp [TakesFresh, CloudM.run_pure, hip, hne]

theorem ensureAddress_takesFresh (clusterName : String) (svc : Service) (nodes : List Node) :
    AddressPhase (ensureAddress clusterName svc nodes) := by
  refine AddressPhase.bind_readOnly (getLoadBalancerByName_readOnly _ _) fun lb => ?_
  split
  · exact AddressPhase.throw _
  · refine AddressPhase.bind_readOnly (verifyHosts_readOnly _) fun ⟨hostIDs, networkID⟩ => ?_
    dsimp only
    split
    · exact AddressPhase.pure_keep _
    · exact getLoadBalancerIP_takesFresh _ _

/-! ### After the address -/

theorem ensureWithAddress_calls (nets : IPNetParser) (svc : Service) (lb : LoadBalancer) (release : Bool)
    (rt : Runtime) (w : World) :
    ∃ res calls, (ensureWithAddress nets svc lb release rt w).1 = .ok res ∧
      (ensureWithAddress nets svc lb release rt w).2.log = w.log ++ calls ∧
      res.service = setServiceAnnotation svc serviceAnnotationLoadBalancerAddress lb.ipAddr ∧
      (∀ v n b, (Call.associateIpAddress v n, b) ∉ calls) ∧
      (∀ id b, (Call.disassociateIpAddress id, b) ∈ calls →
        release = true ∧ id = lb.ipAddrID ∧ res.status = none ∧ res.err ≠ none ∧
        (annotationsEqual svc.annotations res.service.annotations = false →
          ∃ b', calls.getLast? = some (.patchService res.service.annotations, b'))) ∧
      (release = true → res.status = none → ∃ b, (Call.disassociateIpAddress lb.ipAddrID, b) ∈ calls) := by
  set updated := setServiceAnnotation svc serviceAnnotationLoadBalancerAddress lb.ipAddr
  obtain ⟨calls₂, hl₂, hoff₂⟩ := ensureRules_makes nets updated lb rt w
  simp only [ensureWithAddress, CloudM.run_bind, outcome]
  rcases h₂ : ensureRules nets updated lb rt w with ⟨_ | status, w₂⟩ <;> rw [h₂] at hl₂ <;> dsimp only at hl₂ ⊢
  · next e =>
    cases release with
    | false =>
      obtain ⟨r, calls₄, hp, -, hoff₄, -⟩ := patch_run svc updated (some e) rt w₂
      have hoff := offAddress_append hoff₂ hoff₄
      refine ⟨⟨none, r, updated⟩, calls₂ ++ calls₄,
        by simp only [Bool.false_eq_true, if_false, CloudM.run_bind, CloudM.run_pure, hp],
        by simp only [Bool.false_eq_true, if_false, CloudM.run_bind, CloudM.run_pure, hp, hl₂, List.append_assoc],
        rfl, fun v n => not_mem_of_offAddress hoff (.associateIpAddress v n) rfl,
        fun id b hm => absurd hm (not_mem_of_offAddress hoff (.disassociateIpAddress id) rfl b),
        fun h => absurd h (by decide)⟩
    | true =>
      -- the release runs first, then the patch
      obtain ⟨o, b, ho, hlo⟩ := attempt_releaseLoadBalancerIP lb rt w₂
      rcases hrel : attempt (releaseLoadBalancerIP lb) rt w₂ with ⟨ro, w₃⟩
      rw [hrel] at ho hlo
      dsimp only at ho hlo
      obtain ⟨r, calls₄, hp, hne, hoff₄, hpatch⟩ := patch_run svc updated (some e) rt w₃
      refine ⟨⟨none, r, updated⟩, calls₂ ++ [(.disassociateIpAddress lb.ipAddrID, b)] ++ calls₄,
        by simp only [if_true, CloudM.run_bind, CloudM.run_pure, hrel, ho, hp],
        by simp only [if_true, CloudM.run_bind, CloudM.run_pure, hrel, ho, hp, hlo, hl₂, List.append_assoc],
        rfl, fun v n b' hm => ?_, fun id b' hm => ?_, fun _ _ => ⟨b, by simp⟩⟩
      · simp only [List.mem_append, List.mem_singleton, Prod.mk.injEq, reduceCtorEq, false_and, or_false] at hm
        exact hm.elim (not_mem_of_offAddress hoff₂ (.associateIpAddress v n) rfl b')
          (not_mem_of_offAddress hoff₄ (.associateIpAddress v n) rfl b')
      · have hid : id = lb.ipAddrID := by
          simp only [List.mem_append, List.mem_singleton, Prod.mk.injEq, Call.disassociateIpAddress.injEq] at hm
          rcases hm with (hm | ⟨hid, -⟩) | hm
          · exact absurd hm (not_mem_of_offAddress hoff₂ (.disassociateIpAddress id) rfl b')
          · exact hid
          · exact absurd hm (not_mem_of_offAddress hoff₄ (.disassociateIpAddress id) rfl b')
        refine ⟨rfl, hid, rfl, hne (Option.some_ne_none e), fun heq => ?_⟩
        obtain ⟨b'', rfl⟩ := hpatch heq
        exact ⟨b'', by simp⟩
  · obtain ⟨r, calls₃, hp, -, hoff₃, -⟩ := patch_run svc updated none rt w₂
    have hoff := offAddress_append hoff₂ hoff₃
    refine ⟨⟨some status, r, updated⟩, calls₂ ++ calls₃, by simp only [CloudM.run_bind, CloudM.run_pure, hp],
      by simp only [CloudM.run_bind, CloudM.run_pure, hp, hl₂, List.append_assoc],
      rfl, fun v n => not_mem_of_offAddress hoff (.associateIpAddress v n) rfl,
      fun id b hm => absurd hm (not_mem_of_offAddress hoff (.disassociateIpAddress id) rfl b),
      fun _ h => absurd h (by simp)⟩

/-! ### Where a run gives an address back -/

/-- A run releases only the address its association got, and only after the port loop or cleanup failed. -/
theorem ensureLoadBalancer_address_calls (nets : IPNetParser) (clusterName : String) (svc : Service)
    (nodes : List Node) (rt : Runtime) (w : World) :
    ∃ res calls, (ensureLoadBalancer nets clusterName svc nodes rt w).1 = .ok res ∧
      (ensureLoadBalancer nets clusterName svc nodes rt w).2.log = w.log ++ calls ∧
      (∀ id b, (Call.disassociateIpAddress id, b) ∈ calls →
        id = w.cloud.newAddress.id ∧ res.status = none ∧ res.err ≠ none ∧
        (∃ v n, (Call.associateIpAddress v n, true) ∈ calls) ∧
        res.service = setServiceAnnotation svc serviceAnnotationLoadBalancerAddress w.cloud.newAddress.ipaddress ∧
        (annotationsEqual svc.annotations res.service.annotations = false →
          ∃ b', calls.getLast? = some (.patchService res.service.annotations, b'))) ∧
      ((∃ v n, (Call.associateIpAddress v n, true) ∈ calls) → res.status = none →
        ∃ b, (Call.disassociateIpAddress w.cloud.newAddress.id, b) ∈ calls) := by
  unfold ensureLoadBalancer
  split
  · exact ⟨_, [], rfl, (List.append_nil _).symm, by simp, by simp⟩
  · obtain ⟨calls₁, hl₁, hnd₁, hassoc₁, hfresh₁⟩ := ensureAddress_takesFresh clusterName svc nodes rt w
    simp only [CloudM.run_bind, outcome]
    rcases h₁ : ensureAddress clusterName svc nodes rt w with ⟨_ | ⟨lb, release⟩, w₁⟩ <;>
      rw [h₁] at hl₁ hassoc₁ hfresh₁ <;> dsimp only at hl₁ ⊢
    · rw [patch_self]
      refine ⟨_, calls₁, rfl, hl₁, fun id b hm => absurd rfl (hnd₁ _ hm id), fun h => ?_⟩
      obtain ⟨lb, hlb⟩ := hassoc₁.mp h
      cases hlb
    · obtain ⟨res, calls₂, hres, hl₂, hsvc, hna₂, hdis₂, hrel₂⟩ := ensureWithAddress_calls nets svc lb release rt w₁
      refine ⟨res, calls₁ ++ calls₂, hres, by rw [hl₂, hl₁, List.append_assoc], fun id b hm => ?_, ?_⟩
      · rcases List.mem_append.mp hm with hm | hm
        · exact absurd rfl (hnd₁ _ hm id)
        · obtain ⟨rfl, rfl, hst, herr, hlast⟩ := hdis₂ id b hm
          obtain ⟨hid, hip⟩ := hfresh₁ lb rfl
          obtain ⟨v, n, hv⟩ := hassoc₁.mpr ⟨lb, rfl⟩
          refine ⟨hid, hst, herr, ⟨v, n, List.mem_append_left _ hv⟩, by rw [hsvc, hip], fun heq => ?_⟩
          obtain ⟨b', hb'⟩ := hlast heq
          exact ⟨b', by simp [List.getLast?_append, hb']⟩
      · rintro ⟨v, n, hm⟩ hst
        have h1 : (Call.associateIpAddress v n, true) ∈ calls₁ := by
          rcases List.mem_append.mp hm with hm | hm
          · exact hm
          · exact absurd hm (hna₂ v n true)
        obtain ⟨lb', hlb'⟩ := hassoc₁.mp ⟨v, n, h1⟩
        cases hlb'
        obtain ⟨b, hb⟩ := hrel₂ rfl hst
        rw [← (hfresh₁ lb rfl).1]
        exact ⟨b, List.mem_append_right _ hb⟩

/-- The compensating release is exact. A run gives back only the address its own successful
`AssociateIpAddress` got, the fresh address of the platform it started on, so never one that
was there before (found through the rules, or looked up for `spec.loadBalancerIP`); it does so
only when it returns no status and an error. A run that got a fresh address and returns no
status, because the port loop or the cleanup failed, gives it back; a failed patch alone, with a
status returned, does not. -/
theorem ensureLoadBalancer_release_exact (nets : IPNetParser) (clusterName : String) (svc : Service)
    (nodes : List Node) (rt : Runtime) (w : World) :
    ∃ res calls, (ensureLoadBalancer nets clusterName svc nodes rt w).1 = .ok res ∧
      (ensureLoadBalancer nets clusterName svc nodes rt w).2.log = w.log ++ calls ∧
      (∀ id b, (Call.disassociateIpAddress id, b) ∈ calls →
        (∃ v n, (Call.associateIpAddress v n, true) ∈ calls) ∧ id = w.cloud.newAddress.id ∧
          id ∉ w.cloud.ips.map PublicIpAddress.id ∧ res.status = none ∧ res.err ≠ none) ∧
      ((∃ v n, (Call.associateIpAddress v n, true) ∈ calls) → res.status = none →
        ∃ b, (Call.disassociateIpAddress w.cloud.newAddress.id, b) ∈ calls) := by
  obtain ⟨res, calls, hres, hlog, hdis, hrel⟩ := ensureLoadBalancer_address_calls nets clusterName svc nodes rt w
  refine ⟨res, calls, hres, hlog, fun id b hm => ?_, hrel⟩
  obtain ⟨rfl, hst, herr, hassoc, -⟩ := hdis id b hm
  exact ⟨hassoc, rfl, fresh_not_mem _, hst, herr⟩

/-- A platform on which every `CreateLoadBalancerRule` fails. -/
def createFails : Runtime :=
  ⟨fun _ call => match call with
    | .createLoadBalancerRule .. => some "quota exceeded"
    | _ => none, .inOrder⟩

/-- The first provisioning of `default/web`, its rule refused. -/
def createFailRun : Except String EnsureResult × World :=
  ensureLoadBalancer .literal "c" webService sampleNodes createFails (World.init sampleCloud)

theorem createFailRun_eq :
    createFailRun.1.toOption.map EnsureResult.status = some none ∧
      createFailRun.2.log = [(.listLoadBalancerRules "K8s_svc_c_default_web", true),
        (.listLoadBalancerRules "auid1", true), (.listVirtualMachines, true), (.getNetworkByID "net-1", true),
        (.associateIpAddress "" "net-1", true),
        (.createLoadBalancerRule "roundrobin" "K8s_svc_c_default_web-tcp-80" 30080 80 "net-1" "0" "tcp", false),
        (.disassociateIpAddress "0", true), (.patchService [(serviceAnnotationLoadBalancerAddress, "0")], true)] := by
  unfold createFailRun
  rw [ensureLoadBalancer_of_address (by decide) (by decide :
    (ensureAddress "c" webService sampleNodes createFails (World.init sampleCloud)).1 =
      .ok (⟨"K8s_svc_c_default_web", "roundrobin", ["vm-1"], "0", "0", "net-1", []⟩, true))]
  decide

theorem ensureLoadBalancer_release_exact_on_refused_rule :
    (Call.associateIpAddress "" "net-1", true) ∈ createFailRun.2.log ∧
      createFailRun.1.toOption.map EnsureResult.status = some none ∧
      ∃ b, (Call.disassociateIpAddress "0", b) ∈ createFailRun.2.log := by
  have hassoc : (Call.associateIpAddress "" "net-1", true) ∈ createFailRun.2.log := by
    rw [createFailRun_eq.2]; decide
  have hstatus := createFailRun_eq.1
  obtain ⟨res, calls, hres, hlog, -, hrel⟩ :=
    ensureLoadBalancer_release_exact .literal "c" webService sampleNodes createFails (World.init sampleCloud)
  have hcalls : createFailRun.2.log = calls := hlog
  have hst : res.status = none := by
    rw [createFailRun, hres] at hstatus
    simpa [Except.toOption] using hstatus
  rw [hcalls] at hassoc ⊢
  exact ⟨hassoc, hstatus, hrel ⟨_, _, hassoc⟩ hst⟩

/-- A platform on which every patch of a Service fails. -/
def patchFails : Runtime :=
  ⟨fun _ call => match call with
    | .patchService .. => some "conflict"
    | _ => none, .inOrder⟩

/-- The first provisioning of `default/web`, its patch refused. -/
def patchFailRun : Except String EnsureResult × World :=
  ensureLoadBalancer .literal "c" webService sampleNodes patchFails (World.init sampleCloud)

theorem patchFailRun_eq :
    patchFailRun.1.toOption.map EnsureResult.err = some (some "failed to patch service object default/web: conflict") ∧
      patchFailRun.2.log = [(.listLoadBalancerRules "K8s_svc_c_default_web", true),
        (.listLoadBalancerRules "auid1", true), (.listVirtualMachines, true), (.getNetworkByID "net-1", true),
        (.associateIpAddress "" "net-1", true),
        (.createLoadBalancerRule "roundrobin" "K8s_svc_c_default_web-tcp-80" 30080 80 "net-1" "0" "tcp", true),
        (.assignToLoadBalancerRule "0" ["vm-1"], true), (.getNetworkByID "net-1", true),
        (.patchService [(serviceAnnotationLoadBalancerAddress, "0")], false)] ∧
      patchFailRun.2.cloud.ips = [⟨"0", "0"⟩] := by
  unfold patchFailRun
  rw [ensureLoadBalancer_of_address (by decide) (by decide :
    (ensureAddress "c" webService sampleNodes patchFails (World.init sampleCloud)).1 =
      .ok (⟨"K8s_svc_c_default_web", "roundrobin", ["vm-1"], "0", "0", "net-1", []⟩, true))]
  decide

/-- The run associates address `0`, creates the rule and assigns the host, and then fails at the
patch: it returns the patch's error, and keeps the address it took. -/
theorem ensureLoadBalancer_keeps_new_address_when_patch_fails :
    (Call.associateIpAddress "" "net-1", true) ∈ patchFailRun.2.log ∧
      patchFailRun.1.toOption.map EnsureResult.err = some (some "failed to patch service object default/web: conflict") ∧
      (∀ id b, (Call.disassociateIpAddress id, b) ∉ patchFailRun.2.log) ∧
      patchFailRun.2.cloud.ips = [⟨"0", "0"⟩] := by
  obtain ⟨herr, hlog, hips⟩ := patchFailRun_eq
  rw [hlog]
  exact ⟨by decide, herr, fun _ _ h => by simp at h, hips⟩

theorem annotationsEqual_setServiceAnnotation_of_none (svc : Service) (key value : String)
    (h : svc.annotationValue key = none) :
    annotationsEqual svc.annotations ( setServiceAnnotation svc key value).annotations = false := by
  have hset := annotationValue_setServiceAnnotation svc key value
  simp only [Service.annotationValue] at h hset
  rw [annotationsEqual, List.all_eq_false]
  exact ⟨(key, value), List.mem_append_right _ (by simp [ setServiceAnnotation]), by simp [h, hset]⟩

/-- A run that gives its new address back still publishes it: the Service it leaves names the
released address, and on a first provisioning, with no address annotation before, the run's
last call is the patch that writes that annotation. -/
theorem ensureLoadBalancer_annotates_released_address (nets : IPNetParser) (clusterName : String)
    (svc : Service) (nodes : List Node) (rt : Runtime) (w : World) :
    ∃ res calls, (ensureLoadBalancer nets clusterName svc nodes rt w).1 = .ok res ∧
      (ensureLoadBalancer nets clusterName svc nodes rt w).2.log = w.log ++ calls ∧
      ∀ id b, (Call.disassociateIpAddress id, b) ∈ calls →
        res.err ≠ none ∧ id = w.cloud.newAddress.id ∧
        res.service.annotationValue serviceAnnotationLoadBalancerAddress = some w.cloud.newAddress.ipaddress ∧
        (svc.annotationValue serviceAnnotationLoadBalancerAddress = none →
          ∃ b', calls.getLast? = some (.patchService res.service.annotations, b')) := by
  obtain ⟨res, calls, hres, hlog, hdis, -⟩ := ensureLoadBalancer_address_calls nets clusterName svc nodes rt w
  refine ⟨res, calls, hres, hlog, fun id b hm => ?_⟩
  obtain ⟨hid, -, herr, -, hsvc, hlast⟩ := hdis id b hm
  refine ⟨herr, hid, by rw [hsvc, annotationValue_setServiceAnnotation], fun hnone => hlast ?_⟩
  rw [hsvc]
  exact annotationsEqual_setServiceAnnotation_of_none svc _ _ hnone

theorem ensureLoadBalancer_annotates_released_address_on_refused_rule :
    (Call.disassociateIpAddress "0", true) ∈ createFailRun.2.log ∧
      ∃ res b, createFailRun.1 = .ok res ∧ res.err ≠ none ∧
        res.service.annotationValue serviceAnnotationLoadBalancerAddress = some "0" ∧
        createFailRun.2.log.getLast? = some (.patchService res.service.annotations, b) := by
  have hdis : (Call.disassociateIpAddress "0", true) ∈ createFailRun.2.log := by
    rw [createFailRun_eq.2]; decide
  obtain ⟨res, calls, hres, hlog, h⟩ :=
    ensureLoadBalancer_annotates_released_address .literal "c" webService sampleNodes createFails (World.init sampleCloud)
  have hcalls : createFailRun.2.log = calls := hlog
  rw [hcalls] at hdis ⊢
  obtain ⟨herr, -, hann, hlast⟩ := h "0" true hdis
  obtain ⟨b, hb⟩ := hlast rfl
  exact ⟨hdis, res, b, hres, herr, hann, hb⟩

end CloudStackLB
