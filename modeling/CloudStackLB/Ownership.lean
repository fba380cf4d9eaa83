import CloudStackLB.Update

/-! # What the runs of one Service leave on the platform

The runs of `EnsureLoadBalancer`, `UpdateLoadBalancer` and `EnsureLoadBalancerDeleted` for
Services with one canonical name `name` keep, from the empty platform and whatever calls fail,
`Owned name`: every load-balancer rule carries `name`, all rules sit on one associated
address, and every address has an id and a text. The invariant is what makes the locator find
every rule and the address, so that `EnsureLoadBalancerDeleted` removes them all.
-/

namespace CloudStackLB

/-! ### The invariant -/

/-- The load-balancer rules and addresses as the runs of one Service leave them. -/
structure Owned (name : String) (rows : List LbRow) (ips : List PublicIpAddress) : Prop where
  named : ∀ r ∈ rows, name.data <:+: r.name.data
  shared : ∀ r ∈ rows, ∀ r' ∈ rows, r.publicipid = r'.publicipid
  associated : ∀ r ∈ rows, r.publicipid ∈ ips.map PublicIpAddress.id
  addressed : ∀ ip ∈ ips, ip.id ≠ "" ∧ ip.ipaddress ≠ ""

/-- Every rule sits on the associated address with id `ipid`. -/
def OnAddress (ipid : String) (rows : List LbRow) (ips : List PublicIpAddress) : Prop :=
  ipid ∈ ips.map PublicIpAddress.id ∧ ∀ r ∈ rows, r.publicipid = ipid

/-- Every rule of `rows'` has one in `rows` with its name and address. -/
def RowsWithin (rows' rows : List LbRow) : Prop :=
  ∀ r' ∈ rows', ∃ r ∈ rows, r.name = r'.name ∧ r.publicipid = r'.publicipid

theorem RowsWithin.refl (rows : List LbRow) : RowsWithin rows rows := fun r h => ⟨r, h, rfl, rfl⟩

theorem RowsWithin.trans {rows₁ rows₂ rows₃ : List LbRow} (h₁ : RowsWithin rows₁ rows₂)
    (h₂ : RowsWithin rows₂ rows₃) : RowsWithin rows₁ rows₃ := by
  intro r hr
  obtain ⟨s, hs, hn, hi⟩ := h₁ r hr
  obtain ⟨t, ht, hn', hi'⟩ := h₂ s hs
  exact ⟨t, ht, hn'.trans hn, hi'.trans hi⟩

theorem RowsWithin.filter (rows : List LbRow) (p : LbRow → Bool) : RowsWithin (rows.filter p) rows :=
  fun r' h => ⟨r', (List.mem_filter.mp h).1, rfl, rfl⟩

theorem RowsWithin.modifyRow (c : Cloud) (id : String) (f : LbRow → LbRow) (hf : ∀ r, (f r).id = r.id)
    (hk : ∀ r, (f r).publicipid = r.publicipid ∧ (f r).publicport = r.publicport)
    (hname : ∀ r, (f r).name = r.name) : RowsWithin (c.modifyRow id f hf hk).lbRules c.lbRules := by
  intro r' h
  obtain ⟨r, hr, rfl⟩ := List.mem_map.mp h
  refine ⟨r, hr, ?_, ?_⟩ <;> split <;> simp [hname, hk]

theorem RowsWithin.updateLoadBalancerRule (c : Cloud) (id algorithm protocol : String) :
    RowsWithin (c.updateLoadBalancerRule id algorithm protocol).lbRules c.lbRules :=
  RowsWithin.modifyRow c _ _ _ _ fun _ => rfl

theorem RowsWithin.assignToLoadBalancerRule (c : Cloud) (id : String) (vms : List String) :
    RowsWithin (c.assignToLoadBalancerRule id vms).lbRules c.lbRules :=
  RowsWithin.modifyRow c _ _ _ _ fun _ => rfl

theorem RowsWithin.removeFromLoadBalancerRule (c : Cloud) (id : String) (vms : List String) :
    RowsWithin (c.removeFromLoadBalancerRule id vms).lbRules c.lbRules :=
  RowsWithin.modifyRow c _ _ _ _ fun _ => rfl

variable {name ipid : String} {rows rows' : List LbRow} {ips : List PublicIpAddress}

theorem Owned.mono (h : Owned name rows ips) (hw : RowsWithin rows' rows) : Owned name rows' ips where
  named r' hr' := by obtain ⟨r, hr, hn, -⟩ := hw r' hr'; exact hn ▸ h.named r hr
  shared r₁ h₁ r₂ h₂ := by
    obtain ⟨s₁, hs₁, -, e₁⟩ := hw r₁ h₁
    obtain ⟨s₂, hs₂, -, e₂⟩ := hw r₂ h₂
    exact e₁ ▸ e₂ ▸ h.shared s₁ hs₁ s₂ hs₂
  associated r' hr' := by obtain ⟨r, hr, -, he⟩ := hw r' hr'; exact he ▸ h.associated r hr
  addressed := h.addressed

theorem OnAddress.mono (h : OnAddress ipid rows ips) (hw : RowsWithin rows' rows) : OnAddress ipid rows' ips :=
  ⟨h.1, fun r' hr' => by obtain ⟨r, hr, -, he⟩ := hw r' hr'; exact he ▸ h.2 r hr⟩

theorem Owned.associate (h : Owned name rows ips) (ip : PublicIpAddress) (hid : ip.id ≠ "")
    (haddr : ip.ipaddress ≠ "") : Owned name rows (ips ++ [ip]) where
  named := h.named
  shared := h.shared
  associated r hr := by simpa using Or.inl (by simpa using h.associated r hr)
  addressed ip' hip' := by
    rcases List.mem_append.mp hip' with h' | h'
    · exact h.addressed ip' h'
    · rw [List.mem_singleton.mp h']; exact ⟨hid, haddr⟩

theorem Owned.disassociate (h : Owned name rows ips) (id : String) :
    Owned name (rows.filter (·.publicipid ≠ id)) (ips.filter (·.id ≠ id)) where
  named r hr := h.named r (List.mem_filter.mp hr).1
  shared r hr r' hr' := h.shared r (List.mem_filter.mp hr).1 r' (List.mem_filter.mp hr').1
  associated r hr := by
    obtain ⟨hr, hne⟩ := List.mem_filter.mp hr
    obtain ⟨ip, hip, he⟩ := List.mem_map.mp (h.associated r hr)
    exact List.mem_map.mpr ⟨ip, List.mem_filter.mpr ⟨hip, by simpa [he] using hne⟩, he⟩
  addressed ip hip := h.addressed ip (List.mem_filter.mp hip).1

theorem Owned.create (h : Owned name rows ips) (ha : OnAddress ipid rows ips) (row : LbRow)
    (hname : name.data <:+: row.name.data) (hip : row.publicipid = ipid) :
    Owned name (rows ++ [row]) ips where
  named r hr := by
    rcases List.mem_append.mp hr with hr | hr
    · exact h.named r hr
    · exact (List.mem_singleton.mp hr) ▸ hname
  shared r hr r' hr' := by
    have hon : ∀ s ∈ rows ++ [row], s.publicipid = ipid := by
      intro s hs
      rcases List.mem_append.mp hs with hs | hs
      · exact ha.2 s hs
      · exact (List.mem_singleton.mp hs) ▸ hip
    rw [hon r hr, hon r' hr']
  associated r hr := by
    rcases List.mem_append.mp hr with hr | hr
    · exact h.associated r hr
    · exact (List.mem_singleton.mp hr) ▸ hip ▸ ha.1
  addressed := h.addressed

theorem OnAddress.create (ha : OnAddress ipid rows ips) (row : LbRow) (hip : row.publicipid = ipid) :
    OnAddress ipid (rows ++ [row]) ips := by
  refine ⟨ha.1, fun r hr => ?_⟩
  rcases List.mem_append.mp hr with hr | hr
  · exact ha.2 r hr
  · exact (List.mem_singleton.mp hr) ▸ hip

/-! ### Operations that keep a predicate of the tables

The predicates below survive the removal of rules and changes to a rule's other fields
(`RowClosed`); every operation but the creation of a rule and the release of an address keeps
them.
-/

/-- A predicate of the tables kept when rules go or change fields other than name and address. -/
def RowClosed (I : List LbRow → List PublicIpAddress → Prop) : Prop :=
  ∀ rows rows' ips, I rows ips → RowsWithin rows' rows → I rows' ips

/-- The predicate `I` of the platform's load-balancer rules and addresses. -/
def OnTables (I : List LbRow → List PublicIpAddress → Prop) (c : Cloud) : Prop := I c.lbRules c.ips

theorem owned_rowClosed (name : String) : RowClosed (Owned name) :=
  fun _ _ _ h hw => h.mono hw

/-- The invariant of the rule phase of `EnsureLoadBalancer`: `Owned`, with the rules on `ipid`. -/
def OwnedAt (name ipid : String) (rows : List LbRow) (ips : List PublicIpAddress) : Prop :=
  Owned name rows ips ∧ OnAddress ipid rows ips

theorem ownedAt_rowClosed (name ipid : String) : RowClosed (OwnedAt name ipid) :=
  fun _ _ _ h hw => ⟨h.1.mono hw, h.2.mono hw⟩

section Keeps

variable {I : List LbRow → List PublicIpAddress → Prop}

theorem deleteLoadBalancerRule_keeps (hI : RowClosed I) (lb : LoadBalancer) (lbRule : LoadBalancerRule) :
    Triple (OnTables I) (deleteLoadBalancerRule lb lbRule)
      (fun lb' c => OnTables I c ∧ lb' = lb.dropRule lbRule.name) (OnTables I) :=
  Triple.bind (Triple.withPrefix _ (Triple.remote _ _
      (fun c h => hI _ _ _ h (RowsWithin.filter c.lbRules _)) fun _ h => h))
    fun _ => Triple.pure _ fun _ h => ⟨h, rfl⟩

theorem updateLoadBalancerRule_keeps (hI : RowClosed I) (lb : LoadBalancer) (lbRuleName : String)
    (protocol : LoadBalancerProtocol) :
    Triple (OnTables I) (updateLoadBalancerRule lb lbRuleName protocol) (fun _ => OnTables I) (OnTables I) := by
  unfold updateLoadBalancerRule
  split
  · exact Triple.throw _ fun _ h => h
  · exact Triple.remote _ _ (fun c h => hI _ _ _ h (RowsWithin.updateLoadBalancerRule c _ _ _)) fun _ h => h

theorem assignHostsToRule_keeps (hI : RowClosed I) (lbRule : LoadBalancerRule) (hostIDs : List String) :
    Triple (OnTables I) (assignHostsToRule lbRule hostIDs) (fun _ => OnTables I) (OnTables I) :=
  Triple.withPrefix _ (Triple.remote _ _
    (fun c h => hI _ _ _ h (RowsWithin.assignToLoadBalancerRule c _ _)) fun _ h => h)

theorem removeHostsFromRule_keeps (hI : RowClosed I) (lbRule : LoadBalancerRule) (hostIDs : List String) :
    Triple (OnTables I) (removeHostsFromRule lbRule hostIDs) (fun _ => OnTables I) (OnTables I) :=
  Triple.withPrefix _ (Triple.remote _ _
    (fun c h => hI _ _ _ h (RowsWithin.removeFromLoadBalancerRule c _ _)) fun _ h => h)

theorem checkLoadBalancerRule_keeps (hI : RowClosed I) (lb : LoadBalancer) (lbRuleName : String)
    (port : ServicePort) (protocol : LoadBalancerProtocol) :
    Triple (OnTables I) (checkLoadBalancerRule lb lbRuleName port protocol)
      (fun r c => OnTables I c ∧ r.2.2.name = lb.name ∧ r.2.2.ipAddr = lb.ipAddr ∧ r.2.2.ipAddrID = lb.ipAddrID)
      (OnTables I) := by
  unfold checkLoadBalancerRule
  split
  · exact Triple.pure _ fun _ h => ⟨h, rfl, rfl, rfl⟩
  · split
    · exact Triple.pure _ fun _ h => ⟨h, rfl, rfl, rfl⟩
    · exact Triple.bind (deleteLoadBalancerRule_keeps hI lb _)
        fun _ => Triple.pure _ fun _ h => by obtain ⟨h, rfl⟩ := h; exact ⟨h, rfl, rfl, rfl⟩


theorem deleteStaleRules_keeps (hI : RowClosed I) (rules : List LoadBalancerRule) (lb : LoadBalancer) :
    Triple (OnTables I) (deleteStaleRules lb rules)
      (fun lb' c => OnTables I c ∧ lb'.name = lb.name ∧ lb'.ipAddr = lb.ipAddr ∧ lb'.ipAddrID = lb.ipAddrID)
      (OnTables I) := by
  induction rules generalizing lb with
  | nil => exact Triple.pure _ fun _ h => ⟨h, rfl, rfl, rfl⟩
  | cons r rest ih =>
    simp only [deleteStaleRules]
    split
    · exact Triple.throw_bind _ fun _ h => h
    · refine Triple.pure_bind _ ?_
      split
      · exact Triple.throw _ fun _ h => h
      · refine Triple.bind (deleteFirewallRule_keeps I _ _ _) fun _ => ?_
        refine Triple.bind (deleteLoadBalancerRule_keeps hI lb r) fun lb' => Triple.of_pre fun hlb => ?_
        subst hlb
        exact ih _


theorem deleteRulesAndFirewall_keeps (hI : RowClosed I) (rules : List LoadBalancerRule) (lb : LoadBalancer) :
    Triple (OnTables I) (deleteRulesAndFirewall lb rules)
      (fun lb' c => OnTables I c ∧ lb'.name = lb.name ∧ lb'.ipAddr = lb.ipAddr ∧ lb'.ipAddrID = lb.ipAddrID)
      (OnTables I) := by
  induction rules generalizing lb with
  | nil => exact Triple.pure _ fun _ h => ⟨h, rfl, rfl, rfl⟩
  | cons r rest ih =>
    simp only [deleteRulesAndFirewall]
    split
    · exact ih lb
    · have hdel : Triple (OnTables I) (deleteLoadBalancerRule lb r >>= fun lb => deleteRulesAndFirewall lb rest)
          (fun lb' c => OnTables I c ∧ lb'.name = lb.name ∧ lb'.ipAddr = lb.ipAddr ∧ lb'.ipAddrID = lb.ipAddrID)
          (OnTables I) :=
        Triple.bind (deleteLoadBalancerRule_keeps hI lb r) fun _ => Triple.of_pre fun hlb => hlb ▸ ih _
      split
      · exact Triple.pure_bind _ hdel
      · exact Triple.bind (deleteFirewallRule_keeps I _ _ _) fun _ => Triple.pure_bind _ hdel

theorem symmetricDifference_keeps {P : Cloud → Prop} (hostIDs lbInstances : List String) :
    Triple P (symmetricDifference hostIDs lbInstances) (fun _ => P) P :=
  Triple.bind (Triple.rangeOver_keeps _) fun _ => Triple.pure _ fun _ h => h

theorem updateRuleHosts_keeps (hI : RowClosed I) (hostIDs : List String) (rules : List LoadBalancerRule) :
    Triple (OnTables I) (updateRuleHosts hostIDs rules) (fun _ => OnTables I) (OnTables I) := by
  induction rules with
  | nil => exact Triple.pure _ fun _ h => h
  | cons r rest ih =>
    refine Triple.bind ?_ fun _ => ih
    refine Triple.bind (Triple.withPrefix _ (Triple.query_keeps _ _ fun _ h => h)) fun l => ?_
    refine Triple.bind (symmetricDifference_keeps _ _) fun _ => ?_
    refine Triple.ite (Triple.bind (assignHostsToRule_keeps hI _ _) fun _ => ?_) (Triple.pure_bind _ ?_) <;>
      exact Triple.ite (removeHostsFromRule_keeps hI _ _) (Triple.pure _ fun _ h => h)

end Keeps

/-! ### The locator -/

/-- What the locator finds where `Owned name` holds: every rule, and their address. -/
structure Located (name : String) (lb : LoadBalancer) (c : Cloud) : Prop where
  name_eq : lb.name = name
  rules_sub : ∀ x ∈ lb.rules, ∃ r ∈ c.lbRules, x = c.view r
  empty : c.lbRules = [] → lb.ipAddr = "" ∧ lb.ipAddrID = ""
  address : c.lbRules ≠ [] → ∃ r ∈ c.lbRules, lb.ipAddrID = r.publicipid ∧ lb.ipAddr = c.addressOf r.publicipid

theorem listLoadBalancerRules_of_owned {name : String} {c : Cloud} (h : Owned name c.lbRules c.ips) :
    c.listLoadBalancerRules name = c.lbRules.map c.view := by
  rw [Cloud.listLoadBalancerRules, List.filter_eq_self.mpr]
  exact fun r hr => keywordMatches_of_infix (h.named r hr)

theorem listLoadBalancerRules_of_nil {c : Cloud} (h : c.lbRules = []) (keyword : String) :
    c.listLoadBalancerRules keyword = [] := by
  simp [Cloud.listLoadBalancerRules, h]

theorem getLoadBalancerByName_located {P : Cloud → Prop} (name legacyName : String)
    (hP : ∀ c, P c → Owned name c.lbRules c.ips) :
    Triple P (getLoadBalancerByName name legacyName) (fun lb c => P c ∧ Located name lb c) P := by
  refine Triple.of_forall_eq fun c₀ hc₀ => ?_
  have hown := hP c₀ hc₀
  unfold getLoadBalancerByName
  refine Triple.bind (Triple.withPrefix _ (Triple.query_eq _ _ c₀ hc₀)) fun l => Triple.of_pre fun hl => ?_
  subst hl
  rw [listLoadBalancerRules_of_owned hown]
  by_cases hrows : c₀.lbRules = []
  · have hlb : Located name ⟨name, "", [], "", "", "", []⟩ c₀ :=
      ⟨rfl, fun _ h => absurd h (List.not_mem_nil _), fun _ => ⟨rfl, rfl⟩, fun h => absurd hrows h⟩
    simp only [hrows, List.map_nil, List.isEmpty_nil, if_true]
    refine Triple.ite ?_ (Triple.pure _ fun c hc => hc ▸ ⟨hc₀, hlb⟩)
    refine Triple.bind (Triple.withPrefix _ (Triple.query_eq _ _ c₀ hc₀)) fun l => Triple.of_pre fun hl => ?_
    subst hl
    rw [listLoadBalancerRules_of_nil hrows]
    exact Triple.pure _ fun c hc => hc ▸ ⟨hc₀, hlb⟩
  · have hne : c₀.lbRules.map c₀.view ≠ [] := by simpa using hrows
    rw [if_neg (by simpa using hrows)]
    refine Triple.pure _ fun c hc => ?_
    subst hc
    refine ⟨hc₀, addRules_name _ _, ?_, fun h => absurd h hrows, fun _ => ?_⟩
    · intro x hx
      rcases addRules_rules _ _ x hx with h | h
      · exact absurd h (List.not_mem_nil _)
      · simpa [eq_comm] using h
    · obtain ⟨x, hx, ha, hi⟩ := addRules_address ⟨name, "", [], "", "", "", []⟩ _ hne
      obtain ⟨r, hr, rfl⟩ := List.mem_map.mp hx
      exact ⟨r, hr, hi, ha⟩

/-! ### The address of an `EnsureLoadBalancer` run -/

theorem verifyHosts_keeps {P E : Cloud → Prop} (nodes : List Node) (h : ∀ c, P c → E c) :
    Triple P (verifyHosts nodes) (fun _ => P) E := by
  refine Triple.bind (Triple.withPrefix _ (Triple.query_keeps _ _ h)) fun vms => ?_
  split
  · exact Triple.throw _ h
  · exact Triple.ite (Triple.throw _ h) (Triple.pure _ fun _ h => h)

variable {name : String}

theorem Located.hasLoadBalancerIP_iff {lb : LoadBalancer} {c : Cloud} (hown : Owned name c.lbRules c.ips)
    (hloc : Located name lb c) : lb.hasLoadBalancerIP = true ↔ c.lbRules ≠ [] := by
  constructor
  · intro h hrows
    simp [LoadBalancer.hasLoadBalancerIP, (hloc.empty hrows).1] at h
  · intro hrows
    obtain ⟨r, hr, hid, haddr⟩ := hloc.address hrows
    obtain ⟨ip, hip, he⟩ := List.mem_map.mp (hown.associated r hr)
    have hne : lb.ipAddr ≠ "" :=
      haddr ▸ c.addressOf_ne_empty (hown.associated r hr) fun ip h => (hown.addressed ip h).2
    have hne' : lb.ipAddrID ≠ "" := hid ▸ he ▸ (hown.addressed ip hip).1
    simp [LoadBalancer.hasLoadBalancerIP, hne, hne']

theorem getLoadBalancerIP_onAddress (lb : LoadBalancer) (loadBalancerIP : String) :
    Triple (fun c => Owned name c.lbRules c.ips ∧ c.lbRules = []) (getLoadBalancerIP lb loadBalancerIP)
      (fun lb' c => OnTables (Owned name) c ∧ OnAddress lb'.ipAddrID c.lbRules c.ips ∧ lb'.name = lb.name)
      (OnTables (Owned name)) := by
  refine Triple.of_forall_eq fun c₀ ⟨hown, hrows⟩ => ?_
  unfold getLoadBalancerIP
  refine Triple.ite ?_ ?_
  · refine Triple.bind (Triple.withPrefix _ (Triple.query_eq _ _ c₀ hown)) fun l => Triple.of_pre fun hl => ?_
    split
    · next ip =>
      refine Triple.pure _ fun c hc => ?_
      subst hc
      have hmem : ip ∈ c.ips := (List.mem_filter.mp (hl ▸ List.mem_singleton_self ip)).1
      exact ⟨hown, ⟨List.mem_map_of_mem _ hmem, by simp [hrows]⟩, rfl⟩
    · exact Triple.throw _ fun c hc => hc ▸ hown
  · refine Triple.bind (Triple.withPrefix _ (Triple.query_keeps _ _ fun c hc => hc ▸ hown)) fun network => ?_
    split
    · exact Triple.throw _ fun c hc => hc ▸ hown
    · have hassoc : ∀ vpcid networkid, Triple (fun c => c = c₀)
          (Client.associateIpAddress vpcid networkid)
          (fun ip c => OnTables (Owned name) c ∧ OnAddress ip.id c.lbRules c.ips) (OnTables (Owned name)) :=
        fun _ _ => Triple.remote _ _ (fun c hc => by
          subst hc
          refine ⟨hown.associate _ (fresh_ne_empty _) (fresh_ne_empty _), ?_, by simp [Cloud.associateIpAddress, hrows]⟩
          simp [Cloud.associateIpAddress]) fun c hc => hc ▸ hown
      exact Triple.bind (Triple.withPrefix _ (Triple.ite (hassoc _ _) (hassoc _ _)))
        fun ip => Triple.pure _ fun _ h => ⟨h.1, h.2, rfl⟩

theorem ensureAddress_onAddress (clusterName : String) (svc : Service) (nodes : List Node)
    (hname : getLoadBalancerName clusterName svc = name) :
    Triple (OnTables (Owned name)) (ensureAddress clusterName svc nodes)
      (fun r c => OnTables (Owned name) c ∧ OnAddress r.1.ipAddrID c.lbRules c.ips ∧ r.1.name = name)
      (OnTables (Owned name)) := by
  subst hname
  unfold ensureAddress
  refine Triple.bind (getLoadBalancerByName_located _ _ fun _ h => h) fun lb => ?_
  refine Triple.of_pre_imp (fun _ h => h.2.name_eq) fun hn => ?_
  split
  · exact Triple.throw _ fun _ h => h.1
  · refine Triple.bind (verifyHosts_keeps _ fun _ h => h.1) fun ⟨hostIDs, networkID⟩ => ?_
    dsimp only
    split
    · next hip =>
      refine Triple.pure _ fun c ⟨hown, hloc⟩ => ⟨hown, ?_, hn⟩
      obtain ⟨r, hr, hid, -⟩ := hloc.address ((hloc.hasLoadBalancerIP_iff hown).mp hip)
      exact ⟨hid ▸ hown.associated r hr, fun r' hr' => hid ▸ hown.shared r' hr' r hr⟩
    · next hip =>
      refine Triple.bind (Triple.conseq (getLoadBalancerIP_onAddress _ _) (fun c ⟨hown, hloc⟩ => ⟨hown, ?_⟩)
        (fun _ _ h => h) fun _ h => h) fun lb' => Triple.pure _ fun _ ⟨h, ha, hn'⟩ => ⟨h, ha, hn'.trans hn⟩
      by_contra hrows
      exact hip ((hloc.hasLoadBalancerIP_iff hown).mpr hrows)

/-! ### The rules of an `EnsureLoadBalancer` run -/

theorem createLoadBalancerRule_ownedAt {ipid : String} (lb : LoadBalancer) (lbRuleName : String)
    (port : ServicePort) (protocol : LoadBalancerProtocol) (hname : name.data <:+: lbRuleName.data)
    (hip : lb.ipAddrID = ipid) :
    Triple (OnTables (OwnedAt name ipid)) (createLoadBalancerRule lb lbRuleName port protocol)
      (fun _ => OnTables (OwnedAt name ipid)) (OnTables (OwnedAt name ipid)) :=
  Triple.withPrefix _ (Triple.remoteTry _ _ (fun c _ _ h hc => by
    obtain ⟨-, -, -, rfl⟩ := c.createLoadBalancerRule_ok hc
    exact ⟨h.1.create h.2 _ hname hip, h.2.create _ hip⟩) fun _ h => h)

theorem ensurePortFirewall_keeps {I : List LbRow → List PublicIpAddress → Prop} (nets : IPNetParser)
    (svc : Service) (lb : LoadBalancer) (lbRule : LoadBalancerRule) (port : ServicePort)
    (protocol : LoadBalancerProtocol) :
    Triple (OnTables I) (ensurePortFirewall nets svc lb lbRule port protocol)
      (fun lb' c => OnTables I c ∧ lb' = lb) (OnTables I) := by
  refine Triple.bind (Triple.query_keeps _ _ fun _ h => h) fun network => ?_
  split
  · exact Triple.throw _ fun _ h => h
  · split
    · exact Triple.throw _ fun _ h => h
    · exact Triple.ite (Triple.bind (updateFirewallRule_keeps I _ _ _ _) fun _ => Triple.pure _ fun _ h => ⟨h, rfl⟩)
        (Triple.pure _ fun _ h => ⟨h, rfl⟩)

/-- The fields of the load balancer that its rule phase never changes. -/
def SameAddress (lb' lb : LoadBalancer) : Prop :=
  lb'.name = lb.name ∧ lb'.ipAddr = lb.ipAddr ∧ lb'.ipAddrID = lb.ipAddrID

theorem ensurePortRule_ownedAt {ipid : String} (lb : LoadBalancer) (lbRuleName : String) (port : ServicePort)
    (protocol : LoadBalancerProtocol) (hname : name.data <:+: lbRuleName.data) (hip : lb.ipAddrID = ipid) :
    Triple (OnTables (OwnedAt name ipid)) (ensurePortRule lb lbRuleName port protocol)
      (fun r c => OnTables (OwnedAt name ipid) c ∧ SameAddress r.2 lb) (OnTables (OwnedAt name ipid)) := by
  refine Triple.bind (checkLoadBalancerRule_keeps (ownedAt_rowClosed _ _) _ _ _ _) fun ⟨found, _, lb'⟩ => ?_
  refine Triple.of_pre fun hsame => ?_
  cases found with
  | some lbRule =>
    exact Triple.ite (Triple.bind (updateLoadBalancerRule_keeps (ownedAt_rowClosed _ _) _ _ _)
        fun _ => Triple.pure _ fun _ h => ⟨h, hsame⟩) (Triple.pure _ fun _ h => ⟨h, hsame⟩)
  | none =>
    refine Triple.bind (createLoadBalancerRule_ownedAt _ _ _ _ hname (hsame.2.2.trans hip)) fun lbRule => ?_
    exact Triple.bind (assignHostsToRule_keeps (ownedAt_rowClosed _ _) _ _) fun _ =>
      Triple.pure _ fun _ h => ⟨h, hsame⟩

theorem ensurePort_ownedAt {ipid : String} (nets : IPNetParser) (svc : Service) (lb : LoadBalancer)
    (port : ServicePort) (hname : lb.name = name) (hip : lb.ipAddrID = ipid) :
    Triple (OnTables (OwnedAt name ipid)) (ensurePort nets svc lb port)
      (fun lb' c => OnTables (OwnedAt name ipid) c ∧ SameAddress lb' lb) (OnTables (OwnedAt name ipid)) := by
  simp only [ensurePort]
  split
  · exact Triple.throw_bind _ fun _ h => h
  · refine Triple.pure_bind _ ?_
    have hprefix : name.data <:+: (lb.name ++ "-" ++ (protocolFromServicePort port svc).toString ++ "-" ++
        itoa port.port.toInt).data := by
      subst hname
      simpa using List.infix_append [] lb.name.data
        ("-" ++ (protocolFromServicePort port svc).toString ++ "-" ++ itoa port.port.toInt).data
    refine Triple.bind (ensurePortRule_ownedAt _ _ _ _ hprefix hip) fun ⟨lbRule, lb'⟩ => ?_
    refine Triple.of_pre fun hsame => ?_
    exact Triple.conseq (ensurePortFirewall_keeps _ _ _ _ _ _) (fun _ h => h) (fun _ _ h => ⟨h.1, h.2 ▸ hsame⟩)
      fun _ h => h

theorem ensurePorts_ownedAt {ipid : String} (nets : IPNetParser) (svc : Service) (ports : List ServicePort)
    (lb : LoadBalancer) (hname : lb.name = name) (hip : lb.ipAddrID = ipid) :
    Triple (OnTables (OwnedAt name ipid)) (ensurePorts nets svc lb ports)
      (fun lb' c => OnTables (OwnedAt name ipid) c ∧ SameAddress lb' lb) (OnTables (OwnedAt name ipid)) := by
  induction ports generalizing lb with
  | nil => exact Triple.pure _ fun _ h => ⟨h, rfl, rfl, rfl⟩
  | cons port ports ih =>
    refine Triple.bind (ensurePort_ownedAt nets svc lb port hname hip) fun lb' => Triple.of_pre fun hsame => ?_
    exact Triple.conseq (ih lb' (hsame.1.trans hname) (hsame.2.2.trans hip)) (fun _ h => h)
      (fun _ _ h => ⟨h.1, h.2.1.trans hsame.1, h.2.2.1.trans hsame.2.1, h.2.2.2.trans hsame.2.2⟩) fun _ h => h

theorem ensureRules_ownedAt (nets : IPNetParser) (svc : Service) (lb : LoadBalancer) (hname : lb.name = name) :
    Triple (OnTables (OwnedAt name lb.ipAddrID)) (ensureRules nets svc lb)
      (fun _ => OnTables (OwnedAt name lb.ipAddrID)) (OnTables (OwnedAt name lb.ipAddrID)) := by
  refine Triple.bind (ensurePorts_ownedAt nets svc _ lb hname rfl) fun lb' => Triple.of_pre fun _ => ?_
  refine Triple.bind (Triple.rangeOver_keeps _) fun stale => ?_
  exact Triple.bind (Triple.conseq (deleteStaleRules_keeps (ownedAt_rowClosed _ _) stale lb') (fun _ h => h)
    (fun _ _ h => h.1) fun _ h => h) fun _ => Triple.pure _ fun _ h => h

/-! ### Whole runs -/

theorem patch_keeps {P E : Cloud → Prop} (base updated : Service) (err : Option String) :
    Triple P (patch base updated err) (fun _ => P) E :=
  Triple.ite (Triple.pure _ fun _ h => h) (Triple.bind
    (Triple.attempt (Triple.withPrefix _ (Triple.remote _ _ (fun _ h => h) fun _ h => h)))
    fun _ => Triple.pure _ fun _ h => h)

theorem releaseLoadBalancerIP_owned (lb : LoadBalancer) :
    Triple (OnTables (Owned name)) (releaseLoadBalancerIP lb) (fun _ => OnTables (Owned name))
      (OnTables (Owned name)) :=
  Triple.withPrefix _ (Triple.remote _ _ (fun _ h => h.disassociate _) fun _ h => h)

theorem ensureWithAddress_owned (nets : IPNetParser) (svc : Service) (lb : LoadBalancer) (release : Bool)
    (hn : lb.name = name) :
    Triple (OnTables (OwnedAt name lb.ipAddrID)) (ensureWithAddress nets svc lb release)
      (fun _ => OnTables (Owned name)) (OnTables (Owned name)) := by
  refine Triple.bind (Triple.outcome (ensureRules_ownedAt nets _ lb hn)) fun r => ?_
  have hpatch : ∀ updated err status service, Triple (OnTables (Owned name)) (patch svc updated err >>=
      fun err => pure (⟨status, err, service⟩ : EnsureResult)) (fun _ => OnTables (Owned name))
      (OnTables (Owned name)) :=
    fun _ _ _ _ => Triple.bind (patch_keeps _ _ _) fun _ => Triple.pure _ fun _ h => h
  cases r with
  | ok status => exact Triple.conseq (hpatch _ _ _ _) (fun _ h => h.1) (fun _ _ h => h) fun _ h => h
  | error e =>
    exact Triple.conseq (Triple.ite
      (Triple.bind (Triple.attempt (releaseLoadBalancerIP_owned lb)) fun _ => hpatch _ _ _ _)
      (Triple.pure_bind _ (hpatch _ _ _ _))) (fun _ h => h.1) (fun _ _ h => h) fun _ h => h

theorem ensureLoadBalancer_owned (nets : IPNetParser) (clusterName : String) (svc : Service) (nodes : List Node)
    (hname : getLoadBalancerName clusterName svc = name) :
    Triple (OnTables (Owned name)) (ensureLoadBalancer nets clusterName svc nodes) (fun _ => OnTables (Owned name))
      (OnTables (Owned name)) := by
  unfold ensureLoadBalancer
  refine Triple.ite (Triple.pure _ fun _ h => h) ?_
  refine Triple.bind (Triple.outcome (ensureAddress_onAddress clusterName svc nodes hname)) fun r => ?_
  cases r with
  | error e => exact Triple.bind (patch_keeps _ _ _) fun _ => Triple.pure _ fun _ h => h
  | ok p =>
    obtain ⟨lb, release⟩ := p
    exact Triple.of_pre_imp (fun _ h => h.2.2) fun hn =>
      Triple.conseq (ensureWithAddress_owned nets svc lb release hn) (fun _ h => ⟨h.1, h.2.1⟩)
        (fun _ _ h => h) fun _ h => h

theorem getLoadBalancerByName_keeps {P : Cloud → Prop} (canonical legacyName : String) :
    Triple P (getLoadBalancerByName canonical legacyName) (fun _ => P) P := by
  refine Triple.bind (Triple.withPrefix _ (Triple.query_keeps _ _ fun _ h => h)) fun l => ?_
  refine Triple.ite (Triple.ite ?_ (Triple.pure _ fun _ h => h)) (Triple.pure _ fun _ h => h)
  exact Triple.bind (Triple.withPrefix _ (Triple.query_keeps _ _ fun _ h => h)) fun _ =>
    Triple.pure _ fun _ h => h

theorem updateLoadBalancer_owned (clusterName : String) (svc : Service) (nodes : List Node) :
    Triple (OnTables (Owned name)) (updateLoadBalancer clusterName svc nodes) (fun _ => OnTables (Owned name))
      (OnTables (Owned name)) :=
  Triple.bind (getLoadBalancerByName_keeps _ _) fun _ =>
    Triple.bind (verifyHosts_keeps _ fun _ h => h) fun _ =>
      Triple.bind (Triple.rangeOver_keeps _) fun _ => updateRuleHosts_keeps (owned_rowClosed _) _ _

theorem ensureLoadBalancerDeleted_owned (clusterName : String) (svc : Service) :
    Triple (OnTables (Owned name)) (ensureLoadBalancerDeleted clusterName svc) (fun _ => OnTables (Owned name))
      (OnTables (Owned name)) :=
  Triple.bind (getLoadBalancerByName_keeps _ _) fun _ =>
    Triple.bind (Triple.rangeOver_keeps _) fun _ =>
      Triple.bind (Triple.conseq (deleteRulesAndFirewall_keeps (owned_rowClosed _) _ _) (fun _ h => h)
        (fun _ _ h => h.1) fun _ h => h) fun _ =>
        Triple.ite (releaseLoadBalancerIP_owned _) (Triple.pure _ fun _ h => h)

end CloudStackLB
