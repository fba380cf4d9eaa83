import CloudStackLB.Release

/-! # What a successful EnsureLoadBalancer leaves on the platform

The port loop of `EnsureLoadBalancer` (`loadbalancer.go:290-356`) keeps, updates or recreates the
rule of each Service port, and the cleanup (lines 358-378) deletes what is left of the rules the
locator found. On a platform where no two load-balancer rules share a name and every rule sits on
an associated address (`WellFormed`), a run that returns a status leaves, among the rules the name
of its load balancer lists, exactly one rule per port with the port's name, numbers and protocol,
the load balancer's algorithm and its address (`Serves`), and no other rule; every rule the name
does not list is untouched. Every run keeps `WellFormed`, whichever calls fail.

The port loop's invariant is `Converging`: the ports done are served, and every rule the name
lists is served or still in the map, which the cleanup then empties.
-/

namespace CloudStackLB

/-! ### The platform's rules and addresses -/

/-- The platform as the provider's runs keep it: no two load-balancer rules share a name, and
every rule sits on an associated address. -/
structure WellFormed (c : Cloud) : Prop where
  names : (c.lbRules.map LbRow.name).Nodup
  associated : ∀ r ∈ c.lbRules, r.publicipid ∈ c.ips.map PublicIpAddress.id

namespace Cloud

variable (c : Cloud)

theorem row_eq_of_id {r r' : LbRow} (hr : r ∈ c.lbRules) (hr' : r' ∈ c.lbRules) (h : r.id = r'.id) : r = r' :=
  List.inj_on_of_nodup_map c.lbRules_nodup hr hr' h

theorem id_ne_of_ne {r r' : LbRow} (hr : r ∈ c.lbRules) (hr' : r' ∈ c.lbRules) (hne : r ≠ r') : r.id ≠ r'.id :=
  fun he => hne (c.row_eq_of_id hr hr' he)

theorem addressOf_of_mem {ip : PublicIpAddress} (hip : ip ∈ c.ips) : c.addressOf ip.id = ip.ipaddress := by
  unfold addressOf
  cases hf : c.ips.find? (·.id = ip.id) with
  | none => exact absurd (List.find?_eq_none.mp hf ip hip) (by simp)
  | some ip' =>
    have hid : ip'.id = ip.id := by simpa using List.find?_some hf
    simp [List.inj_on_of_nodup_map c.ips_nodup (List.mem_of_find?_eq_some hf) hip hid]

theorem exists_of_addressOf_ne_empty {id : String} (h : c.addressOf id ≠ "") :
    ∃ ip ∈ c.ips, ip.id = id ∧ c.addressOf id = ip.ipaddress := by
  unfold addressOf at h ⊢
  cases hf : c.ips.find? (·.id = id) with
  | none => simp [hf] at h
  | some ip => exact ⟨ip, List.mem_of_find?_eq_some hf, by simpa using List.find?_some hf, by simp⟩

theorem addressOf_inj {a b : String} (h : c.addressOf a = c.addressOf b) (hne : c.addressOf a ≠ "") : a = b := by
  obtain ⟨ipa, ha, rfl, hA⟩ := c.exists_of_addressOf_ne_empty hne
  obtain ⟨ipb, hb, rfl, hB⟩ := c.exists_of_addressOf_ne_empty (h ▸ hne)
  rw [hA, hB] at h
  rw [List.inj_on_of_nodup_map c.addresses_nodup ha hb h]

theorem mem_modifyRow {id : String} {f : LbRow → LbRow} {hf : ∀ r, (f r).id = r.id} {hk : ∀ r, (f r).publicipid = r.publicipid ∧ (f r).publicport = r.publicport} {r : LbRow} :
    r ∈ (c.modifyRow id f hf hk).lbRules ↔ ∃ r₀ ∈ c.lbRules, (if r₀.id = id then f r₀ else r₀) = r :=
  List.mem_map

theorem mem_modifyRow_of_ne {id : String} {f : LbRow → LbRow} {hf : ∀ r, (f r).id = r.id} {hk : ∀ r, (f r).publicipid = r.publicipid ∧ (f r).publicport = r.publicport} {r : LbRow}
    (hr : r ∈ c.lbRules) (hne : r.id ≠ id) : r ∈ (c.modifyRow id f hf hk).lbRules :=
  c.mem_modifyRow.mpr ⟨r, hr, if_neg hne⟩

theorem mem_modifyRow_self {id : String} {f : LbRow → LbRow} {hf : ∀ r, (f r).id = r.id} {hk : ∀ r, (f r).publicipid = r.publicipid ∧ (f r).publicport = r.publicport} {r : LbRow}
    (hr : r ∈ c.lbRules) (h : r.id = id) : f r ∈ (c.modifyRow id f hf hk).lbRules :=
  c.mem_modifyRow.mpr ⟨r, hr, if_pos h⟩

theorem map_modifyRow {β : Type} {id : String} {f : LbRow → LbRow} {hf : ∀ r, (f r).id = r.id} {hk : ∀ r, (f r).publicipid = r.publicipid ∧ (f r).publicport = r.publicport} (g : LbRow → β)
    (hg : ∀ r, g (f r) = g r) : (c.modifyRow id f hf hk).lbRules.map g = c.lbRules.map g := by
  simp only [modifyRow, List.map_map]
  exact List.map_congr_left fun r _ => by by_cases h : r.id = id <;> simp [h, hg]

theorem mem_deleteLoadBalancerRule {id : String} {r : LbRow} :
    r ∈ (c.deleteLoadBalancerRule id).lbRules ↔ r ∈ c.lbRules ∧ r.id ≠ id := by
  simp [deleteLoadBalancerRule]

theorem eq_of_mem_addRow {row : LbRow} {hid : row.id ∉ c.lbRules.map LbRow.id}
    {hport : ∀ r ∈ c.lbRules, ¬ PortsClash r row} {r : LbRow} (hr : r ∈ (c.addRow row hid hport).lbRules)
    (he : r.id = row.id) : r = row := by
  rcases List.mem_append.mp hr with hr | hr
  · exact absurd (he ▸ List.mem_map_of_mem LbRow.id hr) hid
  · exact List.mem_singleton.mp hr

theorem modifyRow_self_eq {id : String} : c.modifyRow id (fun r => r) (fun _ => rfl) (fun _ => ⟨rfl, rfl⟩) = c := by
  ext1 <;> simp [modifyRow]

theorem addressOf_associate {id : String} (h : id ∈ c.ips.map PublicIpAddress.id) :
    c.associateIpAddress.2.addressOf id = c.addressOf id := by
  obtain ⟨ip, hip, rfl⟩ := List.mem_map.mp h
  have hfind : c.ips.find? (·.id = ip.id) ≠ none := fun hn => by simpa using List.find?_eq_none.mp hn ip hip
  obtain ⟨ip', hip'⟩ := Option.ne_none_iff_exists'.mp hfind
  simp only [addressOf, associateIpAddress, List.find?_append, hip', Option.or_some]

theorem view_congr {c c' : Cloud} (h : c.ips = c'.ips) : c.view = c'.view := by
  unfold view addressOf
  rw [h]

end Cloud

theorem keywordMatches_congr {keyword : String} {r r' : LbRow} (h : r'.name = r.name ∧ r'.description = r.description) :
    keywordMatches keyword r' = keywordMatches keyword r := by
  simp only [keywordMatches, h.1, h.2]

/-! ### The rule a port converges to -/

/-- The name the port loop gives the rule of `port` (line 298). -/
def portRuleName (lbName : String) (svc : Service) (port : ServicePort) : String :=
  lbName ++ "-" ++ (protocolFromServicePort port svc).toString ++ "-" ++ itoa port.port.toInt

theorem infix_portRuleName (lbName : String) (svc : Service) (port : ServicePort) :
    lbName.data <:+: (portRuleName lbName svc port).data := by
  simpa [portRuleName] using List.infix_append [] lbName.data
    ("-" ++ (protocolFromServicePort port svc).toString ++ "-" ++ itoa port.port.toInt).data

theorem keywordMatches_of_portRuleName {lbName : String} {svc : Service} {port : ServicePort} {r : LbRow}
    (h : r.name = portRuleName lbName svc port) : keywordMatches lbName r :=
  keywordMatches_of_infix (h ▸ infix_portRuleName lbName svc port)

theorem portRuleName_eq_iff (lbName lbName' : String) (svc : Service) (p q : ServicePort) :
    portRuleName lbName svc p = portRuleName lbName svc q ↔ portRuleName lbName' svc p = portRuleName lbName' svc q := by
  simp only [portRuleName, String.ext_iff, String.data_append, List.append_assoc, List.append_cancel_left_eq]

theorem nodup_portRuleName_iff (lbName lbName' : String) (svc : Service) (ports : List ServicePort) :
    (ports.map (portRuleName lbName svc)).Nodup ↔ (ports.map (portRuleName lbName' svc)).Nodup := by
  show List.Pairwise _ _ ↔ List.Pairwise _ _
  rw [List.pairwise_map, List.pairwise_map]
  exact List.Pairwise.iff fun p q => not_congr (portRuleName_eq_iff lbName lbName' svc p q)

/-- A stored rule that serves `port` for the load balancer `lb`: the port's name and numbers, the
load balancer's address and algorithm, and the port's protocol. -/
structure Serves (svc : Service) (lb : LoadBalancer) (port : ServicePort) (r : LbRow) : Prop where
  name : r.name = portRuleName lb.name svc port
  publicipid : r.publicipid = lb.ipAddrID
  privateport : r.privateport = itoa port.nodePort.toInt
  publicport : r.publicport = itoa port.port.toInt
  algorithm : r.algorithm = lb.algorithm
  protocol : r.protocol = (protocolFromServicePort port svc).csProtocol

theorem WellFormed.associate {c : Cloud} (h : WellFormed c) : WellFormed c.associateIpAddress.2 :=
  ⟨h.names, fun r hr => List.map_append PublicIpAddress.id _ _ ▸ List.mem_append_left _ (h.associated r hr)⟩

theorem WellFormed.view_associate {c : Cloud} (h : WellFormed c) {r : LbRow} (hr : r ∈ c.lbRules) :
    c.associateIpAddress.2.view r = c.view r := by
  unfold Cloud.view
  rw [c.addressOf_associate (h.associated r hr)]

theorem WellFormed.disassociate {c : Cloud} (h : WellFormed c) (id : String) :
    WellFormed (c.disassociateIpAddress id) := by
  refine ⟨h.names.sublist ((List.filter_sublist _).map _), fun r hr => ?_⟩
  obtain ⟨hr, hne⟩ := List.mem_filter.mp hr
  obtain ⟨ip, hip, hid⟩ := List.mem_map.mp (h.associated r hr)
  exact List.mem_map.mpr ⟨ip, List.mem_filter.mpr ⟨hip, by simpa [hid] using hne⟩, hid⟩

theorem WellFormed.row_eq_of_name {c : Cloud} (h : WellFormed c) {r r' : LbRow} (hr : r ∈ c.lbRules)
    (hr' : r' ∈ c.lbRules) (hn : r.name = r'.name) : r = r' :=
  List.inj_on_of_nodup_map h.names hr hr' hn

/-! ### What a run may change -/

/-- A rule as the keyword filter sees it, against the platform `c₀` a run started from: it has the
name and the description of a rule of `c₀`, or it is a new rule named in `names`, which the
provider creates without a description. -/
def Labelled (c₀ : Cloud) (names : List String) (r : LbRow) : Prop :=
  (∃ r₀ ∈ c₀.lbRules, r₀.name = r.name ∧ r₀.description = r.description) ∨ (r.name ∈ names ∧ r.description = "")

theorem Labelled.congr {c₀ : Cloud} {names : List String} {r r' : LbRow} (h : Labelled c₀ names r)
    (he : r'.name = r.name ∧ r'.description = r.description) : Labelled c₀ names r' := by
  rw [Labelled, he.1, he.2]
  exact h

theorem Labelled.mono {c₀ : Cloud} {names names' : List String} {r : LbRow} (h : Labelled c₀ names r)
    (hn : names ⊆ names') : Labelled c₀ names' r :=
  h.imp id fun ⟨hm, hd⟩ => ⟨hn hm, hd⟩

/-- What a run from `c₀` may have changed on `c`: the platform is still well formed, every rule
not `touched` and every address are still there, and every rule is `Labelled`. -/
structure Framed (touched : LbRow → Prop) (names : List String) (c₀ c : Cloud) : Prop where
  wf : WellFormed c
  kept : ∀ r ∈ c₀.lbRules, ¬ touched r → r ∈ c.lbRules
  named : ∀ r ∈ c.lbRules, Labelled c₀ names r
  ips : c₀.ips ⊆ c.ips

section Framed

variable {touched : LbRow → Prop} {names : List String} {c₀ c : Cloud}

theorem Framed.refl (h : WellFormed c) : Framed touched names c c :=
  ⟨h, fun _ hr _ => hr, fun r hr => .inl ⟨r, hr, rfl, rfl⟩, List.Subset.refl _⟩

theorem Framed.mono {touched' : LbRow → Prop} {names' : List String} (h : Framed touched names c₀ c)
    (ht : ∀ s, touched s → touched' s) (hn : names ⊆ names') : Framed touched' names' c₀ c :=
  ⟨h.wf, fun r hr hnt => h.kept r hr fun h' => hnt (ht _ h'), fun r hr => (h.named r hr).mono hn, h.ips⟩

theorem Framed.rebase {c₁ : Cloud} (h : Framed touched names c₁ c) (hrows : c₁.lbRules = c₀.lbRules)
    (hips : c₀.ips ⊆ c₁.ips) : Framed touched names c₀ c :=
  ⟨h.wf, fun r hr => h.kept r (hrows ▸ hr), by simpa only [Labelled, hrows] using h.named, hips.trans h.ips⟩

theorem Framed.release (h : Framed touched names c₀ c) (hwf : WellFormed c₀) {id : String}
    (hid : id ∉ c₀.ips.map PublicIpAddress.id) : Framed touched names c₀ (c.disassociateIpAddress id) := by
  have hne : ∀ s ∈ c₀.ips.map PublicIpAddress.id, s ≠ id := fun s hs he => hid (he ▸ hs)
  refine ⟨h.wf.disassociate id, fun r hr hnt => List.mem_filter.mpr ⟨h.kept r hr hnt, ?_⟩,
    fun r hr => h.named r (List.mem_filter.mp hr).1, fun ip hip => List.mem_filter.mpr ⟨h.ips hip, ?_⟩⟩
  · simpa using hne _ (hwf.associated r hr)
  · simpa using hne _ (List.mem_map_of_mem _ hip)

theorem Framed.associate (h : WellFormed c₀) : Framed touched names c₀ c₀.associateIpAddress.2 :=
  ⟨h.associate, fun _ hr _ => hr, fun r hr => .inl ⟨r, hr, rfl, rfl⟩, List.subset_append_left _ _⟩

end Framed

/-- No rule of the map and none of the platform has the name `N`. -/
def Absent (N : String) (m : List LoadBalancerRule) (c : Cloud) : Prop :=
  N ∉ m.map LoadBalancerRule.name ∧ N ∉ c.lbRules.map LbRow.name

/-! ### The locator's map -/

theorem LoadBalancer.keys_putRule (lb : LoadBalancer) (r : LoadBalancerRule)
    (h : (lb.rules.map LoadBalancerRule.name).Nodup) : ((lb.putRule r).rules.map LoadBalancerRule.name).Nodup := by
  simp only [LoadBalancer.putRule, List.map_append, List.map_singleton]
  refine List.nodup_append.mpr ⟨h.sublist ((List.filter_sublist _).map _), List.nodup_singleton _, fun a ha hb => ?_⟩
  obtain ⟨y, hy, rfl⟩ := List.mem_map.mp ha
  exact (by simpa using (List.mem_filter.mp hy).2 : y.name ≠ r.name) (List.mem_singleton.mp hb)

theorem addRules_keys (lb : LoadBalancer) (l : List LoadBalancerRule) (h : (lb.rules.map LoadBalancerRule.name).Nodup) :
    ((addRules lb l).rules.map LoadBalancerRule.name).Nodup := by
  induction l generalizing lb with
  | nil => exact h
  | cons r rs ih => exact ih _ (lb.keys_putRule r h)

theorem mem_addRules_of_keep (lb : LoadBalancer) (l : List LoadBalancerRule) {y : LoadBalancerRule}
    (hy : y ∈ lb.rules) (hl : y.name ∉ l.map LoadBalancerRule.name) : y ∈ (addRules lb l).rules := by
  induction l generalizing lb with
  | nil => exact hy
  | cons r rs ih =>
    have hne : y.name ≠ r.name := fun he => hl (he ▸ List.mem_map_of_mem _ (List.mem_cons_self r rs))
    exact ih _ (List.mem_append_left _ (List.mem_filter.mpr ⟨hy, by simpa using hne⟩))
      fun h => hl (List.mem_cons_of_mem _ h)

theorem mem_addRules (lb : LoadBalancer) (l : List LoadBalancerRule) (hl : (l.map LoadBalancerRule.name).Nodup) :
    ∀ x ∈ l, x ∈ (addRules lb l).rules := by
  induction l generalizing lb with
  | nil => exact fun x hx => absurd hx (List.not_mem_nil x)
  | cons r rs ih =>
    rw [List.map_cons, List.nodup_cons] at hl
    intro x hx
    rcases List.mem_cons.mp hx with rfl | hx
    · exact mem_addRules_of_keep _ rs (List.mem_append_right _ (List.mem_singleton_self _)) hl.1
    · exact ih _ hl.2 x hx

theorem WellFormed.keys_listLoadBalancerRules {c : Cloud} (h : WellFormed c) (keyword : String) :
    ((c.listLoadBalancerRules keyword).map LoadBalancerRule.name).Nodup := by
  simp only [Cloud.listLoadBalancerRules, List.map_map]
  exact h.names.sublist ((List.filter_sublist _).map _)

theorem view_mem_listLoadBalancerRules {c : Cloud} {keyword : String} {r : LbRow} (hr : r ∈ c.lbRules)
    (hm : keywordMatches keyword r) : c.view r ∈ c.listLoadBalancerRules keyword :=
  List.mem_map_of_mem _ (List.mem_filter.mpr ⟨hr, hm⟩)

/-- What the locator returns on a well-formed platform: every rule its name lists, once, and the
address of its rules. -/
structure Listed (c : Cloud) (lb : LoadBalancer) : Prop where
  keys : (lb.rules.map LoadBalancerRule.name).Nodup
  complete : ∀ r ∈ c.lbRules, keywordMatches lb.name r → c.view r ∈ lb.rules
  address : lb.ipAddr = "" ∨ c.addressOf lb.ipAddrID = lb.ipAddr

theorem listed_addRules {c : Cloud} (hwf : WellFormed c) (keyword : String) :
    Listed c (addRules ⟨keyword, "", [], "", "", "", []⟩ (c.listLoadBalancerRules keyword)) := by
  refine ⟨addRules_keys _ _ List.nodup_nil, fun r hr hm => ?_, ?_⟩
  · rw [addRules_name] at hm
    exact mem_addRules _ _ (hwf.keys_listLoadBalancerRules keyword) _ (view_mem_listLoadBalancerRules hr hm)
  · by_cases hl : c.listLoadBalancerRules keyword = []
    · rw [hl]
      exact .inl rfl
    · obtain ⟨x, hx, hip, hid⟩ := addRules_address ⟨keyword, "", [], "", "", "", []⟩ _ hl
      obtain ⟨r, -, rfl, -⟩ := mem_listLoadBalancerRules hx
      exact .inr (by rw [hip, hid]; rfl)

theorem listed_empty {c : Cloud} {keyword : String} (h : c.listLoadBalancerRules keyword = []) :
    Listed c ⟨keyword, "", [], "", "", "", []⟩ :=
  ⟨List.nodup_nil, fun _ hr hm => h ▸ view_mem_listLoadBalancerRules hr hm, .inl rfl⟩

theorem getLoadBalancerByName_listed (name legacyName : String) (c₀ : Cloud) (hwf : WellFormed c₀) :
    Triple (fun c => c = c₀) (getLoadBalancerByName name legacyName) (fun lb c => c = c₀ ∧ Listed c₀ lb)
      (fun c => c = c₀) := by
  unfold getLoadBalancerByName
  refine Triple.bind (Triple.withPrefix _ (Triple.query_eq _ _ c₀ rfl)) fun l => Triple.of_pre fun hl => ?_
  subst hl
  split
  · next hnil =>
    have hnil := List.isEmpty_iff.mp hnil
    refine Triple.ite ?_ (Triple.pure _ fun _ hc => ⟨hc, listed_empty hnil⟩)
    refine Triple.bind (Triple.withPrefix _ (Triple.query_eq _ _ c₀ rfl)) fun l => Triple.of_pre fun hl => ?_
    subst hl
    refine Triple.pure _ fun _ hc => ⟨hc, ?_⟩
    split
    · next hleg =>
      rw [List.isEmpty_iff.mp hleg]
      exact listed_empty hnil
    · exact listed_addRules hwf legacyName
  · exact Triple.pure _ fun _ hc => ⟨hc, listed_addRules hwf name⟩

/-! ### The port loop -/

section Loop

variable {svc : Service} {lb₀ : LoadBalancer} {c₀ : Cloud}

variable (svc lb₀ c₀) in
/-- The port loop's invariant after the ports `done`, for the load balancer `lb₀` with the map `m`:
the map holds rules the load balancer's name lists that no port done has taken, every port done
is served, every rule the name lists is served or in the map, and every rule of `c₀` the name
does not list is still there. -/
structure Converging (done : List ServicePort) (m : List LoadBalancerRule) (c : Cloud) : Prop where
  keys : (m.map LoadBalancerRule.name).Nodup
  mapped : ∀ x ∈ m, ∃ r ∈ c.lbRules, x = c.view r ∧ keywordMatches lb₀.name r
  pending : ∀ x ∈ m, ∀ p ∈ done, x.name ≠ portRuleName lb₀.name svc p
  served : ∀ p ∈ done, ∃ r ∈ c.lbRules, Serves svc lb₀ p r
  covered : ∀ r ∈ c.lbRules, keywordMatches lb₀.name r → (∃ p ∈ done, Serves svc lb₀ p r) ∨ c.view r ∈ m
  wf : WellFormed c
  frame : ∀ r ∈ c₀.lbRules, ¬ keywordMatches lb₀.name r → r ∈ c.lbRules
  named : ∀ r ∈ c.lbRules, Labelled c₀ (svc.ports.map (portRuleName lb₀.name svc)) r
  ips : c.ips = c₀.ips

variable (svc lb₀ c₀) in
/-- What the port loop may change: the frame of a run that touches the rules the load balancer's
name lists and adds rules named after the ports. -/
def LoopFramed : Cloud → Prop :=
  Framed (fun r => keywordMatches lb₀.name r) (svc.ports.map (portRuleName lb₀.name svc)) c₀

variable {done : List ServicePort} {m : List LoadBalancerRule} {c : Cloud} {p : ServicePort}

theorem Converging.of_tables (h : Converging svc lb₀ c₀ done m c) {c' : Cloud} (hl : c'.lbRules = c.lbRules)
    (hi : c'.ips = c.ips) : Converging svc lb₀ c₀ done m c' := by
  have hv : c'.view = c.view := Cloud.view_congr hi
  obtain ⟨hk, hm, hp, hs, hc, ⟨hn, ha⟩, hf, hnm, hips⟩ := h
  exact ⟨hk, by rwa [hl, hv], hp, by rwa [hl], by rwa [hl, hv], ⟨by rwa [hl], by rwa [hl, hi]⟩, by rwa [hl],
    by rwa [hl], hi.trans hips⟩

theorem Converging.framed (h : Converging svc lb₀ c₀ done m c) : LoopFramed svc lb₀ c₀ c :=
  Framed.mk h.wf h.frame h.named (h.ips ▸ List.Subset.refl _)

theorem Converging.row_of_mem (h : Converging svc lb₀ c₀ done m c) {x : LoadBalancerRule} (hx : x ∈ m) :
    ∃ r ∈ c.lbRules, x = c.view r ∧ r.id = x.id ∧ r.name = x.name ∧ keywordMatches lb₀.name r := by
  obtain ⟨r, hr, rfl, hm⟩ := h.mapped x hx
  exact ⟨r, hr, rfl, rfl, rfl, hm⟩

theorem Converging.absent (h : Converging svc lb₀ c₀ done m c)
    (hfresh : ∀ q ∈ done, portRuleName lb₀.name svc p ≠ portRuleName lb₀.name svc q)
    (hnone : ∀ x ∈ m, x.name ≠ portRuleName lb₀.name svc p) : Absent (portRuleName lb₀.name svc p) m c := by
  refine ⟨fun hN => ?_, fun hN => ?_⟩
  · obtain ⟨x, hx, hxN⟩ := List.mem_map.mp hN
    exact hnone x hx hxN
  · obtain ⟨r, hr, hrN⟩ := List.mem_map.mp hN
    rcases h.covered r hr (keywordMatches_of_portRuleName hrN) with ⟨q, hq, hs⟩ | hv
    · exact hfresh q hq (hrN ▸ hs.name)
    · exact hnone _ hv hrN

theorem Converging.remove (h : Converging svc lb₀ c₀ done m c) {x : LoadBalancerRule} (hx : x ∈ m) :
    Converging svc lb₀ c₀ done (m.filter (·.name ≠ x.name)) (c.deleteLoadBalancerRule x.id) := by
  obtain ⟨rx, hrx, -, hid, hname, hmatch⟩ := h.row_of_mem hx
  have hv : (c.deleteLoadBalancerRule x.id).view = c.view := Cloud.view_congr rfl
  have hstay : ∀ r ∈ c.lbRules, r ≠ rx → r ∈ (c.deleteLoadBalancerRule x.id).lbRules :=
    fun r hr hne => c.mem_deleteLoadBalancerRule.mpr ⟨hr, hid ▸ c.id_ne_of_ne hr hrx hne⟩
  have hother : ∀ r : LbRow, r.name ≠ x.name → r ≠ rx := fun r hrN he => hrN (he ▸ hname)
  refine ⟨h.keys.sublist ((List.filter_sublist _).map _), fun y hy => ?_, fun y hy => h.pending y (List.mem_filter.mp hy).1,
    fun q hq => ?_, fun r hr hm => ?_, ⟨?_, fun r hr => ?_⟩, fun r hr hm => ?_,
    fun r hr => h.named r (c.mem_deleteLoadBalancerRule.mp hr).1, h.ips⟩
  · obtain ⟨hy, hyN⟩ := List.mem_filter.mp hy
    obtain ⟨ry, hry, rfl, -, hryN, hm⟩ := h.row_of_mem hy
    exact ⟨ry, hstay ry hry (hother ry (by simpa [hryN] using hyN)), hv ▸ rfl, hm⟩
  · obtain ⟨rq, hrq, hs⟩ := h.served q hq
    exact ⟨rq, hstay rq hrq (hother rq (hs.name ▸ (h.pending x hx q hq).symm)), hs⟩
  · obtain ⟨hr, hne⟩ := c.mem_deleteLoadBalancerRule.mp hr
    refine (h.covered r hr hm).imp id fun hvr => hv ▸ List.mem_filter.mpr ⟨hvr, ?_⟩
    simpa using fun hrN : r.name = x.name => hne ((h.wf.row_eq_of_name hr hrx (hrN.trans hname.symm)) ▸ hid)
  · exact h.wf.names.sublist ((List.filter_sublist _).map _)
  · exact h.wf.associated r (c.mem_deleteLoadBalancerRule.mp hr).1
  · exact hstay r (h.frame r hr hm) fun he => hm (he ▸ hmatch)

theorem Converging.drop (h : Converging svc lb₀ c₀ done m c) {x : LoadBalancerRule} (hx : x ∈ m)
    (hxN : x.name = portRuleName lb₀.name svc p) :
    Absent (portRuleName lb₀.name svc p) (m.filter (·.name ≠ x.name)) (c.deleteLoadBalancerRule x.id) := by
  obtain ⟨rx, hrx, -, hid, hname, -⟩ := h.row_of_mem hx
  refine ⟨fun hN => ?_, fun hN => ?_⟩
  · obtain ⟨y, hy, hyN⟩ := List.mem_map.mp hN
    exact (by simpa using (List.mem_filter.mp hy).2 : y.name ≠ x.name) (hyN.trans hxN.symm)
  · obtain ⟨r, hr, hrN⟩ := List.mem_map.mp hN
    obtain ⟨hr, hne⟩ := c.mem_deleteLoadBalancerRule.mp hr
    exact hne ((h.wf.row_eq_of_name hr hrx (hrN.trans (hxN.symm.trans hname.symm))) ▸ hid)

theorem Converging.take (h : Converging svc lb₀ c₀ done m c) {x : LoadBalancerRule} (hx : x ∈ m)
    (hxN : x.name = portRuleName lb₀.name svc p) (g : LbRow → LbRow) (hg : ∀ r, (g r).id = r.id)
    (hk : ∀ r, (g r).publicipid = r.publicipid ∧ (g r).publicport = r.publicport)
    (hgkeep : ∀ r, (g r).name = r.name ∧ (g r).description = r.description)
    (hserve : ∀ r, x = c.view r → Serves svc lb₀ p (g r)) :
    Converging svc lb₀ c₀ (done ++ [p]) (m.filter (·.name ≠ portRuleName lb₀.name svc p))
      (c.modifyRow x.id g hg hk) := by
  rw [← hxN]
  obtain ⟨rx, hrx, hview, hid, hname, hmatch⟩ := h.row_of_mem hx
  have hv : (c.modifyRow x.id g hg hk).view = c.view := Cloud.view_congr rfl
  have hother : ∀ r ∈ c.lbRules, r.name ≠ x.name → r.id ≠ x.id := fun r hr hrN =>
    hid ▸ c.id_ne_of_ne hr hrx fun he => hrN (he ▸ hname)
  refine ⟨h.keys.sublist ((List.filter_sublist _).map _), fun y hy => ?_, fun y hy q hq => ?_, fun q hq => ?_,
    fun r' hr' hm => ?_, ⟨?_, fun r' hr' => ?_⟩, fun r hr hm => ?_, fun r' hr' => ?_, h.ips⟩
  · obtain ⟨hy, hyN⟩ := List.mem_filter.mp hy
    obtain ⟨ry, hry, rfl, -, hryN, hm⟩ := h.row_of_mem hy
    exact ⟨ry, c.mem_modifyRow_of_ne hry (hother ry hry (by simpa [hryN] using hyN)), hv ▸ rfl, hm⟩
  · obtain ⟨hy, hyN⟩ := List.mem_filter.mp hy
    rcases List.mem_append.mp hq with hq | hq
    · exact h.pending y hy q hq
    · rw [List.mem_singleton.mp hq]
      simpa [hxN] using hyN
  · rcases List.mem_append.mp hq with hq | hq
    · obtain ⟨rq, hrq, hs⟩ := h.served q hq
      exact ⟨rq, c.mem_modifyRow_of_ne hrq (hother rq hrq (hs.name ▸ (h.pending x hx q hq).symm)), hs⟩
    · exact ⟨g rx, c.mem_modifyRow_self hrx hid, List.mem_singleton.mp hq ▸ hserve rx hview⟩
  · obtain ⟨r, hr, rfl⟩ := c.mem_modifyRow.mp hr'
    split
    · next he =>
      obtain rfl := c.row_eq_of_id hr hrx (he.trans hid.symm)
      exact .inl ⟨p, List.mem_append_right _ (List.mem_singleton_self _), hserve _ hview⟩
    · next hne =>
      rw [if_neg hne] at hm
      refine (h.covered r hr hm).imp (fun ⟨q, hq, hs⟩ => ⟨q, List.mem_append_left _ hq, hs⟩)
        fun hvr => hv ▸ List.mem_filter.mpr ⟨hvr, ?_⟩
      simpa using fun hrN : r.name = x.name => hne ((h.wf.row_eq_of_name hr hrx (hrN.trans hname.symm)) ▸ hid)
  · rw [Cloud.map_modifyRow _ _ fun r => (hgkeep r).1]
    exact h.wf.names
  · obtain ⟨r, hr, rfl⟩ := c.mem_modifyRow.mp hr'
    split
    · rw [(hk r).1]
      exact h.wf.associated r hr
    · exact h.wf.associated r hr
  · exact c.mem_modifyRow_of_ne (h.frame r hr hm) (hid ▸ c.id_ne_of_ne (h.frame r hr hm) hrx fun he => hm (he ▸ hmatch))
  · obtain ⟨r, hr, rfl⟩ := c.mem_modifyRow.mp hr'
    split
    · exact (h.named r hr).congr (hgkeep r)
    · exact h.named r hr

theorem Converging.create (h : Converging svc lb₀ c₀ done m c) (hfree : Absent (portRuleName lb₀.name svc p) m c)
    (hip : lb₀.ipAddrID ∈ c₀.ips.map PublicIpAddress.id) (hp : p ∈ svc.ports) {row : LbRow}
    (hrow : Serves svc lb₀ p row) (hdesc : row.description = "") (hid : row.id ∉ c.lbRules.map LbRow.id)
    (hport : ∀ r ∈ c.lbRules, ¬ PortsClash r row) :
    Converging svc lb₀ c₀ (done ++ [p]) m (c.addRow row hid hport) := by
  have hv : (c.addRow row hid hport).view = c.view := Cloud.view_congr rfl
  have hrows : (c.addRow row hid hport).lbRules = c.lbRules ++ [row] := rfl
  refine ⟨h.keys, fun x hx => ?_, fun x hx q hq => ?_, fun q hq => ?_, fun r hr hm => ?_, ⟨?_, fun r hr => ?_⟩,
    fun r hr hm => List.mem_append_left _ (h.frame r hr hm), fun r hr => ?_, h.ips⟩
  · obtain ⟨r, hr, rfl, hm⟩ := h.mapped x hx
    exact ⟨r, List.mem_append_left _ hr, hv ▸ rfl, hm⟩
  · rcases List.mem_append.mp hq with hq | hq
    · exact h.pending x hx q hq
    · exact List.mem_singleton.mp hq ▸ fun hN => hfree.1 (hN ▸ List.mem_map_of_mem _ hx)
  · rcases List.mem_append.mp hq with hq | hq
    · obtain ⟨r, hr, hs⟩ := h.served q hq
      exact ⟨r, List.mem_append_left _ hr, hs⟩
    · exact ⟨row, List.mem_append_right _ (List.mem_singleton_self _), List.mem_singleton.mp hq ▸ hrow⟩
  · rcases List.mem_append.mp hr with hr | hr
    · exact (h.covered r hr hm).imp (fun ⟨q, hq, hs⟩ => ⟨q, List.mem_append_left _ hq, hs⟩) fun hvr => hv ▸ hvr
    · exact .inl ⟨p, List.mem_append_right _ (List.mem_singleton_self _), List.mem_singleton.mp hr ▸ hrow⟩
  · rw [hrows, List.map_append, List.map_singleton]
    exact List.nodup_append.mpr ⟨h.wf.names, List.nodup_singleton _, fun a ha hb => hfree.2
      (by rw [List.mem_singleton.mp hb, hrow.name] at ha; exact ha)⟩
  · rcases List.mem_append.mp hr with hr | hr
    · exact h.wf.associated r hr
    · rw [List.mem_singleton.mp hr, hrow.publicipid]
      exact (h.ips ▸ hip : lb₀.ipAddrID ∈ c.ips.map PublicIpAddress.id)
  · rcases List.mem_append.mp hr with hr | hr
    · exact h.named r hr
    · rw [List.mem_singleton.mp hr]
      exact .inr ⟨hrow.name ▸ List.mem_map_of_mem _ hp, hdesc⟩

theorem Converging.assign (h : Converging svc lb₀ c₀ done m c) {id : String} (vms : List String)
    (hid : ∀ r ∈ c.lbRules, r.id = id → keywordMatches lb₀.name r) :
    Converging svc lb₀ c₀ done m (c.assignToLoadBalancerRule id vms) := by
  let upd := fun r : LbRow => if r.id = id then { r with instances := r.instances ++ vms } else r
  have hv : (c.assignToLoadBalancerRule id vms).view = c.view := Cloud.view_congr rfl
  have hupd : ∀ r ∈ c.lbRules, upd r ∈ (c.assignToLoadBalancerRule id vms).lbRules :=
    fun r hr => c.mem_modifyRow.mpr ⟨r, hr, rfl⟩
  have hview : ∀ r, c.view (upd r) = c.view r := fun r => by dsimp only [upd]; split <;> rfl
  have hserve : ∀ q r, Serves svc lb₀ q r → Serves svc lb₀ q (upd r) := fun q r hs => by
    dsimp only [upd]
    split
    · exact ⟨hs.1, hs.2, hs.3, hs.4, hs.5, hs.6⟩
    · exact hs
  have hlabel : ∀ r, (upd r).name = r.name ∧ (upd r).description = r.description := fun r => by
    dsimp only [upd]; split <;> exact ⟨rfl, rfl⟩
  have hkeep : ∀ r, keywordMatches lb₀.name (upd r) = keywordMatches lb₀.name r := fun r =>
    keywordMatches_congr (hlabel r)
  have hnames : (c.assignToLoadBalancerRule id vms).lbRules.map LbRow.name = c.lbRules.map LbRow.name :=
    Cloud.map_modifyRow _ LbRow.name fun _ => rfl
  refine ⟨h.keys, fun x hx => ?_, h.pending, fun q hq => ?_, fun r' hr' hm => ?_, ⟨hnames ▸ h.wf.names, fun r' hr' => ?_⟩,
    fun r hr hm => ?_, fun r' hr' => ?_, h.ips⟩
  · obtain ⟨r, hr, rfl, hm⟩ := h.mapped x hx
    exact ⟨_, hupd r hr, by rw [hv, hview], (hkeep r).trans hm⟩
  · obtain ⟨r, hr, hs⟩ := h.served q hq
    exact ⟨_, hupd r hr, hserve q r hs⟩
  · obtain ⟨r, hr, rfl⟩ := c.mem_modifyRow.mp hr'
    rw [hv]
    exact (h.covered r hr ((hkeep r).symm.trans hm)).imp (fun ⟨q, hq, hs⟩ => ⟨q, hq, hserve q r hs⟩)
      fun hvr => (hview r).symm ▸ hvr
  · obtain ⟨r, hr, rfl⟩ := c.mem_modifyRow.mp hr'
    split <;> exact h.wf.associated r hr
  · exact c.mem_modifyRow_of_ne (h.frame r hr hm) fun he => hm (hid r (h.frame r hr hm) he)
  · obtain ⟨r, hr, rfl⟩ := c.mem_modifyRow.mp hr'
    exact (h.named r hr).congr (hlabel r)

end Loop

theorem Triple.of_exists {α ι : Type} {P : ι → Cloud → Prop} {x : CloudM α} {Q : α → Cloud → Prop}
    {E : Cloud → Prop} (h : ∀ i, Triple (P i) x Q E) : Triple (fun c => ∃ i, P i c) x Q E :=
  fun rt w ⟨i, hi⟩ => h i rt w hi

theorem Converging.triple_of_tables {svc : Service} {lb₀ : LoadBalancer} {c₀ : Cloud} {done : List ServicePort}
    {m : List LoadBalancerRule} {α : Type} {x : CloudM α} {Q : α → Prop}
    (hx : ∀ I : List LbRow → List PublicIpAddress → Prop,
      Triple (OnTables I) x (fun a c => OnTables I c ∧ Q a) (OnTables I)) :
    Triple (Converging svc lb₀ c₀ done m) x (fun a c => Converging svc lb₀ c₀ done m c ∧ Q a)
      (LoopFramed svc lb₀ c₀) :=
  Triple.of_forall_eq fun c₁ h₁ => Triple.conseq (hx fun rows ips => rows = c₁.lbRules ∧ ips = c₁.ips)
    (fun _ hc => hc ▸ ⟨rfl, rfl⟩) (fun _ _ ⟨⟨hl, hi⟩, hq⟩ => ⟨h₁.of_tables hl hi, hq⟩)
    fun _ ⟨hl, hi⟩ => (h₁.of_tables hl hi).framed

/-! ### One port -/

section Port

variable {svc : Service} {lb₀ : LoadBalancer} {c₀ : Cloud} {done : List ServicePort} {p : ServicePort}

theorem mem_ips_of_addressOf (haddr : c₀.addressOf lb₀.ipAddrID = lb₀.ipAddr) (hne : lb₀.ipAddr ≠ "") :
    lb₀.ipAddrID ∈ c₀.ips.map PublicIpAddress.id := by
  obtain ⟨ip, hip, hid, -⟩ := c₀.exists_of_addressOf_ne_empty (haddr ▸ hne)
  exact hid ▸ List.mem_map_of_mem _ hip

theorem createLoadBalancerRule_converging {m : List LoadBalancerRule}
    (hip : lb₀.ipAddrID ∈ c₀.ips.map PublicIpAddress.id) (hp : p ∈ svc.ports) :
    Triple (fun c => Converging svc lb₀ c₀ done m c ∧ Absent (portRuleName lb₀.name svc p) m c)
      (do
        let lbRule ← createLoadBalancerRule { lb₀ with rules := m } (portRuleName lb₀.name svc p) p
          (protocolFromServicePort p svc)
        assignHostsToRule lbRule lb₀.hostIDs
        pure (lbRule, ({ lb₀ with rules := m } : LoadBalancer)))
      (fun r c => ∃ m', r.2 = { lb₀ with rules := m' } ∧ Converging svc lb₀ c₀ (done ++ [p]) m' c)
      (LoopFramed svc lb₀ c₀) := by
  have hcreate : Triple (fun c => Converging svc lb₀ c₀ done m c ∧ Absent (portRuleName lb₀.name svc p) m c)
      (createLoadBalancerRule { lb₀ with rules := m } (portRuleName lb₀.name svc p) p (protocolFromServicePort p svc))
      (fun lbRule c => Converging svc lb₀ c₀ (done ++ [p]) m c ∧
        ∀ r ∈ c.lbRules, r.id = lbRule.id → keywordMatches lb₀.name r) (LoopFramed svc lb₀ c₀) :=
    Triple.withPrefix _ (Triple.remoteTry _ _ (fun c _ _ ⟨h, hfree⟩ hc => by
      obtain ⟨-, -, rfl, rfl⟩ := c.createLoadBalancerRule_ok hc
      exact ⟨h.create hfree hip hp ⟨rfl, rfl, rfl, rfl, rfl, rfl⟩ rfl _ _, fun r hr hid =>
        keywordMatches_of_portRuleName (congrArg LbRow.name (c.eq_of_mem_addRow hr hid) :)⟩)
      fun c ⟨h, _⟩ => h.framed)
  refine Triple.bind hcreate fun lbRule => ?_
  refine Triple.bind (Triple.withPrefix _ (Triple.remote _ _ (fun c ⟨h, hid⟩ => h.assign _ hid)
    fun c ⟨h, _⟩ => h.framed))
    fun _ => Triple.pure _ fun c h => ⟨m, rfl, h⟩

theorem deleteLoadBalancerRule_triple {P : Cloud → Prop} {Q : LoadBalancer → Cloud → Prop} {E : Cloud → Prop}
    (lb : LoadBalancer) (lbRule : LoadBalancerRule)
    (hok : ∀ c, P c → Q (lb.dropRule lbRule.name) (c.deleteLoadBalancerRule lbRule.id)) (hfail : ∀ c, P c → E c) :
    Triple P (deleteLoadBalancerRule lb lbRule) Q E := by
  have hcall : Triple P (withPrefix ("error deleting load balancer rule " ++ lbRule.name ++ ": ")
      (Client.deleteLoadBalancerRule lbRule.id)) (fun _ => Q (lb.dropRule lbRule.name)) E :=
    Triple.withPrefix _ (Triple.remote _ _ hok hfail)
  exact Triple.bind hcall fun _ => Triple.pure _ fun _ h => h

theorem Converging.serves_of_view {done : List ServicePort} {m : List LoadBalancerRule} {c : Cloud}
    (h : Converging svc lb₀ c₀ done m c) (haddr : c₀.addressOf lb₀.ipAddrID = lb₀.ipAddr) (hne : lb₀.ipAddr ≠ "")
    {r : LbRow} (hN : r.name = portRuleName lb₀.name svc p) (hip : c.addressOf r.publicipid = lb₀.ipAddr)
    (hpriv : r.privateport = itoa p.nodePort.toInt) (hpub : r.publicport = itoa p.port.toInt) :
    Serves svc lb₀ p { r with algorithm := lb₀.algorithm, protocol := (protocolFromServicePort p svc).csProtocol } := by
  have hc : c.addressOf = c₀.addressOf := by unfold Cloud.addressOf; rw [h.ips]
  rw [hc, ← haddr] at hip
  exact ⟨hN, c₀.addressOf_inj hip (hip ▸ haddr ▸ hne), hpriv, hpub, rfl, rfl⟩

theorem ensurePortRule_converging {m : List LoadBalancerRule}
    (hfresh : ∀ q ∈ done, portRuleName lb₀.name svc p ≠ portRuleName lb₀.name svc q)
    (haddr : c₀.addressOf lb₀.ipAddrID = lb₀.ipAddr) (hne : lb₀.ipAddr ≠ "") (hp : p ∈ svc.ports) :
    Triple (Converging svc lb₀ c₀ done m)
      (ensurePortRule { lb₀ with rules := m } (portRuleName lb₀.name svc p) p (protocolFromServicePort p svc))
      (fun r c => ∃ m', r.2 = { lb₀ with rules := m' } ∧ Converging svc lb₀ c₀ (done ++ [p]) m' c)
      (LoopFramed svc lb₀ c₀) := by
  have hip := mem_ips_of_addressOf haddr hne
  unfold ensurePortRule checkLoadBalancerRule
  split
  · next hnone =>
    have hfree : ∀ x ∈ m, x.name ≠ portRuleName lb₀.name svc p := fun x hx hxN => by
      simpa [hxN] using List.find?_eq_none.mp hnone x hx
    exact Triple.conseq (createLoadBalancerRule_converging hip hp) (fun c h => ⟨h, h.absent hfresh hfree⟩)
      (fun _ _ h => h) fun _ h => h
  · next x hrule =>
    have hx : x ∈ m := List.mem_of_find?_eq_some hrule
    have hxN : x.name = portRuleName lb₀.name svc p := by simpa using List.find?_some hrule
    split
    · next hcond =>
      obtain ⟨hpub, hpriv, hport⟩ := hcond
      have hserve : ∀ c, Converging svc lb₀ c₀ done m c → ∀ r, x = c.view r →
          Serves svc lb₀ p { r with algorithm := lb₀.algorithm, protocol := (protocolFromServicePort p svc).csProtocol } :=
        fun c h r hr => by subst hr; exact h.serves_of_view haddr hne hxN hpub hpriv hport
      refine Triple.pure_bind _ ?_
      cases hnu : (x.algorithm != lb₀.algorithm || x.protocol != (protocolFromServicePort p svc).csProtocol)
      · -- up to date: the rule stays as it is
        simp only [Bool.or_eq_false_iff, bne_eq_false_iff_eq] at hnu
        refine Triple.pure_bind _ (Triple.pure _ fun c h => ⟨_, rfl, ?_⟩)
        have := h.take hx hxN (fun r => r) (fun _ => rfl) (fun _ => ⟨rfl, rfl⟩) (fun _ => ⟨rfl, rfl⟩) fun r hr => by
          have hs := hserve c h r hr
          subst hr
          exact ⟨hs.1, hs.2, hs.3, hs.4, hnu.1, hnu.2⟩
        rwa [Cloud.modifyRow_self_eq] at this
      · -- the algorithm or the protocol changed: the rule is updated in place
        simp only [if_true]
        refine Triple.bind (?_ : Triple _ _ (fun _ c => Converging svc lb₀ c₀ (done ++ [p])
          (m.filter (·.name ≠ portRuleName lb₀.name svc p)) c) (LoopFramed svc lb₀ c₀)) fun _ =>
            Triple.pure _ fun c h => ⟨_, rfl, h⟩
        unfold updateLoadBalancerRule
        rw [show ({ lb₀ with rules := m } : LoadBalancer).rule? (portRuleName lb₀.name svc p) = some x from hrule]
        exact Triple.remote _ _ (fun c h => h.take hx hxN
          (fun r => { r with algorithm := lb₀.algorithm, protocol := (protocolFromServicePort p svc).csProtocol })
          (fun _ => rfl) (fun _ => ⟨rfl, rfl⟩) (fun _ => ⟨rfl, rfl⟩) (hserve c h)) fun c h => h.framed
    · -- the address or a port changed: the rule is deleted and created again
      have hdel : Triple (Converging svc lb₀ c₀ done m) (deleteLoadBalancerRule { lb₀ with rules := m } x)
          (fun lb c => lb = { lb₀ with rules := m.filter (·.name ≠ x.name) } ∧
            Converging svc lb₀ c₀ done (m.filter (·.name ≠ x.name)) c ∧
            Absent (portRuleName lb₀.name svc p) (m.filter (·.name ≠ x.name)) c) (LoopFramed svc lb₀ c₀) :=
        deleteLoadBalancerRule_triple _ _ (fun c h => ⟨rfl, h.remove hx, h.drop hx hxN⟩) fun c h => h.framed
      have hcheck : Triple (Converging svc lb₀ c₀ done m)
          (deleteLoadBalancerRule { lb₀ with rules := m } x >>= fun lb => pure ((none : Option LoadBalancerRule), false, lb))
          (fun r c => r = ((none : Option LoadBalancerRule), false, { lb₀ with rules := m.filter (·.name ≠ x.name) }) ∧
            Converging svc lb₀ c₀ done (m.filter (·.name ≠ x.name)) c ∧
            Absent (portRuleName lb₀.name svc p) (m.filter (·.name ≠ x.name)) c) (LoopFramed svc lb₀ c₀) :=
        Triple.bind hdel fun _ => Triple.pure _ fun _ ⟨hlb, h⟩ => ⟨by rw [hlb], h⟩
      refine Triple.bind hcheck fun _ => Triple.of_pre_imp (fun _ h => h.1) fun he => ?_
      subst he
      exact Triple.conseq (createLoadBalancerRule_converging hip hp) (fun _ h => h.2) (fun _ _ h => h) fun _ h => h

theorem ensurePort_converging (nets : IPNetParser) {m : List LoadBalancerRule}
    (hfresh : ∀ q ∈ done, portRuleName lb₀.name svc p ≠ portRuleName lb₀.name svc q)
    (haddr : c₀.addressOf lb₀.ipAddrID = lb₀.ipAddr) (hne : lb₀.ipAddr ≠ "") (hp : p ∈ svc.ports) :
    Triple (Converging svc lb₀ c₀ done m) (ensurePort nets svc { lb₀ with rules := m } p)
      (fun lb c => ∃ m', lb = { lb₀ with rules := m' } ∧ Converging svc lb₀ c₀ (done ++ [p]) m' c)
      (LoopFramed svc lb₀ c₀) := by
  simp only [ensurePort]
  split
  · exact Triple.throw_bind _ fun _ h => h.framed
  · refine Triple.pure_bind _ (Triple.bind (ensurePortRule_converging hfresh haddr hne hp) fun ⟨lbRule, lb'⟩ => ?_)
    refine Triple.of_exists fun m' => Triple.of_pre_imp (fun _ h => h.1) fun hlb => ?_
    subst hlb
    exact Triple.conseq (Converging.triple_of_tables fun I => ensurePortFirewall_keeps _ _ _ _ _ _) (fun _ h => h.2)
      (fun _ _ ⟨h, hlb⟩ => ⟨m', hlb, h⟩) fun _ h => h

end Port

/-! ### The port loop and the cleanup -/

section Rules

variable {svc : Service} {lb₀ : LoadBalancer} {c₀ : Cloud}

theorem ensurePorts_converging (nets : IPNetParser) (haddr : c₀.addressOf lb₀.ipAddrID = lb₀.ipAddr)
    (hne : lb₀.ipAddr ≠ "") : ∀ (ports done : List ServicePort) (m : List LoadBalancerRule),
    ((done ++ ports).map (portRuleName lb₀.name svc)).Nodup → ports ⊆ svc.ports →
    Triple (Converging svc lb₀ c₀ done m) (ensurePorts nets svc { lb₀ with rules := m } ports)
      (fun lb c => ∃ m', lb = { lb₀ with rules := m' } ∧ Converging svc lb₀ c₀ (done ++ ports) m' c)
      (LoopFramed svc lb₀ c₀)
  | [], done, m, _, _ => Triple.pure _ fun _ h => ⟨m, rfl, by simpa using h⟩
  | p :: ports, done, m, hnd, hsub => by
    rw [List.map_append] at hnd
    have hfresh : ∀ q ∈ done, portRuleName lb₀.name svc p ≠ portRuleName lb₀.name svc q := fun q hq he =>
      (List.nodup_append.mp hnd).2.2 (List.mem_map_of_mem _ hq) (he ▸ List.mem_map_of_mem _ (List.mem_cons_self p ports))
    have hp := List.cons_subset.mp hsub
    refine Triple.bind (ensurePort_converging nets hfresh haddr hne hp.1) fun lb => Triple.of_exists fun m' =>
      Triple.of_pre_imp (fun _ h => h.1) fun hlb => ?_
    subst hlb
    refine Triple.conseq (ensurePorts_converging nets haddr hne ports (done ++ [p]) m' ?_ hp.2) (fun _ h => h.2)
      (fun _ _ ⟨m'', hlb, h⟩ => ⟨m'', hlb, by simpa using h⟩) fun _ h => h
    simpa [List.map_append] using hnd

theorem deleteStaleRules_converging {ports : List ServicePort} : ∀ (stale m : List LoadBalancerRule),
    (stale.map LoadBalancerRule.name).Nodup → (∀ x, x ∈ m ↔ x ∈ stale) →
    Triple (Converging svc lb₀ c₀ ports m) (deleteStaleRules { lb₀ with rules := m } stale)
      (fun lb c => lb = { lb₀ with rules := [] } ∧ Converging svc lb₀ c₀ ports [] c) (LoopFramed svc lb₀ c₀)
  | [], m, _, hmem => by
    obtain rfl : m = [] := List.eq_nil_iff_forall_not_mem.mpr fun x hx => by simpa using (hmem x).mp hx
    exact Triple.pure _ fun _ h => ⟨rfl, h⟩
  | x :: rest, m, hnd, hmem => by
    have hx : x ∈ m := (hmem x).mpr (List.mem_cons_self x rest)
    have hrest : ∀ y, y ∈ m.filter (·.name ≠ x.name) ↔ y ∈ rest := fun y => by
      rw [List.mem_filter, hmem y, List.mem_cons]
      constructor
      · rintro ⟨rfl | hy, hyN⟩
        · simp at hyN
        · exact hy
      · intro hy
        refine ⟨.inr hy, ?_⟩
        simpa using fun he : y.name = x.name =>
          (List.nodup_cons.mp (List.map_cons _ _ _ ▸ hnd)).1 (he ▸ List.mem_map_of_mem _ hy)
    simp only [deleteStaleRules]
    split
    · exact Triple.throw_bind _ fun _ h => h.framed
    · refine Triple.pure_bind _ ?_
      split
      · exact Triple.throw _ fun _ h => h.framed
      · have hdel : Triple (Converging svc lb₀ c₀ ports m) (deleteLoadBalancerRule { lb₀ with rules := m } x)
            (fun lb c => lb = { lb₀ with rules := m.filter (·.name ≠ x.name) } ∧
              Converging svc lb₀ c₀ ports (m.filter (·.name ≠ x.name)) c) (LoopFramed svc lb₀ c₀) :=
          deleteLoadBalancerRule_triple _ _ (fun _ h => ⟨rfl, h.remove hx⟩) fun _ h => h.framed
        refine Triple.bind (Triple.conseq (Converging.triple_of_tables fun I => Triple.conseq
          (deleteFirewallRule_keeps I _ _ _) (fun _ h => h) (fun _ _ h => ⟨h, trivial⟩) fun _ h => h)
          (fun _ h => h) (fun _ _ h => h.1) fun _ h => h) fun _ => Triple.bind hdel fun lb =>
            Triple.of_pre_imp (fun _ h => h.1) fun hlb => ?_
        subst hlb
        exact Triple.conseq (deleteStaleRules_converging rest _ (List.nodup_cons.mp hnd).2 hrest) (fun _ h => h.2)
          (fun _ _ h => h) fun _ h => h

theorem ensureRules_converging (nets : IPNetParser) (haddr : c₀.addressOf lb₀.ipAddrID = lb₀.ipAddr)
    (hne : lb₀.ipAddr ≠ "") (hnd : (svc.ports.map (portRuleName lb₀.name svc)).Nodup) :
    Triple (Converging svc lb₀ c₀ [] lb₀.rules) (ensureRules nets svc lb₀)
      (fun st c => st = loadBalancerStatus svc lb₀ ∧ Converging svc lb₀ c₀ svc.ports [] c)
      (LoopFramed svc lb₀ c₀) := by
  refine Triple.bind (ensurePorts_converging nets haddr hne svc.ports [] lb₀.rules hnd (List.Subset.refl _)) fun lb =>
    Triple.of_exists fun m => Triple.of_pre_imp (fun _ h => h.1) fun hlb => ?_
  subst hlb
  have hstale : Triple (fun c => { lb₀ with rules := m } = { lb₀ with rules := m } ∧
      Converging svc lb₀ c₀ ([] ++ svc.ports) m c) (rangeOver m)
      (fun stale c => Converging svc lb₀ c₀ svc.ports m c ∧ stale.Perm m) (LoopFramed svc lb₀ c₀) :=
    Triple.rangeOver _ fun _ h _ hperm => ⟨h.2, hperm⟩
  refine Triple.bind hstale fun stale => Triple.of_pre fun hperm => ?_
  refine Triple.of_pre_imp (fun _ h => h.keys) fun hkeys => ?_
  refine Triple.bind (deleteStaleRules_converging stale m ((hperm.map _).nodup_iff.mpr hkeys)
    fun x => hperm.mem_iff.symm) fun lb => Triple.of_pre_imp (fun _ h => h.1) fun hlb => ?_
  subst hlb
  exact Triple.pure _ fun _ h => ⟨rfl, h.2⟩

end Rules

theorem portRuleName_annotated (lbName : String) (svc : Service) (value : String) :
    portRuleName lbName ( setServiceAnnotation svc serviceAnnotationLoadBalancerAddress value) = portRuleName lbName svc :=
  funext fun p => by simp only [portRuleName, protocolFromServicePort_setServiceAnnotation]

theorem serves_annotated {svc : Service} {lb : LoadBalancer} {p : ServicePort} {r : LbRow} (value : String) :
    Serves ( setServiceAnnotation svc serviceAnnotationLoadBalancerAddress value) lb p r ↔ Serves svc lb p r := by
  have hname := congrFun (portRuleName_annotated lb.name svc value) p
  have hproto := protocolFromServicePort_setServiceAnnotation p svc value
  constructor <;> rintro ⟨h1, h2, h3, h4, h5, h6⟩
  · exact ⟨hname ▸ h1, h2, h3, h4, h5, hproto ▸ h6⟩
  · exact ⟨hname ▸ h1, h2, h3, h4, h5, hproto ▸ h6⟩

/-! ### The address phase -/

/-- What the address phase of a run from `c₀` hands the port loop, on the platform `c`: the load
balancer of the Service's canonical name, or of its legacy name when the canonical one lists no
rule, with every rule its name lists in its map, its algorithm, and an associated address. -/
structure Started (clusterName : String) (svc : Service) (c₀ : Cloud) (lb : LoadBalancer) (c : Cloud) : Prop where
  name : lb.name = getLoadBalancerName clusterName svc ∨
    (lb.name = getLoadBalancerLegacyName svc ∧ c₀.listLoadBalancerRules (getLoadBalancerName clusterName svc) = [])
  algorithm : affinityAlgorithm svc.sessionAffinity = .ok lb.algorithm
  address : c.addressOf lb.ipAddrID = lb.ipAddr
  address_ne : lb.ipAddr ≠ ""
  rows : c.lbRules = c₀.lbRules
  ips : c₀.ips ⊆ c.ips
  ips_fresh : c.ips ⊆ c₀.ips ++ [c₀.newAddress]
  keys : (lb.rules.map LoadBalancerRule.name).Nodup
  mapped : ∀ x ∈ lb.rules, ∃ r ∈ c.lbRules, x = c.view r ∧ keywordMatches lb.name r
  complete : ∀ r ∈ c.lbRules, keywordMatches lb.name r → c.view r ∈ lb.rules
  wf : WellFormed c

theorem Started.converging {clusterName : String} {svc : Service} {c₀ : Cloud} {lb : LoadBalancer} {c : Cloud}
    (h : Started clusterName svc c₀ lb c) (svc' : Service) : Converging svc' lb c [] lb.rules c :=
  ⟨h.keys, h.mapped, fun _ _ _ hq => absurd hq (List.not_mem_nil _), fun _ hq => absurd hq (List.not_mem_nil _),
    fun r hr hm => .inr (h.complete r hr hm), h.wf, fun _ hr _ => hr, fun r hr => .inl ⟨r, hr, rfl, rfl⟩, rfl⟩

theorem getLoadBalancerIP_addressed (lb : LoadBalancer) (loadBalancerIP : String) (c₀ : Cloud) :
    Triple (fun c => c = c₀) (getLoadBalancerIP lb loadBalancerIP)
      (fun lb' c => (c = c₀ ∨ c = c₀.associateIpAddress.2) ∧
        lb' = { lb with ipAddr := lb'.ipAddr, ipAddrID := lb'.ipAddrID } ∧
        c.addressOf lb'.ipAddrID = lb'.ipAddr ∧ lb'.ipAddr ≠ "" ∧
        (lb'.ipAddr = loadBalancerIP ∨ lb'.ipAddrID = c₀.newAddress.id))
      (fun c => c = c₀ ∨ c = c₀.associateIpAddress.2) := by
  unfold getLoadBalancerIP
  split
  · next hne =>
    unfold getPublicIPAddress
    refine Triple.bind (Triple.withPrefix _ (Triple.query_eq _ _ c₀ (.inl rfl))) fun l => Triple.of_pre fun hl => ?_
    split
    · next ip =>
      obtain ⟨hmem, hip⟩ := List.mem_filter.mp (hl ▸ List.mem_singleton_self ip)
      have hip : ip.ipaddress = loadBalancerIP := by simpa using hip
      exact Triple.pure _ fun c hc => ⟨.inl hc, rfl, hc ▸ c₀.addressOf_of_mem hmem, by simpa [hip] using hne, .inl hip⟩
    · exact Triple.throw _ fun _ hc => .inl hc
  · unfold associatePublicIPAddress
    refine Triple.bind (Triple.withPrefix _ (Triple.query_keeps _ _ fun _ hc => .inl hc)) fun network => ?_
    split
    · exact Triple.throw _ fun _ hc => .inl hc
    · have hassoc : ∀ v n, Triple (fun c => c = c₀) (Client.associateIpAddress v n)
          (fun ip c => c = c₀.associateIpAddress.2 ∧ ip = c₀.newAddress) (fun c => c = c₀ ∨ c = c₀.associateIpAddress.2) :=
        fun _ _ => Triple.remote _ _ (fun _ hc => by subst hc; exact ⟨rfl, rfl⟩) fun _ hc => .inl hc
      refine Triple.bind (Triple.withPrefix _ (Triple.ite (hassoc _ _) (hassoc _ _))) fun ip =>
        Triple.pure _ fun c ⟨hc, hip⟩ => ⟨.inr hc, rfl, ?_, hip ▸ fresh_ne_empty _, .inr (congrArg PublicIpAddress.id hip)⟩
      subst hc hip
      exact Cloud.addressOf_of_mem _ (List.mem_append_right _ (List.mem_singleton_self _))

theorem ensureAddress_started (clusterName : String) (svc : Service) (nodes : List Node) (c₀ : Cloud)
    (hwf : WellFormed c₀) :
    Triple (fun c => c = c₀) (ensureAddress clusterName svc nodes)
      (fun r c => Started clusterName svc c₀ r.1 c ∧ (r.2 = true → r.1.ipAddrID ∉ c₀.ips.map PublicIpAddress.id))
      (fun c => c = c₀ ∨ c = c₀.associateIpAddress.2) := by
  unfold ensureAddress
  refine Triple.bind (Triple.conseq (Triple.and (getLoadBalancerByName_found _ _ c₀)
    (getLoadBalancerByName_listed _ _ c₀ hwf)) (fun _ h => h)
    (fun lb c h => (⟨h.1.1, h.1.2, h.2.2⟩ : c = c₀ ∧ Found _ _ lb c₀ ∧ Listed c₀ lb)) fun _ h => .inl h.1) fun lb =>
      Triple.of_pre fun ⟨hfound, hlisted⟩ => ?_
  split
  · exact Triple.throw _ fun _ hc => .inl hc
  · next algorithm halg =>
    refine Triple.bind (verifyHosts_keeps _ fun _ hc => .inl hc) fun ⟨hostIDs, networkID⟩ => ?_
    have hstart : ∀ (lb' : LoadBalancer) (c : Cloud), (c = c₀ ∨ c = c₀.associateIpAddress.2) →
        lb'.name = lb.name → lb'.rules = lb.rules → lb'.algorithm = algorithm →
        c.addressOf lb'.ipAddrID = lb'.ipAddr → lb'.ipAddr ≠ "" → Started clusterName svc c₀ lb' c := by
      intro lb' c hc hname hrules halg' haddr hne
      have hrows : c.lbRules = c₀.lbRules := by rcases hc with rfl | rfl <;> rfl
      have hips : c₀.ips ⊆ c.ips := by rcases hc with rfl | rfl; exacts [List.Subset.refl _, List.subset_append_left _ _]
      have hfresh : c.ips ⊆ c₀.ips ++ [c₀.newAddress] := by
        rcases hc with rfl | rfl; exacts [List.subset_append_left _ _, List.Subset.refl _]
      have hwf' : WellFormed c := by rcases hc with rfl | rfl; exacts [hwf, hwf.associate]
      have hview : ∀ r ∈ c₀.lbRules, c.view r = c₀.view r := fun r hr => by
        rcases hc with rfl | rfl; exacts [rfl, hwf.view_associate hr]
      refine ⟨hname ▸ hfound.name_eq, halg'.symm ▸ halg, haddr, hne, hrows, hips, hfresh, hrules ▸ hlisted.keys,
        fun x hx => ?_, fun r hr hm => ?_, hwf'⟩
      · obtain ⟨r, hr, rfl, hm⟩ := hfound.rules_match x (hrules ▸ hx)
        exact ⟨r, hrows ▸ hr, (hview r hr).symm, hname ▸ hm⟩
      · rw [hrows] at hr
        rw [hview r hr, hrules]
        exact hlisted.complete r hr (hname ▸ hm)
    dsimp only
    split
    · next hip =>
      have hne : lb.ipAddr ≠ "" :=
        (by simpa [LoadBalancer.hasLoadBalancerIP] using hip : lb.ipAddr ≠ "" ∧ lb.ipAddrID ≠ "").1
      exact Triple.pure _ fun c hc => ⟨hstart _ c (.inl hc) rfl rfl rfl (hc ▸ hlisted.address.resolve_left hne) hne,
        fun h => absurd h Bool.false_ne_true⟩
    · refine Triple.bind (getLoadBalancerIP_addressed _ _ c₀) fun lb' =>
        Triple.pure _ fun c ⟨hc, hlb, haddr, hne, hfresh⟩ => ⟨?_, fun hrel => ?_⟩
      · rw [hlb] at haddr hne ⊢
        exact hstart _ c hc rfl rfl rfl haddr hne
      · rw [hfresh.resolve_left (by simpa using hrel : lb'.ipAddr ≠ "" ∧ lb'.ipAddr ≠ svc.loadBalancerIP).2]
        exact fresh_not_mem _

/-! ### Whole runs -/

/-- What a run from `c₀` that returned a status leaves on the platform `c`, for the load balancer
`lb` it converged: the Service's canonical name, or its legacy name when the canonical one listed
nothing; the algorithm of the Service's affinity; an associated address; among the rules the name
lists, a rule serving each port and no rule serving none; every rule of `c₀` the name does not
list; every rule `Labelled` as one of `c₀` or a new port rule under the name; and the id of an
address of `c₀` or of the one a new association gets. -/
structure Converged (clusterName : String) (svc : Service) (c₀ : Cloud) (lb : LoadBalancer) (c : Cloud) : Prop where
  name : lb.name = getLoadBalancerName clusterName svc ∨
    (lb.name = getLoadBalancerLegacyName svc ∧ c₀.listLoadBalancerRules (getLoadBalancerName clusterName svc) = [])
  algorithm : affinityAlgorithm svc.sessionAffinity = .ok lb.algorithm
  address : c.addressOf lb.ipAddrID = lb.ipAddr
  address_ne : lb.ipAddr ≠ ""
  served : ∀ p ∈ svc.ports, ∃ r ∈ c.lbRules, Serves svc lb p r
  only : ∀ r ∈ c.lbRules, keywordMatches lb.name r → ∃ p ∈ svc.ports, Serves svc lb p r
  wf : WellFormed c
  frame : ∀ r ∈ c₀.lbRules, ¬ keywordMatches lb.name r → r ∈ c.lbRules
  named : ∀ r ∈ c.lbRules, Labelled c₀ (svc.ports.map (portRuleName lb.name svc)) r
  id_mem : lb.ipAddrID ∈ c₀.ips.map PublicIpAddress.id ∨ lb.ipAddrID = c₀.newAddress.id

/-- One rule per port: two rules serving a port are the same rule. -/
theorem Converged.unique {clusterName : String} {svc : Service} {c₀ : Cloud} {lb : LoadBalancer} {c : Cloud}
    (h : Converged clusterName svc c₀ lb c) {p : ServicePort} {r r' : LbRow} (hr : r ∈ c.lbRules)
    (hr' : r' ∈ c.lbRules) (hs : Serves svc lb p r) (hs' : Serves svc lb p r') : r = r' :=
  h.wf.row_eq_of_name hr hr' (hs.name.trans hs'.name.symm)

theorem Started.converged {clusterName : String} {svc : Service} {c₀ c₁ c : Cloud} {lb : LoadBalancer}
    (hstart : Started clusterName svc c₀ lb c₁) {value : String}
    (h : Converging ( setServiceAnnotation svc serviceAnnotationLoadBalancerAddress value) lb c₁ svc.ports [] c) :
    Converged clusterName svc c₀ lb c := by
  have hc : c.addressOf = c₁.addressOf := by unfold Cloud.addressOf; rw [h.ips]
  refine ⟨hstart.name, hstart.algorithm, hc ▸ hstart.address, hstart.address_ne, fun p hp => ?_, fun r hr hm => ?_,
    h.wf, fun r hr hm => h.frame r (hstart.rows ▸ hr) hm, ?_, ?_⟩
  · obtain ⟨r, hr, hs⟩ := h.served p hp
    exact ⟨r, hr, (serves_annotated value).mp hs⟩
  · rcases h.covered r hr hm with ⟨p, hp, hs⟩ | hv
    · exact ⟨p, hp, (serves_annotated value).mp hs⟩
    · exact absurd hv (List.not_mem_nil _)
  · have hn := h.named
    simpa only [Labelled, portRuleName_annotated, hstart.rows] using hn
  · obtain ⟨ip, hip, hid, -⟩ := c₁.exists_of_addressOf_ne_empty (hstart.address ▸ hstart.address_ne)
    rcases List.mem_append.mp (hstart.ips_fresh hip) with hip | hip
    · exact .inl (hid ▸ List.mem_map_of_mem _ hip)
    · exact .inr (hid ▸ congrArg PublicIpAddress.id (List.mem_singleton.mp hip))

theorem ensureWithAddress_converging (nets : IPNetParser) {clusterName : String} {svc : Service} {c₀ c₁ : Cloud}
    {lb : LoadBalancer} (release : Bool) (hwf : WellFormed c₀) (hstart : Started clusterName svc c₀ lb c₁)
    (hfresh : release = true → lb.ipAddrID ∉ c₀.ips.map PublicIpAddress.id)
    (hnd : (svc.ports.map (portRuleName lb.name svc)).Nodup) :
    Triple (fun c => c = c₁) (ensureWithAddress nets svc lb release)
      (fun res c => Framed (fun r => keywordMatches lb.name r) (svc.ports.map (portRuleName lb.name svc)) c₀ c ∧
        (res.status ≠ none → res.status = some (loadBalancerStatus res.service lb) ∧ Converged clusterName svc c₀ lb c ∧
          res.service = setServiceAnnotation svc serviceAnnotationLoadBalancerAddress lb.ipAddr))
      (Framed (fun r => keywordMatches lb.name r) (svc.ports.map (portRuleName lb.name svc)) c₀) := by
  have hframe : ∀ c, LoopFramed ( setServiceAnnotation svc serviceAnnotationLoadBalancerAddress lb.ipAddr) lb c₁ c →
      Framed (fun r => keywordMatches lb.name r) (svc.ports.map (portRuleName lb.name svc)) c₀ c := fun c h =>
    Framed.rebase (by rw [LoopFramed, portRuleName_annotated] at h; exact h) hstart.rows hstart.ips
  have hrules : Triple (fun c => c = c₁)
      (ensureRules nets ( setServiceAnnotation svc serviceAnnotationLoadBalancerAddress lb.ipAddr) lb)
      (fun st c => st = loadBalancerStatus ( setServiceAnnotation svc serviceAnnotationLoadBalancerAddress lb.ipAddr) lb ∧
        Converging ( setServiceAnnotation svc serviceAnnotationLoadBalancerAddress lb.ipAddr) lb c₁ svc.ports [] c)
      (Framed (fun r => keywordMatches lb.name r) (svc.ports.map (portRuleName lb.name svc)) c₀) :=
    Triple.conseq (ensureRules_converging nets hstart.address hstart.address_ne
      (by rw [portRuleName_annotated]; exact hnd)) (fun _ hc => by subst hc; exact hstart.converging _)
      (fun _ _ h => h) hframe
  unfold ensureWithAddress
  refine Triple.bind (Triple.outcome hrules) fun r => ?_
  cases r with
  | ok status =>
    exact Triple.bind (patch_keeps _ _ _) fun _ => Triple.pure _ fun c ⟨hst, h⟩ =>
      ⟨hframe c h.framed, fun _ => ⟨by rw [hst], hstart.converged h, rfl⟩⟩
  | error e =>
    dsimp only
    split <;> refine Triple.bind ?_ fun _ => Triple.bind (patch_keeps _ _ _) fun _ =>
      Triple.pure _ fun _ h => ⟨h, fun hn => absurd rfl hn⟩
    · next hrel =>
      exact Triple.attempt (Triple.withPrefix _ (Triple.remote _ _ (fun _ h => h.release hwf (hfresh hrel))
        fun _ h => h))
    · exact Triple.pure _ fun _ h => h

/-- A rule that a run for `svc` may touch: the Service's canonical or legacy load-balancer name
lists it. -/
def Touches (clusterName : String) (svc : Service) (r : LbRow) : Prop :=
  keywordMatches (getLoadBalancerName clusterName svc) r ∨ keywordMatches (getLoadBalancerLegacyName svc) r

/-- The names a run for `svc` may give new rules: a port's rule under either name. -/
def serviceRuleNames (clusterName : String) (svc : Service) : List String :=
  svc.ports.map (portRuleName (getLoadBalancerName clusterName svc) svc) ++
    svc.ports.map (portRuleName (getLoadBalancerLegacyName svc) svc)

/-- What a run of `EnsureLoadBalancer` for `svc` may change from `c₀`: every rule that neither the
Service's canonical nor its legacy name lists stays, every address stays, and every rule is named
as a rule of `c₀` or as the rule of one of the Service's ports under either name. -/
def EnsureFramed (clusterName : String) (svc : Service) : Cloud → Cloud → Prop :=
  Framed (Touches clusterName svc) (serviceRuleNames clusterName svc)

theorem ensureFramed_of_address {clusterName : String} {svc : Service} {c₀ c : Cloud} (hwf : WellFormed c₀)
    (hc : c = c₀ ∨ c = c₀.associateIpAddress.2) : EnsureFramed clusterName svc c₀ c := by
  rcases hc with rfl | rfl
  exacts [Framed.refl hwf, Framed.associate hwf]

theorem ensureFramed_of_framed {clusterName : String} {svc : Service} {c₀ c : Cloud} {lb : LoadBalancer}
    (hname : lb.name = getLoadBalancerName clusterName svc ∨
      (lb.name = getLoadBalancerLegacyName svc ∧ c₀.listLoadBalancerRules (getLoadBalancerName clusterName svc) = []))
    (h : Framed (fun r => keywordMatches lb.name r) (svc.ports.map (portRuleName lb.name svc)) c₀ c) :
    EnsureFramed clusterName svc c₀ c := by
  rcases hname with hN | ⟨hN, -⟩ <;> rw [hN] at h <;> refine h.mono (fun _ hs => ?_) ?_
  exacts [Or.inl hs, List.subset_append_left _ _, Or.inr hs, List.subset_append_right _ _]

/-- The whole of `EnsureLoadBalancer`: every run keeps its frame, and one with a status converged. -/
theorem ensureLoadBalancer_converging (nets : IPNetParser) (clusterName : String) (svc : Service)
    (nodes : List Node) (c₀ : Cloud) (hwf : WellFormed c₀)
    (hnd : (svc.ports.map (portRuleName (getLoadBalancerName clusterName svc) svc)).Nodup) :
    Triple (fun c => c = c₀) (ensureLoadBalancer nets clusterName svc nodes)
      (fun res c => EnsureFramed clusterName svc c₀ c ∧ (res.status ≠ none →
        ∃ lb, res.status = some (loadBalancerStatus res.service lb) ∧ Converged clusterName svc c₀ lb c ∧
          res.service = setServiceAnnotation svc serviceAnnotationLoadBalancerAddress lb.ipAddr))
      (EnsureFramed clusterName svc c₀) := by
  unfold ensureLoadBalancer
  refine Triple.ite (Triple.pure _ fun _ hc => ⟨ensureFramed_of_address hwf (.inl hc), fun hn => absurd rfl hn⟩) ?_
  refine Triple.bind (Triple.outcome (ensureAddress_started clusterName svc nodes c₀ hwf)) fun r => ?_
  rcases r with e | ⟨lb, release⟩
  · exact Triple.bind (patch_keeps _ _ _) fun _ =>
      Triple.pure _ fun c h => ⟨ensureFramed_of_address hwf h, fun hn => absurd rfl hn⟩
  · refine Triple.of_forall_eq fun c₁ hstart => Triple.conseq (ensureWithAddress_converging nets release hwf hstart.1
      hstart.2 ((nodup_portRuleName_iff _ _ svc svc.ports).mp hnd)) (fun _ h => h) (fun _ _ h => ?_)
      fun _ h => ensureFramed_of_framed hstart.1.name h
    exact ⟨ensureFramed_of_framed hstart.1.name h.1, fun hn => ⟨lb, h.2 hn⟩⟩

end CloudStackLB
