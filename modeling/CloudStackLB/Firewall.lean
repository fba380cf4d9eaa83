import CloudStackLB.Compare
import CloudStackLB.Triple

/-! # The firewall synchronizer

`updateFirewallRule` (`loadbalancer.go:929-1002`) converges the firewall rules of one
(public IP, protocol, port) to a single rule with the wanted CIDR list; `deleteFirewallRule`
(lines 1007-1040) removes them all. Both list the rules of the IP, keep those of the port and
delete them one by one, logging a failed deletion and going on.
-/

namespace CloudStackLB

/-- A firewall rule of the port: the protocol's IP protocol and the one-port range. -/
def FirewallRule.Matches (protocol : LoadBalancerProtocol) (publicPort : Int) (rule : FirewallRule) : Bool :=
  rule.protocol = protocol.ipProtocol ∧ rule.startport = publicPort ∧ rule.endport = publicPort

/-- The deletion loop of both functions: every rule is sent a `DeleteFirewallRule`, a failure
is logged and the loop goes on; `deleted` records a success, and the error is Go's `err`
after the last call. -/
def deleteRules : List FirewallRule → Bool × Option String → CloudM (Bool × Option String)
  | [], acc => pure acc
  | rule :: rest, (deleted, _) => do
    let err ← attempt (Client.deleteFirewallRule rule.id)
    deleteRules rest (deleted || err.isNone, err)

/-- The CIDR list a firewall rule must carry: allow-all when none is given. -/
def wantedCIDRs (allowedCIDRs : List String) : List String :=
  if allowedCIDRs.isEmpty then [defaultAllowedCIDR] else allowedCIDRs

/-- The matching rule kept, if any: the first, in map order, whose CIDR list is a
permutation of the wanted one. -/
def keptRule (candidates : List FirewallRule) (allowedCIDRs : List String) : Option FirewallRule :=
  candidates.find? fun rule => compareStringSlice (stringsSplit rule.cidrlist ',') allowedCIDRs

/-- The rules `updateFirewallRule` deletes: every matching rule but the kept one. -/
def staleRules (filtered : List FirewallRule) : Option FirewallRule → List FirewallRule
  | some keep => filtered.erase keep
  | none => filtered

/-- The part of `updateFirewallRule` after the listing, given the rules of the port: keep a
rule with the wanted CIDR list, delete the others, create the rule if none was kept. -/
def syncPortRules (publicIPID : String) (publicPort : Int) (protocol : LoadBalancerProtocol)
    (allowedCIDRs : List String) (filtered : List FirewallRule) : CloudM Bool := do
  let candidates ← rangeOver filtered
  let found := keptRule candidates allowedCIDRs
  let order ← rangeOver (staleRules filtered found)
  let (_, err) ← deleteRules order (false, none)
  match found with
  | some _ =>
    match err with
    | some e => throw e
    | none => pure true
  | none => do
    withPrefix ("error creating new firewall rule for public IP " ++ publicIPID ++ ", proto " ++
        protocol.toString ++ ", port " ++ itoa publicPort ++ ", allowed " ++ formatList allowedCIDRs ++ ": ")
      (Client.createFirewallRule publicIPID protocol.ipProtocol allowedCIDRs publicPort publicPort)
    pure true

def updateFirewallRule (publicIPID : String) (publicPort : Int) (protocol : LoadBalancerProtocol)
    (allowedCIDRs : List String) : CloudM Bool := do
  let r ← withPrefix ("error fetching firewall rules for public IP " ++ publicIPID ++ ": ")
    (Client.listFirewallRules publicIPID)
  syncPortRules publicIPID publicPort protocol (wantedCIDRs allowedCIDRs)
    (r.filter (FirewallRule.Matches protocol publicPort))

def deleteFirewallRule (publicIPID : String) (publicPort : Int) (protocol : LoadBalancerProtocol) :
    CloudM Bool := do
  let r ← withPrefix ("error fetching firewall rules for public IP " ++ publicIPID ++ ": ")
    (Client.listFirewallRules publicIPID)
  let filtered := r.filter (FirewallRule.Matches protocol publicPort)
  let (deleted, err) ← deleteRules filtered (false, none)
  match err with
  | some e => throw e
  | none => pure deleted

/-! ### The deletion loop -/

theorem attempt_deleteFirewallRule (id : String) (rt : Runtime) (w : World) :
    attempt (Client.deleteFirewallRule id) rt w =
      match rt.fails w.log.length (.deleteFirewallRule id) with
      | some e => (.ok (some e), { w with log := w.log ++ [(.deleteFirewallRule id, false)] })
      | none => (.ok none, { w with
          cloud := w.cloud.deleteFirewallRule id
          log := w.log ++ [(.deleteFirewallRule id, true)] }) := by
  cases h : rt.fails w.log.length (.deleteFirewallRule id) <;>
    simp [attempt, Client.deleteFirewallRule, remote, h]

theorem deleteRules_ok (order : List FirewallRule) (acc : Bool × Option String) (rt : Runtime) (w : World)
    (hdel : ∀ n id, rt.fails n (.deleteFirewallRule id) = none) :
    deleteRules order acc rt w =
      (.ok (acc.1 || !order.isEmpty, if order.isEmpty then acc.2 else none),
        { w with
          cloud := w.cloud.deleteFirewallRules (order.map FirewallRule.id)
          log := w.log ++ order.map fun r => (.deleteFirewallRule r.id, true) }) := by
  induction order generalizing acc w with
  | nil => simp [deleteRules, CloudM.run_pure, Cloud.deleteFirewallRules]
  | cons r rest ih =>
    obtain ⟨deleted, err⟩ := acc
    simp only [deleteRules, CloudM.run_bind, attempt_deleteFirewallRule, hdel, ih]
    simp [Cloud.deleteFirewallRules]

/-! ### What the two functions do -/

section Port

variable (publicIPID : String) (publicPort : Int) (protocol : LoadBalancerProtocol) (allowedCIDRs : List String)

/-- The rules of the port among those of the IP, in listing order. -/
def portRules (c : Cloud) : List FirewallRule :=
  (c.listFirewallRules publicIPID).filter (FirewallRule.Matches protocol publicPort)

theorem updateFirewallRule_list_ok (rt : Runtime) (w : World)
    (hl : rt.fails w.log.length (.listFirewallRules publicIPID) = none) :
    updateFirewallRule publicIPID publicPort protocol allowedCIDRs rt w =
      syncPortRules publicIPID publicPort protocol (wantedCIDRs allowedCIDRs)
        (portRules publicIPID publicPort protocol w.cloud) rt
        { w with log := w.log ++ [(.listFirewallRules publicIPID, true)] } := by
  simp [updateFirewallRule, CloudM.run_bind, withPrefix, Client.listFirewallRules, query, remote, hl, portRules]

/-- The deletion loop never fails: a failed deletion's error stays until the next deletion. -/
theorem deleteRules_returns : ∀ (order : List FirewallRule) (acc : Bool × Option String) (rt : Runtime)
    (w : World), ∃ acc' w', deleteRules order acc rt w = (.ok acc', w')
  | [], acc, _, w => ⟨acc, w, rfl⟩
  | r :: rest, ⟨deleted, _⟩, rt, w => by
    simp only [deleteRules, CloudM.run_bind, attempt_deleteFirewallRule]
    cases rt.fails w.log.length (.deleteFirewallRule r.id) <;> exact deleteRules_returns rest _ rt _

/-- Where no rule is kept, the create's success overwrites a deletion's error (lines 979, 993). -/
theorem syncPortRules_drops_deletion_error (filtered : List FirewallRule) (rt : Runtime) (w : World)
    (hnone : keptRule (rt.sched.visit w.loops filtered) allowedCIDRs = none)
    (hcreate : ∀ n, rt.fails n (.createFirewallRule publicIPID protocol.ipProtocol allowedCIDRs publicPort publicPort) =
      none) :
    (syncPortRules publicIPID publicPort protocol allowedCIDRs filtered rt w).1 = .ok true := by
  simp only [syncPortRules, CloudM.run_bind, rangeOver, hnone]
  obtain ⟨acc', w', hrun⟩ := deleteRules_returns (rt.sched.visit (w.loops + 1) (staleRules filtered none))
    (false, none) rt { w with loops := w.loops + 1 + 1 }
  rw [hrun]
  simp [CloudM.run_bind, Client.createFirewallRule, remote, withPrefix, hcreate, CloudM.run_pure]

theorem syncPortRules_ok (filtered : List FirewallRule) (rt : Runtime) (w : World)
    (hdel : ∀ n id, rt.fails n (.deleteFirewallRule id) = none)
    (hcreate : ∀ n, rt.fails n (.createFirewallRule publicIPID protocol.ipProtocol allowedCIDRs publicPort publicPort) =
      none) :
    (syncPortRules publicIPID publicPort protocol allowedCIDRs filtered rt w).1 = .ok true := by
  cases hf : keptRule (rt.sched.visit w.loops filtered) allowedCIDRs with
  | none => exact syncPortRules_drops_deletion_error publicIPID publicPort protocol allowedCIDRs filtered rt w hf hcreate
  | some keep =>
    simp only [syncPortRules, CloudM.run_bind, rangeOver, hf]
    rw [deleteRules_ok _ _ _ _ hdel]
    simp only
    split <;> simp_all [CloudM.run_pure]

/-- With no deletion failing, a run that returns has deleted the rules it visited and, where it
kept none, created the wanted one. -/
theorem syncPortRules_cloud (filtered : List FirewallRule) (rt : Runtime) (w : World)
    (hdel : ∀ n id, rt.fails n (.deleteFirewallRule id) = none) {b : Bool}
    (hok : (syncPortRules publicIPID publicPort protocol allowedCIDRs filtered rt w).1 = .ok b) :
    (syncPortRules publicIPID publicPort protocol allowedCIDRs filtered rt w).2.cloud =
      let found := keptRule (rt.sched.visit w.loops filtered) allowedCIDRs
      let cloud := w.cloud.deleteFirewallRules
        ((rt.sched.visit (w.loops + 1) (staleRules filtered found)).map FirewallRule.id)
      match found with
      | some _ => cloud
      | none => cloud.createFirewallRule publicIPID protocol.ipProtocol allowedCIDRs publicPort publicPort := by
  simp only [syncPortRules, CloudM.run_bind, rangeOver] at hok ⊢
  rw [deleteRules_ok _ _ _ _ hdel] at hok ⊢
  cases hf : keptRule (rt.sched.visit w.loops filtered) allowedCIDRs with
  | some keep => simp only; split <;> rfl
  | none =>
    simp only [hf, CloudM.run_bind, Client.createFirewallRule, remote, withPrefix] at hok ⊢
    set order := rt.sched.visit (w.loops + 1) (staleRules filtered none)
    cases hc : rt.fails (w.log.length + order.length)
      (.createFirewallRule publicIPID protocol.ipProtocol allowedCIDRs publicPort publicPort) <;>
      simp_all [CloudM.run_pure]

/-- The rules of a port on an IP, as a predicate on the platform's firewall rules. -/
def onPort (r : FirewallRule) : Bool :=
  r.ipaddressid = publicIPID && FirewallRule.Matches protocol publicPort r

theorem portRules_eq (c : Cloud) :
    portRules publicIPID publicPort protocol c = c.fwRules.filter (onPort publicIPID publicPort protocol) := by
  simp only [portRules, Cloud.listFirewallRules, List.filter_filter]
  congr 1
  funext r
  simp [onPort, Bool.and_comm]

end Port

/-! ### The synchronizer's postcondition -/

theorem filter_id_not_mem (l S : List FirewallRule) (hl : (l.map FirewallRule.id).Nodup)
    (hS : ∀ r ∈ S, r ∈ l) :
    l.filter (fun r => r.id ∉ S.map FirewallRule.id) = l.filter (fun r => r ∉ S) := by
  apply List.filter_congr
  intro r hr
  have : r.id ∈ S.map FirewallRule.id ↔ r ∈ S := by
    constructor
    · rintro hm
      obtain ⟨r', hr', he⟩ := List.mem_map.mp hm
      rwa [List.inj_on_of_nodup_map hl (hS r' hr') hr he] at hr'
    · exact List.mem_map_of_mem _
  simp [this]

theorem filter_not_mem_erase (F : List FirewallRule) (m : FirewallRule) (hF : F.Nodup) (hm : m ∈ F) :
    F.filter (fun r => r ∉ F.erase m) = [m] := by
  induction F with
  | nil => simp at hm
  | cons a t ih =>
    have hat : a ∉ t := (List.nodup_cons.mp hF).1
    by_cases ham : a = m
    · subst ham
      have hnil : t.filter (fun r => r ∉ t) = [] := List.filter_eq_nil_iff.mpr (fun r hr => by simp [hr])
      simp [List.filter_cons, hat, hnil]
    · have hmt : m ∈ t := (List.mem_cons.mp hm).resolve_left (Ne.symm ham)
      have hne : (a :: t).erase m = a :: t.erase m := List.erase_cons_tail (by simpa using ham)
      have heq : t.filter (fun r => r ∉ a :: t.erase m) = t.filter (fun r => r ∉ t.erase m) :=
        List.filter_congr (fun r hr => by
          have : r ≠ a := fun e => hat (e ▸ hr)
          simp [this])
      rw [hne, List.filter_cons, if_neg (by simp), heq, ih (List.nodup_cons.mp hF).2 hmt]

theorem mem_portRules (publicIPID : String) (publicPort : Int) (protocol : LoadBalancerProtocol) (c : Cloud)
    (r : FirewallRule) : r ∈ portRules publicIPID publicPort protocol c ↔
      r ∈ c.fwRules ∧ onPort publicIPID publicPort protocol r = true := by
  rw [portRules_eq, List.mem_filter]

theorem staleRules_subset (F : List FirewallRule) (o : Option FirewallRule) : ∀ r ∈ staleRules F o, r ∈ F := by
  cases o with
  | some m => exact fun r => List.mem_of_mem_erase
  | none => exact fun r => id

theorem deleteFirewallRules_portRules (publicIPID : String) (publicPort : Int) (protocol : LoadBalancerProtocol)
    (c : Cloud) (order : List FirewallRule) (hsub : ∀ r ∈ order, r ∈ portRules publicIPID publicPort protocol c) :
    (c.deleteFirewallRules (order.map FirewallRule.id)).fwRules.filter (onPort publicIPID publicPort protocol) =
      (portRules publicIPID publicPort protocol c).filter (fun r => r ∉ order) := by
  rw [Cloud.deleteFirewallRules_fwRules,
    filter_id_not_mem c.fwRules order c.fwRules_nodup (fun r hr => ((mem_portRules _ _ _ c r).mp (hsub r hr)).1),
    portRules_eq, List.filter_filter, List.filter_filter]
  simp only [Bool.and_comm]

theorem portRules_nodup (publicIPID : String) (publicPort : Int) (protocol : LoadBalancerProtocol) (c : Cloud) :
    (portRules publicIPID publicPort protocol c).Nodup := by
  rw [portRules_eq]
  exact (List.Nodup.of_map _ c.fwRules_nodup).filter _

theorem mem_deleteFirewallRules {c : Cloud} {order : List FirewallRule} (hsub : ∀ r ∈ order, r ∈ c.fwRules)
    {r : FirewallRule} (hr : r ∈ c.fwRules) (hno : r ∉ order) :
    r ∈ (c.deleteFirewallRules (order.map FirewallRule.id)).fwRules := by
  rw [Cloud.deleteFirewallRules_fwRules, filter_id_not_mem c.fwRules order c.fwRules_nodup hsub]
  exact List.mem_filter.mpr ⟨hr, by simpa using hno⟩

/-- A rule with the wanted CIDR list is kept, whatever order the loop visits the rules in. -/
theorem keptRule_ne_none {F : List FirewallRule} {wanted : List String} (s : Schedule) (k : Nat)
    (h : ∃ r ∈ F, (stringsSplit r.cidrlist ',').Perm wanted) : keptRule (s.visit k F) wanted ≠ none := by
  obtain ⟨r, hrF, hp⟩ := h
  simp only [keptRule, ne_eq, List.find?_eq_none, not_forall, not_not]
  exact ⟨r, (s.visit_perm _ _).mem_iff.mpr hrF, (compareStringSlice_eq_true_iff _ _).mpr hp.symm⟩

theorem wantedCIDRs_splits {allowedCIDRs : List String} (hcidrs : ∀ s ∈ allowedCIDRs, s ≠ "" ∧ ',' ∉ s.data) :
    wantedCIDRs allowedCIDRs ≠ [] ∧ ∀ s ∈ wantedCIDRs allowedCIDRs, ',' ∉ s.data := by
  unfold wantedCIDRs
  split
  · exact ⟨by simp, by simp [defaultAllowedCIDR]⟩
  · next hne => exact ⟨by simpa using hne, fun s hs => (hcidrs s hs).2⟩

/-! ### One rule per port -/

section Exact

variable {publicIPID : String} {publicPort : Int} {protocol : LoadBalancerProtocol}

/-- Exactly one firewall rule of the port is on the address `publicIPID`, and it allows exactly the
CIDR list `wanted`. -/
def Exact (publicIPID : String) (wanted : List String) (publicPort : Int) (protocol : LoadBalancerProtocol)
    (c : Cloud) : Prop :=
  ∃ rule, c.fwRules.filter (onPort publicIPID publicPort protocol) = [rule] ∧ (stringsSplit rule.cidrlist ',').Perm wanted

/-- Off the port, `c` has the firewall rules of `c₀`: any choice of rules none of which is of the
port picks the same list from both. -/
def SameOffPort (publicIPID : String) (publicPort : Int) (protocol : LoadBalancerProtocol) (c₀ c : Cloud) : Prop :=
  ∀ g : FirewallRule → Bool, (∀ r, onPort publicIPID publicPort protocol r = true → g r = false) →
    c.fwRules.filter g = c₀.fwRules.filter g

theorem SameOffPort.refl (c : Cloud) : SameOffPort publicIPID publicPort protocol c c := fun _ _ => rfl

theorem SameOffPort.trans {c₁ c₂ c₃ : Cloud} (h₁ : SameOffPort publicIPID publicPort protocol c₁ c₂)
    (h₂ : SameOffPort publicIPID publicPort protocol c₂ c₃) : SameOffPort publicIPID publicPort protocol c₁ c₃ :=
  fun g hg => (h₂ g hg).trans (h₁ g hg)

theorem SameOffPort.deleteFirewallRules {c : Cloud} {order : List FirewallRule}
    (hsub : ∀ r ∈ order, r ∈ portRules publicIPID publicPort protocol c) :
    SameOffPort publicIPID publicPort protocol c (c.deleteFirewallRules (order.map FirewallRule.id)) := fun g hg => by
  rw [Cloud.deleteFirewallRules_fwRules, filter_id_not_mem c.fwRules order c.fwRules_nodup
    (fun r hr => ((mem_portRules _ _ _ c r).mp (hsub r hr)).1), List.filter_filter]
  refine List.filter_congr fun r _ => ?_
  cases hgr : g r
  · rfl
  · have : r ∉ order := fun hr => by simpa [hgr] using hg r ((mem_portRules _ _ _ c r).mp (hsub r hr)).2
    simp [this]

theorem SameOffPort.createFirewallRule (c : Cloud) (cidrs : List String) :
    SameOffPort publicIPID publicPort protocol c
      (c.createFirewallRule publicIPID protocol.ipProtocol cidrs publicPort publicPort) := fun g hg => by
  have : g (c.newFirewallRule publicIPID protocol.ipProtocol cidrs publicPort publicPort) = false :=
    hg _ (by simp [onPort, FirewallRule.Matches, Cloud.newFirewallRule])
  simp [Cloud.createFirewallRule, List.filter_append, this]

theorem Exact.of_sameOffPort {ipid : String} {wanted : List String} {port : Int} {proto : LoadBalancerProtocol}
    {c₀ c : Cloud} (h : Exact ipid wanted port proto c₀) (hframe : SameOffPort publicIPID publicPort protocol c₀ c)
    (hdisj : ∀ r, onPort publicIPID publicPort protocol r = true → onPort ipid port proto r = false) :
    Exact ipid wanted port proto c := by
  obtain ⟨rule, hf, hp⟩ := h
  exact ⟨rule, (hframe _ hdisj).trans hf, hp⟩

/-- A port on the address of an update keeps its one rule: the update's own port, or one it spares. -/
theorem Exact.of_update {wanted : List String} {port : Int} {proto : LoadBalancerProtocol} {c₀ c : Cloud}
    (h : Exact publicIPID wanted port proto c₀) (hframe : SameOffPort publicIPID publicPort protocol c₀ c)
    (hnew : Exact publicIPID wanted publicPort protocol c) : Exact publicIPID wanted port proto c := by
  by_cases hs : port = publicPort ∧ proto.ipProtocol = protocol.ipProtocol
  · have : onPort publicIPID port proto = onPort publicIPID publicPort protocol := by
      funext r
      simp [onPort, FirewallRule.Matches, hs.1, hs.2]
    unfold Exact
    rwa [this]
  · refine h.of_sameOffPort hframe fun r hon => Bool.eq_false_iff.mpr fun hon' => hs ?_
    simp only [onPort, FirewallRule.Matches, Bool.and_eq_true, decide_eq_true_eq] at hon hon'
    exact ⟨hon'.2.2.1.symm.trans hon.2.2.1, hon'.2.1.symm.trans hon.2.1⟩

end Exact

/-- With no deletion failing, a run of `updateFirewallRule` that returns leaves one rule of the
port, allowing exactly the wanted list, and every other firewall rule as it was; it adds none
when a rule of the port already allowed that list. -/
theorem updateFirewallRule_synced (publicIPID : String) (publicPort : Int) (protocol : LoadBalancerProtocol)
    (allowedCIDRs : List String) (rt : Runtime) (w : World) (hcidrs : ∀ s ∈ allowedCIDRs, s ≠ "" ∧ ',' ∉ s.data)
    (hdel : ∀ n id, rt.fails n (.deleteFirewallRule id) = none) {b : Bool}
    (hok : (updateFirewallRule publicIPID publicPort protocol allowedCIDRs rt w).1 = .ok b) :
    let run := updateFirewallRule publicIPID publicPort protocol allowedCIDRs rt w
    Exact publicIPID (wantedCIDRs allowedCIDRs) publicPort protocol run.2.cloud ∧
      SameOffPort publicIPID publicPort protocol w.cloud run.2.cloud ∧
      ((∃ r ∈ w.cloud.fwRules, onPort publicIPID publicPort protocol r = true ∧
          (stringsSplit r.cidrlist ',').Perm (wantedCIDRs allowedCIDRs)) →
        ∀ r ∈ run.2.cloud.fwRules, r ∈ w.cloud.fwRules) := by
  intro run
  cases hl : rt.fails w.log.length (.listFirewallRules publicIPID) with
  | some e =>
    simp [run, updateFirewallRule, CloudM.run_bind, withPrefix, Client.listFirewallRules, query, remote, hl] at hok
  | none =>
  set F := portRules publicIPID publicPort protocol w.cloud with hF
  set wanted := wantedCIDRs allowedCIDRs
  have hrun : run = syncPortRules publicIPID publicPort protocol wanted F rt
      { w with log := w.log ++ [(.listFirewallRules publicIPID, true)] } :=
    updateFirewallRule_list_ok _ _ _ _ rt w hl
  have hcloud := syncPortRules_cloud publicIPID publicPort protocol wanted F rt _ hdel (by rw [← hrun]; exact hok)
  rw [← hrun] at hcloud
  dsimp only at hcloud
  set found := keptRule (rt.sched.visit w.loops F) wanted with hfound
  set order := rt.sched.visit (w.loops + 1) (staleRules F found) with horder
  have hperm : order.Perm (staleRules F found) := rt.sched.visit_perm _ _
  have hsub : ∀ r ∈ order, r ∈ F := fun r hr => staleRules_subset F found r (hperm.mem_iff.mp hr)
  have hport := deleteFirewallRules_portRules publicIPID publicPort protocol w.cloud order hsub
  rw [← hF] at hport
  have hsame := SameOffPort.deleteFirewallRules hsub
  cases hfd : found with
  | some m =>
    simp only [hfd] at hcloud
    have hm := List.find?_some hfd
    have hmF : m ∈ F := (rt.sched.visit_perm _ _).mem_iff.mp (List.mem_of_find?_eq_some hfd)
    have horder' : ∀ r, r ∈ order ↔ r ∈ F.erase m := fun r => by rw [hperm.mem_iff, hfd]; rfl
    refine ⟨⟨m, ?_, ((compareStringSlice_eq_true_iff _ _).mp hm).symm⟩, hcloud ▸ hsame, fun _ r hr => ?_⟩
    · rw [hcloud, hport, ← filter_not_mem_erase F m (portRules_nodup _ _ _ _) hmF]
      exact List.filter_congr (fun r _ => by simp [horder' r])
    · rw [hcloud, Cloud.deleteFirewallRules_fwRules] at hr
      exact List.mem_of_mem_filter hr
  | none =>
    simp only [hfd] at hcloud
    have horder' : ∀ r, r ∈ order ↔ r ∈ F := fun r => by rw [hperm.mem_iff, hfd]; rfl
    obtain ⟨hne, hcomma⟩ := wantedCIDRs_splits hcidrs
    refine ⟨⟨(w.cloud.deleteFirewallRules (order.map FirewallRule.id)).newFirewallRule publicIPID
      protocol.ipProtocol wanted publicPort publicPort, ?_, ?_⟩,
      hcloud ▸ hsame.trans (SameOffPort.createFirewallRule _ wanted), fun hex => ?_⟩
    · rw [hcloud]
      simp only [Cloud.createFirewallRule, List.filter_append, hport]
      rw [List.filter_eq_nil_iff.mpr (fun r hr => by simp [horder' r, hr])]
      simp [onPort, FirewallRule.Matches, Cloud.newFirewallRule]
    · rw [Cloud.newFirewallRule, stringsSplit_joinComma _ hne hcomma]
    · obtain ⟨r, hr, hon, hp⟩ := hex
      exact absurd hfd (keptRule_ne_none rt.sched w.loops ⟨r, (mem_portRules _ _ _ _ r).mpr ⟨hr, hon⟩, hp⟩)

/-- With no deletion failing, `deleteFirewallRule` leaves every firewall rule off its port as it was. -/
theorem deleteFirewallRule_synced (publicIPID : String) (publicPort : Int) (protocol : LoadBalancerProtocol)
    (rt : Runtime) (w : World) (hdel : ∀ n id, rt.fails n (.deleteFirewallRule id) = none) :
    SameOffPort publicIPID publicPort protocol w.cloud (deleteFirewallRule publicIPID publicPort protocol rt w).2.cloud := by
  cases hl : rt.fails w.log.length (.listFirewallRules publicIPID) with
  | some e =>
    simp only [deleteFirewallRule, CloudM.run_bind, withPrefix, Client.listFirewallRules, query, remote, hl]
    exact SameOffPort.refl _
  | none =>
    simp only [deleteFirewallRule, CloudM.run_bind, withPrefix, Client.listFirewallRules, query, remote, hl]
    rw [deleteRules_ok _ _ _ _ hdel]
    dsimp only
    rw [ite_self]
    exact SameOffPort.deleteFirewallRules (c := w.cloud) fun r hr => hr

/-- The firewall synchronizer's postcondition: with the listing, every deletion and the
creation succeeding, exactly one rule of the port remains on the IP and its CIDR list is a
permutation of the wanted one; no other firewall rule is deleted; and when a rule of the port
already had such a list, it is the one kept and no rule is created. -/
theorem updateFirewallRule_converges (publicIPID : String) (publicPort : Int) (protocol : LoadBalancerProtocol)
    (allowedCIDRs : List String) (rt : Runtime) (w : World)
    (hcidrs : ∀ s ∈ allowedCIDRs, s ≠ "" ∧ ',' ∉ s.data)
    (hlist : ∀ n, rt.fails n (.listFirewallRules publicIPID) = none)
    (hdel : ∀ n id, rt.fails n (.deleteFirewallRule id) = none)
    (hcreate : ∀ n, rt.fails n (.createFirewallRule publicIPID protocol.ipProtocol (wantedCIDRs allowedCIDRs)
      publicPort publicPort) = none) :
    let run := updateFirewallRule publicIPID publicPort protocol allowedCIDRs rt w
    run.1 = .ok true ∧
      (∃ rule, run.2.cloud.fwRules.filter (onPort publicIPID publicPort protocol) = [rule] ∧
        (stringsSplit rule.cidrlist ',').Perm (wantedCIDRs allowedCIDRs)) ∧
      (∀ r ∈ w.cloud.fwRules, onPort publicIPID publicPort protocol r = false → r ∈ run.2.cloud.fwRules) ∧
      ((∃ r ∈ w.cloud.fwRules, onPort publicIPID publicPort protocol r = true ∧
          (stringsSplit r.cidrlist ',').Perm (wantedCIDRs allowedCIDRs)) →
        ∀ r ∈ run.2.cloud.fwRules, r ∈ w.cloud.fwRules) := by
  intro run
  have hok : run.1 = .ok true := by
    show (updateFirewallRule publicIPID publicPort protocol allowedCIDRs rt w).1 = _
    rw [updateFirewallRule_list_ok _ _ _ _ rt w (hlist _)]
    exact syncPortRules_ok _ _ _ _ _ rt _ hdel hcreate
  obtain ⟨hexact, hsame, hkept⟩ := updateFirewallRule_synced publicIPID publicPort protocol allowedCIDRs rt w hcidrs
    hdel hok
  refine ⟨hok, hexact, fun r hr hoff => ?_, hkept⟩
  have hoffs : r ∈ w.cloud.fwRules.filter (fun r => !onPort publicIPID publicPort protocol r) :=
    List.mem_filter.mpr ⟨hr, by simp [hoff]⟩
  rw [← hsame _ fun r h => by simp [h]] at hoffs
  exact List.mem_of_mem_filter hoffs

theorem updateFirewallRule_converges_on_drifted_rule :
    let c : Cloud := ⟨[], [⟨"B", "9", "tcp", 80, 80, "0.0.0.0/0"⟩, ⟨"D", "9", "udp", 53, 53, "0.0.0.0/0"⟩],
      [⟨"9", "10.0.0.9"⟩], [], [], by decide, by decide, by decide, by decide, by decide⟩
    let rt := Runtime.reliable .inOrder
    (∀ s ∈ ["10.0.0.0/24"], s ≠ "" ∧ ',' ∉ s.data) ∧ (∀ n, rt.fails n (.listFirewallRules "9") = none) ∧
      (∀ n id, rt.fails n (.deleteFirewallRule id) = none) ∧
      (∀ n, rt.fails n (.createFirewallRule "9" "tcp" ["10.0.0.0/24"] 80 80) = none) ∧
      let run := updateFirewallRule "9" 80 .tcp ["10.0.0.0/24"] rt (World.init c)
      run.1 = .ok true ∧
        (∃ rule, run.2.cloud.fwRules.filter (onPort "9" 80 .tcp) = [rule] ∧
          (stringsSplit rule.cidrlist ',').Perm (wantedCIDRs ["10.0.0.0/24"])) ∧
        (∀ r ∈ c.fwRules, onPort "9" 80 .tcp r = false → r ∈ run.2.cloud.fwRules) ∧
        ((∃ r ∈ c.fwRules, onPort "9" 80 .tcp r = true ∧
            (stringsSplit r.cidrlist ',').Perm (wantedCIDRs ["10.0.0.0/24"])) →
          ∀ r ∈ run.2.cloud.fwRules, r ∈ c.fwRules) :=
  ⟨by decide, fun _ => rfl, fun _ _ => rfl, fun _ => rfl,
    updateFirewallRule_converges "9" 80 .tcp ["10.0.0.0/24"] _ _ (by decide) (fun _ => rfl) (fun _ _ => rfl)
      fun _ => rfl⟩

/-! ### The other tables

Both functions change firewall rules only: every predicate blind to the firewall rules holds
after them, whatever the runtime.
-/

section Frame

variable (K : Cloud → Prop) (hK : ∀ c, K c → ∀ fw h, K { c with fwRules := fw, fwRules_nodup := h })

include hK

theorem deleteRules_frame (order : List FirewallRule) (acc : Bool × Option String) :
    Triple K (deleteRules order acc) (fun _ => K) K := by
  induction order generalizing acc with
  | nil => exact Triple.pure _ fun _ h => h
  | cons rule rest ih =>
    exact Triple.bind (Triple.attempt (Triple.remote _ _ (fun c h => hK c h _ _) (fun _ h => h))) fun _ => ih _

theorem updateFirewallRule_frame (publicIPID : String) (publicPort : Int) (protocol : LoadBalancerProtocol)
    (allowedCIDRs : List String) :
    Triple K (updateFirewallRule publicIPID publicPort protocol allowedCIDRs) (fun _ => K) K := by
  refine Triple.bind (Triple.withPrefix _ (Triple.query_keeps _ _ fun _ h => h)) fun r => ?_
  refine Triple.bind (Triple.rangeOver_keeps _) fun candidates => ?_
  refine Triple.bind (Triple.rangeOver_keeps _) fun order => ?_
  refine Triple.bind (deleteRules_frame K hK order _) fun ⟨_, err⟩ => ?_
  cases keptRule candidates (wantedCIDRs allowedCIDRs) with
  | some _ =>
    cases err with
    | some e => exact Triple.throw _ fun _ h => h
    | none => exact Triple.pure _ fun _ h => h
  | none =>
    exact Triple.bind (Triple.withPrefix _ (Triple.remote _ _ (fun c h => hK c h _ _) (fun _ h => h)))
      fun _ => Triple.pure _ fun _ h => h

theorem deleteFirewallRule_frame (publicIPID : String) (publicPort : Int) (protocol : LoadBalancerProtocol) :
    Triple K (deleteFirewallRule publicIPID publicPort protocol) (fun _ => K) K := by
  refine Triple.bind (Triple.withPrefix _ (Triple.query_keeps _ _ fun _ h => h)) fun r => ?_
  refine Triple.bind (deleteRules_frame K hK _ _) fun ⟨deleted, err⟩ => ?_
  cases err with
  | some e => exact Triple.throw _ fun _ h => h
  | none => exact Triple.pure _ fun _ h => h

end Frame

section Tables

variable (I : List LbRow → List PublicIpAddress → Prop)

theorem updateFirewallRule_keeps (publicIPID : String) (publicPort : Int) (protocol : LoadBalancerProtocol)
    (allowedCIDRs : List String) :
    Triple (fun c => I c.lbRules c.ips) (updateFirewallRule publicIPID publicPort protocol allowedCIDRs)
      (fun _ c => I c.lbRules c.ips) (fun c => I c.lbRules c.ips) :=
  updateFirewallRule_frame _ (fun _ h _ _ => h) _ _ _ _

theorem deleteFirewallRule_keeps (publicIPID : String) (publicPort : Int) (protocol : LoadBalancerProtocol) :
    Triple (fun c => I c.lbRules c.ips) (deleteFirewallRule publicIPID publicPort protocol)
      (fun _ c => I c.lbRules c.ips) (fun c => I c.lbRules c.ips) :=
  deleteFirewallRule_frame _ (fun _ h _ _ => h) _ _ _

end Tables

/-! ### What one call leaves open, whichever calls fail

`updateFirewallRule` never deletes the rule it keeps, and creates one when it keeps none. So when
it returns, some rule of the port allows exactly the wanted CIDR list, whichever deletions failed,
and every rule of another port is still there.
-/

/-- `c'` is `c` but for its firewall rules. -/
def FwOnly (c c' : Cloud) : Prop := c'.lbRules = c.lbRules ∧ c'.ips = c.ips ∧ c'.networks = c.networks

theorem FwOnly.refl (c : Cloud) : FwOnly c c := ⟨rfl, rfl, rfl⟩

theorem FwOnly.trans {c₁ c₂ c₃ : Cloud} (h₁ : FwOnly c₁ c₂) (h₂ : FwOnly c₂ c₃) : FwOnly c₁ c₃ :=
  ⟨h₂.1.trans h₁.1, h₂.2.1.trans h₁.2.1, h₂.2.2.trans h₁.2.2⟩

/-- Some firewall rule of the port on the address `publicIPID` allows exactly the CIDR list
`wanted`. -/
def Allowed (publicIPID : String) (wanted : List String) (publicPort : Int) (protocol : LoadBalancerProtocol)
    (c : Cloud) : Prop :=
  ∃ r ∈ c.fwRules, onPort publicIPID publicPort protocol r = true ∧ (stringsSplit r.cidrlist ',').Perm wanted

theorem Allowed.of_spared {publicIPID : String} {wanted : List String} {publicPort publicPort' : Int}
    {protocol protocol' : LoadBalancerProtocol} {c c' : Cloud} (h : Allowed publicIPID wanted publicPort' protocol' c)
    (hspare : ∀ r ∈ c.fwRules, onPort publicIPID publicPort protocol r = false → r ∈ c'.fwRules)
    (hnew : Allowed publicIPID wanted publicPort protocol c') : Allowed publicIPID wanted publicPort' protocol' c' := by
  obtain ⟨r, hr, hon, hperm⟩ := h
  cases hpr : onPort publicIPID publicPort protocol r
  · exact ⟨r, hspare r hr hpr, hon, hperm⟩
  · obtain ⟨r', hr', hon', hperm'⟩ := hnew
    refine ⟨r', hr', ?_, hperm'⟩
    simp only [onPort, FirewallRule.Matches, Bool.and_eq_true, decide_eq_true_eq] at hon hpr hon' ⊢
    obtain ⟨-, hp₁, hs₁, -⟩ := hon
    obtain ⟨-, hp₂, hs₂, -⟩ := hpr
    rwa [← hp₁, hp₂, ← hs₁, hs₂]

/-- Only firewall rules changed, and the rules of `c₀` outside `gone` are still there. -/
def Spared (c₀ : Cloud) (gone : List FirewallRule) (c : Cloud) : Prop :=
  FwOnly c₀ c ∧ ∀ r ∈ c₀.fwRules, r ∉ gone → r ∈ c.fwRules

theorem deleteRules_spared {c₀ : Cloud} {gone : List FirewallRule} (hsub : ∀ r ∈ gone, r ∈ c₀.fwRules) :
    ∀ (order : List FirewallRule) (acc : Bool × Option String), (∀ r ∈ order, r ∈ gone) →
      Triple (Spared c₀ gone) (deleteRules order acc) (fun _ => Spared c₀ gone) (Spared c₀ gone)
  | [], _, _ => Triple.pure _ fun _ h => h
  | x :: rest, (_, _), hx => by
    have hxg := hx x (List.mem_cons_self _ _)
    refine Triple.bind (Triple.attempt (Triple.remote _ _ (fun c h => ⟨h.1, fun r hr hng => ?_⟩) fun _ h => h))
      fun _ => deleteRules_spared hsub rest _ fun r hr => hx r (List.mem_cons_of_mem _ hr)
    have hne : r.id ≠ x.id := fun he => hng (List.inj_on_of_nodup_map c₀.fwRules_nodup hr (hsub x hxg) he ▸ hxg)
    exact List.mem_filter.mpr ⟨h.2 r hr hng, by simpa using hne⟩

theorem updateFirewallRule_allows (publicIPID : String) (publicPort : Int) (protocol : LoadBalancerProtocol)
    (allowedCIDRs : List String)
    (hwanted : wantedCIDRs allowedCIDRs ≠ [] ∧ ∀ s ∈ wantedCIDRs allowedCIDRs, ',' ∉ s.data) (c₀ : Cloud) :
    Triple (fun c => c = c₀) (updateFirewallRule publicIPID publicPort protocol allowedCIDRs)
      (fun _ c => FwOnly c₀ c ∧ Allowed publicIPID (wantedCIDRs allowedCIDRs) publicPort protocol c ∧
        ∀ r ∈ c₀.fwRules, onPort publicIPID publicPort protocol r = false → r ∈ c.fwRules)
      (FwOnly c₀) := by
  have hF : ∀ r ∈ portRules publicIPID publicPort protocol c₀,
      r ∈ c₀.fwRules ∧ onPort publicIPID publicPort protocol r = true := fun r hr => (mem_portRules _ _ _ _ r).mp hr
  refine Triple.bind (Triple.withPrefix _ (Triple.query_eq _ _ c₀ (FwOnly.refl c₀))) fun l =>
    Triple.of_pre fun hl => ?_
  subst hl
  refine Triple.bind (Triple.rangeOver _ fun c hc cands hperm =>
    (⟨hc, hperm⟩ : c = c₀ ∧ cands.Perm (portRules publicIPID publicPort protocol c₀))) fun cands =>
      Triple.of_pre fun hcands => ?_
  have hgone : ∀ o, ∀ r ∈ staleRules (portRules publicIPID publicPort protocol c₀) o, r ∈ c₀.fwRules :=
    fun o r hr => (hF r (staleRules_subset _ o r hr)).1
  -- the deletions spare the rules of other ports
  have hoff : ∀ o c, Spared c₀ (staleRules (portRules publicIPID publicPort protocol c₀) o) c →
      ∀ r ∈ c₀.fwRules, onPort publicIPID publicPort protocol r = false → r ∈ c.fwRules :=
    fun o c h r hr hon => h.2 r hr fun hs => by simpa [hon] using (hF r (staleRules_subset _ o r hs)).2
  refine Triple.bind (Triple.rangeOver _ fun c hc order hperm => (⟨hc, hperm⟩ : c = c₀ ∧
    order.Perm (staleRules (portRules publicIPID publicPort protocol c₀) (keptRule cands (wantedCIDRs allowedCIDRs)))))
      fun order => Triple.of_pre fun horder => ?_
  refine Triple.bind (Triple.conseq (deleteRules_spared (hgone _) order _ fun r hr => horder.mem_iff.mp hr)
    (fun c hc => hc ▸ ⟨FwOnly.refl c, fun _ h _ => h⟩) (fun _ _ h => h) fun _ h => h.1) fun ⟨_, err⟩ => ?_
  cases hfd : keptRule cands (wantedCIDRs allowedCIDRs) with
  | some keep =>
    have hfind : cands.find? (fun rule => compareStringSlice (stringsSplit rule.cidrlist ',')
        (wantedCIDRs allowedCIDRs)) = some keep := hfd
    have hkeep : keep ∈ portRules publicIPID publicPort protocol c₀ :=
      hcands.mem_iff.mp (List.mem_of_find?_eq_some hfind)
    have hm := List.find?_some hfind
    cases err with
    | some e => exact Triple.throw _ fun _ h => h.1
    | none => exact Triple.pure _ fun c h => ⟨h.1, ⟨keep, h.2 keep (hF keep hkeep).1
        (portRules_nodup _ _ _ _).not_mem_erase, (hF keep hkeep).2,
        ((compareStringSlice_eq_true_iff _ _).mp hm).symm⟩, hoff _ c h⟩
  | none =>
    refine Triple.bind (Triple.withPrefix _ (Triple.remote _ _ (fun c h => ⟨h.1, ⟨_,
      List.mem_append_right _ (List.mem_singleton_self _), ?_, ?_⟩, fun r hr hon =>
        List.mem_append_left _ (hoff _ c h r hr hon)⟩) fun _ h => h.1)) fun _ => Triple.pure _ fun _ h => h
    · simp [onPort, FirewallRule.Matches, Cloud.newFirewallRule]
    · rw [Cloud.newFirewallRule, stringsSplit_joinComma _ hwanted.1 hwanted.2]


theorem deleteFirewallRule_keeps_others (publicIPID : String) (publicPort : Int) (protocol : LoadBalancerProtocol)
    (c₀ : Cloud) :
    Triple (fun c => c = c₀) (deleteFirewallRule publicIPID publicPort protocol)
      (fun _ c => FwOnly c₀ c ∧ ∀ r ∈ c₀.fwRules, onPort publicIPID publicPort protocol r = false → r ∈ c.fwRules)
      (FwOnly c₀) := by
  have hF : ∀ r ∈ portRules publicIPID publicPort protocol c₀,
      r ∈ c₀.fwRules ∧ onPort publicIPID publicPort protocol r = true := fun r hr => (mem_portRules _ _ _ _ r).mp hr
  refine Triple.bind (Triple.withPrefix _ (Triple.query_eq _ _ c₀ (FwOnly.refl c₀))) fun l =>
    Triple.of_pre fun hl => ?_
  subst hl
  refine Triple.bind (Triple.conseq (deleteRules_spared (fun r hr => (hF r hr).1) _ _ fun _ hr => hr)
    (fun c hc => hc ▸ ⟨FwOnly.refl c, fun _ h _ => h⟩) (fun _ _ h => h) fun _ h => h.1) fun ⟨_, err⟩ => ?_
  have hoff : ∀ c, Spared c₀ (portRules publicIPID publicPort protocol c₀) c →
      ∀ r ∈ c₀.fwRules, onPort publicIPID publicPort protocol r = false → r ∈ c.fwRules :=
    fun c h r hr hon => h.2 r hr fun hs => by simpa [hon] using (hF r hs).2
  cases err with
  | some e => exact Triple.throw _ fun _ h => h.1
  | none => exact Triple.pure _ fun c h => ⟨h.1, hoff c h⟩

end CloudStackLB
