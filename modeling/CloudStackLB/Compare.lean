import CloudStackLB.Platform

/-! # Comparing CIDR lists and host sets

`compareStringSlice` (`loadbalancer.go:844-866`), the multiset comparison of two string lists
through a counting map, and `symmetricDifference` (lines 814-837), the hosts to assign to and
remove from a rule.
-/

namespace CloudStackLB

/-! ### `compareStringSlice` -/

/-- The counting map `map[string]int` of `compareStringSlice`. -/
abbrev Counts := List (String × Int)

/-- `diff[k] = v`. -/
def Counts.set (d : Counts) (k : String) (v : Int) : Counts := d.filter (fun kv => kv.1 ≠ k) ++ [(k, v)]

/-- `delete(diff, k)`. -/
def Counts.delete (d : Counts) (k : String) : Counts := d.filter (fun kv => kv.1 ≠ k)

/-- The first loop: `diff[_x]++` for every `_x` of `x`. -/
def countUp : Counts → List String → Counts
  | d, [] => d
  | d, s :: xs => countUp (d.set s ((d.lookup s).getD 0 + 1)) xs

/-- The second loop: fails at a string missing from the map, decrements, and deletes an
entry that reaches zero; at the end the map must be empty. -/
def countDown : Counts → List String → Bool
  | d, [] => d.isEmpty
  | d, s :: ys =>
    match d.lookup s with
    | none => false
    | some n =>
      let d := d.set s (n - 1)
      countDown (if n - 1 = 0 then d.delete s else d) ys

/-- `compareStringSlice(x, y)`. -/
def compareStringSlice (x y : List String) : Bool :=
  if x.length ≠ y.length then false else countDown (countUp [] x) y

/-- The value a key reads in the counting map, absent keys reading 0. -/
def Counts.get (d : Counts) (k : String) : Int := (d.lookup k).getD 0

theorem lookup_filter_of_pass (d : Counts) (p : String × Int → Bool) (k : String)
    (hp : ∀ v, p (k, v) = true) : (d.filter p).lookup k = d.lookup k := by
  induction d with
  | nil => rfl
  | cons kv rest ih =>
    obtain ⟨a, b⟩ := kv
    by_cases hka : k = a
    · subst hka
      simp [List.filter_cons, hp b, lookup_cons_eq_ite]
    · by_cases hpa : p (a, b) = true <;> simp [List.filter_cons, hpa, lookup_cons_eq_ite, hka, ih]

theorem lookup_filter_of_drop (d : Counts) (p : String × Int → Bool) (k : String)
    (hp : ∀ v, p (k, v) = false) : (d.filter p).lookup k = none := by
  induction d with
  | nil => rfl
  | cons kv rest ih =>
    obtain ⟨a, b⟩ := kv
    by_cases hka : k = a
    · subst hka
      simp [List.filter_cons, hp b, ih]
    · by_cases hpa : p (a, b) = true <;> simp [List.filter_cons, hpa, lookup_cons_eq_ite, hka, ih]

theorem Counts.lookup_delete (d : Counts) (k k' : String) :
    (d.delete k).lookup k' = if k' = k then none else d.lookup k' := by
  by_cases h : k' = k
  · subst h
    simpa [Counts.delete] using lookup_filter_of_drop d (fun kv => decide (kv.1 ≠ k')) k' (by simp)
  · simpa [Counts.delete, h] using lookup_filter_of_pass d (fun kv => decide (kv.1 ≠ k)) k' (by simp [h])

theorem Counts.lookup_set (d : Counts) (k k' : String) (v : Int) :
    (d.set k v).lookup k' = if k' = k then some v else d.lookup k' := by
  show (d.delete k ++ [(k, v)]).lookup k' = _
  rw [List.lookup_append, Counts.lookup_delete]
  by_cases h : k' = k
  · subst h; simp [lookup_cons_eq_ite]
  · simp only [h, if_false]
    cases d.lookup k' <;> simp [lookup_cons_eq_ite, h]

/-- Every count stored in the map is positive. -/
def Counts.Positive (d : Counts) : Prop := ∀ kv ∈ d, 0 < kv.2

theorem Counts.Positive.set {d : Counts} (h : d.Positive) (k : String) {v : Int} (hv : 0 < v) :
    (d.set k v).Positive := by
  intro kv hkv
  rcases List.mem_append.mp hkv with hkv | hkv
  · exact h kv (List.mem_of_mem_filter hkv)
  · simp at hkv; rw [hkv]; exact hv

theorem Counts.Positive.delete {d : Counts} (h : d.Positive) (k : String) : (d.delete k).Positive :=
  fun kv hkv => h kv (List.mem_of_mem_filter hkv)

theorem Counts.Positive.set_delete {d : Counts} (h : d.Positive) (k : String) (v : Int) :
    ((d.set k v).delete k).Positive := by
  intro kv hkv
  simp only [Counts.delete, Counts.set, List.filter_append, List.mem_append, List.mem_filter] at hkv
  rcases hkv with ⟨⟨hkv, -⟩, -⟩ | ⟨hkv, hne⟩
  · exact h kv hkv
  · simp at hkv; subst hkv; simp at hne

theorem Counts.Positive.lookup {d : Counts} (h : d.Positive) {k : String} {n : Int}
    (hk : d.lookup k = some n) : 0 < n := by
  induction d with
  | nil => simp [lookup_cons_eq_ite] at hk
  | cons kv rest ih =>
    by_cases hb : k = kv.1
    · have : n = kv.2 := by simp [lookup_cons_eq_ite, hb] at hk; exact hk.symm
      exact this ▸ h kv (List.mem_cons_self _ _)
    · simp [lookup_cons_eq_ite, hb] at hk
      exact ih (fun x hx => h x (List.mem_cons_of_mem _ hx)) hk

theorem Counts.Positive.isEmpty_iff {d : Counts} (h : d.Positive) : d.isEmpty = true ↔ ∀ k, d.get k = 0 := by
  constructor
  · intro he k
    simp [List.isEmpty_iff.mp he, Counts.get, lookup_cons_eq_ite]
  · intro hz
    cases d with
    | nil => rfl
    | cons kv rest =>
      have := hz kv.1
      simp [Counts.get, lookup_cons_eq_ite] at this
      exact absurd this (ne_of_gt (h kv (List.mem_cons_self _ _)))

theorem countUp_spec (d : Counts) (x : List String) (h : d.Positive) :
    (countUp d x).Positive ∧ ∀ k, (countUp d x).get k = d.get k + x.count k := by
  induction x generalizing d with
  | nil => exact ⟨h, by simp [countUp]⟩
  | cons s xs ih =>
    have hpos : (d.set s ((d.lookup s).getD 0 + 1)).Positive := by
      refine h.set s ?_
      cases hs : d.lookup s with
      | none => simp
      | some n => simp; have := h.lookup hs; omega
    obtain ⟨hp, hc⟩ := ih _ hpos
    refine ⟨hp, fun k => ?_⟩
    simp only [countUp]
    rw [hc k]
    simp only [Counts.get, Counts.lookup_set, List.count_cons]
    by_cases hk : k = s
    · subst hk; simp; omega
    · simp [hk, Ne.symm hk]

theorem countDown_iff (d : Counts) (y : List String) (h : d.Positive) :
    countDown d y = true ↔ ∀ k, d.get k = y.count k := by
  induction y generalizing d with
  | nil => simpa [countDown] using h.isEmpty_iff
  | cons s ys ih =>
    cases hs : d.lookup s with
    | none =>
      simp only [countDown, hs, Bool.false_eq_true, false_iff, not_forall]
      exact ⟨s, by simp [Counts.get, hs]; omega⟩
    | some n =>
      have hn := h.lookup hs
      let d' := d.set s (n - 1)
      have hd' : (if n - 1 = 0 then d'.delete s else d').Positive := by
        split
        · exact h.set_delete s (n - 1)
        · exact h.set s (by omega)
      have hget : ∀ k, (if n - 1 = 0 then d'.delete s else d').get k = d.get k - if k = s then 1 else 0 := by
        intro k
        by_cases hk : k = s
        · subst hk
          split <;> simp_all [Counts.get, Counts.lookup_set, Counts.lookup_delete, d']
        · split <;> simp [Counts.get, Counts.lookup_set, Counts.lookup_delete, d', hk]
      simp only [countDown, hs]
      rw [ih _ hd']
      refine forall_congr' fun k => ?_
      rw [hget k, List.count_cons]
      by_cases hks : k = s
      · subst hks
        simp only [if_true, beq_self_eq_true]
        omega
      · simp [hks, Ne.symm hks]

theorem compareStringSlice_eq_true_iff (x y : List String) : compareStringSlice x y = true ↔ y.Perm x := by
  obtain ⟨hp, hc⟩ := countUp_spec [] x (fun _ h => by simp at h)
  unfold compareStringSlice
  by_cases hl : x.length = y.length
  · have hx : ∀ k, (countUp [] x).get k = x.count k := fun k => by
      rw [hc k]; simp [Counts.get, lookup_cons_eq_ite]
    simp only [hl, ne_eq, not_true_eq_false, if_false]
    rw [countDown_iff _ _ hp, List.perm_iff_count]
    simp only [hx]
    exact ⟨fun h k => by exact_mod_cast (h k).symm, fun h k => by exact_mod_cast (h k).symm⟩
  · simp only [hl, ne_eq, not_false_eq_true, if_true, Bool.false_eq_true, false_iff]
    exact fun hpm => hl hpm.length_eq.symm

/-- `compareStringSlice` is a permutation test: it holds exactly when `y` is a permutation of `x`,
that is, when every string occurs as often in both lists. -/
theorem compareStringSlice_iff_perm (x y : List String) :
    (compareStringSlice x y = true ↔ y.Perm x) ∧
      (compareStringSlice x y = true ↔ ∀ s, x.count s = y.count s) :=
  ⟨compareStringSlice_eq_true_iff x y,
    (compareStringSlice_eq_true_iff x y).trans (List.perm_iff_count.trans (forall_congr' fun _ => eq_comm))⟩

/-! ### `symmetricDifference` -/

/-- `m[k] = true` on a Go `map[string]bool` used as a set of keys. -/
def insertKey (m : List String) (k : String) : List String := if k ∈ m then m else m ++ [k]

/-- The loop over the assigned instances: a wanted id leaves the map, any other id is to be
removed. -/
def removeLoop : List String → List String → List String → List String × List String
  | newIDs, [], remove => (newIDs, remove)
  | newIDs, i :: is, remove =>
    if i ∈ newIDs then removeLoop (newIDs.erase i) is remove else removeLoop newIDs is (remove ++ [i])

/-- `symmetricDifference(hostIDs, lbInstances)`: the ids to assign, in the order Go visits the
map of wanted ids left, and the ids to remove. -/
def symmetricDifference (hostIDs lbInstances : List String) : CloudM (List String × List String) := do
  let (newIDs, remove) := removeLoop (hostIDs.foldl insertKey []) lbInstances []
  let assign ← rangeOver newIDs
  return (assign, remove)

theorem foldl_insertKey (m l : List String) (hm : m.Nodup) :
    (l.foldl insertKey m).Nodup ∧ ∀ v, v ∈ l.foldl insertKey m ↔ v ∈ m ∨ v ∈ l := by
  induction l generalizing m with
  | nil => simpa using hm
  | cons k l ih =>
    have hstep : (insertKey m k).Nodup ∧ ∀ v, v ∈ insertKey m k ↔ v ∈ m ∨ v = k := by
      unfold insertKey
      split
      · exact ⟨hm, fun v => ⟨Or.inl, fun h => h.elim id (· ▸ ‹k ∈ m›)⟩⟩
      · exact ⟨List.nodup_append.mpr ⟨hm, List.nodup_singleton k, by simpa⟩, by simp⟩
    obtain ⟨hn, hmem⟩ := ih _ hstep.1
    refine ⟨hn, fun v => ?_⟩
    rw [List.foldl_cons, hmem, hstep.2]
    simp only [List.mem_cons]
    tauto

theorem removeLoop_fst (m is r : List String) (hm : m.Nodup) :
    (removeLoop m is r).1.Nodup ∧ ∀ v, v ∈ (removeLoop m is r).1 ↔ v ∈ m ∧ v ∉ is := by
  induction is generalizing m r with
  | nil => simpa [removeLoop] using hm
  | cons i is ih =>
    unfold removeLoop
    split
    · obtain ⟨hn, hmem⟩ := ih (m.erase i) r (hm.erase i)
      refine ⟨hn, fun v => ?_⟩
      rw [hmem, hm.mem_erase_iff]
      simp only [List.mem_cons]
      tauto
    · next hi =>
      obtain ⟨hn, hmem⟩ := ih m (r ++ [i]) hm
      refine ⟨hn, fun v => ?_⟩
      rw [hmem]
      by_cases hv : v = i
      · subst hv
        simp [hi]
      · simp [hv]

theorem removeLoop_count (m is r : List String) (hm : m.Nodup) (v : String) :
    (removeLoop m is r).2.count v = r.count v + if v ∈ m then is.count v - 1 else is.count v := by
  induction is generalizing m r with
  | nil => simp [removeLoop]
  | cons i is ih =>
    unfold removeLoop
    split
    · next him =>
      rw [ih _ r (hm.erase i)]
      by_cases hv : v = i <;> simp [hv, him, hm.mem_erase_iff]
    · next him =>
      rw [ih _ _ hm]
      by_cases hv : v = i <;> simp [hv, him]
      omega

theorem removeLoop_snd (m is r : List String) (hm : m.Nodup) (his : is.Nodup) :
    ∀ v, v ∈ (removeLoop m is r).2 ↔ v ∈ r ∨ (v ∈ is ∧ v ∉ m) := fun v => by
  have hle := List.nodup_iff_count_le_one.mp his v
  simp only [← List.count_pos_iff, removeLoop_count m is r hm v]
  split <;> simp only [*, not_true_eq_false, not_false_eq_true, and_true, and_false, or_false] <;> omega

/-- On instances without repeats: the wanted ids not assigned yet are assigned, the unwanted removed. -/
theorem symmetricDifference_spec (hostIDs lbInstances : List String) (hI : lbInstances.Nodup)
    (rt : Runtime) (w : World) :
    ∃ assign remove, symmetricDifference hostIDs lbInstances rt w = (.ok (assign, remove), { w with loops := w.loops + 1 }) ∧
      assign.Nodup ∧ (∀ v, v ∈ assign ↔ v ∈ hostIDs ∧ v ∉ lbInstances) ∧
      (∀ v, v ∈ remove ↔ v ∈ lbInstances ∧ v ∉ hostIDs) := by
  obtain ⟨hn0, hm0⟩ := foldl_insertKey [] hostIDs List.nodup_nil
  obtain ⟨hn, hmem⟩ := removeLoop_fst (hostIDs.foldl insertKey []) lbInstances [] hn0
  have hrem := removeLoop_snd (hostIDs.foldl insertKey []) lbInstances [] hn0 hI
  have hperm := rt.sched.visit_perm w.loops (removeLoop (hostIDs.foldl insertKey []) lbInstances []).1
  refine ⟨_, _, rfl, hperm.nodup_iff.mpr hn, fun v => ?_, fun v => ?_⟩
  · rw [hperm.mem_iff, hmem, hm0]; simp
  · rw [hrem, hm0]; simp

/-- An id wanted once and assigned twice: the loop deletes it from the map at its first
instance and marks the second one for removal. -/
theorem symmetricDifference_removes_repeated_wanted_id :
    (symmetricDifference ["a"] ["a", "a"] (Runtime.reliable .inOrder) (World.init (Cloud.empty [] []))).1 =
      .ok ([], ["a"]) := by
  decide

/-- `symmetricDifference` assigns exactly the wanted ids that are not assigned yet, once each;
it removes every instance of an unwanted id and, of a wanted id, every instance after the first.
On instances without repeats it removes exactly the assigned ids that are not wanted. -/
theorem symmetricDifference_exact (hostIDs lbInstances : List String) (rt : Runtime) (w : World) :
    ∃ assign remove,
      symmetricDifference hostIDs lbInstances rt w = (.ok (assign, remove), { w with loops := w.loops + 1 }) ∧
      assign.Nodup ∧ (∀ v, v ∈ assign ↔ v ∈ hostIDs ∧ v ∉ lbInstances) ∧
      (∀ v, remove.count v = if v ∈ hostIDs then lbInstances.count v - 1 else lbInstances.count v) ∧
      assign.Disjoint remove ∧
      (lbInstances.Nodup → ∀ v, v ∈ remove ↔ v ∈ lbInstances ∧ v ∉ hostIDs) := by
  obtain ⟨hn0, hm0⟩ := foldl_insertKey [] hostIDs List.nodup_nil
  obtain ⟨hn, hmem⟩ := removeLoop_fst (hostIDs.foldl insertKey []) lbInstances [] hn0
  have hperm := rt.sched.visit_perm w.loops (removeLoop (hostIDs.foldl insertKey []) lbInstances []).1
  have hcount : ∀ v, (removeLoop (hostIDs.foldl insertKey []) lbInstances []).2.count v =
      if v ∈ hostIDs then lbInstances.count v - 1 else lbInstances.count v := fun v => by
    rw [removeLoop_count _ _ _ hn0]
    simp [hm0]
  have hassign : ∀ v, v ∈ rt.sched.visit w.loops (removeLoop (hostIDs.foldl insertKey []) lbInstances []).1 ↔
      v ∈ hostIDs ∧ v ∉ lbInstances := fun v => by
    rw [hperm.mem_iff, hmem, hm0]; simp
  refine ⟨_, _, rfl, hperm.nodup_iff.mpr hn, hassign, hcount, fun v ha hr => ?_, fun hI v => ?_⟩
  · have := hcount v
    rw [List.count_eq_zero_of_not_mem ((hassign v).mp ha).2] at this
    exact List.count_pos_iff.mpr hr |>.ne' (by simpa using this)
  · rw [removeLoop_snd _ _ _ hn0 hI, hm0]; simp

theorem symmetricDifference_exact_on_repeat :
    ∃ assign remove, symmetricDifference ["a"] ["a", "a"] (Runtime.reliable .inOrder) (World.init (Cloud.empty [] [])) =
        (.ok (assign, remove), { World.init (Cloud.empty [] []) with loops := 1 }) ∧
      assign = [] ∧ remove.count "a" = 1 := by
  obtain ⟨assign, remove, h, -, ha, hc, -⟩ :=
    symmetricDifference_exact ["a"] ["a", "a"] (Runtime.reliable .inOrder) (World.init (Cloud.empty [] []))
  exact ⟨assign, remove, h, List.eq_nil_iff_forall_not_mem.mpr fun v hv => by simpa using ha v |>.mp hv,
    by simpa using hc "a"⟩

end CloudStackLB
