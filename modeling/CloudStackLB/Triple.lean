import CloudStackLB.Platform

/-! # Triples over the provider's monad

`Triple P x Q E`: run from any world whose platform satisfies `P`, under any runtime, `x`
either returns `a` on a platform satisfying `Q a`, or fails on one satisfying `E`. A failed
call changes nothing, so `E` is usually the invariant the run keeps. One rule per
combinator of `Platform.lean`; the operations' triples are built from them.
-/

namespace CloudStackLB

/-- Hoare triple of a run, with a postcondition for the failing outcome. -/
def Triple {α : Type} (P : Cloud → Prop) (x : CloudM α) (Q : α → Cloud → Prop) (E : Cloud → Prop) :
    Prop :=
  ∀ rt w, P w.cloud →
    match x rt w with
    | (.ok a, w') => Q a w'.cloud
    | (.error _, w') => E w'.cloud

namespace Triple

variable {α β : Type} {P P' : Cloud → Prop} {Q Q' : α → Cloud → Prop} {E E' : Cloud → Prop}

theorem conseq {x : CloudM α} (h : Triple P x Q E) (hp : ∀ c, P' c → P c)
    (hq : ∀ a c, Q a c → Q' a c) (he : ∀ c, E c → E' c) : Triple P' x Q' E' := by
  intro rt w hw
  have := h rt w (hp _ hw)
  split at this <;> simp_all

theorem of_pre {φ : Prop} {x : CloudM α} (h : φ → Triple P x Q E) : Triple (fun c => P c ∧ φ) x Q E :=
  fun rt w hw => h hw.2 rt w hw.1

theorem of_pre_imp {φ : Prop} {x : CloudM α} (hφ : ∀ c, P c → φ) (h : φ → Triple P x Q E) :
    Triple P x Q E :=
  fun rt w hw => h (hφ _ hw) rt w hw

theorem of_forall_eq {x : CloudM α} (h : ∀ c₀, P c₀ → Triple (fun c => c = c₀) x Q E) : Triple P x Q E :=
  fun rt w hw => h w.cloud hw rt w rfl

theorem of_false {x : CloudM α} : Triple (fun _ => False) x Q E :=
  fun _ _ h => h.elim

theorem pure (a : α) (h : ∀ c, P c → Q a c) : Triple P (Pure.pure a : CloudM α) Q E :=
  fun _ _ hw => h _ hw

theorem throw (e : String) (h : ∀ c, P c → E c) : Triple P (MonadExcept.throw e : CloudM α) Q E :=
  fun _ _ hw => h _ hw

theorem bind {x : CloudM α} {f : α → CloudM β} {R : α → Cloud → Prop} {Q : β → Cloud → Prop}
    (hx : Triple P x R E) (hf : ∀ a, Triple (R a) (f a) Q E) : Triple P (x >>= f) Q E := by
  intro rt w hw
  have h1 := hx rt w hw
  rw [CloudM.run_bind]
  revert h1
  rcases x rt w with ⟨_ | a, w'⟩
  · exact id
  · exact hf a rt w'

theorem throw_bind (e : String) {f : α → CloudM β} {Q : β → Cloud → Prop} (h : ∀ c, P c → E c) :
    Triple P (MonadExcept.throw e >>= f) Q E :=
  fun _ _ hw => h _ hw

theorem pure_bind (a : α) {f : α → CloudM β} {Q : β → Cloud → Prop} (h : Triple P (f a) Q E) :
    Triple P (Pure.pure a >>= f) Q E :=
  h

theorem ite {c : Prop} [Decidable c] {x y : CloudM α} (hx : Triple P x Q E) (hy : Triple P y Q E) :
    Triple P (if c then x else y) Q E := by
  split <;> assumption

/-- A call that returns `(op c).1` and leaves `(op c).2`, or fails and changes nothing. -/
theorem remote (call : Call) (op : Cloud → α × Cloud) (hok : ∀ c, P c → Q (op c).1 (op c).2)
    (hfail : ∀ c, P c → E c) : Triple P (CloudStackLB.remote call op) Q E := by
  intro rt w hw
  unfold CloudStackLB.remote
  cases rt.fails w.log.length call with
  | some e => exact hfail _ hw
  | none => exact hok _ hw

/-- A call the platform may refuse: a refusal, like a failure, changes nothing. -/
theorem remoteTry (call : Call) (op : Cloud → Except String (α × Cloud))
    (hok : ∀ c a c', P c → op c = .ok (a, c') → Q a c') (hfail : ∀ c, P c → E c) :
    Triple P (CloudStackLB.remoteTry call op) Q E := by
  intro rt w hw
  unfold CloudStackLB.remoteTry
  cases rt.fails w.log.length call with
  | some e => exact hfail _ hw
  | none =>
    cases h : op w.cloud with
    | error e => exact hfail _ hw
    | ok r => obtain ⟨a, c'⟩ := r; exact hok _ _ _ hw h

theorem query (call : Call) (answer : Cloud → α) (hok : ∀ c, P c → Q (answer c) c)
    (hfail : ∀ c, P c → E c) : Triple P (CloudStackLB.query call answer) Q E :=
  remote call _ hok hfail

theorem query_keeps (call : Call) (answer : Cloud → α) (h : ∀ c, P c → E c) :
    Triple P (CloudStackLB.query call answer) (fun _ => P) E :=
  query call answer (fun _ hc => hc) h

theorem query_eq (call : Call) (answer : Cloud → α) (c₀ : Cloud) (hE : E c₀) :
    Triple (fun c => c = c₀) (CloudStackLB.query call answer) (fun a c => c = c₀ ∧ a = answer c₀) E :=
  query call answer (fun _ hc => ⟨hc, hc ▸ rfl⟩) fun _ hc => hc ▸ hE

theorem withPrefix (pre : String) {x : CloudM α} (h : Triple P x Q E) :
    Triple P (CloudStackLB.withPrefix pre x) Q E := by
  intro rt w hw
  have := h rt w hw
  unfold CloudStackLB.withPrefix
  split at this <;> simp_all

theorem attempt {x : CloudM Unit} {R : Cloud → Prop} (h : Triple P x (fun _ => R) R) :
    Triple P (CloudStackLB.attempt x) (fun _ => R) E := by
  intro rt w hw
  have := h rt w hw
  unfold CloudStackLB.attempt
  split at this <;> simp_all

theorem outcome {x : CloudM α} (h : Triple P x Q E) :
    Triple P (CloudStackLB.outcome x)
      (fun r c => match r with | .ok a => Q a c | .error _ => E c) E' := by
  intro rt w hw
  have := h rt w hw
  unfold CloudStackLB.outcome
  split at this <;> simp_all

/-- A map loop visits some order of the entries. -/
theorem rangeOver (l : List α) {Q : List α → Cloud → Prop} (h : ∀ c, P c → ∀ l', l'.Perm l → Q l' c) :
    Triple P (CloudStackLB.rangeOver l) Q E :=
  fun rt _ hw => h _ hw _ (rt.sched.visit_perm _ l)

theorem rangeOver_keeps (l : List α) : Triple P (CloudStackLB.rangeOver l) (fun _ => P) E :=
  rangeOver l fun _ hc _ _ => hc

theorem of_ok {x : CloudM α} (h : Triple P x Q E) {rt : Runtime} {w : World} (hw : P w.cloud) {a : α}
    (hok : (x rt w).1 = .ok a) : Q a (x rt w).2.cloud := by
  have := h rt w hw
  revert this hok
  rcases x rt w with ⟨r, w'⟩
  cases r with
  | error e => intro h; cases h
  | ok b => intro h; cases h; exact id

theorem run_post {I : Cloud → Prop} {x : CloudM α} (h : Triple P x (fun _ => I) I) (rt : Runtime) (w : World)
    (hw : P w.cloud) : I (x rt w).2.cloud := by
  have := h rt w hw
  split at this <;> simp_all

theorem keeps_run {I : Cloud → Prop} {x : CloudM α} (h : Triple I x (fun _ => I) I) (rt : Runtime) (w : World)
    (hw : I w.cloud) : I (x rt w).2.cloud :=
  run_post h rt w hw

theorem and {x : CloudM α} (h₁ : Triple P x Q E) (h₂ : Triple P x Q' E') :
    Triple P x (fun a c => Q a c ∧ Q' a c) (fun c => E c ∧ E' c) := by
  intro rt w hw
  have h₁ := h₁ rt w hw
  have h₂ := h₂ rt w hw
  revert h₁ h₂
  rcases x rt w with ⟨_ | a, w'⟩
  · exact And.intro
  · exact And.intro

end Triple

/-! ### Triples over some runtimes

What holds only where some calls succeed (no `DeleteFirewallRule` failing, say) is a triple over
the runtimes that fail none of them. Its rules are those of `Triple`, and a `Triple` holds over
every runtime.
-/

/-- `Triple`, over the runtimes `R` admits. -/
def TripleOn {α : Type} (R : Runtime → Prop) (P : Cloud → Prop) (x : CloudM α) (Q : α → Cloud → Prop)
    (E : Cloud → Prop) : Prop :=
  ∀ rt, R rt → ∀ w, P w.cloud →
    match x rt w with
    | (.ok a, w') => Q a w'.cloud
    | (.error _, w') => E w'.cloud

namespace TripleOn

variable {α β : Type} {R : Runtime → Prop} {P P' : Cloud → Prop} {Q Q' : α → Cloud → Prop}
  {E E' : Cloud → Prop}

theorem of_triple {x : CloudM α} (h : Triple P x Q E) : TripleOn R P x Q E :=
  fun rt _ => h rt

/-- From what every returning run of `x` leaves. -/
theorem of_run {x : CloudM α}
    (h : ∀ rt, R rt → ∀ w, P w.cloud → ∀ a, (x rt w).1 = .ok a → Q a (x rt w).2.cloud) :
    TripleOn R P x Q fun _ => True := by
  intro rt hR w hw
  have := h rt hR w hw
  revert this
  rcases x rt w with ⟨_ | a, w'⟩
  · exact fun _ => trivial
  · exact fun h => h a rfl

theorem conseq {x : CloudM α} (h : TripleOn R P x Q E) (hp : ∀ c, P' c → P c)
    (hq : ∀ a c, Q a c → Q' a c) (he : ∀ c, E c → E' c) : TripleOn R P' x Q' E' := by
  intro rt hR w hw
  have := h rt hR w (hp _ hw)
  split at this <;> simp_all

theorem of_pre {φ : Prop} {x : CloudM α} (h : φ → TripleOn R P x Q E) : TripleOn R (fun c => P c ∧ φ) x Q E :=
  fun rt hR w hw => h hw.2 rt hR w hw.1

theorem of_pre_imp {φ : Prop} {x : CloudM α} (hφ : ∀ c, P c → φ) (h : φ → TripleOn R P x Q E) :
    TripleOn R P x Q E :=
  fun rt hR w hw => h (hφ _ hw) rt hR w hw

theorem of_forall_eq {x : CloudM α} (h : ∀ c₀, P c₀ → TripleOn R (fun c => c = c₀) x Q E) : TripleOn R P x Q E :=
  fun rt hR w hw => h w.cloud hw rt hR w rfl

theorem of_exists {ι : Type} {P : ι → Cloud → Prop} {x : CloudM α} (h : ∀ i, TripleOn R (P i) x Q E) :
    TripleOn R (fun c => ∃ i, P i c) x Q E :=
  fun rt hR w ⟨i, hi⟩ => h i rt hR w hi

theorem pure_bind (a : α) {f : α → CloudM β} {Q : β → Cloud → Prop} (h : TripleOn R P (f a) Q E) :
    TripleOn R P (Pure.pure a >>= f) Q E :=
  h

theorem bind {x : CloudM α} {f : α → CloudM β} {Q'' : α → Cloud → Prop} {Q : β → Cloud → Prop}
    (hx : TripleOn R P x Q'' E) (hf : ∀ a, TripleOn R (Q'' a) (f a) Q E) : TripleOn R P (x >>= f) Q E := by
  intro rt hR w hw
  have h1 := hx rt hR w hw
  rw [CloudM.run_bind]
  revert h1
  rcases x rt w with ⟨_ | a, w'⟩
  · exact id
  · exact hf a rt hR w'

theorem outcome {x : CloudM α} (h : TripleOn R P x Q E) :
    TripleOn R P (CloudStackLB.outcome x) (fun r c => match r with | .ok a => Q a c | .error _ => E c) E' := by
  intro rt hR w hw
  have := h rt hR w hw
  unfold CloudStackLB.outcome
  split at this <;> simp_all

theorem and {x : CloudM α} (h₁ : TripleOn R P x Q E) (h₂ : TripleOn R P x Q' E') :
    TripleOn R P x (fun a c => Q a c ∧ Q' a c) (fun c => E c ∧ E' c) := by
  intro rt hR w hw
  have h₁ := h₁ rt hR w hw
  have h₂ := h₂ rt hR w hw
  revert h₁ h₂
  rcases x rt w with ⟨_ | a, w'⟩
  · exact And.intro
  · exact And.intro

theorem of_ok {x : CloudM α} (h : TripleOn R P x Q E) {rt : Runtime} (hR : R rt) {w : World} (hw : P w.cloud)
    {a : α} (hok : (x rt w).1 = .ok a) : Q a (x rt w).2.cloud := by
  have := h rt hR w hw
  revert this hok
  rcases x rt w with ⟨r, w'⟩
  cases r with
  | error e => intro h; cases h
  | ok b => intro h; cases h; exact id

end TripleOn

end CloudStackLB
