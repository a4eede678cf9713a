import EnvRegistry.Proofs.Refresh
import EnvRegistry.Proofs.Relations.Phases

/-! # Telling those downstream at once or later

    A run may tell those downstream of every environment as soon as it is
    written, and stop when they fail.  Or it may put the environments in a queue
    that is passed on at the end, whatever fails on the way.  `queue_replays`
    compares the two on any store: while no one fails they cannot be told apart,
    and the direct run stops at the failure that passing on the queue reports.

    The invariant is `Mirrors`.  Both runs go through the same states of the
    store up to the first failure, and what the one has put in the queue is what
    the other has told so far.  It holds of the steps of a run and is kept when
    steps are put together, so it holds of every run. -/

namespace EnvRegistry.Relations

open Refresher

variable {σ ρ α β : Type}

/-! ## Section 1: Model -/

/-- How a run that tells those downstream at once compares with one that puts environments in a
queue, where the three arguments are what the one and the other came to and what passing on the
queue came to. -/
structure Replays (direct : Except RegistryError α × (σ × (ρ × List Call)))
    (queued : Except RegistryError α × (σ × List Environment))
    (flushed : Except RegistryError Unit × (ρ × List Call)) : Prop where
  /-- Those downstream are told of everything in the queue, in order and whatever they answer. -/
  attempted : flushed.2.2.map Prod.fst = queued.2.2
  /-- If they never fail, then the results and the stores are the same, also where the store fails,
  and so are the calls and the state of those downstream. -/
  undisturbed : (∀ c ∈ direct.2.2.2, c.2 = .ok ()) ∨ (∀ c ∈ flushed.2.2, c.2 = .ok ()) →
    queued.1 = direct.1 ∧ queued.2.1 = direct.2.1 ∧ flushed = (.ok (), direct.2.2)
  /-- If they fail, the direct run stops there.  Its calls are the first calls of passing on the
  queue, and the latter reports the same failure as a refresh error. -/
  stopped : (∃ c ∈ direct.2.2.2, c.2 ≠ .ok ()) → ∃ told e err,
    direct.2.2.2 = told ++ [(e, .error err)] ∧ (∀ c ∈ told, c.2 = .ok ()) ∧
    direct.1 = .error err ∧ direct.2.2.2 <+: flushed.2.2 ∧
    (∀ text, err = .refresh text → flushed.1 = .error err) ∧
    ((∀ text, err ≠ .refresh text) → flushed.1 = .error (.refresh err.message))

/-- Begun in the same store, `noted` puts environments in the queue, and `direct` tells those
downstream of them: of all, and then it comes to the same as `noted`, or up to the first failure,
and then it fails with that. -/
def Mirrors (r : Refresher ρ) (direct : RunM σ (ρ × List Call) α)
    (noted : RunM σ (List Environment) α) : Prop :=
  ∀ s d calls queue, ∃ told, (noted (s, queue)).2.2 = queue ++ told ∧
    (failure? (r.callsOf d told) = none → direct (s, (d, calls)) =
      ((noted (s, queue)).1,
        ((noted (s, queue)).2.1, (r.after d told, calls ++ r.callsOf d told)))) ∧
    ∀ err, failure? (r.callsOf d told) = some err → (direct (s, (d, calls))).1 = .error err ∧
      (direct (s, (d, calls))).2.2.2 = calls ++ untilFailure (r.callsOf d told)

/-! ## Section 2: Steps -/

namespace Mirrors

variable {r : Refresher ρ}

/-- A step that tells no one. -/
theorem silent {direct : RunM σ (ρ × List Call) α} {noted : RunM σ (List Environment) α}
    (h : ∀ s d calls queue, (noted (s, queue)).2.2 = queue ∧
      direct (s, (d, calls)) = ((noted (s, queue)).1, ((noted (s, queue)).2.1, (d, calls)))) :
    Mirrors r direct noted := by
  intro s d calls queue
  obtain ⟨hqueue, hdirect⟩ := h s d calls queue
  refine ⟨[], ?_, ?_, ?_⟩
  · rw [hqueue, List.append_nil]
  · intro _
    rw [hdirect, callsOf, List.append_nil]
    rfl
  · intro err herr
    cases herr

theorem pure (a : α) : Mirrors (σ := σ) r (pure a) (pure a) :=
  silent fun _ _ _ _ => ⟨rfl, rfl⟩

theorem onStore (m : StoreM σ α) : Mirrors r (onStore m) (onStore m) :=
  silent fun _ _ _ _ => ⟨rfl, rfl⟩

/-- The one tells those downstream, the other puts the environment in the queue. -/
theorem tell (e : Environment) : Mirrors (σ := σ) r (onDownstream (r.recorded e))
    (onDownstream (Refresher.enqueue e)) := by
  intro s d calls queue
  have hdirect : (onDownstream (r.recorded e) : RunM σ (ρ × List Call) Unit) (s, (d, calls)) =
      ((r e d).1, (s, ((r e d).2, calls ++ [(e, (r e d).1)]))) := rfl
  refine ⟨[e], rfl, ?_, ?_⟩
  · intro hnone
    rw [hdirect]
    cases hanswer : (r e d).1 with
    | error err =>
      rw [callsOf, hanswer] at hnone
      cases hnone
    | ok _ =>
      rw [callsOf, hanswer]
      rfl
  · intro err hsome
    rw [hdirect]
    cases hanswer : (r e d).1 with
    | error err' =>
      rw [callsOf, hanswer] at hsome ⊢
      cases hsome
      exact ⟨rfl, rfl⟩
    | ok _ =>
      rw [callsOf, hanswer] at hsome
      cases hsome

theorem ite {c : Prop} [Decidable c] {direct direct' : RunM σ (ρ × List Call) α}
    {noted noted' : RunM σ (List Environment) α} (h : Mirrors r direct noted)
    (h' : Mirrors r direct' noted') :
    Mirrors r (if c then direct else direct') (if c then noted else noted') := by
  split
  · exact h
  · exact h'

/-- One step after the other.  The second one is reached by the direct run only if no one has failed
in the first one. -/
theorem bind {direct : RunM σ (ρ × List Call) α} {noted : RunM σ (List Environment) α}
    {k : α → RunM σ (ρ × List Call) β} {l : α → RunM σ (List Environment) β}
    (h : Mirrors r direct noted) (hk : ∀ a, Mirrors r (k a) (l a)) :
    Mirrors r (direct >>= k) (noted >>= l) := by
  intro s d calls queue
  obtain ⟨told, hqueue, hall, hcut⟩ := h s d calls queue
  rcases hnoted : noted (s, queue) with ⟨err | a, s₁, queue₁⟩
  · -- The store fails in the first step.
    rw [hnoted] at hqueue hall
    refine ⟨told, ?_, ?_, ?_⟩
    · rw [StoreM.bind_error hnoted]
      exact hqueue
    · intro hnone
      rw [StoreM.bind_error (hall hnone), StoreM.bind_error hnoted]
    · intro err' hsome
      obtain ⟨hresult, hcalls⟩ := hcut err' hsome
      have hdirect : direct (s, (d, calls)) = (.error err', (direct (s, (d, calls))).2) :=
        Prod.ext hresult rfl
      rw [StoreM.bind_error hdirect]
      exact ⟨rfl, hcalls⟩
  · rw [hnoted] at hqueue hall
    obtain ⟨told', hqueue', hall', hcut'⟩ :=
      hk a s₁ (r.after d told) (calls ++ r.callsOf d told) queue₁
    have hqueue₁ : queue₁ = queue ++ told := hqueue
    refine ⟨told ++ told', ?_, ?_, ?_⟩
    · rw [StoreM.bind_ok hnoted, hqueue', hqueue₁, List.append_assoc]
    · intro hnone
      rw [callsOf_append, failure?_append, Option.or_eq_none_iff] at hnone
      rw [StoreM.bind_ok (hall hnone.1), StoreM.bind_ok hnoted, hall' hnone.2, callsOf_append,
        after_append, List.append_assoc]
    · intro err hsome
      rw [callsOf_append, failure?_append] at hsome
      rw [callsOf_append]
      -- The first failure of both steps is that of the first one, if it has any.
      cases hfirst : failure? (r.callsOf d told) with
      | some err' =>
        rw [hfirst, Option.some_or] at hsome
        cases hsome
        obtain ⟨hresult, hcalls⟩ := hcut err hfirst
        have hdirect : direct (s, (d, calls)) = (.error err, (direct (s, (d, calls))).2) :=
          Prod.ext hresult rfl
        rw [StoreM.bind_error hdirect, untilFailure_append_of_some hfirst]
        exact ⟨rfl, hcalls⟩
      | none =>
        rw [hfirst, Option.none_or] at hsome
        obtain ⟨hresult, hcalls⟩ := hcut' err hsome
        rw [StoreM.bind_ok (hall hfirst), untilFailure_append_of_none hfirst,
          ← List.append_assoc]
        exact ⟨hresult, hcalls⟩

/-! ## Section 3: Runs -/

variable [RelationStore σ]

theorem update (v : Visiting) (id : EnvironmentId) (u : Update) :
    Mirrors (σ := σ) r (update v r.recorded id u) (update v enqueue id u) := by
  refine (onStore (applyUpdate v id u)).bind fun after => ?_
  obtain ⟨o, e⟩ := after
  exact .ite ((tell e).bind fun _ => .pure o) (.pure o)

theorem assignOne (v : Visiting) (request : Request) (id : EnvironmentId) :
    Mirrors (σ := σ) r (assignOne v r.recorded request id) (assignOne v enqueue request id) :=
  (onStore _).bind fun _ => (onStore _).bind fun _ => (update v id _).bind fun _ => .pure _

theorem assignEach (v : Nat → Visiting) (request : Request) (ids : List EnvironmentId) :
    Mirrors (σ := σ) r (assignEach v r.recorded request ids)
      (assignEach v enqueue request ids) := by
  induction ids generalizing v with
  | nil => exact .pure []
  | cons id rest ih => exact (assignOne (v 0) request id).bind fun _ => (ih _).bind fun _ => .pure _

theorem assign (v : Nat → Visiting) (ids : List EnvironmentId) (request : Request) :
    Mirrors (σ := σ) r (assign v r.recorded ids request) (assign v enqueue ids request) :=
  (onStore (createNamed request)).bind fun resolved => assignEach v resolved ids

end Mirrors

/-! ## Section 4: Passing on the queue -/

/-- A run that is mirrored in a queue, and the passing on of that queue. -/
theorem Replays.of_mirrors {r : Refresher ρ} {direct : RunM σ (ρ × List Call) α}
    {noted : RunM σ (List Environment) α} (h : Mirrors r direct noted) (s : σ) (d : ρ) :
    Replays (direct (s, (d, []))) (noted (s, []))
      (r.recorded.flush (noted (s, [])).2.2 (d, [])) := by
  obtain ⟨told, hqueue, hall, hcut⟩ := h s d [] []
  rw [List.nil_append] at hqueue
  have hflush := flush_apply r.recorded told (d, [])
  rw [callsOf_recorded, after_recorded, firstFailure_eq_map, List.nil_append] at hflush
  conv at hflush => lhs; rw [← hqueue]
  rw [hflush]
  refine ⟨?_, ?_, ?_⟩
  · rw [hqueue]
    exact r.callsOf_map_fst d told
  · intro hfine
    have hnone : failure? (r.callsOf d told) = none := by
      rcases hfine with hfine | hfine
      · cases hfirst : failure? (r.callsOf d told) with
        | none => rfl
        | some err =>
          -- The failure would be the last call of the direct run.
          obtain ⟨before, e, hcalls, -⟩ := untilFailure_eq_concat hfirst
          have hlast : (e, .error err) ∈ (direct (s, (d, []))).2.2.2 := by
            rw [(hcut err hfirst).2, hcalls]
            simp
          cases hfine _ hlast
      · exact failure?_eq_none.mpr hfine
    rw [hall hnone, hnone]
    exact ⟨rfl, rfl, rfl⟩
  · rintro ⟨c, hc, hfailed⟩
    cases hfirst : failure? (r.callsOf d told) with
    | none =>
      rw [hall hfirst] at hc
      exact absurd (failure?_eq_none.mp hfirst c hc) hfailed
    | some err =>
      obtain ⟨hresult, hcalls⟩ := hcut err hfirst
      obtain ⟨before, e, huntil, hbefore⟩ := untilFailure_eq_concat hfirst
      rw [List.nil_append] at hcalls
      refine ⟨before, e, err, ?_, hbefore, hresult, ?_, ?_, ?_⟩
      · rw [hcalls, huntil]
      · rw [hcalls]
        exact untilFailure_prefix _
      · rintro text rfl
        rfl
      · intro hother
        cases err with
        | refresh text => exact absurd rfl (hother text)
        | _ => rfl

/-- A request that is applied to many environments, and an update of one, tell those downstream at
once what they put in a queue otherwise, on every store and whatever those downstream remember of
earlier calls. -/
theorem queue_replays [RelationStore σ] (r : Refresher ρ) (s : σ) (d : ρ) :
    (∀ v ids request, Replays (assign v r.recorded ids request (s, (d, [])))
      (assign v enqueue ids request (s, []))
      (r.recorded.flush (assign v enqueue ids request (s, [])).2.2 (d, []))) ∧
    ∀ v id u, Replays (update v r.recorded id u (s, (d, []))) (update v enqueue id u (s, []))
      (r.recorded.flush (update v enqueue id u (s, [])).2.2 (d, [])) := by
  constructor
  · intro v ids request
    exact .of_mirrors (Mirrors.assign v ids request) s d
  · intro v id u
    exact .of_mirrors (Mirrors.update v id u) s d

end EnvRegistry.Relations
