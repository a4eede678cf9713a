import EnvRegistry.Refresh

/-! # What those downstream are told

    `Refresher.recorded` keeps a record of every call of a refresher together
    with its answer.  A queue that is flushed reaches the refresher whole, in
    order and whatever it answers (`callsOf_map_fst`), and the flush comes to the
    first failure among the answers (`flush_apply`).  Someone who tells the
    refresher directly stops at the first failure, so makes only the calls up to
    there (`untilFailure`). -/

namespace EnvRegistry.Refresher

variable {ρ : Type}

/-! ## Section 1: Recording -/

/-- A call of a refresher and its answer. -/
abbrev Call := Environment × Except RegistryError Unit

/-- The refresher that also notes every call, newest last. -/
def recorded (r : Refresher ρ) : Refresher (ρ × List Call) := fun e d =>
  ((r e d.1).1, ((r e d.1).2, d.2 ++ [(e, (r e d.1).1)]))

/-! ## Section 2: Flushing a queue -/

/-- The calls that flushing a queue comes to. -/
def callsOf (r : Refresher ρ) (d : ρ) : List Environment → List Call
  | [] => []
  | e :: rest => (e, (r e d).1) :: r.callsOf (r e d).2 rest

/-- The state of those downstream after a queue was passed on. -/
def after (r : Refresher ρ) (d : ρ) : List Environment → ρ
  | [] => d
  | e :: rest => r.after (r e d).2 rest

theorem callsOf_map_fst (r : Refresher ρ) (d : ρ) (queue : List Environment) :
    (r.callsOf d queue).map Prod.fst = queue := by
  induction queue generalizing d with
  | nil => rfl
  | cons e rest ih => rw [callsOf, List.map_cons, ih]

/-- Those who never fail answer every call with success. -/
theorem callsOf_ok {r : Refresher ρ} (hr : ∀ e d, (r e d).1 = .ok ()) (d : ρ)
    (queue : List Environment) : ∀ c ∈ r.callsOf d queue, c.2 = .ok () := by
  induction queue generalizing d with
  | nil =>
    intro c hc
    cases hc
  | cons e rest ih =>
    intro c hc
    rcases List.mem_cons.mp hc with rfl | hc
    · exact hr e d
    · exact ih (r e d).2 c hc

/-- The first failure among some calls, as the flush reports it. -/
def firstFailure : List Call → Option RegistryError
  | [] => none
  | (_, .ok ()) :: rest => firstFailure rest
  | (_, .error e) :: _ => some e.asRefresh

theorem firstFailure_eq_none {calls : List Call} :
    firstFailure calls = none ↔ ∀ c ∈ calls, c.2 = .ok () := by
  induction calls with
  | nil => simp [firstFailure]
  | cons c rest ih =>
    obtain ⟨e, answer⟩ := c
    cases answer with
    | error err => simp [firstFailure]
    | ok _ => simp [firstFailure, ih]

theorem firstFailure_eq_some {calls : List Call} {e : RegistryError}
    (h : firstFailure calls = some e) : ∃ c ∈ calls, c.2 ≠ .ok () := by
  induction calls with
  | nil => cases h
  | cons c rest ih =>
    obtain ⟨_, answer⟩ := c
    cases answer with
    | error err => exact ⟨_, List.mem_cons_self, nofun⟩
    | ok _ =>
      obtain ⟨c, hc, hfailed⟩ := ih h
      exact ⟨c, List.mem_cons_of_mem _ hc, hfailed⟩

theorem firstFailure_isRefresh {calls : List Call} {e : RegistryError}
    (h : firstFailure calls = some e) : ∃ text, e = .refresh text := by
  induction calls with
  | nil => cases h
  | cons c rest ih =>
    obtain ⟨_, answer⟩ := c
    cases answer with
    | error err =>
      cases h
      cases err <;> exact ⟨_, rfl⟩
    | ok _ => exact ih h

theorem flushFrom_apply (r : Refresher ρ) (first : Option RegistryError) (queue : List Environment)
    (d : ρ) : r.flushFrom first queue d =
      (match first.or (firstFailure (r.callsOf d queue)) with
        | some e => .error e
        | none => .ok (), r.after d queue) := by
  -- Both the first failure and the state of those downstream go along with the queue.
  induction queue generalizing first d with
  | nil =>
    cases first with
    | none => rfl
    | some e => rfl
  | cons e rest ih =>
    rw [callsOf, after]
    rcases hcall : r e d with ⟨err | ⟨⟩, d'⟩
    · have hstep : r.flushFrom first (e :: rest) d =
          r.flushFrom (first.or (some err.asRefresh)) rest d' := by
        rw [flushFrom]
        show StateT.bind (r e) _ d = _
        rw [StateT.bind, hcall]
        rfl
      rw [hstep, ih, Option.or_assoc, Option.some_or]
      rfl
    · have hstep : r.flushFrom first (e :: rest) d = r.flushFrom first rest d' := by
        rw [flushFrom]
        show StateT.bind (r e) _ d = _
        rw [StateT.bind, hcall]
        rfl
      rw [hstep, ih]
      rfl

theorem flush_apply (r : Refresher ρ) (queue : List Environment) (d : ρ) :
    r.flush queue d = (match firstFailure (r.callsOf d queue) with
      | some e => .error e
      | none => .ok (), r.after d queue) := by
  rw [flush, flushFrom_apply, Option.none_or]

/-- Recording changes neither what is asked of a refresher nor what it answers. -/
theorem callsOf_recorded (r : Refresher ρ) (d : ρ) (calls : List Call) (queue : List Environment) :
    r.recorded.callsOf (d, calls) queue = r.callsOf d queue := by
  induction queue generalizing d calls with
  | nil => rfl
  | cons e rest ih =>
    rw [callsOf, callsOf]
    exact congrArg _ (ih _ _)

theorem after_recorded (r : Refresher ρ) (d : ρ) (calls : List Call) (queue : List Environment) :
    r.recorded.after (d, calls) queue = (r.after d queue, calls ++ r.callsOf d queue) := by
  induction queue generalizing d calls with
  | nil => rw [after, after, callsOf, List.append_nil]
  | cons e rest ih =>
    rw [after, after, callsOf]
    show r.recorded.after ((r e d).2, calls ++ [(e, (r e d).1)]) rest = _
    rw [ih, List.append_assoc]
    rfl

/-! ## Section 3: Stopping at the first failure -/

/-- The first failure among some calls, as the refresher answered it. -/
def failure? : List Call → Option RegistryError
  | [] => none
  | (_, .ok ()) :: rest => failure? rest
  | (_, .error err) :: _ => some err

/-- The calls up to the first failure, which is the last of them. -/
def untilFailure : List Call → List Call
  | [] => []
  | (e, .ok ()) :: rest => (e, .ok ()) :: untilFailure rest
  | (e, .error err) :: _ => [(e, .error err)]

/-- The flush reports the first failure as a refresh error. -/
theorem firstFailure_eq_map (calls : List Call) :
    firstFailure calls = (failure? calls).map RegistryError.asRefresh := by
  induction calls with
  | nil => rfl
  | cons c rest ih =>
    obtain ⟨e, answer⟩ := c
    cases answer with
    | error err => rfl
    | ok _ => exact ih

theorem failure?_eq_none {calls : List Call} :
    failure? calls = none ↔ ∀ c ∈ calls, c.2 = .ok () := by
  rw [← firstFailure_eq_none, firstFailure_eq_map, Option.map_eq_none_iff]

theorem failure?_append (calls calls' : List Call) :
    failure? (calls ++ calls') = (failure? calls).or (failure? calls') := by
  induction calls with
  | nil => rfl
  | cons c rest ih =>
    obtain ⟨e, answer⟩ := c
    cases answer with
    | error err => rfl
    | ok _ => exact ih

theorem untilFailure_prefix (calls : List Call) : untilFailure calls <+: calls := by
  induction calls with
  | nil => exact List.prefix_rfl
  | cons c rest ih =>
    obtain ⟨e, answer⟩ := c
    cases answer with
    | error err => exact ⟨rest, rfl⟩
    | ok _ => exact (List.prefix_cons_inj _).mpr ih

/-- Up to the first failure all calls but the last one succeed. -/
theorem untilFailure_eq_concat {calls : List Call} {err : RegistryError}
    (h : failure? calls = some err) :
    ∃ told e, untilFailure calls = told ++ [(e, .error err)] ∧ ∀ c ∈ told, c.2 = .ok () := by
  induction calls with
  | nil => cases h
  | cons c rest ih =>
    obtain ⟨e, answer⟩ := c
    cases answer with
    | error err' =>
      cases h
      exact ⟨[], e, rfl, fun _ hc => absurd hc List.not_mem_nil⟩
    | ok _ =>
      obtain ⟨told, e', hcalls, htold⟩ := ih h
      refine ⟨(e, .ok ()) :: told, e', ?_, ?_⟩
      · rw [untilFailure, hcalls]
        rfl
      · intro c hc
        rcases List.mem_cons.mp hc with rfl | hc
        · rfl
        · exact htold c hc

theorem untilFailure_append_of_none {calls : List Call} (h : failure? calls = none)
    (calls' : List Call) : untilFailure (calls ++ calls') = calls ++ untilFailure calls' := by
  induction calls with
  | nil => rfl
  | cons c rest ih =>
    obtain ⟨e, answer⟩ := c
    cases answer with
    | error err => cases h
    | ok _ =>
      rw [List.cons_append, untilFailure, ih h, List.cons_append]

/-- What comes after the first failure does not matter. -/
theorem untilFailure_append_of_some {calls : List Call} {err : RegistryError}
    (h : failure? calls = some err) (calls' : List Call) :
    untilFailure (calls ++ calls') = untilFailure calls := by
  induction calls with
  | nil => cases h
  | cons c rest ih =>
    obtain ⟨e, answer⟩ := c
    cases answer with
    | error err => rfl
    | ok _ =>
      rw [List.cons_append, untilFailure, untilFailure, ih h]

theorem callsOf_append (r : Refresher ρ) (d : ρ) (queue queue' : List Environment) :
    r.callsOf d (queue ++ queue') = r.callsOf d queue ++ r.callsOf (r.after d queue) queue' := by
  induction queue generalizing d with
  | nil => rfl
  | cons e rest ih => exact congrArg _ (ih _)

theorem after_append (r : Refresher ρ) (d : ρ) (queue queue' : List Environment) :
    r.after d (queue ++ queue') = r.after (r.after d queue) queue' := by
  induction queue generalizing d with
  | nil => rfl
  | cons e rest ih => exact ih _

end EnvRegistry.Refresher
