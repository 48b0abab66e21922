import SessionHost.Session.Script

/-!
What a course sends.

`sent` lists the messages of a course as it is carried out: between two looks they act on the state,
so that what comes later may depend on them. Main statements: `run_fst_eq_foldl`, `run_map` and
`sent_map` for the state, and `run_bind` and `sent_bind` for one course after the other.
-/

namespace SessionHost.Session.Script

variable {μ ν ω σ τ α β γ : Type}

/-- The messages of a course in the order in which it sends them, if it is carried out on a
state. -/
def sent (view : σ → ω) (receive : μ → σ → σ) : Script μ ω α → σ → List μ
  | done _, _ => []
  | send message next, state => message :: next.sent view receive (receive message state)
  | look next, state => (next (view state)).sent view receive state

/-- A course acts on the state by its messages only. -/
theorem run_fst_eq_foldl (view : σ → ω) (receive : μ → σ → σ) (script : Script μ ω α) (state : σ) :
    (script.run view receive state).1
      = (script.sent view receive state).foldl (fun state message => receive message state)
          state := by
  induction script generalizing state with
  | done result => rfl
  | send message next ih => exact ih (receive message state)
  | look next ih => exact ih (view state) state

/-- A course does not notice what a function of the state leaves out, if every message and the
view of the surroundings do without it. -/
theorem run_map {receive : μ → σ → σ} {receive' : μ → τ → τ} {f : σ → τ} (view : τ → ω)
    (moves : ∀ message state, f (receive message state) = receive' message (f state))
    (script : Script μ ω α) (state : σ) :
    script.run view receive' (f state)
      = (f (script.run (fun state => view (f state)) receive state).1,
          (script.run (fun state => view (f state)) receive state).2) := by
  induction script generalizing state with
  | done result => rfl
  | send message next ih =>
      rw [run, ← moves, ih]
      rfl
  | look next ih =>
      rw [run, ih]
      rfl

/-- Nor does it send anything else. -/
theorem sent_map {receive : μ → σ → σ} {receive' : μ → τ → τ} {f : σ → τ} (view : τ → ω)
    (moves : ∀ message state, f (receive message state) = receive' message (f state))
    (script : Script μ ω α) (state : σ) :
    script.sent view receive' (f state)
      = script.sent (fun state => view (f state)) receive state := by
  induction script generalizing state with
  | done result => rfl
  | send message next ih => rw [sent, ← moves, ih, ← sent]
  | look next ih => rw [sent, ih, ← sent]

/-- A course that sends a list sends that list. -/
theorem sent_sendAll (view : σ → ω) (receive : μ → σ → σ) (messages : List μ) (result : α)
    (state : σ) : (sendAll messages result).sent view receive state = messages := by
  induction messages generalizing state with
  | nil => rfl
  | cons message messages ih => exact congrArg (message :: ·) (ih (receive message state))

/-! ### Single steps -/

@[simp]
theorem run_pure (view : σ → ω) (receive : μ → σ → σ) (result : α) (state : σ) :
    (pure result : Script μ ω α).run view receive state = (state, result) := rfl

@[simp]
theorem sent_pure (view : σ → ω) (receive : μ → σ → σ) (result : α) (state : σ) :
    (pure result : Script μ ω α).sent view receive state = [] := rfl

@[simp]
theorem run_tell (view : σ → ω) (receive : μ → σ → σ) (message : μ) (state : σ) :
    (tell message : Script μ ω Unit).run view receive state = (receive message state, ()) := rfl

@[simp]
theorem sent_tell (view : σ → ω) (receive : μ → σ → σ) (message : μ) (state : σ) :
    (tell message : Script μ ω Unit).sent view receive state = [message] := rfl

@[simp]
theorem run_observe (view : σ → ω) (receive : μ → σ → σ) (read : ω → α) (state : σ) :
    (observe read : Script μ ω α).run view receive state = (state, read (view state)) := rfl

@[simp]
theorem sent_observe (view : σ → ω) (receive : μ → σ → σ) (read : ω → α) (state : σ) :
    (observe read : Script μ ω α).sent view receive state = [] := rfl

/-! ### Putting courses together -/

/-- One course after the other: the second takes over state and result of the first. -/
theorem run_bind (view : σ → ω) (receive : μ → σ → σ) (script : Script μ ω α)
    (next : α → Script μ ω β) (state : σ) :
    (script >>= next).run view receive state
      = (next (script.run view receive state).2).run view receive
          (script.run view receive state).1 := by
  induction script generalizing state with
  | done result => rfl
  | send message rest ih => exact ih (receive message state)
  | look rest ih => exact ih (view state) state

/-- The messages of the second follow those of the first. -/
theorem sent_bind (view : σ → ω) (receive : μ → σ → σ) (script : Script μ ω α)
    (next : α → Script μ ω β) (state : σ) :
    (script >>= next).sent view receive state
      = script.sent view receive state
          ++ (next (script.run view receive state).2).sent view receive
              (script.run view receive state).1 := by
  induction script generalizing state with
  | done result => rfl
  | send message rest ih => exact congrArg (message :: ·) (ih (receive message state))
  | look rest ih => exact ih (view state) state

/-- Three courses in a row can be put together from either end. -/
theorem bind_assoc (script : Script μ ω α) (next : α → Script μ ω β) (last : β → Script μ ω γ) :
    script >>= next >>= last = script >>= fun result => next result >>= last := by
  induction script with
  | done result => rfl
  | send message rest ih => exact congrArg (send message) ih
  | look rest ih => exact congrArg look (funext ih)

theorem map_eq_bind (f : α → β) (script : Script μ ω α) :
    f <$> script = script >>= fun result => pure (f result) := rfl

/-- A course whose messages are put into another form acts as if they arrived in it. -/
theorem run_mapMessages (view : σ → ω) (receive : ν → σ → σ) (f : μ → ν) (script : Script μ ω α)
    (state : σ) :
    (script.mapMessages f).run view receive state
      = script.run view (fun message => receive (f message)) state := by
  induction script generalizing state with
  | done result => rfl
  | send message next ih => exact ih (receive (f message) state)
  | look next ih => exact ih (view state) state

/-- It sends the same messages in that form. -/
theorem sent_mapMessages (view : σ → ω) (receive : ν → σ → σ) (f : μ → ν) (script : Script μ ω α)
    (state : σ) :
    (script.mapMessages f).sent view receive state
      = (script.sent view (fun message => receive (f message)) state).map f := by
  induction script generalizing state with
  | done result => rfl
  | send message next ih => exact congrArg (f message :: ·) (ih (receive (f message) state))
  | look next ih => exact ih (view state) state

end SessionHost.Session.Script
